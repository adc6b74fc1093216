/-
# Jobs.Crew -- what a section does to the threads of a registry

A thread is a worker or the thread of a cancel callback, and a section moves at most one of
them.  `Shifts` lists the ways, and `Passes` says what a section about a job leaves alone: who
closes the registry, and the store, unless the registry is open.
-/
import EmbodiRun.Jobs.Moves

namespace EmbodiRun.Jobs

open Function
open Data Devices Application

def Canceller.active : Canceller → Bool
  | .registered | .calling | .answered _ | .clearing => true
  | .chosen | .done | .dropped => false

def Canceller.started : Canceller → Bool
  | .calling | .answered _ | .clearing | .done => true
  | .chosen | .registered | .dropped => false

def Worker.active : Worker → Bool
  | .started | .executing | .executed _ => true
  | .done => false

structure Crew where
  workers : Dict JobKey Worker
  cancellers : JobKey → Option Canceller
  cancelWorkers : List JobKey

def Session.crew (s : Session) : Crew := ⟨s.workers, s.cancellers, s.cancelWorkers⟩

open Session

namespace Crew

variable (c : Crew)

def setWorker (key : JobKey) (worker : Worker) : Crew :=
  { c with workers := c.workers.set key worker }

def setCanceller (key : JobKey) (canceller : Canceller) : Crew :=
  { c with cancellers := update c.cancellers key (some canceller) }

def isActive : Thread → Bool
  | .worker key => (c.workers.get? key).any Worker.active
  | .canceller key => (c.cancellers key).any Canceller.active

def isStarted : Thread → Bool
  | .worker _ => true
  | .canceller key => (c.cancellers key).any Canceller.started

/-- Every thread that a `cancel` registered and that is not over is in `_cancel_workers`. -/
def Listed : Prop := ∀ key, c.isActive (.canceller key) = true → key ∈ c.cancelWorkers

end Crew

structure SameClosing (r q : Registry) : Prop where
  closed : q.closed = r.closed
  storeClosed : q.storeClosed = r.storeClosed
  closers : q.closers = r.closers
  crashed : q.crashed = r.crashed

/-- The section leaves the store alone, or goes to it on a registry that is not closed. -/
def Accessed (s t : Session) : Prop :=
  t.late = s.late ∨ s.closed = false ∧ t.late = (s.late || s.storeClosed)

inductive Shifts (s : Session) : Crew → Prop where
  | still : Shifts s s.crew
  | hire {key : JobKey} (live : s.closed = false) : Shifts s (s.crew.setWorker key .started)
  | work {key : JobKey} {before after : Worker} (here : s.workers.get? key = some before)
      (active : before.active = true) : Shifts s (s.crew.setWorker key after)
  | choose {key : JobKey} (live : s.closed = false) : Shifts s (s.crew.setCanceller key .chosen)
  | drop {key : JobKey} (here : s.cancellers key = some .chosen) :
      Shifts s (s.crew.setCanceller key .dropped)
  | register {key : JobKey} (live : s.closed = false) (here : s.cancellers key = some .chosen) :
      Shifts s { s.crew.setCanceller key .registered with cancelWorkers := key :: s.cancelWorkers }
  | go {key : JobKey} {before after : Canceller} (here : s.cancellers key = some before)
      (active : before.active = true) (now : after.active = true) (started : after.started = true) :
      Shifts s (s.crew.setCanceller key after)
  | finish {key : JobKey} (here : s.cancellers key = some .clearing) :
      Shifts s { s.crew.setCanceller key .done with
        cancelWorkers := s.cancelWorkers.filter fun k => k ≠ key }

/-- What a section about a job does besides `Moves`. -/
structure Passes (s t : Session) : Prop where
  same : SameClosing s.toRegistry t.toRegistry
  accessed : Accessed s t
  shifts : Shifts s t.crew

/-! ## Sections -/

section

variable {s t : Session} {key : JobKey} {part : Section}

theorem live_of_not (shut : ¬s.closed = true) : s.closed = false := Bool.eq_false_of_not_eq_true shut

theorem Passes.refl (s : Session) : Passes s s := ⟨⟨rfl, rfl, rfl, rfl⟩, .inl rfl, .still⟩

theorem Passes.look (live : s.closed = false) (same : SameClosing s.toRegistry t.toRegistry)
    (late : t.late = (s.late || s.storeClosed)) (shifts : Shifts s t.crew) : Passes s t :=
  ⟨same, .inr ⟨live, late⟩, shifts⟩

theorem submit_passes (parameters : Fields) (runId : Text) (hasCancel inferenceRequested ok : Bool) :
    Passes s (s.submit key parameters runId hasCancel inferenceRequested ok).1 := by
  unfold submit
  split
  · exact .refl s
  split
  · exact .refl s
  rename_i shut
  have live := live_of_not shut
  split
  · exact .look live ⟨rfl, rfl, rfl, rfl⟩ rfl .still
  split
  · exact .look live ⟨rfl, rfl, rfl, rfl⟩ rfl .still
  split
  · exact .look live ⟨rfl, rfl, rfl, rfl⟩ rfl .still
  · exact .look live ⟨rfl, rfl, rfl, rfl⟩ rfl (.hire live)

theorem inspect_passes : Passes s (s.inspect key).1 := by
  unfold inspect
  split
  · exact .refl s
  rename_i shut
  split <;> exact .look (live_of_not shut) ⟨rfl, rfl, rfl, rfl⟩ rfl .still

theorem recordStage_passes (stage : Text) (detail : Option Text) (ok : Bool) :
    Passes s (s.recordStage key stage detail ok).1 := by
  unfold recordStage
  split
  · exact .refl s
  rename_i shut
  split
  · exact .look (live_of_not shut) ⟨rfl, rfl, rfl, rfl⟩ rfl .still
  split <;> exact .look (live_of_not shut) ⟨rfl, rfl, rfl, rfl⟩ rfl .still

theorem cancel_passes (ok : Bool) : Passes s (s.cancel key ok).1 := by
  unfold cancel
  split
  · exact .refl s
  rename_i shut
  have live := live_of_not shut
  split
  · exact .look live ⟨rfl, rfl, rfl, rfl⟩ rfl .still
  split
  · exact .look live ⟨rfl, rfl, rfl, rfl⟩ rfl .still
  split
  · exact .look live ⟨rfl, rfl, rfl, rfl⟩ rfl .still
  dsimp only
  split
  · split
    · exact .look live ⟨rfl, rfl, rfl, rfl⟩ rfl (.choose live)
    · exact .look live ⟨rfl, rfl, rfl, rfl⟩ rfl .still
  · exact .look live ⟨rfl, rfl, rfl, rfl⟩ rfl .still

theorem register_passes (chosen : s.cancellers key = some .chosen) : Passes s (s.register key) := by
  unfold register
  split
  · exact ⟨⟨rfl, rfl, rfl, rfl⟩, .inl rfl, .drop chosen⟩
  · rename_i shut
    exact ⟨⟨rfl, rfl, rfl, rfl⟩, .inl rfl, .register (live_of_not shut) chosen⟩

theorem cancelResult_passes {answer} (ok : Bool) (answered : s.cancellers key = some (.answered answer)) :
    Passes s (s.cancelResult key answer ok) := by
  unfold cancelResult
  dsimp only
  have shifts : Shifts s (s.crew.setCanceller key .clearing) := .go answered rfl rfl rfl
  split
  · exact ⟨⟨rfl, rfl, rfl, rfl⟩, .inl rfl, shifts⟩
  rename_i shut
  have live := live_of_not shut
  split
  · exact .look live ⟨rfl, rfl, rfl, rfl⟩ rfl shifts
  split
  · split <;> exact .look live ⟨rfl, rfl, rfl, rfl⟩ rfl shifts
  · exact .look live ⟨rfl, rfl, rfl, rfl⟩ rfl shifts

theorem runJob_passes (ok : Bool) (started : s.workers.get? key = some .started) : Passes s (s.runJob key ok) := by
  unfold runJob
  dsimp only
  have returned : Shifts s (s.crew.setWorker key .done) := .work started rfl
  split
  · exact ⟨⟨rfl, rfl, rfl, rfl⟩, .inl rfl, returned⟩
  split
  · exact ⟨⟨rfl, rfl, rfl, rfl⟩, .inl rfl, returned⟩
  rename_i shut
  have live := live_of_not shut
  split
  · exact .look live ⟨rfl, rfl, rfl, rfl⟩ rfl returned
  split
  · split <;> exact .look live ⟨rfl, rfl, rfl, rfl⟩ rfl returned
  · split
    · exact .look live ⟨rfl, rfl, rfl, rfl⟩ rfl (.work started rfl)
    · exact .look live ⟨rfl, rfl, rfl, rfl⟩ rfl returned
  · exact .look live ⟨rfl, rfl, rfl, rfl⟩ rfl returned

theorem finishJob_passes {outcome} (ok : Bool) (executed : s.workers.get? key = some (.executed outcome)) :
    Passes s (s.finishJob key outcome ok) := by
  unfold finishJob
  dsimp only
  have returned : Shifts s (s.crew.setWorker key .done) := .work executed rfl
  split
  · exact ⟨⟨rfl, rfl, rfl, rfl⟩, .inl rfl, returned⟩
  rename_i shut
  have live := live_of_not shut
  split
  · exact .look live ⟨rfl, rfl, rfl, rfl⟩ rfl returned
  split <;> exact .look live ⟨rfl, rfl, rfl, rfl⟩ rfl returned

theorem passes_step (next : s.step part = some t) (about : part.key? = some key) : Passes s t := by
  cases part with simp only [Session.step] at next
  | submit =>
    cases next
    exact submit_passes ..
  | inspect =>
    cases next
    exact inspect_passes
  | recordStage =>
    cases next
    exact recordStage_passes ..
  | cancel key ok =>
    cases next
    exact cancel_passes ok
  | register key =>
    split at next
    · rename_i chosen
      cases next
      exact register_passes chosen
    · cases next
  | startCanceller key | answer key answer =>
    split at next
    · rename_i before
      cases next
      exact ⟨⟨rfl, rfl, rfl, rfl⟩, .inl rfl, .go before rfl rfl rfl⟩
    · cases next
  | cancelResult key ok =>
    split at next
    · rename_i answered
      cases next
      exact cancelResult_passes ok answered
    · cases next
  | discard key =>
    split at next
    · rename_i clearing
      cases next
      exact ⟨⟨rfl, rfl, rfl, rfl⟩, .inl rfl, .finish clearing⟩
    · cases next
  | runJob key ok =>
    split at next
    · rename_i started
      cases next
      exact runJob_passes ok started
    · cases next
  | execute key outcome =>
    split at next
    · rename_i executing
      cases next
      exact ⟨⟨rfl, rfl, rfl, rfl⟩, .inl rfl, .work executing rfl⟩
    · cases next
  | finishJob key ok =>
    split at next
    · rename_i executed
      cases next
      exact finishJob_passes ok executed
    · cases next
  | close | join | alive | closeStore => cases about

theorem close_crew (c : Nat) (ok : Bool) : (s.close c ok).crew = s.crew := by
  unfold close
  repeat' split
  all_goals rfl

/-- **A section changes the threads in one of the ways of `Shifts`.** -/
theorem shifts_step (next : s.step part = some t) : Shifts s t.crew := by
  cases about : part.key? with
  | some => exact (passes_step next about).shifts
  | none => cases part with
    | close c ok =>
      simp only [Session.step] at next
      split at next <;> cases next
      rw [close_crew]
      exact .still
    | join c =>
      simp only [Session.step] at next
      split at next
      · split at next <;> obtain rfl := Option.some.inj next <;> exact .still
      · cases next
    | alive c alive =>
      simp only [Session.step] at next
      split at next
      · split at next
        · cases next
          exact .still
        split at next <;> cases next
        exact .still
      · cases next
    | closeStore c =>
      simp only [Session.step] at next
      split at next <;> cases next
      exact .still
    | _ => cases about

end

/-! ## Threads -/

variable {s t : Session} {c : Crew} {key : JobKey} {thread : Thread} {part : Section}

theorem isActive_crew (s : Session) (thread : Thread) : s.isActive thread = s.crew.isActive thread := by
  cases thread with unfold isActive Crew.isActive crew
  | worker key =>
    dsimp only
    cases s.workers.get? key with
    | none => rfl
    | some worker => cases worker <;> rfl
  | canceller key =>
    dsimp only
    cases s.cancellers key with
    | none => rfl
    | some canceller => cases canceller <;> rfl

theorem isStarted_crew (s : Session) (thread : Thread) : s.isStarted thread = s.crew.isStarted thread := by
  cases thread with
  | worker => rfl
  | canceller key =>
    unfold isStarted Crew.isStarted crew
    dsimp only
    cases s.cancellers key with
    | none => rfl
    | some canceller => cases canceller <;> rfl

theorem isActive_setWorker {worker} (active : (c.setWorker key worker).isActive thread = true) :
    c.isActive thread = true ∨ thread = .worker key := by
  cases thread with
  | canceller => exact .inl active
  | worker k =>
    by_cases same : k = key
    · exact .inr (congrArg _ same)
    · change ((c.workers.set key worker).get? k).any _ = true at active
      rw [Dict.get?_set_of_ne same] at active
      exact .inl active
variable {canceller : Canceller}

theorem isActive_setCanceller (active : (c.setCanceller key canceller).isActive thread = true) :
    (c.isActive thread = true ∧ thread ≠ .canceller key) ∨ thread = .canceller key ∧ canceller.active = true := by
  cases thread with
  | worker => exact .inl ⟨active, nofun⟩
  | canceller k =>
    change (update c.cancellers key (some canceller) k).any _ = true at active
    by_cases same : k = key
    · subst same
      rw [update_self] at active
      exact .inr ⟨rfl, active⟩
    · rw [update_of_ne same] at active
      exact .inl ⟨active, fun equal => same (Thread.canceller.inj equal)⟩

theorem isStarted_setCanceller (started : c.isStarted thread = true)
    (now : thread = .canceller key → canceller.started = true) :
    (c.setCanceller key canceller).isStarted thread = true := by
  cases thread with
  | worker => rfl
  | canceller k =>
    change (update c.cancellers key (some canceller) k).any _ = true
    by_cases same : k = key
    · subst same
      rw [update_self]
      exact now rfl
    · rw [update_of_ne same]
      exact started

theorem active_step (next : s.step part = some t) (closed : s.closed = true)
    (active : t.isActive thread = true) : s.isActive thread = true := by
  rw [isActive_crew] at active ⊢
  have moved {canceller : Canceller} {key : JobKey}
      (was : s.crew.isActive (.canceller key) = true ∨ canceller.active = false)
      (active : (s.crew.setCanceller key canceller).isActive thread = true) :
      s.crew.isActive thread = true := by
    rcases isActive_setCanceller active with before | ⟨rfl, now⟩
    · exact before.1
    · rcases was with was | was
      · exact was
      · rw [was] at now
        cases now
  have shifts := shifts_step next
  generalize t.crew = crew at shifts active
  cases shifts with
  | still => exact active
  | hire live | choose live | register live => rw [closed] at live; cases live
  | work here was =>
    rcases isActive_setWorker active with before | rfl
    · exact before
    · change Option.any _ (s.workers.get? _) = true
      rw [here]
      exact was
  | drop | finish => exact moved (.inr rfl) active
  | go here was =>
    refine moved (.inl ?_) active
    change Option.any _ (s.cancellers _) = true
    rw [here]
    exact was

theorem started_step (next : s.step part = some t) (closed : s.closed = true)
    (started : s.isStarted thread = true) : t.isStarted thread = true := by
  rw [isStarted_crew] at started ⊢
  have shifts := shifts_step next
  generalize t.crew = crew at shifts ⊢
  cases shifts with
  | still | work => exact started
  | hire live | choose live | register live => rw [closed] at live; cases live
  | drop here =>
    refine isStarted_setCanceller started ?_
    rintro rfl
    change Option.any _ (s.cancellers _) = true at started
    rw [here] at started
    cases started
  | go _ _ _ now => exact isStarted_setCanceller started fun _ => now
  | finish => exact isStarted_setCanceller started fun _ => rfl

theorem listed_step (next : s.step part = some t) (listed : s.crew.Listed) : t.crew.Listed := by
  intro k active
  have shifts := shifts_step next
  generalize t.crew = crew at shifts active ⊢
  cases shifts with
  | still | hire | work => exact listed k active
  | choose | drop =>
    rcases isActive_setCanceller active with before | ⟨_, now⟩
    · exact listed k before.1
    · cases now
  | register =>
    rename_i key _ _
    have active : (s.crew.setCanceller key .registered).isActive (.canceller k) = true := active
    rcases isActive_setCanceller active with before | ⟨same, _⟩
    · exact List.mem_cons_of_mem _ (listed k before.1)
    · rw [Thread.canceller.inj same]
      exact List.mem_cons_self
  | go here was =>
    rcases isActive_setCanceller active with before | ⟨same, _⟩
    · exact listed k before.1
    · obtain rfl := Thread.canceller.inj same
      refine listed k ?_
      change Option.any _ (s.cancellers k) = true
      rw [here]
      exact was
  | finish =>
    rename_i key _
    have active : (s.crew.setCanceller key .done).isActive (.canceller k) = true := active
    rcases isActive_setCanceller active with ⟨before, other⟩ | ⟨_, now⟩
    · refine List.mem_filter.mpr ⟨listed k before, ?_⟩
      rw [decide_eq_true_eq]
      rintro rfl
      exact other rfl
    · cases now

end EmbodiRun.Jobs
