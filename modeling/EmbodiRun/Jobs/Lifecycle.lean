/-
# Jobs.Lifecycle -- the status of a job over the life of its database

The job table outlives the registries, and only one of them, the last, can be open: a new one
needs the lock, which the one before it gives up when it closes its store or dies.  A registry
that is closed writes no row, so a job is only ever moved by the open one or by recovery.

* `lifecycle_monotone`: **a status takes the steps of the lifecycle and no others**.
-/
import EmbodiRun.Jobs.Crew

namespace EmbodiRun.Jobs

open Function
open Data Devices Application Transition Option Bool

/-! ## Closing -/

def Closer.waits : Closer → Bool
  | .joining .. | .drained => true
  | _ => false

structure Registry.Shut (r : Registry) : Prop where
  stored : r.storeClosed = true → r.closed = true
  waits : ∀ c, (r.closers c).waits = true → r.closed = true

section

variable {s t : Session} {part : Section}

theorem SameClosing.shut {r q} (same : SameClosing r q) (shut : r.Shut) : q.Shut where
  stored := by
    rw [same.storeClosed, same.closed]
    exact shut.stored
  waits := by
    rw [same.closers, same.closed]
    exact shut.waits

theorem shut_setCloser {c} {closer} (shut : s.toRegistry.Shut)
    (waits : closer.waits = true → s.closed = true) : (s.setCloser c closer).toRegistry.Shut where
  stored := shut.stored
  waits d := by
    change (update s.closers c closer d).waits = true → _
    by_cases same : d = c
    · rw [same, update_self]
      exact waits
    · rw [update_of_ne same]
      exact shut.waits d

theorem step_shut (next : s.step part = some t) (shut : s.toRegistry.Shut) :
    t.toRegistry.Shut ∧ t.crashed = s.crashed := by
  cases about : part.key? with
  | some => exact ⟨(passes_step next about).same.shut shut, (passes_step next about).same.crashed⟩
  | none => cases part with
    | close c ok =>
      simp only [Session.step] at next
      split at next <;> cases next
      unfold Session.close
      split
      · exact ⟨shut_setCloser shut (by rintro ⟨⟩), rfl⟩
      split
      · rename_i closed
        exact ⟨shut_setCloser shut fun _ => closed, rfl⟩
      split
      · exact ⟨⟨fun _ => rfl, fun _ _ => rfl⟩, rfl⟩
      · have within : s.access.toRegistry.Shut := ⟨shut.stored, shut.waits⟩
        exact ⟨shut_setCloser within (by rintro ⟨⟩), rfl⟩
    | join c =>
      simp only [Session.step] at next
      split at next
      · rename_i thread left all joining
        have closed : s.closed = true := shut.waits c (by rw [joining]; rfl)
        split at next <;> cases next
        · exact ⟨shut_setCloser shut fun _ => closed, rfl⟩
        · exact ⟨shut_setCloser shut (by rintro ⟨⟩), rfl⟩
      · cases next
    | alive c alive =>
      simp only [Session.step] at next
      split at next
      · rename_i all joining
        have closed : s.closed = true := shut.waits c (by rw [joining]; rfl)
        split at next
        · cases next
          exact ⟨shut_setCloser shut (by rintro ⟨⟩), rfl⟩
        split at next <;> cases next
        exact ⟨shut_setCloser shut fun _ => closed, rfl⟩
      · cases next
    | closeStore c =>
      simp only [Session.step] at next
      split at next
      · rename_i drained
        have closed : s.closed = true := shut.waits c (by rw [drained]; rfl)
        cases next
        have within : (s.setCloser c (.returned true)).toRegistry.Shut := shut_setCloser shut (by rintro ⟨⟩)
        exact ⟨⟨fun _ => closed, within.waits⟩, rfl⟩
      · cases next
    | _ => cases about

end

/-! ## Registries one after the other -/

inductive Effect (s : State) (l : Label) : State → Prop where
  | part {g : Nat} {r : Registry} {part : Section} {u : Session} (label : l = .at g part)
      (found : s.registries g = some r) (alive : r.crashed = false)
      (next : (s.session r).step part = some u) : Effect s l (s.put g u)
  | crash {g : Nat} {r : Registry} (found : s.registries g = some r) :
      Effect s l { s with registries := update s.registries g (some { r with crashed := true }) }
  | reopen {maxJobs maxEvents : Nat} (label : l = .open maxJobs maxEvents true)
      (free : s.unlocked = true) : Effect s l (s.reopen maxJobs maxEvents)
  | fail : Effect s l s

theorem step_effect {s t} {l} (next : step s l = some t) : Effect s l t := by
  cases l with simp only [step] at next
  | «at» g part =>
    split at next
    · cases next
    · rename_i r found
      split at next
      · cases next
      · rename_i alive
        obtain ⟨u, inner, rfl⟩ := Option.map_eq_some_iff.mp next
        exact .part rfl found (eq_false_of_not_eq_true alive) inner
  | crash g =>
    split at next
    · cases next
    · rename_i r found
      cases next
      exact .crash found
  | «open» maxJobs maxEvents ok =>
    split at next
    · rename_i free
      have free : s.unlocked = true := by
        rw [and_eq_true, and_eq_true] at free
        exact free.1.1
      cases next
      split
      · rename_i committed
        exact .reopen (congrArg _ committed) free
      · exact .fail
    · cases next

structure Good (s : State) : Prop where
  counted : ∀ k, Counted (s.rows.get? k) (s.executions k)
  early : ∀ g r, s.registries g = some r → g < s.next
  shut : ∀ g r, s.registries g = some r → r.Shut
  last : ∀ g r, s.registries g = some r → r.closed = false → r.crashed = false → g + 1 = s.next
  held : ∀ g r, s.registries g = some r → ∀ k,
    ((s.session r).view k).closed = false → ((s.session r).view k).Held

theorem good_init : Good {} where
  counted _ := ⟨fun row found => (some_ne_none row found.symm).elim, fun _ => rfl, Nat.zero_le 1⟩
  early _ r found := (some_ne_none r found.symm).elim
  shut _ r found := (some_ne_none r found.symm).elim
  last _ r found := (some_ne_none r found.symm).elim
  held _ r found := (some_ne_none r found.symm).elim

section

variable {s t : State} {l : Label} {g : Nat} {r : Registry} {u : Session} {part : Section}
variable {h : Nat} {k : JobKey} {key : JobKey} {row : Row} {ms : List Label} {status : Status}

theorem put_registry : (s.put g u).registries h = if h = g then some u.toRegistry else s.registries h := by
  by_cases same : h = g
  · subst same
    simp [State.put]
  · simp [State.put, same]

theorem open_iff : ((s.session r).view k).closed = false ↔ r.closed = false ∧ r.crashed = false := by
  change (r.closed || r.crashed) = false ↔ _
  rw [or_eq_false_iff]

theorem part_shut (alive : r.crashed = false) (next : (s.session r).step part = some u)
    (closed : r.closed = true) (k : JobKey) :
    u.rows.get? k = s.rows.get? k ∧ u.executions k = s.executions k ∧ (u.view k).closed = true := by
  have dead : ((s.session r).view k).closed = true := by
    change (r.closed || r.crashed) = true
    rw [closed]
    rfl
  exact (step_moves alive next k).shut dead

theorem part_closed (alive : r.crashed = false) (crashed : u.crashed = r.crashed) :
    (u.view k).closed = false ↔ u.closed = false := by
  change (u.closed || u.crashed) = false ↔ _
  rw [crashed, alive, Bool.or_false]

theorem other_view (good : Good s) (found : s.registries g = some r) (alive : r.crashed = false)
    (next : (s.session r).step part = some u) {q} (other : h ≠ g)
    (there : s.registries h = some q) (live : (((s.put g u).session q).view k).closed = false) :
    ((s.put g u).session q).view k = (s.session q).view k := by
  have ⟨qOpen, qAlive⟩ := open_iff.mp live
  have closed : r.closed = true := by
    by_contra now
    have first := good.last g r found (eq_false_of_not_eq_true now) alive
    have second := good.last h q there qOpen qAlive
    exact other (Nat.succ.inj (second.trans first.symm))
  have ⟨rows, executions, _⟩ := part_shut alive next closed k
  change View.mk (u.rows.get? k) _ _ _ _ (u.executions k) _ = _
  rw [rows, executions]
  rfl

theorem good_part (good : Good s) (found : s.registries g = some r) (alive : r.crashed = false)
    (next : (s.session r).step part = some u) : Good (s.put g u) := by
  have ⟨counted, early, shut, last, held⟩ := good
  have ⟨shutNow, crashed⟩ := step_shut next (shut g r found)
  have counts (k : JobKey) : Counted (u.rows.get? k) (u.executions k) :=
    (step_moves alive next k).counted (counted k)
  -- The registry was open if it is open.
  have before : u.closed = false → r.closed = false := fun now => by
    by_contra shut
    have dead := (part_shut alive next (eq_true_of_not_eq_false shut) (⟨[], [], []⟩ : JobKey)).2.2
    rw [(part_closed alive crashed).mpr now] at dead
    cases dead
  refine ⟨counts, fun h q there => ?_, fun h q there => ?_, fun h q there => ?_, fun h q there k live => ?_⟩
  all_goals rw [put_registry] at there
  · split at there
    · rename_i same
      rw [same]
      exact early g r found
    · exact early h q there
  · split at there
    · cases there
      exact shutNow
    · exact shut h q there
  · split at there
    · rename_i same
      cases there
      intro now _
      rw [same]
      exact last g r found (before now) alive
    · exact last h q there
  · split at there
    · cases there
      exact (step_moves alive next k).held (held g r found k) (counted k) live
    · rename_i other
      rw [other_view good found alive next other there live] at live ⊢
      exact held h q there k live

theorem good_crash (good : Good s) (found : s.registries g = some r) :
    Good { s with registries := update s.registries g (some { r with crashed := true }) } := by
  have ⟨counted, early, shut, last, held⟩ := good
  have look {h : Nat} {q : Registry} (there : update s.registries g
      (some { r with crashed := true }) h = some q) :
      (h = g ∧ q = { r with crashed := true }) ∨ s.registries h = some q := by
    by_cases same : h = g
    · subst same
      rw [update_self] at there
      exact .inl ⟨rfl, (Option.some.inj there).symm⟩
    · rw [update_of_ne same] at there
      exact .inr there
  refine ⟨counted, fun h q there => ?_, fun h q there => ?_, fun h q there => ?_, fun h q there k live => ?_⟩
  · rcases look there with ⟨rfl, rfl⟩ | there
    · exact early h r found
    · exact early h q there
  · rcases look there with ⟨rfl, rfl⟩ | there
    · exact ⟨(shut h r found).stored, (shut h r found).waits⟩
    · exact shut h q there
  · rcases look there with ⟨rfl, rfl⟩ | there
    · exact fun _ alive => by cases alive
    · exact last h q there
  · rcases look there with ⟨rfl, rfl⟩ | there
    · cases (open_iff.mp live).2
    · exact held h q there k live

theorem good_reopen (good : Good s) (free : s.unlocked = true) (maxJobs maxEvents : Nat) :
    Good (s.reopen maxJobs maxEvents) := by
  have ⟨counted, early, shut, last, held⟩ := good
  have look {h : Nat} {q : Registry} (there : (s.reopen maxJobs maxEvents).registries h = some q) :
      (h = s.next ∧ q = { maxJobs, maxEvents }) ∨ s.registries h = some q := by
    change update s.registries s.next _ h = _ at there
    by_cases same : h = s.next
    · subst same
      rw [update_self] at there
      exact .inl ⟨rfl, (Option.some.inj there).symm⟩
    · rw [update_of_ne same] at there
      exact .inr there
  -- Whoever had the lock is closed or gone.
  have none {h : Nat} {q : Registry} (there : s.registries h = some q) (live : q.closed = false)
      (alive : q.crashed = false) : False := by
    have next := last h q there live alive
    unfold State.unlocked at free
    rw [← next] at free
    simp only [there, alive, Bool.false_or] at free
    rw [(shut h q there).stored free] at live
    cases live
  refine ⟨fun k => ?_, fun h q there => ?_, fun h q there => ?_, fun h q there => ?_,
    fun h q there k live => ?_⟩
  · change Counted (Dict.get? ⟨_⟩ k) _
    rw [get?_mapRows]
    exact counted_lose (counted k) .recoveredUnknown
  · rcases look there with ⟨rfl, rfl⟩ | there
    · exact Nat.lt_succ_self _
    · exact Nat.lt_succ_of_lt (early h q there)
  · rcases look there with ⟨rfl, rfl⟩ | there
    · exact ⟨nofun, fun _ waits => by cases waits⟩
    · exact shut h q there
  · rcases look there with ⟨rfl, rfl⟩ | there
    · exact fun _ _ => rfl
    · exact fun live alive => (none there live alive).elim
  · rcases look there with ⟨rfl, rfl⟩ | there
    · exact ⟨fun _ here => (by cases here), fun asked => (by rcases asked with asked | asked <;> cases asked)⟩
    · have ⟨qOpen, qAlive⟩ := open_iff.mp live
      exact (none there qOpen qAlive).elim

theorem good_step (good : Good s) (next : step s l = some t) : Good t := by
  cases step_effect next with
  | part _ found alive inner => exact good_part good found alive inner
  | crash found => exact good_crash good found
  | reopen _ free => exact good_reopen good free ..
  | fail => exact good

theorem good_run {ls : List Label} (ran : run step {} ls = some s) : Good s :=
  run_invariant (fun _ _ _ good next => good_step good next) good_init ran

/-! ## The lifecycle of a job -/

def State.status? (s : State) (key : JobKey) : Option Status := (s.rows.get? key).map Row.status

theorem follows_step (good : Good s) (next : step s l = some t) (key : JobKey) :
    Follows (s.status? key) (t.status? key) := by
  cases step_effect next with
  | part _ found alive inner =>
    exact (step_moves alive inner key).follows (good.held _ _ found key) (good.counted key)
  | crash | fail => exact .stay _
  | reopen =>
    change Follows _ ((Dict.get? ⟨_⟩ key).map Row.status)
    rw [get?_mapRows]
    exact follows_lose (s.rows.get? key) .recoveredUnknown

theorem lost_step (next : step s l = some t) (before : s.status? key ≠ some .unknown)
    (after : t.status? key = some .unknown) :
    (∃ g c, l = .at g (.close c true)) ∨ ∃ maxJobs maxEvents, l = .open maxJobs maxEvents true := by
  cases step_effect next with
  | part label _ alive inner =>
    obtain ⟨c, close⟩ := (step_moves alive inner key).lost before after
    exact .inl ⟨_, c, by rw [label, close]⟩
  | reopen label => exact .inr ⟨_, _, label⟩
  | crash | fail => exact absurd after before

theorem kept_step (next : step s l = some t) (found : s.rows.get? key = some row) :
    ∃ later, t.rows.get? key = some later ∧ later.runId = row.runId ∧ later.parameters = row.parameters := by
  cases step_effect next with
  | part _ _ alive inner => exact (step_moves alive inner key).kept found
  | crash | fail => exact ⟨row, found, rfl, rfl⟩
  | reopen =>
    rename_i maxEvents _ _
    refine ⟨row.recoveredUnknown maxEvents, ?_, Row.lose_kept _⟩
    change Dict.get? ⟨_⟩ key = _
    rw [get?_mapRows, found]
    rfl

def Status.leaving : Status → Bool
  | .cancelRequested | .cancelled | .unknown => true
  | _ => false

theorem Follows.leaving {a : Status} {b : Option Status} (follows : Follows (some a) b)
    (leaving : a.leaving = true) : ∃ c, b = some c ∧ c.leaving = true := by
  cases follows with
  | stay => exact ⟨a, rfl, leaving⟩
  | next next => cases next with
    | run | complete | fail | cancel => cases leaving
    | request early => exact ⟨_, rfl, rfl⟩
    | requested | lose => exact ⟨_, rfl, rfl⟩

theorem terminal_run (good : Good s) (ran : run step s ms = some t)
    (here : s.status? key = some status) (terminal : status.terminal = true) :
    t.status? key = some status := by
  have keep : ∀ a l b, Good a ∧ a.status? key = some status → step a l = some b →
      Good b ∧ b.status? key = some status := fun a l b ⟨good, here⟩ next =>
    ⟨good_step good next, (here ▸ follows_step good next key).terminal terminal⟩
  exact (run_invariant keep ⟨good, here⟩ ran).2

theorem leaving_run (good : Good s) (ran : run step s ms = some t)
    (here : s.status? key = some status) (leaving : status.leaving = true) :
    ∃ later, t.status? key = some later ∧ later.leaving = true := by
  have keep : ∀ a l b, Good a ∧ (∃ c, a.status? key = some c ∧ c.leaving = true) →
      step a l = some b → Good b ∧ ∃ c, b.status? key = some c ∧ c.leaving = true :=
    fun a l b ⟨good, c, here, leaving⟩ next =>
      ⟨good_step good next, (here ▸ follows_step good next key).leaving leaving⟩
  exact (run_invariant keep ⟨good, status, here, leaving⟩ ran).2

theorem cancel_record {s : Session} {ok : Bool} (returned : (s.cancel key ok).2 = .ok row) :
    (s.cancel key ok).1.rows.get? key = some row := by
  unfold Session.cancel at returned ⊢
  split at returned
  · cases returned
  rename_i shut
  rw [if_neg shut]
  split at returned
  · cases returned
  rename_i before found
  split at returned
  · rename_i ended
    obtain rfl := Except.ok.inj returned
    rw [if_pos ended]
    exact found
  rename_i early
  rw [if_neg early]
  split at returned
  · obtain rfl := Except.ok.inj returned
    exact found
  rename_i runtime held
  dsimp only at returned ⊢
  split at returned
  · rename_i committed
    rw [if_pos committed]
    split at returned
    · rename_i first
      rw [if_pos first]
      obtain rfl := Except.ok.inj returned
      exact Dict.get?_set_self
    · rename_i again
      rw [if_neg again]
      obtain rfl := Except.ok.inj returned
      exact Dict.get?_set_self
  · cases returned

theorem at_eq_some (found : s.registries g = some r) (alive : r.crashed = false)
    (next : (s.session r).step part = some u) : step s (.at g part) = some (s.put g u) := by
  simp only [step, found, alive, false_eq_true, if_false, next, map_some]

theorem at_section (found : s.registries g = some r) (next : step s (.at g part) = some t) :
    r.crashed = false ∧ ∃ u, (s.session r).step part = some u ∧ t = s.put g u := by
  simp only [step, found] at next
  split at next
  · cases next
  · rename_i alive
    obtain ⟨u, inner, same⟩ := Option.map_eq_some_iff.mp next
    exact ⟨eq_false_of_not_eq_true alive, u, inner, same.symm⟩

/-- **The lifecycle of a job is monotone.** -/
theorem lifecycle_monotone {ls : List Label} (ran : run step {} ls = some s) :
    (∀ l t key, step s l = some t → Follows (s.status? key) (t.status? key) ∧
      (s.status? key ≠ some .unknown → t.status? key = some .unknown → (∃ g c, l = .at g (.close c true)) ∨
          ∃ maxJobs maxEvents, l = .open maxJobs maxEvents true)) ∧
    (∀ ms t key status, run step s ms = some t → s.status? key = some status →
      status.terminal = true → t.status? key = some status) ∧
    ∀ g r key ok row, s.registries g = some r → r.crashed = false →
      ((s.session r).cancel key ok).2 = .ok row → row.status = .cancelRequested →
      ∀ ms t, run step s (.at g (.cancel key ok) :: ms) = some t →
        t.status? key ≠ some .completed ∧ t.status? key ≠ some .failed := by
  have good := good_run ran
  refine ⟨fun l t key next => ⟨follows_step good next key, lost_step next⟩,
    fun ms t key status later here terminal => terminal_run good later here terminal,
    fun g r key ok row found alive returned asked ms t later => ?_⟩
  obtain ⟨u, first, rest⟩ := run_cons_eq_some.mp later
  obtain rfl := Option.some.inj ((at_eq_some found alive rfl).symm.trans first)
  have here : (s.put g ((s.session r).cancel key ok).1).status? key = some .cancelRequested := by
    change (((s.session r).cancel key ok).1.rows.get? key).map Row.status = _
    rw [cancel_record returned, map_some, asked]
  obtain ⟨status, ends, leaving⟩ := leaving_run (good_step good first) rest here rfl
  rw [ends]
  refine ⟨fun completed => ?_, fun failed => ?_⟩
  · rw [Option.some.inj completed] at leaving
    cases leaving
  · rw [Option.some.inj failed] at leaving
    cases leaving

end

/-! ## A job that is cancelled while it runs -/

def sample : JobKey := ⟨['c'], ['s'], ['r']⟩

def running : List Label :=
  [.open 4 8 true, .at 0 (.submit sample .empty ['1'] true true true), .at 0 (.runJob sample true)]

theorem lifecycle_monotone_running : ∃ s, run step {} running = some s ∧ s.status? sample = some .running ∧
    ∀ ms t, run step s (.at 0 (.cancel sample true) :: ms) = some t →
      t.status? sample ≠ some .completed ∧ t.status? sample ≠ some .failed := by
  have ran : run step {} running = some _ := rfl
  exact ⟨_, ran, rfl, (lifecycle_monotone ran).2.2 0 _ sample true _ rfl rfl rfl rfl⟩

end EmbodiRun.Jobs
