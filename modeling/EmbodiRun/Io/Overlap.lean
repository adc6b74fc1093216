/-
# Io.Overlap -- serialized callbacks and preemptive stops, kept apart

There is one worker, so one serialized callback at a time.  A preemptive stop has a thread
of its own, and what keeps the worker from starting a callback beside it is the wait at the
head of `_run`: nothing is taken while `_preemptive_active` holds.  The wait looks away
once the scheduler is closed, and it is over once a request has been taken.
-/
import EmbodiRun.Io.Frame

namespace EmbodiRun.Io.Scheduler

open Function
open Transition

variable {cfg : Config} {s t : State} {l : Label} {ls : List Label}

/-! ## One serialized callback at a time -/

def Label.returns : Label → Bool
  | .replies _ => true
  | _ => false

def State.running (s : State) : Nat :=
  match s.worker with
  | .inside _ => 1
  | _ => 0

open State

theorem running_step (next : step cfg s l = some t) :
    t.invoked.length + s.running = s.invoked.length + l.returns.toNat + t.running := by
  by_cases other : l.ofWorker = false
  · have frame := worker_frame other next
    have quiet : l.returns = false := by cases l <;> first | rfl | cases other
    simp [running, frame.worker, frame.invoked, quiet]
  cases l with
  | take =>
    simp only [step] at next
    split at next
    · rename_i looping
      cases (take_cases next).2 <;> simp [running, looping, Label.returns, setRequest, popped]
    · cases next
  | check clock =>
    simp only [step] at next
    split at next
    · rename_i r taken
      cases next
      unfold check
      dsimp only
      repeat' split
      all_goals simp [running, taken, Label.returns]
    · cases next
  | call | replies _ =>
    simp only [step] at next
    split at next
    · rename_i station
      cases next
      simp [running, station, Label.returns]
    · cases next
  | settle =>
    simp only [step] at next
    split at next
    · rename_i r outcome leaving
      cases next
      have facts := settles_settle leaving
      simp [running, facts.worker, facts.invoked, leaving, Label.returns]
    · cases next
  | _ => exact absurd rfl other

theorem serialized_one_at_a_time (ran : run (step cfg) init ls = some s) :
    s.invoked.length = ls.countP Label.returns + s.running ∧ s.running ≤ 1 := by
  have counted : ∀ (ls : List Label) (u v : State), run (step cfg) u ls = some v →
      v.invoked.length + u.running = u.invoked.length + ls.countP Label.returns + v.running := by
    intro ls
    induction ls with
    | nil =>
      intro u v ran
      cases ran
      simp
    | cons l ls ih =>
      intro u v ran
      obtain ⟨w, first, rest⟩ := run_cons_eq_some.mp ran
      have one := running_step first
      have later := ih w v rest
      rw [List.countP_cons]
      cases returns : l.returns <;> simp [returns] at one ⊢ <;> omega
  refine ⟨by simpa [init, running] using counted ls _ s ran, ?_⟩
  unfold running
  split <;> omega

/-! ## The threads of preemptive stops -/

/-- Until its `finally` section the thread owns `_preemptive_active`. -/
def StopThread.owns : StopThread → Bool
  | .started | .inside | .left _ => true
  | .absent | .cleared _ | .over _ => false

/-- `_preemptive_active` has one owner at most, and holds while it has one. -/
structure ThreadInv (s : State) : Prop where
  flagged : ∀ c, (s.stopThreads c).owns = true → s.preemptiveActive = true
  unique : ∀ c d, (s.stopThreads c).owns = true → (s.stopThreads d).owns = true → c = d

theorem threadInv_init : ThreadInv init := ⟨nofun, nofun⟩

variable {c : CallId} {thread : StopThread}

theorem ThreadInv.update (inv : ThreadInv s) (threads : t.stopThreads = update s.stopThreads c thread)
    (own : thread.owns = true → (s.stopThreads c).owns = true)
    (active : t.preemptiveActive = s.preemptiveActive ∨
      ((s.stopThreads c).owns = true ∧ thread.owns = false)) : ThreadInv t := by
  have before : ∀ d, (t.stopThreads d).owns = true → (s.stopThreads d).owns = true := by
    intro d owns
    rw [threads] at owns
    by_cases same : d = c
    · subst same
      rw [update_self] at owns
      exact own owns
    · rwa [update_of_ne same] at owns
  refine ⟨fun d owns => ?_, fun d e first second => inv.unique d e (before d first) (before e second)⟩
  rcases active with same | ⟨owner, leaves⟩
  · rw [same]
    exact inv.flagged d (before d owns)
  · obtain rfl := inv.unique d c (before d owns) owner
    rw [threads, update_self, leaves] at owns
    cases owns

theorem threadInv_step (inv : ThreadInv s) (next : step cfg s l = some t) : ThreadInv t := by
  cases thread_move next with
  | stays threads active =>
    exact ⟨fun c owns => active ▸ inv.flagged c (threads ▸ owns),
      fun c d first second => inv.unique c d (threads ▸ first) (threads ▸ second)⟩
  | starts c _ guard threads active =>
    have only : ∀ d, (t.stopThreads d).owns = true → d = c := by
      intro d owns
      by_contra other
      rw [threads, update_of_ne other] at owns
      have flagged := inv.flagged d owns
      rw [guard.2.2.2.1] at flagged
      cases flagged
    exact ⟨fun _ _ => active, fun d e first second => (only d first).trans (only e second).symm⟩
  | calls c _ station threads active | replies c _ _ station threads active =>
    exact inv.update threads (fun _ => by rw [station]; rfl) (.inl active)
  | clears c _ _ station threads =>
    exact inv.update threads nofun (.inr ⟨by rw [station]; rfl, rfl⟩)
  | ends c _ _ station threads active => exact inv.update threads nofun (.inl active)

/-! ## The exact condition -/

def State.stopAhead (s : State) : Prop :=
  ∃ c, s.stopThreads c = .started ∨ s.stopThreads c = .inside

/-- The worker holds no request whose callback is still to be entered while the callback of a
preemptive stop runs. -/
def State.KeptApart (s : State) : Prop := s.stopAhead → ∀ r, ¬ s.pending r

/-- After `close` no live request is taken beside a preemptive stop; and none of these starts while a
callback is still to be entered. -/
def KeepsApart (s : State) (l : Label) : Prop :=
  (l = .take → s.closed = true → s.stopAhead → ∀ r rest, s.queue = r :: rest → (s.requests r).cancelled = true) ∧
    ∀ c, l = .proceed c → s.startsPreemptive c → ∀ r, ¬ s.pending r

theorem stopAhead_iff (threads : t.stopThreads = s.stopThreads) : t.stopAhead ↔ s.stopAhead := by
  unfold stopAhead
  rw [threads]

theorem stopAhead_of_update (threads : t.stopThreads = update s.stopThreads c thread)
    (own : thread = .started ∨ thread = .inside →
      s.stopThreads c = .started ∨ s.stopThreads c = .inside) (ahead : t.stopAhead) : s.stopAhead := by
  obtain ⟨d, ahead⟩ := ahead
  rw [threads] at ahead
  by_cases same : d = c
  · subst same
    rw [update_self] at ahead
    exact ⟨d, own ahead⟩
  · rw [update_of_ne same] at ahead
    exact ⟨d, ahead⟩

theorem stopAhead_before (next : step cfg s l = some t)
    (other : ∀ c, l = .proceed c → ¬ s.startsPreemptive c) (ahead : t.stopAhead) : s.stopAhead := by
  cases thread_move next with
  | stays threads => exact (stopAhead_iff threads).mp ahead
  | starts c label guard => exact absurd guard (other c label)
  | calls c _ station threads =>
    exact stopAhead_of_update threads (fun _ => .inl station) ahead
  | replies c _ _ station threads | clears c _ _ station threads | ends c _ _ station threads =>
    exact stopAhead_of_update threads (by simp) ahead

theorem pending_before {r} (next : step cfg s l = some t) (held : t.pending r) :
    s.pending r ∨ (l = .take ∧ ∃ rest, s.queue = r :: rest ∧ (s.requests r).cancelled = false) := by
  by_cases other : l.ofWorker = false
  · exact .inl (pending_of_worker (worker_frame other next).worker r held)
  cases l with
  | take =>
    simp only [step] at next
    split at next
    · rename_i looping
      cases (take_cases next).2 with
      | ends => simp [pending] at held
      | skips =>
        simp [pending, setRequest, popped, looping] at held
      | takes q rest queue live =>
        obtain rfl : q = r := by simpa [pending, setRequest] using held
        exact .inr ⟨rfl, rest, queue, live⟩
    · cases next
  | check clock =>
    simp only [step] at next
    split at next
    · rename_i q taken
      cases next
      exact .inl ((shrinks_check taken clock).pending r held)
    · cases next
  | call | replies =>
    simp only [step] at next
    split at next <;> cases next
    simp [pending] at held
  | settle =>
    simp only [step] at next
    split at next
    · rename_i q outcome leaving
      cases next
      simp [pending, (settles_settle leaving).worker] at held
    · cases next
  | _ => exact absurd rfl other

theorem keptApart_step (threads : ThreadInv s) (inv : s.KeptApart)
    (next : step cfg s l = some t) : t.KeptApart ↔ KeepsApart s l := by
  constructor
  · intro apart
    refine ⟨?_, ?_⟩
    · rintro rfl _ ahead r rest queue
      simp only [step] at next
      split at next
      · have same := (take_sameThreads next).threads
        cases (take_cases next).2 with
        | ends empty => cases empty.symm.trans queue
        | skips q _ head cancelled =>
          obtain ⟨rfl, _⟩ := List.cons.inj (head.symm.trans queue)
          exact cancelled
        | takes q _ head =>
          obtain ⟨rfl, _⟩ := List.cons.inj (head.symm.trans queue)
          exact absurd (.inl rfl) (apart ((stopAhead_iff same).mpr ahead) q)
      · cases next
    · rintro c rfl starts r held
      have kept : t.pending r := by
        rw [pending, (worker_frame rfl next).worker]
        exact held
      obtain ⟨⟨bounded, station⟩, free, isOpen, inactive, unqueued⟩ := starts
      have started : t.stopThreads c = .started := by
        simp only [step, proceed, station, free, Option.isNone_none, if_true,
          startPreemptive, isOpen, inactive, unqueued] at next
        cases next
        exact update_self ..
      exact apart ⟨c, .inl started⟩ r kept
  · rintro ⟨takes, starts⟩ ahead r held
    rcases pending_before next held with before | ⟨rfl, rest, queue, live⟩
    · by_cases label : ∃ c, l = .proceed c ∧ s.startsPreemptive c
      · obtain ⟨c, label, guard⟩ := label
        exact starts c label guard r before
      · exact inv (stopAhead_before next (fun c same guard => label ⟨c, same, guard⟩) ahead) r before
    · obtain ⟨c, atWork⟩ := stopAhead_before next (by simp) ahead
      have owner : (s.stopThreads c).owns = true := by
        rcases atWork with station | station <;> rw [station] <;> rfl
      have closed : s.closed = true := by
        simp only [step] at next
        split at next
        · exact (take_cases next).1.resolve_right (by simp [threads.flagged c owner])
        · cases next
      cases live.symm.trans (takes rfl closed ⟨c, atWork⟩ r rest queue)

/-- **Callbacks are kept apart** exactly when every step keeps them so. -/
theorem callbacks_kept_apart (ran : run (step cfg) init ls = some s) :
    ((∀ before after u, ls = before ++ after → run (step cfg) init before = some u →
        u.KeptApart) ↔ Along (step cfg) KeepsApart init ls) ∧
      (Along (step cfg) KeepsApart init ls →
        ∀ l t r, step cfg s l = some t → t.invoked = s.invoked ++ [r] → ∀ c, s.stopThreads c ≠ .inside) ∧
      s.invoked.length = ls.countP Label.returns + s.running ∧ s.running ≤ 1 := by
  have start : ThreadInv init ∧ State.init.KeptApart :=
    ⟨threadInv_init, fun ⟨_, ahead⟩ => by rcases ahead with ahead | ahead <;> cases ahead⟩
  have exact_step : ∀ u l v, ThreadInv u ∧ u.KeptApart → step cfg u l = some v →
      (ThreadInv v ∧ v.KeptApart ↔ KeepsApart u l) := fun u l v inv next =>
    (and_iff_right (threadInv_step inv.1 next)).trans (keptApart_step inv.1 inv.2 next)
  have everywhere := along_iff_prefixes exact_step start ran
  refine ⟨⟨fun apart => everywhere.mp fun before after u split reached =>
      ⟨run_invariant (fun _ _ _ => threadInv_step) threadInv_init reached, apart before after u split reached⟩,
    fun keeps before after u split reached => (everywhere.mpr keeps before after u split reached).2⟩,
    fun keeps l t r next entered c inside => ?_, serialized_one_at_a_time ran⟩
  have apart : s.KeptApart := (everywhere.mpr keeps ls [] s (List.append_nil ls).symm ran).2
  cases bus_move next with
  | enters q facts => exact apart ⟨c, .inr inside⟩ q (.inr facts.calling)
  | shrinks facts | admits _ facts | alarms _ _ facts | takes _ facts | settles _ _ _ facts =>
    simp [facts.invoked] at entered

/-- A preemptive stop beside an action that runs: nothing else is entered. -/
theorem callbacks_kept_apart_beside_action : ∃ s, run (step {}) init
        [.start 0 (.execute {}) 0, .take, .check 0, .call, .start 1 (.stop true none (some true)) 0,
          .proceed 1, .stopCalls 1] = some s ∧
      s.stopThreads 1 = .inside ∧ s.invoked = [0] ∧
      ∀ l t r, step {} s l = some t → t.invoked ≠ s.invoked ++ [r] := by
  obtain ⟨s, ran, inside, invoked⟩ : ∃ s, run (step {}) init
          [.start 0 (.execute {}) 0, .take, .check 0, .call, .start 1 (.stop true none (some true)) 0,
            .proceed 1, .stopCalls 1] = some s ∧
        s.stopThreads 1 = .inside ∧ s.invoked = [0] := ⟨_, rfl, rfl, rfl⟩
  refine ⟨s, ran, inside, invoked, fun l t r next entered => ?_⟩
  refine (callbacks_kept_apart ran).2.1 ?_ l t r next entered 1 inside
  refine ⟨⟨nofun, nofun⟩, fun a first => ⟨⟨fun _ closed => ?_, nofun⟩, fun b second => ⟨⟨nofun, nofun⟩,
    fun c third => ⟨⟨nofun, nofun⟩, fun d fourth => ⟨⟨nofun, nofun⟩, fun e fifth =>
      ⟨⟨nofun, fun _ _ _ q held => ?_⟩, fun f _ => ⟨⟨nofun, nofun⟩, fun _ _ => trivial⟩⟩⟩⟩⟩⟩⟩
  · cases first
    cases closed
  · cases first
    cases second
    cases third
    cases fourth
    cases fifth
    rcases held with held | held <;> cases held

/-- Twice a serialized callback is entered beside a preemptive stop: of a retained stop, and of an action
that was taken before. -/
theorem callback_entered_beside_stop : (∃ s t, run (step {}) init
        [.start 0 (.stop true none (some true)) 0, .proceed 0, .stopCalls 0,
          .start 1 (.stop true (some (.finite 1)) none) 0, .start 2 (.close none) 0, .take,
          .check 0] = some s ∧
      s.stopThreads 0 = .inside ∧ step {} s .call = some t ∧ t.stopThreads 0 = .inside ∧
      t.worker = .inside 0 ∧ t.invoked = [0]) ∧
    ∃ s t, run (step {}) init [.start 0 (.execute {}) 0, .take, .check 0, .start 1 (.stop true none (some true)) 0,
          .proceed 1, .stopCalls 1] = some s ∧
      s.stopThreads 1 = .inside ∧ step {} s .call = some t ∧ t.stopThreads 1 = .inside ∧
      t.worker = .inside 0 ∧ t.invoked = [0] :=
  ⟨⟨_, _, rfl, rfl, rfl, rfl, rfl, rfl⟩, ⟨_, _, rfl, rfl, rfl, rfl, rfl, rfl⟩⟩

end EmbodiRun.Io.Scheduler
