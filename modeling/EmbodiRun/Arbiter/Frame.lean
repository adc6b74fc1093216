/-
# Arbiter.Frame -- the moves that leave the shared fields alone

Half of the labels only move one thread: an answer arrives, an event is emitted, a wait
runs out.  `book_frame` says once that such a move keeps every field the other threads
decide by.  `submit_cases`, `nextTicket_cases` and `take_cases` say once what a submission
leaves and what the worker's section takes.
-/
import EmbodiRun.Arbiter.Step

namespace EmbodiRun.Arbiter

open Io

variable {α : Type} {cfg : Config} {s t : State α} {l : Label α}

/-- `t` has the heap and the deciding fields of `s`. -/
structure Frame (s t : State α) : Prop where
  authority : t.authority = s.authority
  deadmanActive : t.deadmanActive = s.deadmanActive
  manualHeartbeat : t.manualHeartbeat = s.manualHeartbeat
  modelQueue : t.modelQueue = s.modelQueue
  manualPending : t.manualPending = s.manualPending
  active : t.active = s.active
  holdInProgress : t.holdInProgress = s.holdInProgress
  estopGeneration : t.estopGeneration = s.estopGeneration
  modelTaskCancel : t.modelTaskCancel = s.modelTaskCancel
  closed : t.closed = s.closed
  heap : t.heap = s.heap

def Label.book : Label α → Bool
  | .stopReplies _ _ | .announce _ _ | .timeout _ | .portCloses _ _ | .execute | .executeReplies _
  | .settle | .record | .alarmOver | .emit _ | .watchOver => true
  | .newEvent | .setEvent _ | .start _ _ | .proceed _ | .take _ | .alarm _ | .finish | .release
  | .watch _ _ => false

theorem Frame.rfl {s : State α} : Frame s s := by
  constructor <;> exact Eq.refl _

theorem Frame.setCall (c : CallId) (call : Call) : Frame s (s.setCall c call) := by
  constructor <;> exact Eq.refl _

theorem book_frame (book : l.book = true) (next : step cfg s l = some t) : Frame s t := by
  cases l with simp only [step] at next
  | stopReplies c =>
    simp only [State.stopReplies] at next
    split at next <;> first
      | cases next; done
      | (obtain rfl := Option.some.inj next; exact .setCall c _)
  | announce c emission =>
    split at next <;> cases next
    cases emission <;> constructor <;> exact Eq.refl _
  | timeout c =>
    simp only [State.timeout] at next
    split at next <;> first
      | cases next; done
      | (obtain rfl := Option.some.inj next; exact .setCall c _)
  | portCloses c =>
    split at next <;> cases next
    unfold State.endClose
    split <;> exact .setCall c _
  | emit emission =>
    simp only [State.workerEmits] at next
    split at next <;> first
      | cases next; done
      | (cases next
         cases emission <;> constructor <;> exact Eq.refl _)
  | alarmOver =>
    simp only [State.alarmOver] at next
    split at next
    · split at next <;> first
        | cases next; done
        | (obtain rfl := Option.some.inj next; constructor <;> exact Eq.refl _)
    · cases next
  | watchOver =>
    simp only [State.watchOver] at next
    split at next
    · split at next <;> first
        | cases next; done
        | (obtain rfl := Option.some.inj next; constructor <;> exact Eq.refl _)
    · cases next
  | execute | executeReplies | settle | record =>
    split at next <;> cases next
    constructor <;> exact Eq.refl _
  | newEvent | setEvent | start | proceed | take | alarm | finish | release | watch =>
    cases book

/-! ## What a submission leaves -/

/-- How the section of `submit` ends when it accepts the envelope. -/
inductive Accepted (cfg : Config) (c : CallId) (envelope : CommandEnvelope α) (wait bounded : Bool)
    (clock : ℚ) (s : State α) : State α → Prop
  | staged (isManual : envelope.source = .manual) (granted : s.authority = .manual)
      (armed : s.deadmanActive = true) : Accepted cfg c envelope wait bounded clock s ({ s with
          manualHeartbeat := some clock
          heap := (s.heap.finishAll s.manualPending.toList .replaced).push { envelope := envelope }
          manualPending := some s.heap.tickets.length }.setCall c
            (.announcing s.heap.tickets.length wait bounded))
  | queued (isAutomatic : envelope.source ≠ .manual) (granted : s.authority = .model)
      (room : s.modelQueue.length < cfg.modelQueueCapacity) :
      Accepted cfg c envelope wait bounded clock s ({ s with
          heap := s.heap.push { envelope := envelope }
          modelQueue := s.modelQueue ++ [s.heap.tickets.length] }.setCall c
            (.announcing s.heap.tickets.length wait bounded))

/-- An accepted envelope carries no token, or an automatic one carries the current token, clear. -/
structure Admitted (envelope : CommandEnvelope α) (s : State α) : Prop where
  isOpen : s.closed = false
  manual : envelope.source = .manual → envelope.taskCancel = none
  current : envelope.taskCancel.isSome = true → envelope.taskCancel = s.modelTaskCancel
  live : envelope.taskCancel.any s.heap.isSet = false

theorem check_manual {args : Submission α} {envelope : CommandEnvelope α}
    (checked : args.check = .ok envelope) (isManual : envelope.source = .manual) :
    envelope.taskCancel = none := by
  obtain ⟨action, source, wait, timeout, deadline, taskCancel⟩ := args
  simp only [Submission.check, bind, Except.bind] at checked
  -- the deadline, then the timeout, then the token: only the last branch accepts
  repeat' split at checked
  all_goals first
    | cases checked; done
    | (rename_i tokenless
       obtain rfl := Except.ok.inj checked
       cases taskCancel with
       | none => rfl
       | some => exact absurd ⟨isManual, rfl⟩ tokenless)

theorem submit_cases (cfg : Config) (c : CallId) (args : Submission α) (clock : ℚ) (s : State α) :
    (∃ failure, s.submit cfg c args clock = s.raise c failure) ∨
      ∃ envelope, args.check = .ok envelope ∧ Admitted envelope s ∧
        Accepted cfg c envelope args.wait args.timeout.isSome clock s (s.submit cfg c args clock) := by
  let result (t : State α) : Prop := (∃ failure, t = s.raise c failure) ∨
    ∃ envelope, args.check = .ok envelope ∧ Admitted envelope s ∧
      Accepted cfg c envelope args.wait args.timeout.isSome clock s t
  have refused (failure : Failure) : result (s.raise c failure) := .inl ⟨failure, rfl⟩
  change result _
  unfold State.submit
  cases checked : args.check with
  | error failure => exact refused failure
  | ok envelope =>
    dsimp only
    unfold State.accept State.requireOpen
    refine iteInduction (motive := result) (fun _ => refused _) fun isOpen => ?_
    refine iteInduction (motive := result) (fun _ => refused _) fun current => ?_
    refine iteInduction (motive := result) (fun _ => refused _) fun live => ?_
    refine iteInduction (motive := result) (fun _ => refused _) fun unlatched => ?_
    have admitted : Admitted envelope s :=
      ⟨Bool.eq_false_iff.mpr isOpen, check_manual checked,
        fun carries => by_contra fun other => current ⟨carries, other⟩, Bool.eq_false_iff.mpr live⟩
    refine iteInduction (motive := result) (fun isManual => ?_) fun isAutomatic => ?_
    · refine iteInduction (motive := result) (fun _ => refused _) fun granted => ?_
      refine iteInduction (motive := result) (fun _ => refused _) fun armed => ?_
      exact .inr ⟨envelope, checked, admitted, .staged isManual (not_not.mp granted) (by simpa using armed)⟩
    · refine iteInduction (motive := result) (fun _ => refused _) fun unowned => ?_
      refine iteInduction (motive := result) (fun _ => refused _) fun room => ?_
      have granted : s.authority = .model := by
        cases authority : s.authority with
        | model => rfl
        | manual => exact absurd authority unowned
        | estopLatched => exact absurd authority unlatched
      exact .inr ⟨envelope, checked, admitted, .queued isAutomatic granted (Nat.lt_of_not_le room)⟩

/-! ## What the worker takes -/

/-- `_next_ticket` hands out the head of the queue under MODEL, the slot under an armed MANUAL,
and nothing under a hold or a latch. -/
theorem nextTicket_cases (s : State α) : s.nextTicket = (none, s) ∨
    (∃ k rest, s.holdInProgress = false ∧ s.authority = .model ∧ s.modelQueue = k :: rest ∧
      s.nextTicket = (some k, { s with modelQueue := rest })) ∨
    (∃ k, s.holdInProgress = false ∧ s.authority = .manual ∧ s.deadmanActive = true ∧
      s.manualPending = some k ∧ s.nextTicket = (some k, { s with manualPending := none })) := by
  unfold State.nextTicket
  split
  · exact .inl rfl
  rename_i free
  obtain ⟨unheld, unlatched⟩ := Bool.or_eq_false_iff.mp (Bool.eq_false_iff.mpr free)
  split
  · rename_i isManual
    split
    · exact .inl rfl
    rename_i armed
    cases pending : s.manualPending with
    | none => exact .inl (by rw [← pending])
    | some k => exact .inr (.inr ⟨k, unheld, isManual, by simpa using armed, rfl, rfl⟩)
  · rename_i notManual
    have isModel : s.authority = .model := by
      cases authority : s.authority <;> simp_all
    split
    · exact .inl rfl
    · rename_i k rest queue
      exact .inr (.inl ⟨k, rest, unheld, isModel, queue, rfl⟩)

theorem take_cases {clock : ℚ} (next : step cfg s (.take clock) = some t) : s.worker = .looping ∧
      ((s.closed = true ∧ t = { s.nextTicket.2 with worker := .ended }) ∨
        ∃ k, s.closed = false ∧ s.nextTicket.1 = some k ∧ t = s.nextTicket.2.dispatch clock k) := by
  simp only [step] at next
  split at next
  · rename_i idle
    refine ⟨idle, ?_⟩
    have closed : s.nextTicket.2.closed = s.closed := by
      rcases nextTicket_cases s with taken | ⟨_, _, _, _, _, taken⟩ | ⟨_, _, _, _, _, taken⟩ <;> rw [taken]
    unfold State.take at next
    split at next
    · rename_i rest popped
      rw [popped] at closed ⊢
      split at next
      · rename_i finished
        cases next
        exact .inl ⟨closed.symm.trans finished, rfl⟩
      · cases next
    · rename_i k rest popped
      rw [popped] at closed ⊢
      split at next <;> cases next
      · exact .inl ⟨closed.symm.trans ‹_›, rfl⟩
      · refine .inr ⟨k, ?_, rfl, rfl⟩
        rw [← closed]
        exact Bool.eq_false_iff.mpr ‹_›
  · cases next

/-! ## What the watchdog does -/

def State.expire (c : CallId) (s : State α) : State α :=
  let s := { s with deadmanActive := false, manualHeartbeat := none }
  let s := (s.cancelActive (some .manual)).clearManual .cleared
  { s with holdInProgress := true, watchdog := .holding c }.setCall c (.holding .watchDeadman)

theorem watch_cases {c : CallId} {clock : ℚ} (next : step cfg s (.watch c clock) = some t) :
    s.watchdog = .watching ∧ s.calls c = .unused ∧ ((s.closed = true ∧ t = { s with watchdog := .ended }) ∨
        (s.closed = false ∧ s.authority = .manual ∧ s.deadmanActive = true ∧ t = s.expire c)) := by
  simp only [step] at next
  split at next
  · rename_i watching
    split at next
    · rename_i fresh
      refine ⟨watching, fresh, ?_⟩
      unfold State.watch at next
      split at next
      · rename_i finished
        exact .inl ⟨finished, (Option.some.inj next).symm⟩
      rename_i isOpen
      split at next
      · cases next
      rename_i armed
      simp only [not_or, not_not, Bool.not_eq_true', Bool.not_eq_false] at armed
      split at next
      · cases next
      split at next
      · cases next
      exact .inr ⟨Bool.eq_false_iff.mpr isOpen, armed.1, armed.2, (Option.some.inj next).symm⟩
    · cases next
  · cases next

end EmbodiRun.Arbiter
