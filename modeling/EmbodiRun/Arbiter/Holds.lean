/-
# Arbiter.Holds -- dispatch and the stops in flight

`_hold_in_progress` keeps the worker from taking a ticket while a stop of the port is
outstanding.  Every operation that asks for a stop sets it, and every operation that
finishes one clears it: one flag for all of them.  `no_dispatch_under_hold`: the flag
does its work in every run where it is only ever cleared with no other stop outstanding.
-/
import EmbodiRun.Arbiter.Latch

namespace EmbodiRun.Arbiter

open Io Transition State

variable {α : Type} {cfg : Config} {s t : State α} {l : Label α}

def Call.outstanding : Call → Bool
  | .holding _ | .stopping => true
  | _ => false

def Call.clears : Call → Bool
  | .held _ _ | .stopEnding _ | .stopExiting => true
  | _ => false

def ClearsAlone (s : State α) (l : Label α) : Prop :=
  ∀ c, l = .proceed c → (s.calls c).clears = true → ∀ d, (s.calls d).outstanding = false

/-! ## The flag -/

theorem start_hold (cfg : Config) (c : CallId) (op : Operation α) :
    ((s.start cfg c op).holdInProgress = s.holdInProgress ∧ ((s.start cfg c op).calls c).outstanding = false) ∨
    (s.start cfg c op).holdInProgress = true := by
  cases op with
  | submit args clock =>
    simp only [start]
    rcases submit_cases cfg c args clock s with ⟨failure, refused⟩ | ⟨envelope, _, _, accepted⟩
    · rw [refused]
      exact .inl ⟨rfl, by simp [raise, Call.outstanding]⟩
    · generalize s.submit cfg c args clock = after at accepted
      cases accepted <;> exact .inl ⟨rfl, by simp [Call.outstanding]⟩
  | _ =>
    simp only [start, beginAutomaticTask, finishAutomaticWork, acquireManual, releaseManual, setDeadman, hold,
      cancelAutomaticWork, emergencyStop, resetEmergencyStop, close,
      requireOpen]
    grind [raise, clearModelQueue, clearManual, cancelActive, cancelActiveAutomaticTicket, Call.outstanding]

theorem proceed_hold {c} (next : s.proceed c = some t) :
    t.holdInProgress = s.holdInProgress ∨ (s.calls c).clears = true := by
  unfold proceed at next
  split at next <;> rename_i station
  · cases next
    simp only [registerTask, requireOpen]
    grind [raise, clearModelQueue, cancelActiveAutomatic]
  · split at next <;> cases next
    exact .inl rfl
  · split at next <;> cases next
    unfold joinHold
    split <;> exact .inl rfl
  · exact .inr (by rw [station]; rfl)
  · exact .inr (by rw [station]; rfl)
  · cases next
    unfold detachTask
    dsimp only
    split <;> exact .inl rfl
  · cases next
    exact .inl rfl
  · exact .inr (by rw [station]; rfl)
  · exact .inr (by rw [station]; rfl)
  · exact .inr (by rw [station]; rfl)
  · cases next
    exact .inl rfl
  · cases next
    unfold commitReset requireOpen
    split
    · exact .inl rfl
    dsimp only
    split <;> exact .inl rfl
  · split at next <;> cases next
    exact .inl rfl
  · cases next

theorem dispatch_hold (clock : ℚ) (k : TicketId) (s : State α) :
    (s.dispatch clock k).holdInProgress = s.holdInProgress := by
  rcases dispatch_cases clock k s with ⟨_, same⟩ | ⟨_, _, _, same⟩ | ⟨b, _, _, ends⟩
  · rw [same]
  · rw [same]
  · generalize s.dispatch clock k = after at ends
    cases ends <;> rfl

theorem hold_step (next : step cfg s l = some t) : t.holdInProgress = s.holdInProgress ∨ t.holdInProgress = true ∨
      ∃ c, l = .proceed c ∧ (s.calls c).clears = true := by
  cases l with
  | newEvent | setEvent =>
    cases next
    exact .inl rfl
  | start c op =>
    simp only [step] at next
    split at next <;> cases next
    exact (start_hold cfg c op).imp (·.1) .inl
  | proceed c => exact (proceed_hold next).imp_right fun clears => .inr ⟨c, rfl, clears⟩
  | take =>
    refine .inl ?_
    obtain ⟨_, rfl⟩ | ⟨k, drained, popped, rfl⟩ := taken_cases next
    · rcases nextTicket_cases s with taken | ⟨_, _, _, _, _, taken⟩ | ⟨_, _, _, _, _, taken⟩ <;> rw [taken]
    · rw [dispatch_hold]
      rcases popped.source with ⟨_, _, _, rfl⟩ | ⟨_, _, _, rfl⟩ <;> rfl
  | alarm c =>
    simp only [step] at next
    split at next
    · split at next <;> cases next
      exact (start_hold cfg c .emergencyStop).imp (·.1) .inl
    · cases next
  | finish =>
    simp only [step] at next
    split at next <;> cases next
    exact .inl rfl
  | release =>
    simp only [step] at next
    split at next <;> first
      | cases next; done
      | (obtain rfl := Option.some.inj next; exact .inl rfl)
  | watch =>
    obtain ⟨_, _, ⟨_, rfl⟩ | ⟨_, _, _, rfl⟩⟩ := watch_cases next
    · exact .inl rfl
    · exact .inr (.inl rfl)
  | _ =>
    exact .inl (book_frame rfl next).holdInProgress

theorem hold_begins {d : CallId} (next : step cfg s l = some t) (fresh : s.calls d = .unused)
    (outstanding : (t.calls d).outstanding = true) : t.holdInProgress = true := by
  rcases call_begins next fresh (fun idle => by simp [idle, Call.outstanding] at outstanding) with
    ⟨worker, op, rfl⟩ | rfl
  · exact (start_hold cfg d op).resolve_left fun ⟨_, idle⟩ =>
      absurd (idle.symm.trans outstanding) Bool.false_ne_true
  · rfl

theorem Call.Moves.outstanding_before {generation : Nat} {before after : Call}
    (edge : before.Moves generation after) (outstanding : after.outstanding = true) :
    before = .unused := by
  cases edge <;> simp_all [Call.outstanding]
  rename_i holder
  rcases holder.next_cases with ⟨_, ends⟩ | ⟨_, _, _, ends⟩ <;> simp [ends] at outstanding

/-! ## Dispatch -/

def HoldInv (s : State α) : Prop :=
  ∀ d, (s.calls d).outstanding = true → s.holdInProgress = true

theorem holdInv_step (alone : ClearsAlone s l) (inv : HoldInv s) (next : step cfg s l = some t) : HoldInv t := by
  intro d outstanding
  rcases call_step next d with same | ⟨_, edge⟩
  · have before : (s.calls d).outstanding = true := same ▸ outstanding
    rcases hold_step next with kept | set | ⟨c, proceeds, clears⟩
    · rw [kept, inv d before]
    · exact set
    · cases before.symm.trans (alone c proceeds clears d)
  · exact hold_begins next (edge.outstanding_before outstanding) outstanding

/-- **No dispatch under an outstanding stop**, in every run whose steps clear the flag only when no
other stop is outstanding. -/
theorem no_dispatch_under_hold {ls : List (Label α)} (ran : run (step cfg) init ls = some s)
    (alone : Along (step cfg) ClearsAlone init ls) {d : CallId}
    (outstanding : (s.calls d).outstanding = true) (l : Label α) (k : TicketId) :
    ¬ MarksRunning s l k := by
  have inv : HoldInv s :=
    run_induction (fun _ _ _ => holdInv_step) alone (fun _ begun => by cases begun) ran
  intro marks
  obtain ⟨_, popped⟩ := picks_popped marks.1
  cases (inv d outstanding).symm.trans popped.unheld

/-- A hold under way keeps a queued command back. -/
theorem no_dispatch_under_hold_queued : ∃ s : State Unit, run (step Config.two) init
      [.start 0 .hold, .start 1 (.submit { action := (), source := .model, wait := false } 0)] = some s ∧
      s.modelQueue = [0] ∧ ∀ l k, ¬ MarksRunning s l k := by
  obtain ⟨s, ran, queue, outstanding⟩ : ∃ s : State Unit, run (step Config.two) init
        [.start 0 .hold, .start 1 (.submit { action := (), source := .model, wait := false } 0)] = some s ∧
        s.modelQueue = [0] ∧ (s.calls 0).outstanding = true := ⟨_, rfl, rfl, rfl⟩
  refine ⟨s, ran, queue, no_dispatch_under_hold ran ⟨?_, fun _ _ => ⟨?_, fun _ _ => trivial⟩⟩ outstanding⟩
  · intro c proceeds
    cases proceeds
  · intro c proceeds
    cases proceeds

/-- Two holds overlap: the first to finish clears the flag, and a command starts while the other holds. -/
theorem dispatch_under_outstanding_hold : ∃ s t : State Unit, run (step Config.two) init
      [.start 0 .hold, .start 1 .hold, .stopReplies 0 (.returned none), .proceed 0,
        .start 2 (.submit { action := (), source := .model, wait := false } 0)] = some s ∧
      s.calls 1 = .holding .hold ∧ s.heap.status? 0 = some .queued ∧
      step Config.two s (.take 0) = some t ∧ t.calls 1 = .holding .hold ∧
      t.heap.status? 0 = some .running :=
  ⟨_, _, rfl, rfl, rfl, rfl, rfl, rfl⟩

end EmbodiRun.Arbiter
