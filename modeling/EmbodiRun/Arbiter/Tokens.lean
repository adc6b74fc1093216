/-
# Arbiter.Tokens -- automatic tasks and their cancellation tokens

A command carries the token of its task, and only the current token is admitted.
-/
import EmbodiRun.Arbiter.Takeover

namespace EmbodiRun.Arbiter

open Io Transition State Config

variable {α : Type} {cfg : Config} {s t : State α} {l : Label α}

/-- `begin_automatic_task` registers the token `e`, given by its caller or new. -/
def Registers (s : State α) (l : Label α) (e : Token) : Prop :=
  ∃ c token, l = .proceed c ∧ s.calls c = .registering token ∧ token.getD s.heap.events.length = e

/-! ## The current token -/

theorem start_token (cfg : Config) (c : CallId) (op : Operation α) :
    (s.start cfg c op).modelTaskCancel = s.modelTaskCancel := by
  cases op with
  | submit args clock =>
    simp only [start]
    rcases submit_cases cfg c args clock s with ⟨failure, refused⟩ | ⟨envelope, _, _, accepted⟩
    · rw [refused]
      rfl
    · generalize s.submit cfg c args clock = after at accepted
      cases accepted <;> rfl
  | _ =>
    simp only [start, beginAutomaticTask, finishAutomaticWork, acquireManual, releaseManual, setDeadman, hold,
      cancelAutomaticWork, emergencyStop, resetEmergencyStop, close,
      requireOpen]
    grind [raise, clearModelQueue, clearManual, cancelActive, cancelActiveAutomaticTicket]

theorem registerTask_cases (c : CallId) (token : Option Token) (s : State α) :
    (∃ failure, s.registerTask c token = s.raise c failure) ∨
      ((s.registerTask c token).modelTaskCancel = some (token.getD s.heap.events.length) ∧
        (s.registerTask c token).modelQueue = [] ∧
        (s.registerTask c token).calls c = .returned (.token (token.getD s.heap.events.length))) := by
  unfold registerTask requireOpen
  split
  · exact .inl ⟨_, rfl⟩
  dsimp only
  split
  · exact .inl ⟨_, rfl⟩
  refine .inr ?_
  cases token with
  | some => exact ⟨rfl, rfl, by simp⟩
  | none =>
    have events : (({ s with heap := s.heap.setEvent s.modelTaskCancel }.cancelActiveAutomatic
        ).clearModelQueue .cleared).heap.events.length = s.heap.events.length := by
      simp [clearModelQueue, cancelActiveAutomatic]
    simp only [Option.getD_none, ← events]
    exact ⟨rfl, rfl, by simp⟩

theorem detachTask_token (c : CallId) (task : Option Token) (cancelled : Bool) (s : State α) :
    (s.detachTask c task cancelled).modelTaskCancel =
      if !cancelled && (task.isNone || s.modelTaskCancel == task) then none
      else s.modelTaskCancel := by
  unfold detachTask
  dsimp only
  split <;> rfl
variable {c : CallId} {e : Token} {op : Operation α}

theorem proceed_token (next : s.proceed c = some t) :
    t.modelTaskCancel = s.modelTaskCancel ∨ t.modelTaskCancel = none ∨
      ∃ e, Registers s (.proceed c) e ∧ t.modelTaskCancel = some e := by
  unfold proceed at next
  split at next <;> rename_i station
  · rename_i token
    cases next
    rcases registerTask_cases c token s with ⟨_, refused⟩ | ⟨registered, _⟩
    · rw [refused]
      exact .inl rfl
    · exact .inr (.inr ⟨_, ⟨c, token, rfl, station, rfl⟩, registered⟩)
  · split at next <;> cases next
    exact .inl rfl
  · split at next <;> cases next
    unfold joinHold
    split <;> exact .inl rfl
  · cases next
    exact .inl rfl
  · cases next
    exact .inl rfl
  · cases next
    rw [detachTask_token]
    split
    · exact .inr (.inl rfl)
    · exact .inl rfl
  · cases next
    exact .inl rfl
  · cases next
    exact .inl rfl
  · cases next
    exact .inl rfl
  · cases next
    exact .inl rfl
  · cases next
    exact .inl rfl
  · cases next
    unfold commitReset requireOpen
    split
    · exact .inl rfl
    dsimp only
    split <;> exact .inl rfl
  · split at next <;> cases next
    exact .inl rfl
  · cases next

theorem token_step (next : step cfg s l = some t) : t.modelTaskCancel = s.modelTaskCancel ∨ t.modelTaskCancel = none ∨
      ∃ e, Registers s l e ∧ t.modelTaskCancel = some e := by
  cases l with
  | newEvent | setEvent =>
    cases next
    exact .inl rfl
  | start c op =>
    simp only [step] at next
    split at next <;> cases next
    exact .inl (start_token cfg c op)
  | proceed => exact proceed_token next
  | take clock =>
    refine .inl ?_
    obtain ⟨_, rfl⟩ | ⟨k, drained, popped, rfl⟩ := taken_cases next
    · rcases nextTicket_cases s with taken | ⟨_, _, _, _, _, taken⟩ | ⟨_, _, _, _, _, taken⟩ <;> rw [taken]
    · have kept : drained.modelTaskCancel = s.modelTaskCancel := by
        rcases popped.source with ⟨_, _, _, rfl⟩ | ⟨_, _, _, rfl⟩ <;> rfl
      rw [← kept]
      rcases dispatch_cases clock k drained with ⟨_, same⟩ | ⟨_, _, _, same⟩ | ⟨b, _, _, ends⟩
      · rw [same]
      · rw [same]
      · generalize drained.dispatch clock k = after at ends
        cases ends <;> rfl
  | alarm c =>
    simp only [step] at next
    split at next
    · split at next <;> cases next
      exact .inl (start_token cfg c .emergencyStop)
    · cases next
  | finish =>
    simp only [step] at next
    split at next <;> cases next
    exact .inl rfl
  | release =>
    simp only [step] at next
    split at next <;> first
      | cases next; done
      | (obtain rfl := Option.some.inj next; exact .inl rfl)
  | watch =>
    obtain ⟨_, _, ⟨_, rfl⟩ | ⟨_, _, _, rfl⟩⟩ := watch_cases next <;> exact .inl rfl
  | _ =>
    exact .inl (book_frame rfl next).modelTaskCancel

/-! ## Retired tokens -/

/-- The token `e` admits nothing, and nothing that carries it is pending. -/
structure Retired (e : Token) (s : State α) : Prop where
  token : s.modelTaskCancel ≠ some e ∨ s.heap.isSet e = true
  queue : ∀ k ∈ s.modelQueue, ∃ b, s.heap.tickets[k]? = some b ∧ b.envelope.taskCancel ≠ some e
  slot : SlotInv s

theorem Control.Step.queue_mem {k k' : Control} {act : Act} (moved : Control.Step k act k')
    {t : TicketId} (pending : t ∈ k'.modelQueue) : t ∈ k.modelQueue ∨ act = .enqueue t := by
  cases moved with
  | enqueue =>
    rcases List.mem_append.mp pending with old | new
    · exact .inl old
    · exact .inr (by rw [List.mem_singleton.mp new])
  | takeover | clear | clearQueue | latch | shut => cases pending
  | drainModel t' rest isModel head => exact .inl (head ▸ List.mem_cons_of_mem t' pending)
  | _ => exact .inl pending

theorem retired_step (unrenewed : Registers s l e → s.heap.isSet e = true) (retired : Retired e s)
    (next : step cfg s l = some t) : Retired e t where
  token := by
    rcases retired.token with other | isSet
    · by_cases isSet : s.heap.isSet e = true
      · exact .inr ((heap_later next).isSet e isSet)
      refine .inl fun current => ?_
      rcases token_step next with same | none_ | ⟨e', registers, registered⟩
      · exact other (same.symm.trans current)
      · cases none_.symm.trans current
      · obtain rfl := Option.some.inj (registered.symm.trans current)
        exact isSet (unrenewed registers)
    · exact .inr ((heap_later next).isSet e isSet)
  queue k pending := by
    obtain ⟨act, moved, cause⟩ := control_step next
    rcases moved.queue_mem pending with old | rfl
    · obtain ⟨b, found, other⟩ := retired.queue k old
      obtain ⟨a, there, legal, _⟩ := (heap_later next).tickets k b found
      exact ⟨a, there, by rwa [legal.envelope]⟩
    · obtain ⟨envelope, admitted, _, rfl, heap, _⟩ := cause
      refine ⟨{ envelope := envelope }, by rw [heap, Heap.push_ticket, if_pos rfl], fun carries => ?_⟩
      have carries : envelope.taskCancel = some e := carries
      have current := admitted.current (by rw [carries]; rfl)
      have live := admitted.live
      rw [carries] at current live
      rcases retired.token with other | isSet
      · exact other current.symm
      · simp [isSet] at live
  slot := slotInv_step retired.slot next

theorem Retired.idle {k : TicketId} (retired : Retired e s) (carries : s.heap.taskCancel? k = some e) :
    ¬ MarksRunning s l k := by
  intro marks
  obtain ⟨_, popped⟩ := picks_popped marks.1
  rcases popped.source with ⟨rest, _, queue, _⟩ | ⟨_, _, pending, _⟩
  · obtain ⟨b, found, other⟩ := retired.queue k (by rw [queue]; exact List.mem_cons_self)
    exact other (by simpa [Heap.taskCancel?, found] using carries)
  · obtain ⟨b, found, _, tokenless⟩ := retired.slot k pending
    simp [Heap.taskCancel?, found, tokenless] at carries

theorem retired_run {u : State α} {after : List (Label α)} (retired : Retired e t)
    (ran : run (step cfg) t after = some u)
    (unrenewed : Along (step cfg) (fun v l => Registers v l e → v.heap.isSet e = true) t after) :
    Retired e u :=
  run_induction (fun _ _ _ => retired_step) unrenewed retired ran

/-! ## Isolation -/

/-- A cleanup in the name of the token `e`. -/
def Operation.cleans (e : Token) : Operation α → Prop
  | .cancelAutomaticWork token | .finishAutomaticWork token => token = some e
  | _ => False

theorem stale_cleanup (cleans : op.cleans e) (stale : s.modelTaskCancel ≠ some e) :
    ∃ call, call.over = true ∧ s.start cfg c op = s.setCall c call := by
  cases op with
  | cancelAutomaticWork token =>
    obtain rfl : token = some e := cleans
    simp only [start, cancelAutomaticWork, requireOpen]
    split
    · exact ⟨_, rfl, rfl⟩
    · exact ⟨_, rfl, if_pos ⟨rfl, stale.symm⟩⟩
  | finishAutomaticWork token =>
    obtain rfl : token = some e := cleans
    simp only [start, finishAutomaticWork, requireOpen]
    split
    · exact ⟨_, rfl, rfl⟩
    · exact ⟨_, rfl, if_pos stale.symm⟩
  | _ => exact cleans.elim

/-- **Isolation of automatic tasks** by their tokens, unless one is registered again while clear. -/
theorem task_isolation (reached : Reachable (step cfg) init s) :
    (∀ c token t newer older after u, s.calls c = .registering token →
      step cfg s (.proceed c) = some t → t.calls c = .returned (.token newer) → older ≠ newer →
      run (step cfg) t after = some u →
      Along (step cfg) (fun v l => Registers v l older → v.heap.isSet older = true) t after →
      ∀ l k, u.heap.taskCancel? k = some older → ¬ MarksRunning u l k) ∧
    (∀ c e (op : Operation α) t, op.cleans e → s.modelTaskCancel ≠ some e →
      step cfg s (.start c op) = some t → ∃ call, call.over = true ∧ t = s.setCall c call) := by
  refine ⟨?_, ?_⟩
  · intro c token t newer older after u station next registered distinct ran unrenewed l k carries
    have retired : Retired older t := by
      have slot := slotInv_reachable (reached.tail next)
      simp only [step, proceed, station] at next
      cases next
      rcases registerTask_cases c token s with ⟨_, refused⟩ | ⟨current, queue, returned⟩
      · simp [refused, raise] at registered
      · rw [returned] at registered
        obtain rfl := Value.token.inj (Call.returned.inj registered)
        refine ⟨.inl ?_, ?_, slot⟩
        · rw [current]
          exact fun same => distinct (Option.some.inj same).symm
        · rw [queue]
          intro k pending
          cases pending
    exact (retired_run retired ran unrenewed).idle carries
  · intro c e op t cleans stale next
    simp only [step] at next
    split at next <;> cases next
    exact stale_cleanup cleans stale

/-! ## Finishing -/

/-- What a call of `finish_automatic_work` found: its token, and whether it was set. -/
def Call.finishing? : Call → Option (Option Token × Bool)
  | .holding (.finishAutomaticWork task cancelled)
  | .held (.finishAutomaticWork task cancelled) _
  | .detaching task cancelled => some (task, cancelled)
  | _ => none

theorem Call.Moves.finishing_before {generation : Nat} {before after : Call}
    {found : Option Token × Bool} (edge : before.Moves generation after)
    (finishing : after.finishing? = some found) :
    before = .unused ∨ before.finishing? = some found := by
  cases edge <;> simp_all [Call.finishing?]
  · rename_i holder failure
    cases holder <;> simp_all
  · rename_i holder
    cases holder <;> simp_all [Holder.next]

theorem start_finishing (cfg : Config) {task : Option Token}
    (finishing : ((s.start cfg c op).calls c).finishing? = some (task, true)) :
    task.any s.heap.isSet = true := by
  cases op with
  | submit args clock =>
    simp only [start] at finishing
    rcases submit_cases cfg c args clock s with ⟨failure, refused⟩ | ⟨envelope, _, _, accepted⟩
    · simp [refused, raise, Call.finishing?] at finishing
    · generalize s.submit cfg c args clock = after at accepted finishing
      cases accepted <;> simp [Call.finishing?] at finishing
  | _ =>
    simp only [start, beginAutomaticTask, finishAutomaticWork, acquireManual, releaseManual, setDeadman, hold,
      cancelAutomaticWork, emergencyStop, resetEmergencyStop, close,
      requireOpen] at finishing
    grind [raise, Call.finishing?]

def FinishInv (s : State α) : Prop :=
  ∀ c task, (s.calls c).finishing? = some (task, true) → task.any s.heap.isSet = true

theorem finishInv_step (inv : FinishInv s) (next : step cfg s l = some t) : FinishInv t := by
  intro c task finishing
  have before : task.any s.heap.isSet = true := by
    rcases call_step next c with same | ⟨_, edge⟩
    · exact inv c task (same ▸ finishing)
    rcases edge.finishing_before finishing with fresh | before
    · rcases call_begins next fresh (fun idle => by simp [idle, Call.finishing?] at finishing) with
        ⟨worker, op, rfl⟩ | rfl
      · show task.any ({ s with worker := worker } : State α).heap.isSet = true
        exact start_finishing cfg finishing
      · simp [expire, Call.finishing?] at finishing
    · exact inv c task before
  simp only [Option.any_eq_true] at before ⊢
  obtain ⟨e, carries, isSet⟩ := before
  exact ⟨e, carries, (heap_later next).isSet e isSet⟩

theorem finishInv_reachable (reached : Reachable (step cfg) init s) : FinishInv s :=
  reachable_induction (fun _ _ _ => finishInv_step) reached (by intro c task finishing; cases finishing)

theorem queue_known (reached : Reachable (step cfg) init s) : ∀ k ∈ s.modelQueue, k < s.heap.tickets.length := by
  refine reachable_induction (I := fun s => ∀ k ∈ s.modelQueue, k < s.heap.tickets.length)
    ?_ reached (fun k pending => by cases pending)
  intro s l t known next k pending
  obtain ⟨act, moved, cause⟩ := control_step next
  rcases moved.queue_mem pending with old | rfl
  · exact (known k old).trans_le (heap_later next).length_le
  · obtain ⟨envelope, _, _, rfl, heap, _⟩ := cause
    simp [heap]

/-- **A finished task stays finished**, when none of its commands is queued as its finish ends. -/
theorem finished_task_stays_finished (reached : Reachable (step cfg) init s) {c : CallId}
    {e : Token} {cancelled : Bool} (finishing : s.calls c = .detaching (some e) cancelled)
    (drained : ∀ k ∈ s.modelQueue, s.heap.taskCancel? k ≠ some e)
    (next : step cfg s (.proceed c) = some t) :
    t.calls c = .returned (.bool true) ∧
    ∀ after u, run (step cfg) t after = some u →
      Along (step cfg) (fun v l => Registers v l e → v.heap.isSet e = true) t after →
      ∀ l k, u.heap.taskCancel? k = some e → ¬ MarksRunning u l k := by
  have slot := slotInv_reachable (reached.tail next)
  simp only [step, proceed, finishing] at next
  cases next
  have kept : (s.detachTask c (some e) cancelled).modelQueue = s.modelQueue ∧
      (s.detachTask c (some e) cancelled).heap = s.heap := by
    unfold detachTask
    dsimp only
    split <;> exact ⟨rfl, rfl⟩
  refine ⟨by simp [detachTask], fun after u ran unrenewed l k carries => ?_⟩
  have retired : Retired e (s.detachTask c (some e) cancelled) := by
    refine ⟨?_, ?_, slot⟩
    · cases cancelled with
      | true =>
        have isSet := finishInv_reachable reached c (some e) (by rw [finishing]; rfl)
        exact .inr (by rw [kept.2]; exact isSet)
      | false =>
        refine .inl ?_
        rw [detachTask_token]
        by_cases current : s.modelTaskCancel = some e <;> simp [current]
    · rw [kept.1, kept.2]
      intro k pending
      have known := queue_known reached k pending
      refine ⟨_, List.getElem?_eq_getElem known, fun carries => drained k pending ?_⟩
      simp [Heap.taskCancel?, known, carries]
  exact (retired_run retired ran unrenewed).idle carries

/-- The older task's queued command is cleared by the newer one, and its cleanup does nothing. -/
theorem task_isolation_of_two : ∃ s t u : State Unit,
    run (step two) init [.newEvent, .start 0 (.beginAutomaticTask (some 0)),
      .proceed 0, .start 1 (.submit { action := (), source := .model, wait := false, taskCancel := some 0 } 0),
      .start 2 (.beginAutomaticTask none)] = some s ∧
    step two s (.proceed 2) = some t ∧ t.calls 2 = .returned (.token 1) ∧
    t.heap.taskCancel? 0 = some 0 ∧ (∀ l, ¬ MarksRunning t l 0) ∧
    step two t (.start 3 (.finishAutomaticWork (some 0))) = some u ∧
    ∃ call, call.over = true ∧ u = t.setCall 3 call := by
  obtain ⟨s, t, u, ran, station, next, returned, carries, stale, after⟩ : ∃ s t u : State Unit,
      run (step two) init [.newEvent, .start 0 (.beginAutomaticTask (some 0)),
        .proceed 0, .start 1 (.submit { action := (), source := .model, wait := false, taskCancel := some 0 } 0),
        .start 2 (.beginAutomaticTask none)] = some s ∧
      s.calls 2 = .registering none ∧
      step two s (.proceed 2) = some t ∧ t.calls 2 = .returned (.token 1) ∧
      t.heap.taskCancel? 0 = some 0 ∧ t.modelTaskCancel = some 1 ∧
      step two t (.start 3 (.finishAutomaticWork (some 0))) = some u :=
    ⟨_, _, _, rfl, rfl, rfl, rfl, rfl, rfl, rfl⟩
  have idle := (task_isolation ⟨_, ran⟩).1 2 none t 1 0 [] t station next returned (by decide) rfl
    trivial
  have reached : Reachable (step two) init t := Reachable.tail ⟨_, ran⟩ next
  have harmless := (task_isolation reached).2 3 0 (.finishAutomaticWork (some 0)) u rfl (by rw [stale]; decide) after
  exact ⟨s, t, u, ran, next, returned, carries, fun l => idle l 0 carries, after, harmless⟩

/-- A task that finished with nothing queued. -/
theorem finished_task_stays_finished_alone : ∃ s t : State Unit,
    run (step two) init [.start 0 (.beginAutomaticTask none), .proceed 0,
      .start 1 (.finishAutomaticWork (some 0)), .stopReplies 1 (.returned none), .proceed 1] = some s ∧
    step two s (.proceed 1) = some t ∧ t.calls 1 = .returned (.bool true) ∧
    ∀ l k, t.heap.taskCancel? k = some 0 → ¬ MarksRunning t l k := by
  obtain ⟨s, t, ran, finishing, queue, next⟩ : ∃ s t : State Unit,
      run (step two) init [.start 0 (.beginAutomaticTask none), .proceed 0,
        .start 1 (.finishAutomaticWork (some 0)), .stopReplies 1 (.returned none), .proceed 1] = some s ∧
      s.calls 1 = .detaching (some 0) false ∧ s.modelQueue = [] ∧
      step two s (.proceed 1) = some t := ⟨_, _, rfl, rfl, rfl, rfl⟩
  obtain ⟨returned, idle⟩ := finished_task_stays_finished ⟨_, ran⟩ finishing
    (by rw [queue]; intro k pending; cases pending) next
  exact ⟨s, t, ran, next, returned, idle [] t rfl trivial⟩

/-- A command of the task, submitted while its finish waits for the hold, runs after the finish has
returned `True`. -/
theorem finished_task_runs_again : ∃ s t : State Unit,
    run (step two) init [.start 0 (.beginAutomaticTask none), .proceed 0, .start 1 (.finishAutomaticWork (some 0)),
      .start 2 (.submit { action := (), source := .model, wait := false, taskCancel := some 0 } 0),
      .stopReplies 1 (.returned none), .proceed 1, .proceed 1] = some s ∧
    s.calls 1 = .returned (.bool true) ∧ s.heap.taskCancel? 0 = some 0 ∧
    s.heap.status? 0 = some .queued ∧ step two s (.take 0) = some t ∧
    t.heap.status? 0 = some .running ∧ t.worker = .dispatching 0 :=
  ⟨_, _, rfl, rfl, rfl, rfl, rfl, rfl, rfl⟩

end EmbodiRun.Arbiter
