/-
# Arbiter.Calls -- the life of one call, and what a move can do to the others

`Call.Moves` is the graph of a call's stations: a call starts once, passes its stop
call and its later sections in order, and ends by returning, raising or leaving.
`calls_step` says that a move of the arbiter takes at most one call along one edge of
that graph, so facts about calls in progress are proved by cases on the edges.
-/
import EmbodiRun.Arbiter.Frame

namespace EmbodiRun.Arbiter

open Io State

def Call.over : Call → Bool
  | .returned _ | .raised _ | .exited => true
  | _ => false

/-- One edge in the life of a call; `generation` is the latch count a reset captures. -/
inductive Call.Moves (generation : Nat) : Call → Call → Prop
  | fails {call : Call} (failure) (running : call.over = false) :
      Moves generation call (.raised failure)
  | answers (value) : Moves generation .unused (.returned value)
  | registers (token) : Moves generation .unused (.registering token)
  | registered (token value) : Moves generation (.registering token) (.returned (.token value))
  | accepts (t : TicketId) (wait bounded) : Moves generation .unused (.announcing t wait bounded)
  | waits (t : TicketId) (wait bounded) :
      Moves generation (.announcing t wait bounded) (.waiting t bounded)
  | announced (t : TicketId) (wait bounded) :
      Moves generation (.announcing t wait bounded) (.returned (.ticket t))
  | waited (t : TicketId) (bounded) : Moves generation (.waiting t bounded) (.returned (.ticket t))
  | joins : Moves generation .unused .joining
  | joined : Moves generation .joining (.returned .none)
  | holds (holder) : Moves generation .unused (.holding holder)
  | holdReplies (holder failure) : Moves generation (.holding holder) (.held holder failure)
  | holdExits (holder) : Moves generation (.holding holder) .exited
  | holdCommits (holder : Holder) : Moves generation (.held holder none) holder.next
  | detaches (task cancelled) : Moves generation (.detaching task cancelled) (.returned (.bool true))
  | stops : Moves generation .unused .stopping
  | stopFails (failure) : Moves generation .stopping (.stopFailed failure)
  | stopSucceeds : Moves generation .stopping (.stopEnding none)
  | stopExits : Moves generation .stopping .stopExiting
  | stopRecords (failure) : Moves generation (.stopFailed failure) (.stopEnding (some failure))
  | stopEnds : Moves generation (.stopEnding none) (.returned .none)
  | stopExited : Moves generation .stopExiting .exited
  | resets : Moves generation .unused (.resetting generation)
  | resetReplies (captured failure) :
      Moves generation (.resetting captured) (.resetHeld captured failure)
  | resetExits (captured) : Moves generation (.resetting captured) .exited
  | resetCommits (captured) : Moves generation (.resetHeld captured none) (.returned .none)
  | closes (failure) : Moves generation .unused (.closing failure)
  | closeWaits : Moves generation .unused .closeWaiting
  | closeHolds : Moves generation .closeWaiting .closeHolding
  | closeExpires (failure) : Moves generation .closeWaiting (.closing (some failure))
  | closeReplies (failure) : Moves generation .closeHolding (.closing failure)
  | closeExits : Moves generation .closeHolding .exited
  | closed : Moves generation (.closing none) (.returned .none)

variable {α : Type} {cfg : Config} {s t u : State α} {l : Label α}

/-- The call `c` moves along one edge, or none does. -/
def CallMoves (c : CallId) (s t : State α) : Prop :=
  t.calls = s.calls ∨ ∃ call, t.calls = Function.update s.calls c call ∧ (s.calls c).Moves s.estopGeneration call
variable {c : CallId}

theorem CallMoves.one {call} (edge : (s.calls c).Moves s.estopGeneration call)
    (moved : t.calls = Function.update s.calls c call) : CallMoves c s t :=
  .inr ⟨call, moved, edge⟩

def Label.call? : Label α → Option CallId
  | .start c _ | .stopReplies c _ | .proceed c | .announce c _ | .timeout c | .portCloses c _
  | .alarm c | .watch c _ => some c
  | .newEvent | .setEvent _ | .take _ | .execute | .executeReplies _ | .settle | .record | .alarmOver
  | .emit _ | .finish | .release | .watchOver => none

/-! ## Every section moves one call -/

theorem raise_moves {failure} (running : (s.calls c).over = false)
    (same : u.calls = s.calls) : CallMoves c s (u.raise c failure) :=
  .one (.fails failure running) (by simp [raise, setCall, same])

theorem requireOpen_moves {body} (running : (s.calls c).over = false)
    (inside : CallMoves c s (body s)) : CallMoves c s (s.requireOpen c body) := by
  unfold requireOpen
  split
  · exact raise_moves running rfl
  · exact inside

theorem submit_moves (args : Submission α) (clock : ℚ) (fresh : s.calls c = .unused) :
    CallMoves c s (s.submit cfg c args clock) := by
  have edge : (s.calls c).Moves s.estopGeneration
      (.announcing s.heap.tickets.length args.wait args.timeout.isSome) := by
    rw [fresh]
    exact .accepts _ _ _
  rcases submit_cases cfg c args clock s with ⟨failure, refused⟩ | ⟨envelope, _, _, accepted⟩
  · rw [refused]
    exact raise_moves (by rw [fresh]; rfl) rfl
  · generalize s.submit cfg c args clock = after at accepted
    cases accepted <;> exact .one edge rfl

theorem emergencyStop_moves (fresh : s.calls c = .unused) : CallMoves c s (s.emergencyStop c) :=
  requireOpen_moves (by rw [fresh]; rfl) (.one (fresh ▸ .stops) rfl)

theorem start_moves (op : Operation α) (fresh : s.calls c = .unused) : CallMoves c s (s.start cfg c op) := by
  have running : (s.calls c).over = false := by rw [fresh]; rfl
  have begins {call : Call} (edge : Call.Moves s.estopGeneration .unused call) :
      (s.calls c).Moves s.estopGeneration call := fresh ▸ edge
  cases op with
  | beginAutomaticTask token =>
    simp only [start, beginAutomaticTask]
    split
    · exact raise_moves running rfl
    · exact .one (begins (.registers token)) rfl
  | finishAutomaticWork =>
    refine requireOpen_moves running ?_
    split
    · exact .one (begins (.answers _)) rfl
    split
    · exact .one (begins (.answers _)) rfl
    · exact .one (begins (.holds _)) rfl
  | submit args clock => exact submit_moves args clock fresh
  | acquireManual =>
    refine requireOpen_moves running ?_
    split
    · exact raise_moves running rfl
    dsimp only
    split
    · exact .one (begins .joins) rfl
    · exact .one (begins (.holds _)) rfl
  | releaseManual =>
    refine requireOpen_moves running ?_
    split
    · exact raise_moves running rfl
    · exact .one (begins (.holds _)) rfl
  | setDeadman active =>
    refine requireOpen_moves running ?_
    split
    · exact raise_moves running rfl
    · cases active with
      | true => exact .one (begins (.answers _)) rfl
      | false => exact .one (begins (.holds _)) rfl
  | hold => exact requireOpen_moves running (.one (begins (.holds _)) rfl)
  | cancelAutomaticWork =>
    refine requireOpen_moves running ?_
    split
    · exact .one (begins (.answers _)) rfl
    dsimp only
    split <;> split
    · exact .one (begins (.holds _)) rfl
    · exact .one (begins (.answers _)) rfl
    · exact .one (begins (.holds _)) rfl
    · exact .one (begins (.answers _)) rfl
  | emergencyStop => exact emergencyStop_moves fresh
  | resetEmergencyStop =>
    refine requireOpen_moves running ?_
    split
    · exact raise_moves running rfl
    · exact .one (begins .resets) rfl
  | close hold =>
    simp only [start, close]
    split
    · exact .one (begins (.closes _)) rfl
    · cases hold with
      | true => exact .one (begins .closeWaits) rfl
      | false => exact .one (begins (.closes _)) rfl

theorem stopReplies_moves {reply} (next : s.stopReplies c reply = some t) : CallMoves c s t := by
  unfold stopReplies at next
  split at next
  · rename_i holder station
    cases next
    refine .one ?_ rfl
    rw [station]
    split
    · exact .holdExits holder
    · exact .holdReplies holder _
  · rename_i station
    cases next
    refine .one ?_ rfl
    rw [station]
    split
    · exact .stopExits
    split
    · exact .stopFails _
    · exact .stopSucceeds
  · rename_i generation station
    cases next
    refine .one ?_ rfl
    rw [station]
    split
    · exact .resetExits generation
    · exact .resetReplies generation _
  · rename_i station
    cases next
    refine .one ?_ rfl
    rw [station]
    split
    · exact .closeExits
    · exact .closeReplies _
  · cases next

theorem registerTask_moves {token} (station : s.calls c = .registering token) :
    CallMoves c s (s.registerTask c token) := by
  have running : (s.calls c).over = false := by rw [station]; rfl
  have edge (value : Token) : (s.calls c).Moves s.estopGeneration (.returned (.token value)) := by
    rw [station]
    exact .registered token value
  refine requireOpen_moves running ?_
  split
  · exact raise_moves running rfl
  · cases token <;> exact .one (edge _) rfl
variable {generation : Nat} {emission : Emission} {clock : ℚ}

theorem commitReset_moves (station : s.calls c = .resetHeld generation none) :
    CallMoves c s (s.commitReset c generation) := by
  have running : (s.calls c).over = false := by rw [station]; rfl
  refine requireOpen_moves running ?_
  split
  · exact raise_moves running rfl
  · refine .one ?_ rfl
    rw [station]
    exact .resetCommits generation

theorem proceed_moves (next : s.proceed c = some t) : CallMoves c s t := by
  unfold proceed at next
  split at next
  · cases next
    exact registerTask_moves ‹_›
  · rename_i ticket bounded station
    split at next <;> cases next
    exact .one (station ▸ .waited ticket bounded) rfl
  · rename_i station
    split at next
    · cases next
    cases next
    unfold joinHold
    split
    · exact raise_moves (by rw [station]; rfl) rfl
    · exact .one (station ▸ .joined) rfl
  · rename_i station
    cases next
    exact raise_moves (by rw [station]; rfl) rfl
  · rename_i holder station
    cases next
    exact .one (station ▸ .holdCommits holder) rfl
  · rename_i task cancelled station
    cases next
    have edge : (s.calls c).Moves s.estopGeneration (.returned (.bool true)) := by
      rw [station]
      exact .detaches task cancelled
    refine .one edge ?_
    unfold detachTask
    dsimp only
    split <;> rfl
  · rename_i failure station
    cases next
    exact .one (station ▸ .stopRecords failure) rfl
  · rename_i failure station
    cases next
    exact raise_moves (by rw [station]; rfl) rfl
  · rename_i station
    cases next
    exact .one (station ▸ .stopEnds) rfl
  · rename_i station
    cases next
    exact .one (station ▸ .stopExited) rfl
  · rename_i station
    cases next
    exact raise_moves (by rw [station]; rfl) rfl
  · cases next
    exact commitReset_moves ‹_›
  · rename_i station
    split at next
    · cases next
    cases next
    exact .one (station ▸ .closeHolds) rfl
  · cases next

theorem announce_moves {ticket} {wait bounded} (station : s.calls c = .announcing ticket wait bounded) :
    CallMoves c s (s.announce c ticket wait bounded emission) := by
  have edge : (s.calls c).Moves s.estopGeneration
      (if wait then .waiting ticket bounded else .returned (.ticket ticket)) := by
    rw [station]
    cases wait
    · exact .announced ticket false bounded
    · exact .waits ticket true bounded
  cases emission with
  | quiet | callbackFailed => exact .one edge rfl
  | escapes => exact raise_moves (by rw [station]; rfl) rfl

theorem timeout_moves (next : s.timeout c = some t) : CallMoves c s t := by
  unfold timeout at next
  split at next
  · rename_i station
    cases next
    exact raise_moves (by rw [station]; rfl) rfl
  · rename_i station
    cases next
    refine .one ?_ rfl
    rw [station]
    split
    · exact .closeExpires _
    · exact .closeHolds
  · cases next

theorem endClose_moves {failure portFailure} (station : s.calls c = .closing failure) :
    CallMoves c s (s.endClose c failure portFailure) := by
  unfold endClose
  cases failure with
  | some => exact raise_moves (by rw [station]; rfl) rfl
  | none =>
    cases portFailure with
    | some => exact raise_moves (by rw [station]; rfl) rfl
    | none => exact .one (station ▸ .closed) rfl

theorem watch_moves (next : step cfg s (.watch c clock) = some t) : CallMoves c s t := by
  obtain ⟨_, fresh, ⟨_, rfl⟩ | ⟨_, _, _, rfl⟩⟩ := watch_cases next
  · exact .inl rfl
  · exact .one (fresh ▸ .holds .watchDeadman) rfl

/-! ## Moves of the worker leave the calls alone -/

theorem dispatch_calls (clock : ℚ) (ticket : TicketId) (s : State α) : (s.dispatch clock ticket).calls = s.calls := by
  unfold dispatch
  split
  · rfl
  split
  · rfl
  dsimp only
  split
  · rfl
  split <;> rfl

theorem take_calls (next : step cfg s (.take clock) = some t) : t.calls = s.calls := by
  have drained : s.nextTicket.2.calls = s.calls := by
    rcases nextTicket_cases s with taken | ⟨_, _, _, _, _, taken⟩ | ⟨_, _, _, _, _, taken⟩ <;> rw [taken]
  obtain ⟨_, ⟨_, rfl⟩ | ⟨k, _, _, rfl⟩⟩ := take_cases next
  · exact drained
  · rw [dispatch_calls, drained]

theorem workerEmits_calls (next : s.workerEmits emission = some t) : t.calls = s.calls := by
  unfold workerEmits at next
  split at next <;> first | cases next; done | (obtain rfl := Option.some.inj next; cases emission <;> rfl)

theorem alarmOver_calls (next : s.alarmOver = some t) : t.calls = s.calls := by
  unfold alarmOver at next
  split at next
  · split at next <;> first | cases next; done | (obtain rfl := Option.some.inj next; rfl)
  · cases next

theorem watchOver_calls (next : s.watchOver = some t) : t.calls = s.calls := by
  unfold watchOver at next
  split at next
  · split at next <;> first | cases next; done | (obtain rfl := Option.some.inj next; rfl)
  · cases next

/-- **A move takes at most one call, its own, along one edge of its life.** -/
theorem calls_step (next : step cfg s l = some t) : t.calls = s.calls ∨ ∃ c, l.call? = some c ∧ CallMoves c s t := by
  cases l with
  | start c op =>
    simp only [step] at next
    split at next
    · rename_i enabled
      cases next
      exact .inr ⟨c, rfl, start_moves op enabled.1⟩
    · cases next
  | stopReplies c => exact .inr ⟨c, rfl, stopReplies_moves next⟩
  | proceed c => exact .inr ⟨c, rfl, proceed_moves next⟩
  | announce c =>
    simp only [step] at next
    split at next <;> cases next
    exact .inr ⟨c, rfl, announce_moves ‹_›⟩
  | timeout c => exact .inr ⟨c, rfl, timeout_moves next⟩
  | portCloses c =>
    simp only [step] at next
    split at next <;> cases next
    exact .inr ⟨c, rfl, endClose_moves ‹_›⟩
  | alarm c =>
    simp only [step] at next
    split at next
    · split at next <;> cases next
      exact .inr ⟨c, rfl, emergencyStop_moves ‹_›⟩
    · cases next
  | watch c => exact .inr ⟨c, rfl, watch_moves next⟩
  | take => exact .inl (take_calls next)
  | emit => exact .inl (workerEmits_calls next)
  | alarmOver => exact .inl (alarmOver_calls next)
  | watchOver => exact .inl (watchOver_calls next)
  | newEvent | setEvent =>
    cases next
    exact .inl rfl
  | release =>
    simp only [step] at next
    split at next <;> cases next <;> exact .inl rfl
  | execute | executeReplies | settle | record | finish =>
    simp only [step] at next
    split at next <;> cases next
    exact .inl rfl

theorem call_step (next : step cfg s l = some t) (c : CallId) : t.calls c = s.calls c ∨
      (l.call? = some c ∧ (s.calls c).Moves s.estopGeneration (t.calls c)) := by
  rcases calls_step next with same | ⟨d, mover, same | ⟨call, moved, edge⟩⟩
  · exact .inl (by rw [same])
  · exact .inl (by rw [same])
  · rw [moved]
    by_cases here : c = d
    · subst here
      exact .inr ⟨mover, by simpa using edge⟩
    · exact .inl (by simp [here])

theorem Holder.next_cases (holder : Holder) : (∃ value, holder.next = .returned value) ∨
      ∃ task cancelled, holder = .finishAutomaticWork task cancelled ∧ holder.next = .detaching task cancelled := by
  cases holder with
  | finishAutomaticWork task cancelled => exact .inr ⟨task, cancelled, rfl, rfl⟩
  | _ => exact .inl ⟨_, rfl⟩

theorem Call.Moves.used {before after : Call} (edge : before.Moves generation after) : after ≠ .unused := by
  cases edge with
  | holdCommits holder =>
    rcases holder.next_cases with ⟨_, ends⟩ | ⟨_, _, _, ends⟩ <;> simp [ends]
  | _ => simp

/-- A call begins in the first section of a public method, called or raised by the worker, or in
the watchdog's. -/
theorem call_begins {d} (next : step cfg s l = some t) (fresh : s.calls d = .unused) (begun : t.calls d ≠ .unused) :
    (∃ worker op, t = { s with worker := worker }.start cfg d op) ∨ t = s.expire d := by
  have mover : l.call? = some d := by
    rcases call_step next d with same | ⟨mover, _⟩
    · exact absurd (same.trans fresh) begun
    · exact mover
  cases l with
  | start c op =>
    cases mover
    simp only [step] at next
    split at next
    · exact .inl ⟨s.worker, op, (Option.some.inj next).symm⟩
    · cases next
  | alarm =>
    cases mover
    simp only [step, if_pos fresh] at next
    split at next
    · exact .inl ⟨_, .emergencyStop, (Option.some.inj next).symm⟩
    · cases next
  | watch =>
    cases mover
    obtain ⟨_, _, ⟨_, rfl⟩ | ⟨_, _, _, rfl⟩⟩ := watch_cases next
    · exact absurd fresh begun
    · exact .inr rfl
  | stopReplies | proceed | announce | timeout | portCloses =>
    cases mover
    simp [step, stopReplies, proceed, timeout, fresh] at next
  | _ => cases mover

theorem used_stays (next : step cfg s l = some t) (c : CallId) (used : s.calls c ≠ .unused) :
    t.calls c ≠ .unused := by
  rcases call_step next c with same | ⟨_, edge⟩
  · rwa [same]
  · exact edge.used

end EmbodiRun.Arbiter
