/-
# Io.Ledger -- what has happened to every submission

A callback is the driver call behind a submission: of a request, which the worker enters, or
of a preemptive stop, which its own thread enters.  The `Ledger` of a run records for every
callback who submitted it, how often it was entered and how it ended; the scheduler never
reads it.  `Truthful` compares it with the status of an answer.
-/
import EmbodiRun.Io.Calls
import EmbodiRun.Transition.History

namespace EmbodiRun.Io.Scheduler

open Function
open Transition

variable {cfg : Config} {s t : State} {l : Label} {ls : List Label}

/-! ## The ledger -/

inductive Callback where
  | serialized (r : RequestId)
  | preemptive (c : CallId)
  deriving DecidableEq

structure Ledger where
  submitter : Callback → Option CallId
  entered : Callback → Nat
  replies : Callback → List Reply

def Ledger.init : Ledger where
  submitter := fun _ => none
  entered := fun _ => 0
  replies := fun _ => []

def submits (s : State) (l : Label) (t : State) : Option (Callback × CallId) :=
  match l with
  | .start c _ _ => if t.created = s.created then none else some (.serialized s.created, c)
  | .proceed c =>
    if s.stopThreads c = .absent ∧ t.stopThreads c = .started then some (.preemptive c, c) else none
  | _ => none

def enters (s : State) (l : Label) : Option Callback :=
  match l, s.worker with
  | .call, .calling r => some (.serialized r)
  | .stopCalls c, _ => some (.preemptive c)
  | _, _ => none

def ends (s : State) (l : Label) : Option (Callback × Reply) :=
  match l, s.worker with
  | .replies reply, .inside r => some (.serialized r, reply)
  | .stopReplies c reply, _ => some (.preemptive c, reply)
  | _, _ => none

def note (s : State) (l : Label) (t : State) (h : Ledger) : Ledger where
  submitter cb := match submits s l t with
    | some (made, c) => if cb = made then some c else h.submitter cb
    | none => h.submitter cb
  entered cb := h.entered cb + if enters s l = some cb then 1 else 0
  replies cb := match ends s l with
    | some (ended, reply) => if cb = ended then h.replies cb ++ [reply] else h.replies cb
    | none => h.replies cb

/-- What an answer of that status says about the callback: that it was never entered, or that it was
entered once and returned, or raised. -/
def Truthful (status : IOStatus) (entered : Nat) (replies : List Reply) : Prop :=
  match status with
  | .rejected | .expired | .cancelled => entered = 0
  | .completed => entered = 1 ∧ ∃ value, replies = [.returned value]
  | .failed => entered = 1 ∧ ∃ error, replies = [.raised error]
  | .unknown => True

/-! ## What has happened to a request -/

def Outcome.trace : Outcome → Nat × List Reply
  | .expired | .cancelled => (0, [])
  | .replied reply => (1, [reply])

theorem outcome_truthful (outcome : Outcome) (operation : IOOperation) :
    Truthful (outcome.result operation).status outcome.trace.1 outcome.trace.2 := by
  rcases outcome with _ | _ | value | error
  · rfl
  · rfl
  · exact ⟨rfl, value, rfl⟩
  · exact ⟨rfl, error, rfl⟩

/-- What has happened to a request by its stage, with what the driver has seen of it. -/
def Sound (life : Life) (trace : Nat × List Reply) : Prop :=
  match life.stage with
  | .queued => trace = (0, []) ∧ life.request.result = none ∧ life.request.done = false
  | .taken | .calling => trace = (0, []) ∧ life.request.started = true ∧ life.request.done = false
  | .inside => trace = (1, []) ∧ life.request.started = true ∧ life.request.done = false
  | .leaving outcome =>
    trace = outcome.trace ∧ life.request.started = true ∧ life.request.done = false
  | .elsewhere =>
    trace.1 ≤ 1 ∧ (life.request.started = false → trace.1 = 0) ∧
      (life.request.done = true → life.request.result.isSome = true) ∧
      ∀ result, life.request.result = some result → Truthful result.status trace.1 trace.2

def Sight.after (sight : Sight) (trace : Nat × List Reply) : Nat × List Reply :=
  match sight with
  | .nothing => trace
  | .entered => (trace.1 + 1, trace.2)
  | .replied reply => (trace.1, trace.2 ++ [reply])

open Sight

/-- **Whatever happens to a request keeps its record sound.** -/
theorem sound_step {a b} {sight} {trace}
    (moved : Life.Step a sight b) (sound : Sound a trace) : Sound b (sight.after trace) := by
  cases moved with
  | dropped status quarantined kind =>
    obtain ⟨rfl, _, _⟩ := sound
    refine ⟨Nat.zero_le _, fun _ => rfl, fun _ => rfl, fun result found => ?_⟩
    cases found
    rcases kind with rfl | rfl
    · trivial
    · rfl
  | givenUp place =>
    rcases place with rfl | rfl
    · obtain ⟨rfl, unanswered, undone⟩ := sound
      refine ⟨Nat.zero_le _, fun _ => rfl, fun done => ?_, fun result found => ?_⟩
      · cases undone.symm.trans done
      · cases unanswered.symm.trans found
    · exact sound
  | detached | passed => exact sound
  | taken => exact ⟨sound.1, rfl, sound.2.2⟩
  | refused outcome kind =>
    obtain ⟨rfl, started⟩ := sound
    rcases kind with rfl | rfl <;> exact ⟨rfl, started⟩
  | entered | replied =>
    obtain ⟨rfl, started⟩ := sound
    exact ⟨rfl, started⟩
  | settled outcome =>
    obtain ⟨rfl, started, _⟩ := sound
    refine ⟨?_, fun unstarted => ?_, fun _ => rfl, fun result found => ?_⟩
    · rcases outcome with _ | _ | _
      · exact Nat.zero_le 1
      · exact Nat.zero_le 1
      · exact Nat.le_refl 1
    · cases started.symm.trans unstarted
    · cases found
      exact outcome_truthful outcome _

def StopThread.trace : StopThread → Nat × List Reply
  | .absent | .started => (0, [])
  | .inside => (1, [])
  | .left reply | .cleared reply | .over reply => (1, [reply])

/-! ## Who submitted what -/

def Ledger.trace (h : Ledger) (cb : Callback) : Nat × List Reply := (h.entered cb, h.replies cb)

def Callback.Station (c : CallId) : Callback → Call → Prop
  | .serialized r, call =>
    (∃ bounded, call = .waiting r bounded) ∨ call = .timedOut r ∨ (∃ result, call = .answered result) ∨
      ∃ failure, call = .failed failure
  | .preemptive d, call =>
    c = d ∧ ((∃ bounded, call = .stopping bounded) ∨ call = .stopTimedOut ∨ call = .stopRecording ∨
      ∃ result, call = .answered result)

/-- The callback that the station of `c` is about. -/
def Call.callback? (c : CallId) : Call → Option Callback
  | .waiting r _ | .timedOut r => some (.serialized r)
  | .stopping _ | .stopTimedOut | .stopRecording => some (.preemptive c)
  | _ => none

namespace State

def Made (s : State) : Callback → Prop
  | .serialized r => r < s.created
  | .preemptive c => s.stopThreads c ≠ .absent

def Settled (s : State) : Callback → Prop
  | .serialized r => s.stage r = .elsewhere
  | .preemptive c => ∃ reply, s.stopThreads c = .over reply

end State

structure Submitted (s : State) (h : Ledger) : Prop where
  all : ∀ cb, s.Made cb → ∃ c, h.submitter cb = some c
  made : ∀ cb c, h.submitter cb = some c → s.Made cb ∧ cb.Station c (s.calls c)
  owns : ∀ c cb, (s.calls c).callback? c = some cb → h.submitter cb = some c
  unique : ∀ c cb cb', h.submitter cb = some c → h.submitter cb' = some c → cb = cb'

inductive Submits (s t : State) (l : Label) : Callback → CallId → Prop
  | request (c : CallId) (bounded op) (clock : ℚ) (label : l = .start c op clock)
      (fresh : s.calls c = .unused) (created : t.created = s.created + 1)
      (station : t.calls c = .waiting s.created bounded) : Submits s t l (.serialized s.created) c
  | stop (c : CallId) (bounded) (label : l = .proceed c) (locking : s.calls c = .locking bounded)
      (fresh : s.stopThreads c = .absent)
      (threads : t.stopThreads = update s.stopThreads c .started)
      (station : t.calls c = .stopping bounded) : Submits s t l (.preemptive c) c

theorem created_le (next : step cfg s l = some t) : s.created ≤ t.created := by
  cases queue_move next with
  | admits =>
    omega
  | _ => omega

variable {cb : Callback} {c : CallId} {h : Ledger} {r : RequestId}

/-- **What `submits` finds** is a submission. -/
theorem submission (next : step cfg s l = some t) (found : submits s l t = some (cb, c)) : Submits s t l cb c := by
  cases l with
  | start d op clock =>
    simp only [submits] at found
    split at found
    · cases found
    rename_i grown
    obtain ⟨rfl, rfl⟩ := Prod.mk.inj (Option.some.inj found)
    have fresh : s.calls d = .unused := by
      simp only [step] at next
      split at next
      · rename_i guard
        exact guard.1
      · cases next
    cases queue_move next with
    | admits e bounded operation cancelEvent deadline label station requests queue front created =>
      obtain ⟨op', clock', label⟩ := label
      obtain ⟨rfl, _, _⟩ := Label.start.inj label
      exact .request d bounded op clock rfl fresh created station
    | stays _ _ _ created | discards _ _ _ _ _ _ created => exact absurd created grown
    | detaches _ _ _ label | withdraws _ _ _ label | ends label | skips _ _ label | takes _ _ label
    | checks _ _ label | enters _ label | replies _ _ label | settles _ _ _ label => cases label
  | proceed d =>
    simp only [submits] at found
    split at found
    · rename_i begun
      obtain ⟨rfl, rfl⟩ := Prod.mk.inj (Option.some.inj found)
      obtain ⟨fresh, started⟩ := begun
      cases thread_move next with
      | stays threads =>
        rw [threads, fresh] at started
        cases started
      | starts e label guard threads =>
        obtain rfl := Label.proceed.inj label
        obtain ⟨⟨bounded, locking⟩, free, open', idle, empty⟩ := guard
        refine .stop d bounded rfl locking fresh threads ?_
        simp only [step, State.proceed, locking, free, Option.isNone_none, if_pos] at next
        cases next
        simp [State.startPreemptive, open', idle, empty, State.setCall]
      | calls _ label | replies _ _ label | clears _ _ label | ends _ _ label => cases label
    · cases found
  | _ => cases found

theorem submits_of_created {op} {clock} (label : l = .start c op clock)
    (created : t.created = s.created + 1) : submits s l t = some (.serialized s.created, c) := by
  rw [label]
  simp only [submits]
  rw [if_neg (by omega)]

theorem submits_of_started (label : l = .proceed c) (fresh : s.stopThreads c = .absent)
    (started : t.stopThreads c = .started) : submits s l t = some (.preemptive c, c) := by
  rw [label]
  simp only [submits]
  rw [if_pos ⟨fresh, started⟩]

theorem note_submitter (found : (note s l t h).submitter cb = some c) :
    submits s l t = some (cb, c) ∨ h.submitter cb = some c := by
  simp only [note] at found
  split at found
  · rename_i made d new
    split at found
    · rename_i same
      subst same
      cases found
      exact .inl new
    · exact .inr found
  · exact .inr found

theorem note_submits (new : submits s l t = some (cb, c)) (h : Ledger) : (note s l t h).submitter cb = some c := by
  simp only [note, new]
  rw [if_pos trivial]

theorem Submits.fresh (new : Submits s t l cb c) : ¬ s.Made cb ∧ ∀ cb', ¬ Callback.Station c cb' (s.calls c) := by
  cases new with
  | request _ bounded op clock label fresh =>
    refine ⟨Nat.lt_irrefl _, fun cb' station => ?_⟩
    rw [fresh] at station
    cases cb' with
    | serialized => rcases station with ⟨_, h⟩ | h | ⟨_, h⟩ | ⟨_, h⟩ <;> cases h
    | preemptive => rcases station.2 with ⟨_, h⟩ | h | h | ⟨_, h⟩ <;> cases h
  | stop _ bounded label locking fresh =>
    refine ⟨fun made => made fresh, fun cb' station => ?_⟩
    rw [locking] at station
    cases cb' with
    | serialized => rcases station with ⟨_, h⟩ | h | ⟨_, h⟩ | ⟨_, h⟩ <;> cases h
    | preemptive => rcases station.2 with ⟨_, h⟩ | h | h | ⟨_, h⟩ <;> cases h

theorem Submitted.kept (inv : Submitted s h) (next : step cfg s l = some t)
    (found : h.submitter cb = some c) : (note s l t h).submitter cb = some c := by
  simp only [note]
  split
  · rename_i made d new
    rw [if_neg]
    · exact found
    · rintro rfl
      exact (submission next new).fresh.1 (inv.made cb c found).1
  · exact found

theorem made_stays (made : s.Made cb) (next : step cfg s l = some t) : t.Made cb := by
  cases cb with
  | serialized => exact Nat.lt_of_lt_of_le made (created_le next)
  | preemptive c =>
    have update {e : CallId} {thread : StopThread}
        (threads : t.stopThreads = update s.stopThreads e thread) (live : thread ≠ .absent) :
        t.Made (.preemptive c) := by
      intro absent
      rw [threads] at absent
      by_cases same : c = e
      · subst same
        rw [update_self] at absent
        exact live absent
      · rw [update_of_ne same] at absent
        exact made absent
    cases thread_move next with
    | stays threads => exact fun absent => made (threads ▸ absent)
    | starts e _ _ threads | calls e _ _ threads | replies e _ _ _ threads | clears e _ _ _ threads
    | ends e _ _ _ threads =>
      exact update threads nofun

theorem station_stays (station : cb.Station c (s.calls c)) (next : step cfg s l = some t) :
    cb.Station c (t.calls c) := by
  rcases call_step c next with same | moves
  · rw [same]
    exact station
  generalize t.calls c = after at moves ⊢
  generalize s.calls c = before at moves station
  cases cb with
  | serialized r =>
    rcases station with ⟨bounded, rfl⟩ | rfl | ⟨result, rfl⟩ | ⟨failure, rfl⟩
    · cases moves with
      | answers r bounded result => exact .inr (.inr (.inl ⟨result, rfl⟩))
      | asserts => exact .inr (.inr (.inr ⟨_, rfl⟩))
      | expires => exact .inr (.inl rfl)
      | refuses station | closed station => simp at station
    · cases moves with
      | withdraws | givesUp => exact .inr (.inr (.inl ⟨_, rfl⟩))
      | refuses station | closed station => simp at station
    · cases moves with
      | refuses station | closed station => simp at station
    · cases moves with
      | refuses station | closed station => simp at station
  | preemptive =>
    obtain ⟨same, station⟩ := station
    refine ⟨same, ?_⟩
    rcases station with ⟨bounded, rfl⟩ | rfl | rfl | ⟨result, rfl⟩
    · cases moves with
      | stops => exact .inr (.inr (.inr ⟨_, rfl⟩))
      | stopExpires => exact .inr (.inl rfl)
      | refuses station | closed station => simp at station
    · cases moves with
      | stopUnknown => exact .inr (.inr (.inl rfl))
      | refuses station | closed station => simp at station
    · cases moves with
      | stopRecords => exact .inr (.inr (.inr ⟨_, rfl⟩))
      | refuses station | closed station => simp at station
    · cases moves with
      | refuses station | closed station => simp at station

theorem Submitted.unstarted (inv : Submitted s h) {bounded}
    (locking : s.calls c = .locking bounded) : s.stopThreads c = .absent := by
  by_contra present
  obtain ⟨d, found⟩ := inv.all (.preemptive c) present
  obtain ⟨_, same, station⟩ := inv.made _ d found
  rw [same, locking] at station
  simp at station

theorem submits_of_moves (inv : Submitted s h) (next : step cfg s l = some t) {call}
    (calls : t.calls = update s.calls c call) (moves : Call.Moves s t c (s.calls c) call)
    (about : call.callback? c = some cb) :
    submits s l t = some (cb, c) ∨ (s.calls c).callback? c = some cb := by
  generalize before : s.calls c = station at moves ⊢
  cases moves with
  | waits =>
    cases about
    cases queue_move next with
    | admits d _ operation cancelEvent deadline label station' _ _ _ created =>
      obtain ⟨op, clock, label⟩ := label
      obtain rfl : d = c := by
        by_contra other
        rw [calls, update_of_ne other] at station'
        have owned := inv.owns d (.serialized s.created) (by rw [station']; rfl)
        exact absurd (inv.made _ d owned).1 (Nat.lt_irrefl _)
      exact .inl (submits_of_created label created)
    | _ => omega
  | starts bounded guard started =>
    cases about
    have fresh : s.stopThreads c = .absent := inv.unstarted before
    have label : l = .proceed c := by
      cases thread_move next with
      | starts d label _ threads =>
        by_cases same : c = d
        · exact same ▸ label
        · rw [threads, update_of_ne same, fresh] at started
          cases started
      | stays threads =>
        rw [threads, fresh] at started
        cases started
      | calls d _ station threads | replies d _ _ station threads | clears d _ _ station threads
      | ends d _ _ station threads =>
        by_cases same : c = d
        · subst same
          cases station.symm.trans fresh
        · rw [threads, update_of_ne same, fresh] at started
          cases started
    exact .inl (submits_of_started label fresh started)
  | expires => exact .inr about
  | stopExpires => exact .inr about
  | stopUnknown => exact .inr about
  | _ => cases about

theorem submitted_init : Submitted State.init Ledger.init where
  all cb made := by
    cases cb with
    | serialized r => exact absurd made (Nat.not_lt_zero r)
    | preemptive => exact absurd rfl made
  made _ _ found := nomatch found
  owns _ _ about := nomatch about
  unique _ _ _ found := nomatch found

/-- **A step keeps the record of who submitted what.** -/
theorem submitted_step (inv : Submitted s h) (next : step cfg s l = some t) : Submitted t (note s l t h) where
  all cb made := by
    by_cases old : s.Made cb
    · obtain ⟨c, found⟩ := inv.all cb old
      exact ⟨c, inv.kept next found⟩
    suffices new : ∃ c, submits s l t = some (cb, c) by
      obtain ⟨c, new⟩ := new
      exact ⟨c, note_submits new h⟩
    cases cb with
    | serialized r =>
      have unmade : s.created ≤ r := Nat.le_of_not_lt old
      have after : r < t.created := made
      cases queue_move next with
      | admits c _ _ _ _ label _ _ _ _ created =>
        obtain ⟨op, clock, label⟩ := label
        obtain rfl : r = s.created := by lia
        exact ⟨c, submits_of_created label created⟩
      | _ => lia
    | preemptive c =>
      have fresh : s.stopThreads c = .absent := not_not.mp old
      cases thread_move next with
      | starts d label _ threads =>
        obtain rfl : c = d := by
          by_contra other
          exact made (by rw [threads, update_of_ne other, fresh])
        exact ⟨c, submits_of_started label fresh (by rw [threads, update_self])⟩
      | stays threads => exact absurd (threads ▸ fresh) made
      | calls d _ station threads | replies d _ _ station threads | clears d _ _ station threads
      | ends d _ _ station threads =>
        refine absurd ?_ made
        have other : c ≠ d := by
          rintro rfl
          cases station.symm.trans fresh
        rw [threads, update_of_ne other, fresh]
  made cb c found := by
    rcases note_submitter found with new | old
    · cases submission next new with
      | request _ bounded op clock label fresh created station =>
        exact ⟨Nat.lt_of_lt_of_eq (Nat.lt_succ_self _) created.symm, .inl ⟨bounded, station⟩⟩
      | stop _ bounded label locking fresh threads station =>
        refine ⟨fun absent => ?_, rfl, .inl ⟨bounded, station⟩⟩
        rw [threads, update_self] at absent
        cases absent
    · obtain ⟨made, station⟩ := inv.made cb c old
      exact ⟨made_stays made next, station_stays station next⟩
  owns c cb about := by
    have kept (old : (s.calls c).callback? c = some cb) : (note s l t h).submitter cb = some c :=
      inv.kept next (inv.owns c cb old)
    cases call_move next with
    | stays calls => exact kept (calls ▸ about)
    | moves d call calls moves =>
      by_cases same : c = d
      · subst same
        rw [calls, update_self] at about
        rcases submits_of_moves inv next calls moves about with new | old
        · exact note_submits new h
        · exact kept old
      · rw [calls, update_of_ne same] at about
        exact kept about
  unique c cb cb' found found' := by
    rcases note_submitter found with new | old <;> rcases note_submitter found' with new' | old'
    · exact (Prod.mk.inj (Option.some.inj (new.symm.trans new'))).1
    · exact absurd (inv.made cb' c old').2 ((submission next new).fresh.2 cb')
    · exact absurd (inv.made cb c old).2 ((submission next new').fresh.2 cb)
    · exact inv.unique c cb cb' old old'

/-! ## What the driver has seen -/

theorem note_serialized (s : State) (l : Label) (t : State) (h : Ledger) (r : RequestId) :
    (note s l t h).trace (.serialized r) = (s.sight l r).after (h.trace (.serialized r)) := by
  unfold Ledger.trace note enters ends State.sight
  cases l <;> cases s.worker <;> try rfl
  · rename_i q
    by_cases same : q = r <;> simp [same, after]
  · rename_i reply q
    by_cases same : q = r
    · simp [same, after]
    · simp [same, Ne.symm same, after]

theorem sight_unheld (unheld : s.worker.request? ≠ some r) : s.sight l r = .nothing := by
  unfold State.sight
  split
  · rename_i q calling
    rw [if_neg]
    rintro rfl
    exact unheld (by rw [calling]; rfl)
  · rename_i reply q inside
    rw [if_neg]
    rintro rfl
    exact unheld (by rw [inside]; rfl)
  · rfl

theorem sound_note (placed : Placed s) (next : step cfg s l = some t) (made : r < s.created)
    (sound : Sound (s.life r) (h.trace (.serialized r))) :
    Sound (t.life r) ((note s l t h).trace (.serialized r)) := by
  rw [note_serialized]
  rcases life_step placed made next with ⟨same, nothing⟩ | moved
  · rw [same, nothing]
    exact sound
  · exact sound_step moved sound

/-- What the driver sees of the preemptive stop `c`. -/
def Label.sight (l : Label) (c : CallId) : Sight :=
  match l with
  | .stopCalls d => if d = c then .entered else .nothing
  | .stopReplies d reply => if d = c then .replied reply else .nothing
  | _ => .nothing

theorem note_preemptive (s : State) (l : Label) (t : State) (h : Ledger) (c : CallId) :
    (note s l t h).trace (.preemptive c) = (l.sight c).after (h.trace (.preemptive c)) := by
  unfold Ledger.trace note enters ends Label.sight
  cases l with
  | stopCalls d =>
    by_cases same : d = c <;> simp [same, after]
  | stopReplies d =>
    by_cases same : d = c
    · simp [same, after]
    · simp [same, Ne.symm same, after]
  | call => cases s.worker <;> simp [after]
  | replies => cases s.worker <;> simp [after]
  | _ => rfl

/-- **The life of a thread**: it moves as the driver sees it. -/
theorem thread_sight (inv : Submitted s h) (next : step cfg s l = some t) (c : CallId) :
    (t.stopThreads c).trace = (l.sight c).after (s.stopThreads c).trace := by
  have update {d : CallId} {thread : StopThread} (threads : t.stopThreads = update s.stopThreads d thread)
      (here : thread.trace = (l.sight d).after (s.stopThreads d).trace)
      (there : d ≠ c → l.sight c = .nothing) :
      (t.stopThreads c).trace = (l.sight c).after (s.stopThreads c).trace := by
    rw [threads]
    by_cases same : c = d
    · subst same
      rw [update_self, here]
    · rw [update_of_ne same, there (Ne.symm same)]
      rfl
  cases thread_move next with
  | stays threads =>
    cases l with
    | stopCalls =>
      simp only [step] at next
      split at next <;> cases next
      exact update rfl (by simp_all [Label.sight, after, StopThread.trace]) fun other => if_neg other
    | stopReplies =>
      simp only [step] at next
      split at next <;> cases next
      exact update rfl (by simp_all [Label.sight, after, StopThread.trace]) fun other => if_neg other
    | _ =>
      rw [threads]
      rfl
  | starts d label guard threads =>
    subst label
    obtain ⟨bounded, locking⟩ := guard.1
    exact update threads (by rw [inv.unstarted locking]; rfl) fun _ => rfl
  | calls d label station threads | replies d reply label station threads =>
    subst label
    refine update threads ?_ fun other => if_neg other
    rw [station]
    simp [Label.sight, after, StopThread.trace]
  | clears d reply label station threads | ends d reply label station threads =>
    subst label
    exact update threads (by rw [station]; rfl) fun _ => rfl

/-! ## Answers -/

structure Answered (s : State) (h : Ledger) : Prop where
  truthful : ∀ c result, s.calls c = .answered result → ∀ cb, h.submitter cb = some c →
    result.status = .unknown ∨ (s.Settled cb ∧ Truthful result.status (h.entered cb) (h.replies cb))
  submitted : ∀ c result, s.calls c = .answered result → result.operation ≠ .close →
    result.status = .completed ∨ result.status = .failed → ∃ cb, h.submitter cb = some c

structure LedgerInv (s : State) (h : Ledger) : Prop where
  placed : Placed s
  submitted : Submitted s h
  sound : ∀ r < s.created, Sound (s.life r) (h.trace (.serialized r))
  unmade : ∀ r, s.created ≤ r → h.trace (.serialized r) = (0, [])
  threads : ∀ c, h.trace (.preemptive c) = (s.stopThreads c).trace
  answered : Answered s h

variable {life : Life} {trace : Nat × List Reply}

theorem stage_of_done (sound : Sound life trace) (done : life.request.done = true) : life.stage = .elsewhere := by
  unfold Sound at sound
  split at sound
  · cases done.symm.trans sound.2.2
  · cases done.symm.trans sound.2.2
  · cases done.symm.trans sound.2.2
  · cases done.symm.trans sound.2.2
  · cases done.symm.trans sound.2.2
  · assumption

theorem elsewhere_stays (placed : Placed s) (made : r < s.created) (nowhere : s.stage r = .elsewhere)
    (next : step cfg s l = some t) : t.stage r = .elsewhere ∧ s.sight l r = .nothing := by
  rcases life_step placed made next with ⟨same, nothing⟩ | moved
  · exact ⟨(congrArg Life.stage same).trans nowhere, nothing⟩
  · have before : (s.life r).stage = .elsewhere := nowhere
    have after : (t.life r).stage = .elsewhere ∧ s.sight l r = .nothing := by
      generalize s.life r = a at moved before
      generalize t.life r = b at moved
      generalize s.sight l r = sight at moved
      cases moved with
      | givenUp => exact ⟨rfl, rfl⟩
      | detached => exact ⟨before, rfl⟩
      | dropped | taken | passed | refused | entered | replied | settled => cases before
    exact after

theorem threads_note (inv : LedgerInv s h) (next : step cfg s l = some t) (c : CallId) :
    (note s l t h).trace (.preemptive c) = (t.stopThreads c).trace := by
  rw [note_preemptive, thread_sight inv.submitted next, inv.threads]

theorem settled_stays (inv : LedgerInv s h) (made : s.Made cb) (settled : s.Settled cb)
    (next : step cfg s l = some t) : t.Settled cb ∧ (note s l t h).trace cb = h.trace cb := by
  cases cb with
  | serialized =>
    obtain ⟨after, nothing⟩ := elsewhere_stays inv.placed made settled next
    exact ⟨after, by rw [note_serialized, nothing]; rfl⟩
  | preemptive c =>
    obtain ⟨reply, finished⟩ := settled
    have same : t.stopThreads c = s.stopThreads c := by
      have update {d : CallId} {thread : StopThread} (threads : t.stopThreads = update s.stopThreads d thread)
          (other : s.stopThreads d ≠ .over reply) : t.stopThreads c = s.stopThreads c := by
        rw [threads, update_of_ne]
        rintro rfl
        exact other finished
      cases thread_move next with
      | stays threads => rw [threads]
      | starts d _ guard threads =>
        obtain ⟨bounded, locking⟩ := guard.1
        exact update threads (by rw [inv.submitted.unstarted locking]; nofun)
      | calls d _ station threads | replies d _ _ station threads | clears d _ _ station threads
      | ends d _ _ station threads =>
        exact update threads (by rw [station]; nofun)
    refine ⟨⟨reply, same.trans finished⟩, ?_⟩
    have after := threads_note inv next c
    rw [after, same, inv.threads]

theorem sound_elsewhere (sound : Sound life trace) (nowhere : life.stage = .elsewhere) :
    trace.1 ≤ 1 ∧ (life.request.started = false → trace.1 = 0) ∧
      (life.request.done = true → life.request.result.isSome = true) ∧
      ∀ result, life.request.result = some result → Truthful result.status trace.1 trace.2 := by
  unfold Sound at sound
  rw [nowhere] at sound
  exact sound

theorem unseen_of_unstarted (sound : Sound life trace) (unstarted : life.request.started = false) : trace.1 = 0 := by
  unfold Sound at sound
  split at sound
  · exact congrArg Prod.fst sound.1
  · exact congrArg Prod.fst sound.1
  · exact congrArg Prod.fst sound.1
  · cases unstarted.symm.trans sound.2.1
  · cases unstarted.symm.trans sound.2.1
  · exact sound.2.1 unstarted

theorem withdrawn_settled (inv : LedgerInv s h) (made : r < s.created)
    (unstarted : (s.requests r).started = false) (queue : t.queue = s.queue.erase r)
    (worker : t.worker = s.worker) :
    t.stage r = .elsewhere ∧ ((note s l t h).trace (.serialized r)).1 = 0 := by
  have unheld : s.worker.request? ≠ some r := fun held => by
    cases unstarted.symm.trans (inv.placed.held r held).2.2
  refine ⟨stage_elsewhere (worker ▸ unheld) ?_, ?_⟩
  · rw [queue]
    exact fun queued => (inv.placed.nodup.mem_erase_iff.mp queued).1 rfl
  · rw [note_serialized, sight_unheld unheld]
    exact unseen_of_unstarted (inv.sound r made) unstarted

/-- **An answer is true** when it is given. -/
theorem answer_truthful (inv : LedgerInv s h) (next : step cfg s l = some t) {result}
    (moves : Call.Moves s t c (s.calls c) (.answered result)) (found : h.submitter cb = some c) :
    result.status = .unknown ∨ (t.Settled cb ∧
      Truthful result.status ((note s l t h).trace cb).1 ((note s l t h).trace cb).2) := by
  obtain ⟨made, station⟩ := inv.submitted.made cb c found
  have settled (settled : s.Settled cb) (truthful : Truthful result.status (h.trace cb).1 (h.trace cb).2) :
      t.Settled cb ∧ Truthful result.status ((note s l t h).trace cb).1 ((note s l t h).trace cb).2 := by
    obtain ⟨after, same⟩ := settled_stays inv made settled next
    exact ⟨after, same ▸ truthful⟩
  have about (other : Callback) (here : (s.calls c).callback? c = some other) : cb = other :=
    inv.submitted.unique c cb other found (inv.submitted.owns c other here)
  generalize before : s.calls c = call at moves station
  rw [before] at about
  generalize answer : Call.answered result = after at moves
  cases moves with
  | answers r bounded given done known =>
    obtain rfl := Call.answered.inj answer
    obtain rfl := about _ rfl
    have sound := inv.sound r made
    have nowhere : s.stage r = .elsewhere := stage_of_done sound done
    exact .inr (settled nowhere ((sound_elsewhere sound nowhere).2.2.2 result known))
  | withdraws r status unstarted kind queue worker =>
    obtain rfl := Call.answered.inj answer
    obtain rfl := about _ rfl
    rcases kind with rfl | rfl
    · exact .inr (withdrawn_settled inv made unstarted queue worker)
    · exact .inl rfl
  | stops bounded reply quarantined finished =>
    obtain rfl := Call.answered.inj answer
    obtain rfl := about _ rfl
    refine .inr (settled ⟨reply, finished⟩ ?_)
    rw [inv.threads, finished]
    cases reply with
    | returned value => exact ⟨rfl, value, rfl⟩
    | raised error => exact ⟨rfl, error, rfl⟩
  | givesUp | stopRecords =>
    obtain rfl := Call.answered.inj answer
    exact .inl rfl
  | refuses from' | closed from' =>
    cases cb with
    | serialized r | preemptive d => rcases from' with rfl | ⟨_, rfl⟩ <;> simp [Callback.Station] at station
  | raises | waits | locks | recovers | closes | asserts | expires | starts | stopExpires
  | stopUnknown => cases answer

theorem answered_step (inv : LedgerInv s h) (next : step cfg s l = some t) : Answered t (note s l t h) where
  truthful c result after cb found := by
    rcases note_submitter found with new | old
    · cases submission next new with
      | request _ bounded op clock label fresh created station
      | stop _ bounded label locking fresh threads station =>
        cases station.symm.trans after
    rcases call_step c next with same | moves
    · rcases inv.answered.truthful c result (same ▸ after) cb old with unknown | ⟨settled, truthful⟩
      · exact .inl unknown
      · obtain ⟨stays, same⟩ := settled_stays inv (inv.submitted.made cb c old).1 settled next
        obtain ⟨entered, replies⟩ := Prod.mk.inj same
        exact .inr ⟨stays, by rw [entered, replies]; exact truthful⟩
    · rw [after] at moves
      exact answer_truthful inv next moves old
  submitted c result after operation status := by
    suffices known : ∃ cb, h.submitter cb = some c by
      obtain ⟨cb, found⟩ := known
      exact ⟨cb, inv.submitted.kept next found⟩
    rcases call_step c next with same | moves
    · exact inv.answered.submitted c result (same ▸ after) operation status
    rw [after] at moves
    have owned (cb : Callback) (here : (s.calls c).callback? c = some cb) :
        ∃ cb, h.submitter cb = some c := ⟨cb, inv.submitted.owns c cb here⟩
    generalize s.calls c = call at moves owned
    generalize answer : Call.answered result = after at moves
    cases moves with
    | answers | withdraws | givesUp => exact owned _ rfl
    | stops | stopRecords => exact owned _ rfl
    | refuses from' operation' status' quarantined kind =>
      obtain rfl := Call.answered.inj answer
      rcases kind with rfl | rfl | rfl <;> simp [immediate] at status
    | closed =>
      obtain rfl := Call.answered.inj answer
      exact absurd rfl operation
    | raises | waits | locks | recovers | closes | asserts | expires | starts | stopExpires
    | stopUnknown => cases answer

theorem ledgerInv_init : LedgerInv State.init Ledger.init where
  placed := placed_init
  submitted := submitted_init
  sound r made := absurd made (Nat.not_lt_zero r)
  unmade _ _ := rfl
  threads _ := rfl
  answered := ⟨fun _ _ answered => (nomatch answered), fun _ _ answered => (nomatch answered)⟩

theorem sound_made (inv : LedgerInv s h) (next : step cfg s l = some t) (unmade : s.created ≤ r)
    (made : r < t.created) (unseen : h.trace (.serialized r) = (0, [])) :
    Sound (t.life r) (h.trace (.serialized r)) := by
  cases queue_move next with
  | admits c bounded operation cancelEvent deadline label station requests queue =>
    obtain rfl : r = s.created := by lia
    have queued : s.created ∈ t.queue := by rcases queue with queue | queue <;> simp [queue]
    rw [State.life, stage_of_queued (placed_step inv.placed next) queued, requests, update_self]
    exact ⟨unseen, rfl, rfl⟩
  | _ => lia

/-- **Every step keeps the ledger in order.** -/
theorem ledger_step (inv : LedgerInv s h) (next : step cfg s l = some t) : LedgerInv t (note s l t h) where
  placed := placed_step inv.placed next
  submitted := submitted_step inv.submitted next
  sound r made := by
    by_cases old : r < s.created
    · exact sound_note inv.placed next old (inv.sound r old)
    · have unmade : s.created ≤ r := Nat.le_of_not_lt old
      have unheld : s.worker.request? ≠ some r := fun held => old (inv.placed.held r held).1
      rw [note_serialized, sight_unheld unheld]
      exact sound_made inv next unmade made (inv.unmade r unmade)
  unmade r unmade := by
    have before : s.created ≤ r := Nat.le_trans (created_le next) unmade
    have unheld : s.worker.request? ≠ some r := fun held =>
      Nat.not_lt.mpr before (inv.placed.held r held).1
    rw [note_serialized, sight_unheld unheld]
    exact inv.unmade r before
  threads := threads_note inv next
  answered := answered_step inv next

end EmbodiRun.Io.Scheduler
