/-
# Xlerobot.Evidence -- what the supervisor of a collection publishes of its stops

The status is published piece by piece, by the connect, the requests, the control loop and the
clean-ups.  Beside the thread there is what it publishes, and what the last `remote.stop` said.

* `truthful_iff`: **every status of a run is truthful exactly if its steps keep the evidence**.
-/
import EmbodiRun.Xlerobot.Collection

namespace EmbodiRun.Xlerobot.Evidence

open Transition Collection Supervisor

/-- What else the calls of a move say. -/
structure Told where
  /-- `result.get("stop_confirmed") is True`. -/
  confirmed : Bool := false
  /-- The control cycle came to publish that the remote is armed. -/
  published : Bool := false

/-- What `status()` reports. -/
structure Published where
  stopConfirmed : Option Bool := none
  armed : Bool := false
  recording : Bool := false

structure State where
  thread : Supervisor := {}
  status : Published := {}
  /-- What the last `remote.stop` confirmed. -/
  lastStop : Option Bool := none

/-- The calls of `RemoteRobot`: `connect` and `stop` clear `armed`, `arm` sets it, and `read` may clear
it. -/
def heard (s : Supervisor) (a : Answer) : Answer :=
  { a with armed := match s.station with
    | .connecting | .stopping _ => false
    | .arming _ => a.armed
    | .aligning _ => s.armed
    | _ => s.armed && a.armed }

/-- What `remote.stop` comes to. -/
def stopResult (a : Answer) (told : Told) : Bool := a.outcome = .returned && told.confirmed

/-- `_safe_stop` publishes this, and nothing of a stop that raises what is no `Exception`. -/
def publishStop (s : Supervisor) (a : Answer) (told : Told) (p : Published) : Published :=
  if s.live then
    { p with
      armed := false
      stopConfirmed := if a.outcome = .escapes then p.stopConfirmed else some (stopResult a told) }
  else p

def publish (s : Supervisor) (a : Answer) (told : Told) (p : Published) : Published :=
  match s.station with
  | .connecting => match a.outcome with
    | .returned => { stopConfirmed := some true, armed := false, recording := false }
    | .exception => { p with armed := false }
    | .escapes => p
  | .aligning _ =>
    if s.shutdown = false ∧ a.outcome = .returned ∧ a.again = false then { p with armed := true } else p
  | .starting _ => if a.outcome = .returned then { p with armed := true, recording := true } else p
  | .finishing _ => if s.recorder.isSome ∧ a.outcome = .returned then { p with recording := false } else p
  | .cycling => if s.armed ∧ (a.outcome = .returned ∨ told.published) then { p with armed := true } else p
  | .interrupting _ => if s.recorder.isSome then { p with recording := false } else p
  | .stopping w =>
    let p := publishStop s a told p
    if s.live ∧ a.outcome = .escapes then p
    else match w with
      | .command _ => { p with armed := false, recording := false }
      | .fault | .final => p
  | .closing _ =>
    if s.connected = false ∨ a.outcome = .returned then { p with armed := false, recording := false } else p
  | _ => p

/-- The thread calls `remote.stop`. -/
def stops (s : Supervisor) : Bool :=
  match s.station with
  | .stopping _ => s.live
  | _ => false

def step (s : State) : Label × Told → Option State
  | (.thread a, told) =>
    (Collection.step s.thread (.thread (heard s.thread a))).map fun t =>
      { thread := t
        status := publish s.thread (heard s.thread a) told s.status
        lastStop := if stops s.thread then some (stopResult a told) else s.lastStop }
  | (l, _) => (Collection.step s.thread l).map ({ s with thread := · })

/-- No request is handled, and nothing is cleaned up. -/
def idle : Station → Bool
  | .top | .connecting | .polling | .cycling | .ended => true
  | _ => false

structure Truthful (s : State) : Prop where
  stop : s.lastStop = some false → s.status.stopConfirmed = some false
  armed : idle s.thread.station = true → s.thread.connected = true → s.thread.armed = true → s.status.armed = true
  recording : idle s.thread.station = true → s.thread.recorder.isSome = true → s.status.recording = true

/-- No evidence is lost: while the last stop is not confirmed the thread does not connect, and a stop
that raises what is no `Exception` comes after a status that is not confirmed. -/
def Keeps (s : State) : Label × Told → Prop
  | (.thread a, _) => match s.thread.station with
    | .connecting => a.outcome = .returned → s.lastStop ≠ some false
    | .stopping _ => s.thread.live = true → a.outcome = .escapes → s.status.stopConfirmed = some false
    | _ => True
  | _ => True

variable {s t : State} {l : Label × Told}

/-- What is armed or recording is published. -/
def Shown (s : Supervisor) (p : Published) : Prop :=
  (s.connected = true → s.armed = true → p.armed = true) ∧ (s.recorder.isSome = true → p.recording = true)

/-- What is so of the status where the thread is. -/
def At (s : Supervisor) (p : Published) : Station → Prop
  | .top => Shown s p ∧ (s.connected = false → s.recorder = none)
  | .connecting => s.recorder = none ∧ s.connected = false
  | .polling | .cycling | .handling _ | .finishing _ => Shown s p ∧ s.connected = true
  | .reading _ | .arming _ | .aligning _ | .starting _ => s.recorder = none ∧ s.connected = true
  | .interrupting _ => s.recorder.isSome = true → s.connected = true → s.armed = true → p.armed = true
  | .stopping _ => s.recorder = none
  | .closing _ | .draining => s.recorder = none ∧ (s.connected = true → s.armed = false)
  | .ended => s.recorder = none ∧ (s.connected = true → s.armed = true → p.armed = true)

/-- A clean-up begins, and no recording is active, or what is armed is published. -/
theorem clean_shown {s : Supervisor} {p : Published} (w : Cleanup)
    (shown : s.recorder.isSome = true → s.connected = true → s.armed = true → p.armed = true) :
    At (s.clean w) p (s.clean w).station := shown

theorem vacant {s : Supervisor} {P : Prop} (inactive : s.recorder = none) : s.recorder.isSome = true → P := by
  rw [inactive]
  exact nofun

theorem top_shown {s} {p} (shown : Shown s p) (connected : s.connected = true) :
    At s p .top := ⟨shown, fun gone => nomatch gone.symm.trans connected⟩

theorem handleRequest_shown {s : Supervisor} {p : Published} (r : Request) (shown : Shown s p)
    (connected : s.connected = true) : At (s.handleRequest r) p (s.handleRequest r).station := by
  have replied : At (s.reply r) p .top := top_shown shown connected
  have goes : At { s with station := .finishing r } p (.finishing r) := ⟨shown, connected⟩
  unfold handleRequest
  split
  · exact replied
  · split
    · split
      · exact replied
      · split
        · exact replied
        · rename_i inactive
          have inactive : s.recorder = none := by simpa using inactive
          cases s.armed <;> exact ⟨inactive, connected⟩
    · split
      · exact goes
      · exact replied
    · split
      · exact goes
      · exact replied
    · exact clean_shown _ fun _ => shown.1
    · exact replied

theorem align_shown {s : Supervisor} {a : Answer} {r : Request} (p : Published) (inactive : s.recorder = none)
    (connected : s.connected = true) (station : s.station = .aligning r) :
    At (s.align r a) p (s.align r a).station := by
  unfold align
  split
  · exact clean_shown _ (vacant inactive)
  · cases a.outcome <;> dsimp only
    · split
      · show At _ p s.station
        rw [station]
        exact ⟨inactive, connected⟩
      · exact ⟨inactive, connected⟩
    · exact clean_shown _ (vacant inactive)
    · exact clean_shown _ (vacant inactive)

/-- What `_safe_stop` leaves is not armed. -/
theorem safeStop_shown {s : Supervisor} {a : Answer} (p : Published) (w : Cleanup) (inactive : s.recorder = none)
    (cleared : a.armed = false) : At (s.safeStop a w) p (s.safeStop a w).station := by
  have after {t : Supervisor} (inactive : t.recorder = none) (still : t.connected = true → t.armed = false) :
      At (t.afterStop w) p (t.afterStop w).station := by
    cases w with
    | command =>
      refine ⟨⟨fun here armed => ?_, vacant inactive⟩, fun _ => inactive⟩
      cases (still here).symm.trans armed
    | fault | final => exact ⟨inactive, still⟩
  unfold safeStop
  split
  · dsimp only
    split
    · cases w with
      | command | fault => exact vacant inactive
      | final => exact ⟨inactive, fun _ armed => nomatch cleared.symm.trans armed⟩
    · exact after inactive fun _ => cleared
  · rename_i dead
    refine after inactive fun here => ?_
    simp only [live, here, Bool.true_and, Bool.or_eq_true, not_or, Bool.not_eq_true] at dead
    exact dead.1

theorem closeConnections_shown {s : Supervisor} {a : Answer} (p : Published) (last : Bool)
    (inactive : s.recorder = none) (still : s.connected = true → s.armed = false) :
    At (s.closeConnections a last) p (s.closeConnections a last).station := by
  have quiet : s.connected = true → s.armed = true → p.armed = true :=
    fun here armed => nomatch (still here).symm.trans armed
  unfold closeConnections
  split
  · split
    · cases last with
      | true => exact ⟨inactive, nofun⟩
      | false => exact ⟨⟨nofun, vacant inactive⟩, fun _ => inactive⟩
    · cases last with
      | true => exact ⟨inactive, quiet⟩
      | false => exact vacant inactive
  · cases last with
    | true => exact ⟨inactive, still⟩
    | false => exact ⟨⟨quiet, vacant inactive⟩, fun _ => inactive⟩

/-- A move of the thread publishes what it arms and records. -/
theorem at_advance {s : Supervisor} (a : Answer) (told : Told) {p : Published} (here : At s p s.station) :
    At (s.advance (heard s a)) (publish s (heard s a) told p) (s.advance (heard s a)).station := by
  unfold advance publish heard
  cases station : s.station with
  | top =>
    rw [station] at here
    dsimp only
    split
    · exact clean_shown _ fun _ => here.1.1
    · split
      · rename_i connected
        exact ⟨here.1, connected⟩
      · rename_i gone
        have gone : s.connected = false := by simpa using gone
        exact ⟨here.2 gone, gone⟩
  | connecting =>
    rw [station] at here
    cases a.outcome with simp only [connectOnce]
    | returned => exact ⟨⟨nofun, vacant here.1⟩, rfl⟩
    | exception => exact ⟨⟨fun c => (nomatch here.2.symm.trans c), vacant here.1⟩, fun _ => here.1⟩
    | escapes => exact clean_shown _ (vacant here.1)
  | polling =>
    rw [station] at here
    simp only [nextRequest]
    split <;> exact here
  | handling r =>
    rw [station] at here
    exact handleRequest_shown r here.1 here.2
  | reading =>
    rw [station] at here
    cases a.outcome <;> simp only [readOrigins]
    · exact here
    · exact clean_shown _ (vacant here.1)
    · exact clean_shown _ (vacant here.1)
  | arming =>
    rw [station] at here
    cases a.outcome <;> simp only [arm]
    · exact here
    · exact clean_shown _ (vacant here.1)
    · exact clean_shown _ (vacant here.1)
  | aligning =>
    rw [station] at here
    exact align_shown _ here.1 here.2 station
  | starting =>
    rw [station] at here
    cases a.outcome <;> simp only [beginEpisode]
    · exact top_shown ⟨fun _ _ => rfl, fun _ => rfl⟩ here.2
    · exact clean_shown _ (vacant here.1)
    · exact clean_shown _ (vacant here.1)
  | finishing =>
    rw [station] at here
    cases active : s.recorder with
    | none =>
      simp only [finishEpisode, active]
      exact clean_shown _ fun _ => here.1.1
    | some =>
      cases a.outcome <;> simp only [finishEpisode, active]
      · exact top_shown ⟨here.1.1, nofun⟩ here.2
      · exact clean_shown _ fun _ => here.1.1
      · exact clean_shown _ fun _ => here.1.1
  | cycling =>
    rw [station] at here
    have kept (P : Prop) [Decidable P] :
        Shown { s with armed := s.armed && a.armed } (if P then { p with armed := true } else p) := by
      refine ⟨fun connected armed => ?_, fun active => ?_⟩
      · split
        · rfl
        · exact here.1.1 connected ((Bool.and_eq_true _ _).mp armed).1
      · split <;> exact here.1.2 active
    cases a.outcome <;> simp only [controlCycle]
    · exact top_shown (kept _) here.2
    · exact clean_shown _ fun _ => (kept _).1
    · exact clean_shown _ fun _ => (kept _).1
  | interrupting w =>
    rw [station] at here
    cases active : s.recorder with
    | none =>
      simp only [interruptRecording, active]
      rfl
    | some =>
      have shown := here (by rw [active]; rfl)
      cases a.outcome <;> simp only [interruptRecording, active]
      · rfl
      · cases w with
        | command => exact nofun
        | fault => rfl
        | final => exact ⟨rfl, shown⟩
      · cases w with
        | command | fault => exact nofun
        | final => exact ⟨rfl, shown⟩
  | stopping w =>
    rw [station] at here
    exact safeStop_shown _ w here rfl
  | closing last =>
    rw [station] at here
    exact closeConnections_shown _ last here.1 here.2
  | draining =>
    rw [station] at here
    simp only [drain]
    split
    · exact ⟨here.1, fun c armed => nomatch (here.2 c).symm.trans armed⟩
    · show At _ p s.station
      rw [station]
      exact here
  | ended =>
    show At s p s.station
    rw [station] at here ⊢
    exact here

theorem at_same {s t : Supervisor} {p : Published} (here : At s p s.station) (station : t.station = s.station)
    (recorder : t.recorder = s.recorder) (connected : t.connected = s.connected) (armed : t.armed = s.armed) :
    At t p t.station := by
  rw [station]
  cases at_ : s.station <;> rw [at_] at here <;> simpa only [At, Shown, recorder, connected, armed] using here

theorem publish_stopConfirmed (s : Supervisor) (a : Answer) (told : Told) (p : Published) :
    (publish s a told p).stopConfirmed = match s.station with
      | .connecting => if a.outcome = .returned then some true else p.stopConfirmed
      | .stopping _ =>
        if s.live = true ∧ a.outcome ≠ .escapes then some (stopResult a told) else p.stopConfirmed
      | _ => p.stopConfirmed := by
  unfold publish
  cases s.station with
  | connecting => cases a.outcome <;> rfl
  | stopping w =>
    cases live : s.live <;> cases outcome : a.outcome <;> cases w <;> simp [publishStop, live, outcome]
  | _ => dsimp only <;> split <;> rfl

/-- What holds along a run that keeps the evidence. -/
def Inv (s : State) : Prop :=
  At s.thread s.status s.thread.station ∧ (s.lastStop = some false → s.status.stopConfirmed = some false)

theorem Inv.truthful (inv : Inv s) : Truthful s := by
  obtain ⟨here, stop⟩ := inv
  refine ⟨stop, fun calm connected armed => ?_, fun calm active => ?_⟩ <;>
    cases station : s.thread.station <;> rw [station] at here calm <;> simp only [idle, reduceCtorEq] at calm
  · exact here.1.1 connected armed
  · cases here.2.symm.trans connected
  · exact here.1.1 connected armed
  · exact here.1.1 connected armed
  · exact here.2 connected armed
  · exact here.1.2 active
  · exact vacant here.1 active
  · exact here.1.2 active
  · exact here.1.2 active
  · exact vacant here.1 active

theorem keeps_iff {a : Answer} {told : Told}
    (evidence : s.lastStop = some false → s.status.stopConfirmed = some false) :
    ((if stops s.thread then some (stopResult a told) else s.lastStop) = some false →
      (publish s.thread (heard s.thread a) told s.status).stopConfirmed = some false) ↔
    Keeps s (.thread a, told) := by
  have outcome : (heard s.thread a).outcome = a.outcome := rfl
  have result : stopResult (heard s.thread a) told = stopResult a told := rfl
  rw [publish_stopConfirmed, outcome, result]
  unfold stops Keeps
  cases s.thread.station with
  | connecting =>
    cases outcome : a.outcome with
    | returned => simp [outcome]
    | exception | escapes => simpa [outcome] using evidence
  | stopping =>
    cases s.thread.live with
    | false => simpa using evidence
    | true => cases outcome : a.outcome <;> simp [stopResult, outcome]
  | _ => simpa using evidence

theorem inv_init : Inv {} := ⟨⟨rfl, nofun⟩, nofun⟩

/-- A step of the operator, or of the program around the thread. -/
theorem inv_calm (inv : Inv s) (calm : ∀ a, l.1 ≠ .thread a) (next : step s l = some t) : Inv t := by
  obtain ⟨l, told⟩ := l
  cases l with obtain ⟨u, stepped, rfl⟩ := Option.map_eq_some_iff.mp next
  | thread a => exact absurd rfl (calm a)
  | start =>
    obtain ⟨ended, same⟩ := Option.ite_none_right_eq_some.mp stepped
    cases same
    obtain ⟨here, stop⟩ := inv
    rw [ended] at here
    exact ⟨⟨⟨here.2, vacant here.1⟩, fun _ => here.1⟩, stop⟩
  | shutdown =>
    obtain ⟨-, same⟩ := Option.ite_none_left_eq_some.mp stepped
    cases same
    exact ⟨at_same inv.1 rfl rfl rfl rfl, inv.2⟩
  | check =>
    obtain ⟨-, checked⟩ := Option.ite_none_left_eq_some.mp stepped
    obtain ⟨-, same⟩ := Option.ite_none_left_eq_some.mp checked
    cases same
    exact ⟨at_same inv.1 rfl rfl rfl rfl, inv.2⟩
  | make | put =>
    obtain ⟨_, -, rfl⟩ := Option.map_eq_some_iff.mp stepped
    exact ⟨at_same inv.1 rfl rfl rfl rfl, inv.2⟩

theorem thread_step {a : Answer} {told : Told} (next : step s (.thread a, told) = some t) :
    t = { thread := s.thread.advance (heard s.thread a)
          status := publish s.thread (heard s.thread a) told s.status
          lastStop := if stops s.thread then some (stopResult a told) else s.lastStop } := by
  obtain ⟨u, stepped, rfl⟩ := Option.map_eq_some_iff.mp next
  obtain ⟨-, same⟩ := Option.ite_none_left_eq_some.mp stepped
  cases same
  rfl

/-- Every status of a run is truthful exactly if its steps keep the evidence. -/
theorem truthful_iff {labels : List (Label × Told)} {u : State} (ran : run step {} labels = some u) :
    (∀ before after u, labels = before ++ after → run step {} before = some u → Truthful u) ↔
      Along step Keeps {} labels := by
  refine @along_iff_prefixes_of _ _ step Keeps Inv Truthful (fun _ => Inv.truthful) (fun s l t keeps inv next => ?_)
    (fun s l t inv next truthful => ?_) _ _ _ inv_init ran
  · obtain ⟨_ | _ | _ | _ | _ | a, told⟩ := l
    case thread =>
      cases thread_step next
      exact ⟨at_advance a told inv.1, (keeps_iff inv.2).mpr keeps⟩
    all_goals exact inv_calm inv (by simp) next
  · obtain ⟨_ | _ | _ | _ | _ | a, told⟩ := l
    case thread =>
      cases thread_step next
      exact (keeps_iff inv.2).mp truthful.stop
    all_goals trivial

/-- The thread fails, its stop is not answered, and it connects again. -/
def reconnecting : List (Label × Told) :=
  let failing : List Label := [.thread {}, .thread {}, .thread { outcome := .exception }, .thread {},
    .thread { outcome := .exception }, .thread {}, .thread {}, .thread {}]
  (asking ++ beginning ++ failing).map (·, {})

/-- A stop that raised is reported as confirmed once there is a connection again. -/
theorem confirmed_again : ∃ u, run step {} reconnecting = some u ∧ u.lastStop = some false ∧
    u.status.stopConfirmed = some true := ⟨_, rfl, rfl, rfl⟩

theorem reconnecting_not_truthful : ¬ Along step Keeps {} reconnecting := by
  obtain ⟨u, ran, failed, confirmed⟩ := confirmed_again
  intro keeps
  have stop := ((truthful_iff ran).mpr keeps reconnecting [] u (List.append_nil _).symm ran).stop failed
  cases confirmed.symm.trans stop

end EmbodiRun.Xlerobot.Evidence
