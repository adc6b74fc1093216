/-
# Devices.Tables -- one record a key, one close a record

Who holds the lock of a manager, and what the record tables and the `closing` flags say of the
calls at work, whatever the managers are asked to do.
-/
import EmbodiRun.Devices.Locks
import EmbodiRun.Transition.Lock

namespace EmbodiRun.Devices.Lifecycle

open Function
open Transition

variable {cfg : Config} {s t u : State} {l : Label} {ls : List Label}

/-! ## The lock of a manager -/

def Call.inside : Call → Option ManagerId
  | .locking m _ _ _ _ | .opening m _ _ _ | .preparingValue m _ _ _ | .rollingBack m _ _ _
  | .markingRollback m _ _ _ _ _ | .undoing m _ _ | .preparing m _ _ | .markingPrepare m _ _ _
  | .markingUncertain m _ _ _ => some m
  | _ => none

open Call

def Call.within (m : ManagerId) (call : Call) : Bool := decide (call.inside = some m)

def State.Locked (s : State) : Prop :=
  ∀ m, Guarded (within m) (s.managers m).lock s.calls

open State

theorem locked_init (files : FileId → Except Text (Data.Dict Text Text)) : (init files).Locked := by
  intro m c inside
  cases inside
variable {c : CallId} {m : ManagerId} {call : Call} {r : CallId} {key : Text}

theorem State.Locked.holds (locked : s.Locked) (inside : (s.calls c).inside = some m) :
    (s.managers m).lock = some c :=
  locked m c (decide_eq_true inside)
variable {rest : List (Text × CallId)} {errors : List Failure} {m n : ManagerId}
  {change : Manager → Manager} {c r : CallId}

theorem inside_closeNext : (closeNext m rest errors).inside = none := by
  cases rest <;> rfl

theorem locked_keep (locked : s.Locked) (calls : t.calls = update s.calls c call)
    (locks : ∀ m, (t.managers m).lock = (s.managers m).lock)
    (inside : ∀ m, call.inside = some m → (s.calls c).inside = some m) : t.Locked := by
  intro m
  rw [calls, locks]
  refine guarded_keep (locked m) fun within => ?_
  exact decide_eq_true (inside m (of_decide_eq_true within))

theorem locked_leave (locked : s.Locked) (calls : t.calls = update s.calls c call)
    (here : (s.calls c).inside = some m ∨ (s.managers m).lock = none)
    (free : (t.managers m).lock = none)
    (others : ∀ n, n ≠ m → (t.managers n).lock = (s.managers n).lock) (out : call.inside = none) :
    t.Locked := by
  intro n
  rw [calls]
  by_cases same : n = m
  · subst same
    rw [free]
    have outside : call.within n = false := decide_eq_false (by rw [out]; nofun)
    rcases here with inside | unheld
    · exact guarded_leave (locked n) (decide_eq_true inside) outside
    · rw [← unheld]
      refine guarded_keep (locked n) fun within => ?_
      cases outside.symm.trans within
  · rw [others n same]
    refine guarded_keep (locked n) fun within => ?_
    have inside := of_decide_eq_true within
    rw [out] at inside
    cases inside

theorem locked_drift (locked : s.Locked) (drift : Drift s u) : u.Locked := by
  intro m
  rw [drift.calls, drift.lock]
  exact locked m

theorem lock_lease (s : State) (c : CallId) (m : ManagerId) (key : Text) (r : CallId) :
    ((s.lease c m key r).managers m).lock = none := by
  change ((s.setManager m fun manager =>
    { manager with nextToken := (s.managers m).nextToken + 1, lock := none }).managers m).lock = none
  rw [setManager_self]

theorem lock_lease_of_ne (s : State) (c : CallId) (key : Text) (r : CallId) (other : n ≠ m) :
    ((s.lease c m key r).managers n).lock = (s.managers n).lock := by
  change ((s.setManager m fun manager =>
    { manager with nextToken := (s.managers m).nextToken + 1, lock := none }).managers n).lock = _
  rw [setManager_of_ne _ _ other]

theorem lock_fail (s : State) (c : CallId) (m : ManagerId) (failure : Failure) :
    ((s.fail c m failure).managers m).lock = none := by
  change ((s.setManager m fun manager => { manager with lock := none }).managers m).lock = none
  rw [setManager_self]

theorem lock_fail_of_ne (s : State) (c : CallId) (failure : Failure) (other : n ≠ m) :
    ((s.fail c m failure).managers n).lock = (s.managers n).lock := by
  change ((s.setManager m fun manager => { manager with lock := none }).managers n).lock = _
  rw [setManager_of_ne _ _ other]

theorem lock_addRecord (s : State) (c : CallId) (m n : ManagerId) (record : Record) :
    ((s.addRecord c m record).managers n).lock = (s.managers n).lock := by
  change (({ s with records := update s.records c record }.setManager m fun manager =>
    { manager with records := manager.records.set record.resource.identity.key c }).managers n).lock = _
  exact setManager_field Manager.lock (by rfl) n

theorem locked_finishOpen (locked : s.Locked) (inside : (s.calls c).inside = some m)
    (resource : DeviceResource) (prepare : Bool) (held : List Text) (change : Value → Value) :
    ((s.setValue c change).finishOpen c m resource prepare held).Locked := by
  unfold finishOpen
  refine locked_leave locked rfl (.inl inside) (lock_lease ..) (fun n other => ?_) rfl
  rw [lock_lease_of_ne _ _ _ _ other]
  exact lock_addRecord ..

theorem locked_release (locked : s.Locked) {c d} {lease} : (s.release c d lease).Locked := by
  have released : (s.setCall d (.leased { lease with released := true })).Locked :=
    locked_keep locked rfl (fun _ => rfl) nofun
  unfold release
  dsimp only
  split
  · exact locked_keep released rfl (fun _ => rfl) nofun
  split
  · exact locked_keep released rfl (fun _ => rfl) nofun
  split <;> exact locked_keep released rfl (fun _ => rfl) nofun

/-- **Who is inside a manager holds its lock.** -/
theorem locked_step (locked : s.Locked) (next : step cfg s l = some t) : t.Locked := by
  cases step_move next with
  | drifts drift => exact locked_drift locked drift
  | advances c call drift advance =>
    refine locked_keep (locked_drift locked drift) rfl (fun _ => rfl) fun m inside => ?_
    rw [drift.calls]
    generalize s.calls c = before at advance
    cases advance with
    | skips | awaits =>
      rw [inside_closeNext] at inside
      cases inside
    | lockFails | openFails | rollFails | marksRollback | unready | marksPrepare | marksUncertain =>
      exact inside
    | _ => cases inside
  | enters c m call fresh free drift entry =>
    rename_i u
    have inside : call.inside = some m := by cases entry <;> rfl
    intro n
    change Guarded _ ((u.setManager m fun manager => { manager with lock := some c }).managers n).lock
      (update u.calls c call)
    rw [drift.calls]
    by_cases same : n = m
    · subst same
      rw [setManager_self]
      have unheld := locked n
      rw [free] at unheld
      exact guarded_take unheld
    · rw [setManager_of_ne _ _ same, drift.lock]
      refine guarded_keep (locked n) fun within => ?_
      have elsewhere := of_decide_eq_true within
      rw [inside] at elsewhere
      exact absurd (Option.some.inj elsewhere).symm same
  | fails c m failure station free drift =>
    refine locked_leave (locked_drift locked drift) rfl ?_ (lock_fail ..)
      (fun n other => lock_fail_of_ne _ _ _ other) rfl
    rw [drift.calls, drift.lock]
    generalize stands : s.calls c = before at station
    cases station with
    | unused => exact .inr (free stands)
    | preparing | markingPrepare | markingUncertain | markingRollback | undoing => exact .inl rfl
  | joins c m resource prepare valuePrepared r label fresh free found joins drift =>
    refine locked_leave (locked_drift locked drift) rfl (.inr ?_) (lock_lease ..)
      (fun n other => lock_lease_of_ne _ _ _ _ other) rfl
    rw [drift.lock]
    exact free
  | locks c m resource prepare identity pending held station =>
    refine locked_keep locked rfl (fun _ => rfl) fun n inside => ?_
    rw [station]
    split at inside <;> exact inside
  | opens c m resource held isNone station
  | abandons c m resource held failure reply label raised station
  | rollsBack c m resource held error station | rolledBack c m resource held error failure station =>
    exact locked_keep locked rfl (fun _ => rfl) fun n inside => by rw [station]; exact inside
  | opened c m resource held station =>
    exact locked_finishOpen locked (by rw [station]; rfl) resource false held _
  | prepared c m resource held isNone station =>
    have same : s.setValue c id = s := by simp [setValue]
    have made : ((s.setValue c id).finishOpen c m resource true held).Locked :=
      locked_finishOpen locked (by rw [station]; rfl) resource true held id
    rwa [same] at made
  | keeps c m resource held pending reason error station drift =>
    unfold keepUncertain
    refine locked_leave (locked_drift locked drift) rfl (.inl ?_) (lock_fail ..) (fun n other => ?_) rfl
    · rw [drift.calls, station]
      rfl
    · rw [lock_fail_of_ne _ _ _ other]
      exact lock_addRecord ..
  | undoes c m file held failure station =>
    have calls : ((s.unlock c file).setCall c (.undoing m held failure)).calls =
        update s.calls c (.undoing m held failure) := by
      rw [setCall, calls_unlock]
    refine locked_keep locked calls (fun n => ?_) fun n inside => by rw [station]; exact inside
    rw [setCall, managers_unlock]
  | readied c m key r label station =>
    refine locked_leave (s := s.setRecord r _) locked rfl (.inl ?_) (lock_lease ..)
      (fun n other => lock_lease_of_ne _ _ _ _ other) rfl
    change (s.calls c).inside = some m
    rw [station]
    rfl
  | closesManager c m =>
    refine locked_keep locked rfl (fun n => ?_) fun n inside => ?_
    · change ((s.setManager m fun manager => { manager with closed := true }).managers n).lock = _
      exact setManager_field Manager.lock (by rfl) n
    · rw [inside_closeNext] at inside
      cases inside
  | releases => exact locked_release locked
  | closes => exact locked_keep locked rfl (fun _ => rfl) (by rintro _ ⟨⟩)
  | closed c m key r rest errors call station goes drift =>
    rename_i u
    have calls : (u.setCall c call).calls = update s.calls c call := by
      rw [setCall, drift.calls]
      rfl
    refine locked_keep locked calls (fun n => drift.lock n) fun n inside => ?_
    rcases goes with rfl | rfl <;> cases inside
  | unlocks c m key r file pending rest errors =>
    have calls : ((s.unlock r file).setCall c (.unlocking m key r pending rest errors)).calls =
        update s.calls c (.unlocking m key r pending rest errors) := by
      rw [setCall, calls_unlock]
    refine locked_keep locked calls (fun n => ?_) (by rintro _ ⟨⟩)
    rw [setCall, managers_unlock]
  | finishes c m key r error rest =>
    have out (after : List Failure) (n : ManagerId) (inside : (closeNext m rest after).inside = some n) :
        (s.calls c).inside = some n := by
      rw [inside_closeNext] at inside
      cases inside
    cases error with refine locked_keep locked rfl (fun n => ?_) (out _)
    | none =>
      change ((s.setManager m fun manager =>
        { manager with records := manager.records.erase key }).managers n).lock = _
      exact setManager_field Manager.lock (by rfl) n
    | some =>
      change ((s.setManager m fun manager =>
        { manager with records := manager.records.set key r }).managers n).lock = _
      exact setManager_field Manager.lock (by rfl) n
  | marked c m record pending reason station drift =>
    rename_i u
    have inside : (u.calls c).inside = some m := by
      rw [drift.calls, station]
      rfl
    refine locked_leave (locked_drift locked drift) rfl (.inl inside) ?_ (fun n other => ?_) rfl
    · rw [setCall, setManager_self]
    · rw [setCall, setManager_of_ne _ _ other]

/-! ## The tables -/

def Call.making : Call → Option (ManagerId × Text)
  | .locking m resource _ _ _ | .opening m resource _ _ | .preparingValue m resource _ _
  | .rollingBack m resource _ _ | .markingRollback m resource _ _ _ _ => some (m, resource.identity.key)
  | _ => none

def Call.readying : Call → Option (ManagerId × Text × CallId)
  | .preparing m key r => some (m, key, r)
  | _ => none

def Call.busy : Call → Option (ManagerId × Text × CallId)
  | .closing m key r _ _ | .markingClose m key r _ _ _ _ | .clearing m key r _ _ _
  | .unlocking m key r _ _ _ | .finishing m key r _ _ _ => some (m, key, r)
  | _ => none

def State.at? (s : State) (m : ManagerId) (key : Text) : Option CallId := (s.managers m).records.get? key

structure TableInv (s : State) : Prop where
  home : ∀ m n key other r, s.at? m key = some r → s.at? n other = some r → m = n ∧ key = other
  absent : ∀ c m key, (s.calls c).making = some (m, key) → s.at? m key = none
  readying : ∀ c m key r, (s.calls c).readying = some (m, key, r) →
    s.at? m key = some r ∧ (s.records r).closing = false
  busy : ∀ c m key r, (s.calls c).busy = some (m, key, r) →
    s.at? m key = some r ∧ (s.records r).closing = true ∧ (s.values r).closerStarted = true
  single : ∀ c d m n key other r, (s.calls c).busy = some (m, key, r) → (s.calls d).busy = some (n, other, r) → c = d

open TableInv

theorem tableInv_init (files : FileId → Except Text (Data.Dict Text Text)) : TableInv (init files) := by
  refine ⟨fun m n key other r found => ?_, fun c m key making => ?_, fun c m key r readying => ?_,
    fun c m key r busy => ?_, fun c d m n key other r busy => ?_⟩
  · cases found
  · cases making
  · cases readying
  · cases busy
  · cases busy

theorem TableInv.drift (inv : TableInv s) (drift : Drift s u) : TableInv u := by
  have table (m : ManagerId) (key : Text) : u.at? m key = s.at? m key := by
    unfold at?
    rw [drift.table]
  refine ⟨fun m n key other r => ?_, fun c m key => ?_, fun c m key r => ?_, fun c m key r => ?_,
    fun c d m n key other r => ?_⟩
  · rw [table, table]
    exact inv.home m n key other r
  · rw [table, drift.calls]
    exact inv.absent c m key
  · rw [table, drift.calls, (drift.records r).closing]
    exact inv.readying c m key r
  · rw [table, drift.calls, (drift.records r).closing, drift.values]
    exact inv.busy c m key r
  · rw [drift.calls]
    exact inv.single c d m n key other r

theorem TableInv.setCall (inv : TableInv s) (making : ∀ m key, call.making = some (m, key) → s.at? m key = none)
    (readying : ∀ m key r, call.readying = some (m, key, r) → s.at? m key = some r ∧ (s.records r).closing = false)
    (busy : ∀ m key r, call.busy = some (m, key, r) → (s.calls c).busy = some (m, key, r)) :
    TableInv (s.setCall c call) := by
  have busy_before {d : CallId} {m : ManagerId} {key : Text} {r : CallId}
      (after : ((s.setCall c call).calls d).busy = some (m, key, r)) :
      (s.calls d).busy = some (m, key, r) := by
    by_cases same : d = c
    · subst same
      rw [setCall_self] at after
      exact busy m key r after
    · rwa [setCall_of_ne _ _ same] at after
  refine ⟨inv.home, fun d m key after => ?_, fun d m key r after => ?_, fun d m key r after => ?_,
    fun d e m n key other r one two => ?_⟩
  · by_cases same : d = c
    · subst same
      rw [setCall_self] at after
      exact making m key after
    · rw [setCall_of_ne _ _ same] at after
      exact inv.absent d m key after
  · by_cases same : d = c
    · subst same
      rw [setCall_self] at after
      exact readying m key r after
    · rw [setCall_of_ne _ _ same] at after
      exact inv.readying d m key r after
  · exact inv.busy d m key r (busy_before after)
  · exact inv.single d e m n key other r (busy_before one) (busy_before two)

theorem TableInv.setIdle (inv : TableInv s) (idle : call.making = none ∧ call.readying = none ∧ call.busy = none) :
    TableInv (s.setCall c call) := by
  obtain ⟨makes, readies, closes⟩ := idle
  refine inv.setCall (fun m key making => ?_) (fun m key r readying => ?_) (fun m key r busy => ?_)
  · cases makes.symm.trans making
  · cases readies.symm.trans readying
  · cases closes.symm.trans busy

theorem TableInv.setValue (inv : TableInv s) {change}
    (started : (s.values r).closerStarted = true → (change (s.values r)).closerStarted = true) :
    TableInv (s.setValue r change) := by
  refine ⟨inv.home, inv.absent, inv.readying, fun c m key q busy => ?_, inv.single⟩
  obtain ⟨found, flagged, begun⟩ := inv.busy c m key q busy
  refine ⟨found, flagged, ?_⟩
  by_cases same : q = r
  · subst same
    rw [setValue_self]
    exact started begun
  · rw [setValue_of_ne _ _ same]
    exact begun

theorem TableInv.setRecord (inv : TableInv s) {change}
    (closing : (change (s.records r)).closing = (s.records r).closing) :
    TableInv (s.setRecord r change) := by
  have same (q : CallId) : ((s.setRecord r change).records q).closing = (s.records q).closing := by
    by_cases equal : q = r
    · subst equal
      rw [setRecord_self, closing]
    · rw [setRecord_of_ne _ _ equal]
  refine ⟨inv.home, inv.absent, fun c m key q readying => ?_, fun c m key q busy => ?_, inv.single⟩
  · rw [same]
    exact inv.readying c m key q readying
  · rw [same]
    exact inv.busy c m key q busy

theorem at_setManager (s : State) (same : (change (s.managers m)).records = (s.managers m).records)
    (n : ManagerId) (key : Text) : (s.setManager m change).at? n key = s.at? n key := by
  unfold at?
  rw [setManager_field Manager.records same]

theorem TableInv.setManager (inv : TableInv s) (same : (change (s.managers m)).records = (s.managers m).records) :
    TableInv (s.setManager m change) := by
  have table := at_setManager s same
  refine ⟨fun n n' key other r => ?_, fun c n key => ?_, fun c n key r => ?_, fun c n key r => ?_, inv.single⟩
  · rw [table, table]
    exact inv.home n n' key other r
  · rw [table]
    exact inv.absent c n key
  · rw [table]
    exact inv.readying c n key r
  · rw [table]
    exact inv.busy c n key r

theorem TableInv.unlock (inv : TableInv s) (owner : CallId) (file : Text) : TableInv (s.unlock owner file) := by
  unfold State.unlock
  split
  · exact ⟨inv.home, inv.absent, inv.readying, inv.busy, inv.single⟩
  · exact inv

theorem TableInv.lease (inv : TableInv s) (c : CallId) (m : ManagerId) (key : Text) (r : CallId) :
    TableInv (s.lease c m key r) := by
  unfold State.lease
  refine ((inv.setManager ?_).setRecord ?_).setIdle ⟨rfl, rfl, rfl⟩ <;> rfl

theorem making_inside (making : call.making = some (m, key)) : call.inside = some m := by
  cases call <;> cases making <;> rfl

theorem readying_inside (readying : call.readying = some (m, key, r)) : call.inside = some m := by
  cases call with
  | preparing =>
    cases readying
    rfl
  | _ => cases readying

theorem closeNext_idle : (closeNext m rest errors).making = none ∧ (closeNext m rest errors).readying = none ∧
      (closeNext m rest errors).busy = none := by
  cases rest <;> exact ⟨rfl, rfl, rfl⟩

theorem at_erased (s : State) (m : ManagerId) (key : Text) (n : ManagerId) (other : Text) :
    (s.setManager m fun manager => { manager with records := manager.records.erase key }).at? n other =
      if n = m ∧ other = key then none else s.at? n other := by
  unfold at?
  by_cases same : n = m
  · subst same
    rw [setManager_self]
    by_cases here : other = key
    · subst here
      simp
    · simp [here, Data.Dict.get?_erase_of_ne here]
  · rw [setManager_of_ne _ _ same, if_neg fun both => same both.1]

theorem at_listed (s : State) (m : ManagerId) (key : Text) (r : CallId) (n : ManagerId) (other : Text) :
    (s.setManager m fun manager => { manager with records := manager.records.set key r }).at? n other =
      if n = m ∧ other = key then some r else s.at? n other := by
  unfold at?
  by_cases same : n = m
  · subst same
    rw [setManager_self]
    by_cases here : other = key
    · subst here
      simp
    · simp [here, Data.Dict.get?_set_of_ne here]
  · rw [setManager_of_ne _ _ same, if_neg fun both => same both.1]

theorem at_addRecord (s : State) (c : CallId) (m : ManagerId) (record : Record) (n : ManagerId) (key : Text) :
    (s.addRecord c m record).at? n key = if n = m ∧ key = record.resource.identity.key then some c else s.at? n key :=
  at_listed { s with records := update s.records c record } m _ c n key

theorem at_lease (s : State) (c : CallId) (m : ManagerId) (key : Text) (r : CallId) (n : ManagerId)
    (other : Text) : (s.lease c m key r).at? n other = s.at? n other := by
  unfold at?
  rw [table_lease]

theorem at_fail (s : State) (c : CallId) (m : ManagerId) (failure : Failure) (n : ManagerId) (key : Text) :
    (s.fail c m failure).at? n key = s.at? n key := by
  unfold at?
  rw [table_fail]

theorem LockInv.past_at (locks : LockInv s) (found : s.at? m key = some r) : s.Past r :=
  locks.table m _ (Data.Dict.mem_of_get? found)

theorem LockInv.unlisted (locks : LockInv s) (mover : ¬ s.Past c) (m : ManagerId) (key : Text) :
    s.at? m key ≠ some c :=
  fun found => mover (locks.past_at found)

theorem TableInv.made (inv : TableInv s) (locked : s.Locked)
    (unlisted : ∀ n other, s.at? n other ≠ some c) (making : (s.calls c).making = some (m, key))
    (calls : t.calls = update s.calls c call)
    (idle : call.making = none ∧ call.readying = none ∧ call.busy = none)
    (table : ∀ n other, t.at? n other = if n = m ∧ other = key then some c else s.at? n other)
    (closing : ∀ r, r ≠ c → (t.records r).closing = (s.records r).closing)
    (started : ∀ r, (s.values r).closerStarted = true → (t.values r).closerStarted = true) :
    TableInv t := by
  have free : s.at? m key = none := inv.absent c m key making
  have known {n : ManagerId} {other : Text} {r : CallId} (found : s.at? n other = some r) :
      r ≠ c ∧ t.at? n other = some r := by
    refine ⟨fun same => unlisted n other (same ▸ found), ?_⟩
    rw [table, if_neg, found]
    rintro ⟨rfl, rfl⟩
    cases free.symm.trans found
  have station {d : CallId} (moved : d ≠ c) : t.calls d = s.calls d := by
    rw [calls, update_of_ne moved]
  have self : t.calls c = call := by rw [calls, update_self]
  refine ⟨fun n n' other other' r one two => ?_, fun d n other after => ?_, fun d n other r after => ?_,
    fun d n other r after => ?_, fun d e n n' other other' r one two => ?_⟩
  · rw [table] at one two
    split at one <;> split at two
    · rename_i here there
      exact ⟨here.1.trans there.1.symm, here.2.trans there.2.symm⟩
    · obtain rfl := Option.some.inj one
      exact absurd two (unlisted _ _)
    · obtain rfl := Option.some.inj two
      exact absurd one (unlisted _ _)
    · exact inv.home n n' other other' r one two
  · by_cases same : d = c
    · subst same
      rw [self, idle.1] at after
      cases after
    rw [station same] at after
    rw [table, if_neg, inv.absent d n other after]
    rintro ⟨rfl, rfl⟩
    have mine := locked.holds (making_inside making)
    exact same (Option.some.inj ((locked.holds (making_inside after)).symm.trans mine))
  · by_cases same : d = c
    · subst same
      rw [self, idle.2.1] at after
      cases after
    rw [station same] at after
    obtain ⟨found, unflagged⟩ := inv.readying d n other r after
    obtain ⟨distinct, found⟩ := known found
    exact ⟨found, by rw [closing r distinct, unflagged]⟩
  · by_cases same : d = c
    · subst same
      rw [self, idle.2.2] at after
      cases after
    rw [station same] at after
    obtain ⟨found, flagged, begun⟩ := inv.busy d n other r after
    obtain ⟨distinct, found⟩ := known found
    exact ⟨found, by rw [closing r distinct, flagged], started r begun⟩
  · by_cases first : d = c
    · subst first
      rw [self, idle.2.2] at one
      cases one
    by_cases second : e = c
    · subst second
      rw [self, idle.2.2] at two
      cases two
    rw [station first] at one
    rw [station second] at two
    exact inv.single d e n n' other other' r one two

theorem TableInv.closes (inv : TableInv s) (locked : s.Locked) (free : (s.managers m).lock = none)
    (found : s.at? m key = some r) (notClosing : (s.records r).closing = false)
    (calls : t.calls = update s.calls c call) (makes : call.making = none)
    (readies : call.readying = none) (busy : call.busy = some (m, key, r))
    (table : ∀ n other, t.at? n other = s.at? n other) (flagged : (t.records r).closing = true)
    (closing : ∀ q, q ≠ r → (t.records q).closing = (s.records q).closing)
    (begun : (t.values r).closerStarted = true)
    (started : ∀ q, (s.values q).closerStarted = true → (t.values q).closerStarted = true) :
    TableInv t := by
  have station {d : CallId} (moved : d ≠ c) : t.calls d = s.calls d := by
    rw [calls, update_of_ne moved]
  have self : t.calls c = call := by rw [calls, update_self]
  have elsewhere {d : CallId} {n : ManagerId} {other : Text} (before : (s.calls d).busy = some (n, other, r)) :
      False := nomatch notClosing.symm.trans (inv.busy d n other r before).2.1
  refine ⟨fun n n' other other' q => ?_, fun d n other after => ?_, fun d n other q after => ?_,
    fun d n other q after => ?_, fun d e n n' other other' q one two => ?_⟩
  · rw [table, table]
    exact inv.home n n' other other' q
  · rw [table]
    by_cases same : d = c
    · subst same
      rw [self, makes] at after
      cases after
    · rw [station same] at after
      exact inv.absent d n other after
  · by_cases same : d = c
    · subst same
      rw [self, readies] at after
      cases after
    rw [station same] at after
    obtain ⟨there, unflagged⟩ := inv.readying d n other q after
    have distinct : q ≠ r := by
      rintro rfl
      -- the acquire that prepares a record keeps the lock of its manager
      obtain ⟨rfl, _⟩ := inv.home n m other key q there found
      have held := locked.holds (readying_inside after)
      cases free.symm.trans held
    exact ⟨by rw [table, there], by rw [closing q distinct, unflagged]⟩
  · by_cases same : d = c
    · subst same
      rw [self, busy] at after
      cases after
      exact ⟨by rw [table, found], flagged, begun⟩
    · rw [station same] at after
      obtain ⟨there, before, early⟩ := inv.busy d n other q after
      have distinct : q ≠ r := by
        rintro rfl
        exact elsewhere after
      exact ⟨by rw [table, there], by rw [closing q distinct, before], started q early⟩
  · by_cases first : d = c <;> by_cases second : e = c
    · rw [first, second]
    · subst first
      rw [self, busy] at one
      rw [station second] at two
      cases one
      exact (elsewhere two).elim
    · subst second
      rw [self, busy] at two
      rw [station first] at one
      cases two
      exact (elsewhere one).elim
    · rw [station first] at one
      rw [station second] at two
      exact inv.single d e n n' other other' q one two

theorem TableInv.finishes (inv : TableInv s) (busy : (s.calls c).busy = some (m, key, r))
    (calls : t.calls = update s.calls c call)
    (idle : call.making = none ∧ call.readying = none ∧ call.busy = none)
    (table : ∀ n other q, t.at? n other = some q → s.at? n other = some q)
    (others : ∀ n other q, q ≠ r → s.at? n other = some q → t.at? n other = some q)
    (closing : ∀ q, q ≠ r → (t.records q).closing = (s.records q).closing)
    (values : t.values = s.values) : TableInv t := by
  have station {d : CallId} (moved : d ≠ c) : t.calls d = s.calls d := by
    rw [calls, update_of_ne moved]
  have self : t.calls c = call := by rw [calls, update_self]
  refine ⟨fun n n' other other' q one two => ?_, fun d n other after => ?_, fun d n other q after => ?_,
    fun d n other q after => ?_, fun d e n n' other other' q one two => ?_⟩
  · exact inv.home n n' other other' q (table _ _ _ one) (table _ _ _ two)
  · by_cases same : d = c
    · subst same
      rw [self, idle.1] at after
      cases after
    rw [station same] at after
    cases found : t.at? n other with
    | none => rfl
    | some q => cases (inv.absent d n other after).symm.trans (table n other q found)
  · by_cases same : d = c
    · subst same
      rw [self, idle.2.1] at after
      cases after
    rw [station same] at after
    obtain ⟨found, unflagged⟩ := inv.readying d n other q after
    have distinct : q ≠ r := by
      rintro rfl
      cases unflagged.symm.trans (inv.busy c m key q busy).2.1
    exact ⟨others n other q distinct found, by rw [closing q distinct, unflagged]⟩
  · by_cases same : d = c
    · subst same
      rw [self, idle.2.2] at after
      cases after
    rw [station same] at after
    obtain ⟨found, flagged, begun⟩ := inv.busy d n other q after
    have distinct : q ≠ r := by
      rintro rfl
      exact same (inv.single d c n m other key q after busy)
    exact ⟨others n other q distinct found, by rw [closing q distinct, flagged], by rw [values, begun]⟩
  · by_cases first : d = c
    · subst first
      rw [self, idle.2.2] at one
      cases one
    by_cases second : e = c
    · subst second
      rw [self, idle.2.2] at two
      cases two
    rw [station first] at one
    rw [station second] at two
    exact inv.single d e n n' other other' q one two

theorem tableInv_finishOpen (inv : TableInv s) (locked : s.Locked) {resource}
    (unlisted : ∀ n other, s.at? n other ≠ some c)
    (making : (s.calls c).making = some (m, resource.identity.key)) (prepare : Bool)
    (held : List Text) : TableInv (s.finishOpen c m resource prepare held) := by
  unfold finishOpen
  refine inv.made locked unlisted making rfl ⟨rfl, rfl, rfl⟩ (fun n other => ?_) (fun r other => ?_) fun r => id
  · rw [at_lease, at_addRecord]
  · change (update (records _) c _ r).closing = (s.records r).closing
    rw [update_of_ne other]
    change (update s.records c _ r).closing = _
    rw [update_of_ne other]

theorem at_finishClose (s : State) (c : CallId) (m : ManagerId) (key : Text) (r : CallId)
    (error : Option Failure) (rest : List (Text × CallId)) (errors : List Failure) (n : ManagerId)
    (other : Text) : (s.finishClose c m key r error rest errors).at? n other =
      if n = m ∧ other = key then error.map fun _ => r else s.at? n other := by
  cases error with
  | none => exact at_erased (s.setRecord r _) m key n other
  | some => exact at_listed (s.setRecord r _) m key r n other

theorem closing_finishClose (s : State) (c : CallId) (m : ManagerId) (key : Text) {r q}
    (error : Option Failure) (rest : List (Text × CallId)) (errors : List Failure) (other : q ≠ r) :
    (s.finishClose c m key r error rest errors).records q = s.records q := by
  cases error <;> exact update_of_ne other ..

/-- **A record has one place, and one call at a time closes it.** -/
theorem tableInv_step (locks : LockInv s) (locked : s.Locked) (inv : TableInv s)
    (next : step cfg s l = some t) : TableInv t := by
  cases step_move next with
  | drifts drift => exact inv.drift drift
  | advances c call drift advance =>
    rename_i u
    have inv' := inv.drift drift
    rw [← drift.calls] at advance
    have absent := inv'.absent c
    generalize station : u.calls c = before at advance absent
    cases advance with
    | rollFails | marksRollback => exact inv'.setCall absent nofun nofun
    | closerFails | marksClose | closeFails | clears | cleared | clearFails | unlocked =>
      exact inv'.setCall nofun nofun (by rw [station]; exact fun _ _ _ => id)
    | skips | awaits => exact inv'.setIdle closeNext_idle
    | lockFails | openFails | unready | marksPrepare | marksUncertain | ends | reports | waits =>
      exact inv'.setIdle ⟨rfl, rfl, rfl⟩
  | enters c m call fresh free drift entry =>
    rename_i u
    have inv' : TableInv (u.setManager m fun manager => { manager with lock := some c }) :=
      (inv.drift drift).setManager rfl
    have table (n : ManagerId) (key : Text) :
        (u.setManager m fun manager => { manager with lock := some c }).at? n key =
          (s.managers n).records.get? key := by
      rw [at_setManager u rfl, at?, drift.table]
    refine inv'.setCall (fun n key making => ?_) (fun n key r readying => ?_) (fun n key r busy => ?_)
    · rw [table]
      cases entry <;> cases making <;> assumption
    · rw [table]
      change _ ∧ (u.records r).closing = false
      rw [(drift.records r).closing]
      cases entry with
      | readies resource r' label found notClosing =>
        cases readying
        exact ⟨found, notClosing⟩
      | opens | locks | marks => cases readying
    · cases entry <;> cases busy
  | fails c m failure station free drift =>
    unfold fail
    exact ((inv.drift drift).setManager rfl).setIdle ⟨rfl, rfl, rfl⟩
  | joins c m resource prepare valuePrepared r label fresh free found joins drift =>
    exact (inv.drift drift).lease c m _ r
  | locks c m resource prepare identity pending held station =>
    have absent := inv.absent c
    rw [station] at absent
    have taken : TableInv { s with flocks := update s.flocks identity.physical (some c) } :=
      ⟨inv.home, inv.absent, inv.readying, inv.busy, inv.single⟩
    split
    · exact taken.setCall absent nofun nofun
    · exact taken.setCall absent nofun nofun
  | opens c m resource held isNone station =>
    have absent := inv.absent c
    rw [station] at absent
    have opened : TableInv (s.setValue c fun value => { value with opened := some resource }) :=
      inv.setValue id
    exact opened.setCall absent nofun nofun
  | opened c m resource held station =>
    have opened : TableInv (s.setValue c fun value => { value with opened := some resource }) :=
      inv.setValue id
    have making : (s.calls c).making = some (m, resource.identity.key) := by
      rw [station]
      rfl
    exact tableInv_finishOpen opened locked (locks.unlisted (not_past station rfl)) making false held
  | prepared c m resource held isNone station =>
    have making : (s.calls c).making = some (m, resource.identity.key) := by
      rw [station]
      rfl
    exact tableInv_finishOpen inv locked (locks.unlisted (not_past station rfl)) making true held
  | abandons => exact inv.setIdle ⟨rfl, rfl, rfl⟩
  | rollsBack c m resource held error station =>
    have absent := inv.absent c
    rw [station] at absent
    have started : TableInv (s.setValue c fun value => { value with closerStarted := true }) :=
      inv.setValue fun _ => rfl
    exact started.setCall absent nofun nofun
  | rolledBack c =>
    have closed : TableInv (s.setValue c fun value => { value with closed := true }) := inv.setValue id
    exact closed.setIdle ⟨rfl, rfl, rfl⟩
  | keeps c m resource held pending reason error station drift =>
    rename_i u
    have mover : ¬ s.Past c := not_past station rfl
    have making : (u.calls c).making = some (m, resource.identity.key) := by
      rw [drift.calls, station]
      rfl
    unfold keepUncertain
    refine (inv.drift drift).made (locked_drift locked drift)
      ((locks.drift drift).unlisted (drift.not_past mover)) making rfl ⟨rfl, rfl, rfl⟩ (fun n other => ?_) (fun r other => ?_) fun r => id
    · rw [at_fail, at_addRecord]
    · exact congrArg Record.closing (update_of_ne other ..)
  | undoes c m file => exact (inv.unlock c file).setIdle ⟨rfl, rfl, rfl⟩
  | readied c m key r =>
    have readied : TableInv (s.setRecord r fun record =>
        { record with
          prepared := true
          error := none
          state := if record.resource.externalOwner then .external else .opened }) := inv.setRecord rfl
    exact readied.lease c m key r
  | closesManager c m =>
    have closed : TableInv (s.setManager m fun manager => { manager with closed := true }) :=
      inv.setManager rfl
    exact closed.setIdle closeNext_idle
  | releases c d lease =>
    have released : TableInv (s.setCall d (.leased { lease with released := true })) :=
      inv.setIdle ⟨rfl, rfl, rfl⟩
    unfold release
    dsimp only
    split
    · exact released.setIdle ⟨rfl, rfl, rfl⟩
    split
    · exact released.setIdle ⟨rfl, rfl, rfl⟩
    split <;> exact (released.setRecord rfl).setIdle ⟨rfl, rfl, rfl⟩
  | closes c m key r rest errors station free found notClosing =>
    let flagged := s.setRecord r fun record => { record with closing := true, closeError := none }
    let started := flagged.setValue r fun value => { value with closerStarted := true }
    refine inv.closes (t := started.setCall c _) locked free found notClosing rfl rfl rfl rfl (fun _ _ => rfl)
      ?_ (fun q other => ?_) ?_ (fun q begun => ?_)
    · change (flagged.records r).closing = true
      rw [setRecord_self]
    · change (flagged.records q).closing = (s.records q).closing
      rw [setRecord_of_ne _ _ other]
    · change (started.values r).closerStarted = true
      rw [setValue_self]
    · change (started.values q).closerStarted = true
      by_cases same : q = r
      · subst same
        rw [setValue_self]
      · rw [setValue_of_ne _ _ same]
        exact begun
  | closed c m key r rest errors call station goes drift =>
    rename_i u
    have closed : TableInv (s.setValue r fun value => { value with closed := true }) := inv.setValue id
    have inv' : TableInv u := closed.drift drift
    have busy : (u.calls c).busy = some (m, key, r) := by
      rw [drift.calls]
      exact congrArg Call.busy station
    rcases goes with rfl | rfl
    · exact inv'.setCall nofun nofun (by rw [busy]; exact fun _ _ _ => id)
    · exact inv'.setCall nofun nofun (by rw [busy]; exact fun _ _ _ => id)
  | unlocks c m key r file pending rest errors station =>
    refine (inv.unlock r file).setCall nofun nofun ?_
    rw [calls_unlock, station]
    exact fun _ _ _ => id
  | finishes c m key r error rest errors station free =>
    have busy : (s.calls c).busy = some (m, key, r) := by
      rw [station]
      rfl
    have here : s.at? m key = some r := (inv.busy c m key r busy).1
    have calls : (s.finishClose c m key r error rest errors).calls =
        update s.calls c (.closeNext m rest (errors ++ error.toList)) := by
      cases error <;> rfl
    refine inv.finishes busy calls closeNext_idle (fun n other q after => ?_) (fun n other q distinct found => ?_)
      (fun q other => congrArg Record.closing (closing_finishClose s c m key error rest errors other)) ?_
    · rw [at_finishClose] at after
      split at after
      · rename_i same
        obtain ⟨rfl, rfl⟩ := same
        cases error with
        | none => cases after
        | some =>
          cases after
          exact here
      · exact after
    · rw [at_finishClose, if_neg, found]
      rintro ⟨rfl, rfl⟩
      exact distinct (Option.some.inj (found.symm.trans here))
    · cases error <;> rfl
  | marked c m record pending reason station drift =>
    exact ((inv.drift drift).setManager rfl).setIdle ⟨rfl, rfl, rfl⟩

end EmbodiRun.Devices.Lifecycle
