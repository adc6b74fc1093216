/-
# Devices.Moves -- all a step of the managers can do

`Move` names every way from one state of the managers to the next, up to what no result of
leases and locks reads (`Drift`: markers, diagnostics, a record that turns uncertain).
-/
import EmbodiRun.Devices.Lifecycle

namespace EmbodiRun.Devices.Lifecycle

open Function

variable {cfg : Config} {s t u : State} {l : Label}

/-! ## Assignments -/

theorem setManager_self (s : State) (m : ManagerId) (change : Manager → Manager) :
    (s.setManager m change).managers m = change (s.managers m) := update_self ..

theorem setManager_of_ne (s : State) {m n} (change : Manager → Manager) (other : n ≠ m) :
    (s.setManager m change).managers n = s.managers n := update_of_ne other ..

theorem setManager_field {β : Type} (get : Manager → β) {m} {change}
    (same : get (change (s.managers m)) = get (s.managers m)) (n : ManagerId) :
    get ((s.setManager m change).managers n) = get (s.managers n) := by
  by_cases equal : n = m
  · subst equal
    rw [setManager_self, same]
  · rw [setManager_of_ne s change equal]

theorem setCall_self (s : State) (c : CallId) (call : Call) : (s.setCall c call).calls c = call :=
  update_self ..

theorem setCall_of_ne (s : State) {c d} (call : Call) (other : d ≠ c) :
    (s.setCall c call).calls d = s.calls d := update_of_ne other ..

theorem setValue_self (s : State) (r : CallId) (change : Value → Value) :
    (s.setValue r change).values r = change (s.values r) := update_self ..

theorem setValue_of_ne (s : State) {r q} (change : Value → Value) (other : q ≠ r) :
    (s.setValue r change).values q = s.values q := update_of_ne other ..

theorem setRecord_self (s : State) (r : CallId) (change : Record → Record) :
    (s.setRecord r change).records r = change (s.records r) := update_self ..

theorem setRecord_of_ne (s : State) {r q} (change : Record → Record) (other : q ≠ r) :
    (s.setRecord r change).records q = s.records q := update_of_ne other ..

theorem table_lease (s : State) (c : CallId) (m : ManagerId) (key : Text) (r : CallId) (n : ManagerId) :
    ((s.lease c m key r).managers n).records = (s.managers n).records := by
  change ((s.setManager m fun manager =>
    { manager with nextToken := (s.managers m).nextToken + 1, lock := none }).managers n).records = _
  exact setManager_field Manager.records (by rfl) n

theorem table_fail (s : State) (c : CallId) (m : ManagerId) (failure : Failure) (n : ManagerId) :
    ((s.fail c m failure).managers n).records = (s.managers n).records := by
  change ((s.setManager m fun manager => { manager with lock := none }).managers n).records = _
  exact setManager_field Manager.records (by rfl) n

/-! ## What drifts -/

structure Worn (a b : Record) : Prop where
  resource : b.resource = a.resource
  locks : b.locks = a.locks
  references : b.references = a.references
  leases : b.leases = a.leases
  closing : b.closing = a.closing
  state : b.state = a.state ∨ b.state = .uncertain

theorem Worn.refl (a : Record) : Worn a a := ⟨rfl, rfl, rfl, rfl, rfl, .inl rfl⟩

structure Drift (s u : State) : Prop where
  flocks : u.flocks = s.flocks
  values : u.values = s.values
  calls : u.calls = s.calls
  records : ∀ r, Worn (s.records r) (u.records r)
  table : ∀ m, (u.managers m).records = (s.managers m).records
  nextToken : ∀ m, (u.managers m).nextToken = (s.managers m).nextToken
  lock : ∀ m, (u.managers m).lock = (s.managers m).lock

theorem Drift.refl (s : State) : Drift s s :=
  ⟨rfl, rfl, rfl, fun r => .refl (s.records r), fun _ => rfl, fun _ => rfl, fun _ => rfl⟩

theorem Drift.trans {a b c} (first : Drift a b) (second : Drift b c) : Drift a c where
  flocks := second.flocks.trans first.flocks
  values := second.values.trans first.values
  calls := second.calls.trans first.calls
  records r := by
    have one := first.records r
    have two := second.records r
    refine ⟨two.resource.trans one.resource, two.locks.trans one.locks,
      two.references.trans one.references, two.leases.trans one.leases, two.closing.trans one.closing, ?_⟩
    rcases two.state with same | uncertain
    · exact one.state.imp (same.trans ·) (same.trans ·)
    · exact .inr uncertain
  table m := (second.table m).trans (first.table m)
  nextToken m := (second.nextToken m).trans (first.nextToken m)
  lock m := (second.lock m).trans (first.lock m)

theorem drift_setManager (s : State) (m : ManagerId) {change}
    (table : (change (s.managers m)).records = (s.managers m).records)
    (nextToken : (change (s.managers m)).nextToken = (s.managers m).nextToken)
    (lock : (change (s.managers m)).lock = (s.managers m).lock) : Drift s (s.setManager m change) :=
  ⟨rfl, rfl, rfl, fun r => .refl (s.records r), setManager_field Manager.records table,
    setManager_field Manager.nextToken nextToken, setManager_field Manager.lock lock⟩

theorem drift_setRecord (s : State) (r : CallId) {change}
    (worn : Worn (s.records r) (change (s.records r))) : Drift s (s.setRecord r change) := by
  refine ⟨rfl, rfl, rfl, fun q => ?_, fun _ => rfl, fun _ => rfl, fun _ => rfl⟩
  unfold State.setRecord
  by_cases equal : q = r
  · subst equal
    simpa using worn
  · simpa [equal] using Worn.refl (s.records q)

theorem drift_refresh (cfg : Config) (m : ManagerId) (s : State) : Drift s (s.refreshUnresolved cfg m) := by
  unfold State.refreshUnresolved
  split
  · refine drift_setManager s m ?_ ?_ ?_ <;> rfl
  · refine drift_setManager s m ?_ ?_ ?_ <;> rfl

theorem records_refresh (cfg : Config) (m : ManagerId) (s : State) :
    (s.refreshUnresolved cfg m).records = s.records := by
  unfold State.refreshUnresolved
  split <;> rfl

theorem drift_updateFile (cfg : Config) (m : ManagerId) (works : Bool)
    (change : Data.Dict Text Text → Data.Dict Text Text) (s : State) :
    Drift s (s.updateFile cfg m works change).1 := by
  unfold State.updateFile
  split
  · exact .refl s
  split <;> dsimp only
  · refine drift_setManager s m ?_ ?_ ?_ <;> rfl
  · have file (files : FileId → Except Text (Data.Dict Text Text)) : Drift s { s with files := files } :=
      ⟨rfl, rfl, rfl, fun r => .refl (s.records r), fun _ => rfl, fun _ => rfl, fun _ => rfl⟩
    refine (file _).trans (drift_setManager _ m ?_ ?_ ?_) <;> rfl

theorem drift_mark {identity} {reason} {m} {works}
    {outcome} (marked : s.mark cfg m identity reason works = (u, outcome)) :
    Drift s u := by
  have drift := drift_updateFile cfg m works (fun unresolved =>
    (unresolved.retain fun key => physicalKey key ≠ identity.physical).set identity.key reason) s
  unfold State.mark at marked
  rw [marked] at drift
  exact drift

theorem drift_clear {identity} {m} {works}
    {outcome} (cleared : s.clear cfg m identity works = (u, outcome)) : Drift s u := by
  have drift := drift_updateFile cfg m works (fun unresolved =>
    unresolved.retain fun key => physicalKey key ≠ identity.physical) s
  unfold State.clear at cleared
  rw [cleared] at drift
  exact drift

/-! ## Stations -/

inductive Advance (s : State) : Call → Call → Prop
  | lockFails (m : ManagerId) (resource : DeviceResource) (prepare : Bool)
      (pending : List ResourceIdentity) (held : List Text) (failure : Failure) :
      Advance s (.locking m resource prepare pending held) (.undoing m held failure)
  | openFails (m : ManagerId) (resource : DeviceResource) (prepare : Bool) (held : List Text)
      (failure : Failure) : Advance s (.opening m resource prepare held) (.undoing m held failure)
  | rollFails (m : ManagerId) (resource : DeviceResource) (held : List Text) (reason error : Text) :
      Advance s (.rollingBack m resource held error)
        (.markingRollback m resource held resource.identities reason error)
  | marksRollback (m : ManagerId) (resource : DeviceResource) (held : List Text)
      (before after : List ResourceIdentity) (reason error : Text) :
      Advance s (.markingRollback m resource held before reason error)
        (.markingRollback m resource held after reason error)
  | unready (m : ManagerId) (key : Text) (r : CallId) (pending : List ResourceIdentity) (error : Text) :
      Advance s (.preparing m key r) (.markingPrepare m key pending error)
  | marksPrepare (m : ManagerId) (key : Text) (before after : List ResourceIdentity) (error : Text) :
      Advance s (.markingPrepare m key before error) (.markingPrepare m key after error)
  | ends : Advance s .unused (.done [])
  | reports (status : DeviceStatus) : Advance s .unused (.reported status)
  | skips (m : ManagerId) (key : Text) (r : CallId) (rest : List (Text × CallId))
      (errors : List Failure) (gone : (s.managers m).records.get? key ≠ some r) :
      Advance s (.closeOnce m key r rest errors) (.closeNext m rest errors)
  | waits (m : ManagerId) (key : Text) (r : CallId) (rest : List (Text × CallId))
      (errors : List Failure) (closing : (s.records r).closing = true) :
      Advance s (.closeOnce m key r rest errors) (.awaiting m key r rest errors)
  | awaits (m : ManagerId) (key : Text) (r : CallId) (rest : List (Text × CallId))
      (errors errors' : List Failure) :
      Advance s (.awaiting m key r rest errors) (.closeNext m rest errors')
  | closerFails (m : ManagerId) (key : Text) (r : CallId) (pending : List ResourceIdentity) (error : Text)
      (rest : List (Text × CallId)) (errors : List Failure) :
      Advance s (.closing m key r rest errors) (.markingClose m key r pending error rest errors)
  | marksClose (m : ManagerId) (key : Text) (r : CallId) (before after : List ResourceIdentity)
      (error : Text) (rest : List (Text × CallId)) (errors : List Failure) :
      Advance s (.markingClose m key r before error rest errors) (.markingClose m key r after error rest errors)
  | closeFails (m : ManagerId) (key : Text) (r : CallId) (pending : List ResourceIdentity) (error : Text)
      (failure : Failure) (rest : List (Text × CallId)) (errors : List Failure) :
      Advance s (.markingClose m key r pending error rest errors) (.finishing m key r (some failure) rest errors)
  | clears (m : ManagerId) (key : Text) (r : CallId) (before after : List ResourceIdentity)
      (rest : List (Text × CallId)) (errors : List Failure) :
      Advance s (.clearing m key r before rest errors) (.clearing m key r after rest errors)
  | cleared (m : ManagerId) (key : Text) (r : CallId) (before : List ResourceIdentity)
      (rest : List (Text × CallId)) (errors : List Failure) :
      Advance s (.clearing m key r before rest errors) (.unlocking m key r (s.records r).locks rest errors)
  | clearFails (m : ManagerId) (key : Text) (r : CallId) (before : List ResourceIdentity)
      (failure : Failure) (rest : List (Text × CallId)) (errors : List Failure) :
      Advance s (.clearing m key r before rest errors) (.finishing m key r (some failure) rest errors)
  | unlocked (m : ManagerId) (key : Text) (r : CallId) (rest : List (Text × CallId))
      (errors : List Failure) :
      Advance s (.unlocking m key r [] rest errors) (.finishing m key r none rest errors)
  | marksUncertain (m : ManagerId) (record : Option CallId) (before after : List ResourceIdentity)
      (reason : Text) :
      Advance s (.markingUncertain m record before reason) (.markingUncertain m record after reason)

inductive Entry (s : State) (l : Label) (c : CallId) (m : ManagerId) : Call → Prop
  | readies (resource : DeviceResource) (r : CallId)
      (label : ∃ prepare valuePrepared, l = .start c (.acquire m resource prepare valuePrepared))
      (found : (s.managers m).records.get? resource.identity.key = some r)
      (notClosing : (s.records r).closing = false)
      (usable : ¬((s.records r).references = 0 ∧ (s.records r).state = .uncertain)) :
      Entry s l c m (.preparing m resource.identity.key r)
  | opens (resource : DeviceResource) (prepare : Bool) (external : resource.externalOwner = true)
      (absent : (s.managers m).records.get? resource.identity.key = none) :
      Entry s l c m (.opening m resource prepare [])
  | locks (resource : DeviceResource) (prepare : Bool) (owned : resource.externalOwner = false)
      (absent : (s.managers m).records.get? resource.identity.key = none) :
      Entry s l c m (.locking m resource prepare resource.lockOrder [])
  | marks (record : Option CallId) (pending : List ResourceIdentity) (reason : Text) :
      Entry s l c m (.markingUncertain m record pending reason)

/-- Where a call on the manager can fail and leave no lock behind that it took at that station. -/
inductive Failing (m : ManagerId) : Call → Prop
  | unused : Failing m .unused
  | preparing (key : Text) (r : CallId) : Failing m (.preparing m key r)
  | markingPrepare (key : Text) (pending : List ResourceIdentity) (error : Text) :
      Failing m (.markingPrepare m key pending error)
  | markingUncertain (record : Option CallId) (pending : List ResourceIdentity) (reason : Text) :
      Failing m (.markingUncertain m record pending reason)
  | markingRollback (resource : DeviceResource) (held : List Text) (pending : List ResourceIdentity)
      (reason error : Text) : Failing m (.markingRollback m resource held pending reason error)
  | undoing (failure : Failure) : Failing m (.undoing m [] failure)

namespace State

/-- An `acquire` that finds the record `r` is given a lease on it at once. -/
def Joins (s : State) (m : ManagerId) (resource : DeviceResource) (prepare valuePrepared : Bool)
    (r : CallId) : Prop :=
  let record := s.records r
  (s.managers m).closed = false ∧ record.closing = false ∧ record.resource.externalOwner = resource.externalOwner ∧
    record.resource.componentIdentities.map ResourceIdentity.key =
      resource.componentIdentities.map ResourceIdentity.key ∧
    ¬(record.references = 0 ∧ record.state = .uncertain) ∧
    ¬(prepare ∧ (!record.prepared ∨ (record.resource.externalOwner ∧ !valuePrepared)))

end State

/-! ## Moves -/

inductive Move (s : State) (l : Label) : State → Prop
  | drifts {u : State} (drift : Drift s u) : Move s l u
  | advances {u : State} (c : CallId) (call : Call) (drift : Drift s u)
      (advance : Advance s (s.calls c) call) : Move s l (u.setCall c call)
  | enters {u : State} (c : CallId) (m : ManagerId) (call : Call) (fresh : s.calls c = .unused)
      (free : (s.managers m).lock = none) (drift : Drift s u) (entry : Entry s l c m call) :
      Move s l ((u.setManager m fun manager => { manager with lock := some c }).setCall c call)
  | fails {u : State} (c : CallId) (m : ManagerId) (failure : Failure) (station : Failing m (s.calls c))
      (free : s.calls c = .unused → (s.managers m).lock = none) (drift : Drift s u) :
      Move s l (u.fail c m failure)
  | joins {u : State} (c : CallId) (m : ManagerId) (resource : DeviceResource)
      (prepare valuePrepared : Bool) (r : CallId)
      (label : l = .start c (.acquire m resource prepare valuePrepared))
      (fresh : s.calls c = .unused) (free : (s.managers m).lock = none)
      (found : (s.managers m).records.get? resource.identity.key = some r)
      (joins : s.Joins m resource prepare valuePrepared r) (drift : Drift s u) :
      Move s l (u.lease c m resource.identity.key r)
  | locks (c : CallId) (m : ManagerId) (resource : DeviceResource) (prepare : Bool)
      (identity : ResourceIdentity) (pending : List ResourceIdentity) (held : List Text)
      (station : s.calls c = .locking m resource prepare (identity :: pending) held)
      (free : s.flocks identity.physical = none) :
      Move s l ({ s with flocks := update s.flocks identity.physical (some c) }.setCall c
        (if pending.isEmpty then .opening m resource prepare (identity.physical :: held)
          else .locking m resource prepare pending (identity.physical :: held)))
  | opens (c : CallId) (m : ManagerId) (resource : DeviceResource) (held : List Text) (isNone : Bool)
      (station : s.calls c = .opening m resource true held) :
      Move s l ((s.setValue c fun value => { value with opened := some resource }).setCall c
        (.preparingValue m resource held isNone))
  | opened (c : CallId) (m : ManagerId) (resource : DeviceResource) (held : List Text)
      (station : s.calls c = .opening m resource false held) :
      Move s l ((s.setValue c fun value => { value with opened := some resource }).finishOpen c m resource false held)
  | prepared (c : CallId) (m : ManagerId) (resource : DeviceResource) (held : List Text) (isNone : Bool)
      (station : s.calls c = .preparingValue m resource held isNone) :
      Move s l (s.finishOpen c m resource true held)
  | abandons (c : CallId) (m : ManagerId) (resource : DeviceResource) (held : List Text)
      (failure : Failure) (reply : PrepareReply) (label : l = .prepares c reply)
      (raised : reply ≠ .returned) (station : s.calls c = .preparingValue m resource held true) :
      Move s l (s.setCall c (.undoing m held failure))
  | rollsBack (c : CallId) (m : ManagerId) (resource : DeviceResource) (held : List Text) (error : Text)
      (station : s.calls c = .preparingValue m resource held false) :
      Move s l ((s.setValue c fun value => { value with closerStarted := true }).setCall c
        (.rollingBack m resource held error))
  | rolledBack (c : CallId) (m : ManagerId) (resource : DeviceResource) (held : List Text)
      (error : Text) (failure : Failure) (station : s.calls c = .rollingBack m resource held error) :
      Move s l ((s.setValue c fun value => { value with closed := true }).setCall c (.undoing m held failure))
  | keeps {u : State} (c : CallId) (m : ManagerId) (resource : DeviceResource) (held : List Text)
      (pending : List ResourceIdentity) (reason error : Text)
      (station : s.calls c = .markingRollback m resource held pending reason error) (drift : Drift s u) :
      Move s l (u.keepUncertain c m resource held reason error)
  | undoes (c : CallId) (m : ManagerId) (file : Text) (held : List Text) (failure : Failure)
      (station : s.calls c = .undoing m (file :: held) failure) :
      Move s l ((s.unlock c file).setCall c (.undoing m held failure))
  | readied (c : CallId) (m : ManagerId) (key : Text) (r : CallId) (label : l = .prepares c .returned)
      (station : s.calls c = .preparing m key r) :
      Move s l (s.prepareRecord c m key r .returned)
  | closesManager (c : CallId) (m : ManagerId) (label : l = .start c (.close m))
      (fresh : s.calls c = .unused) (free : (s.managers m).lock = none) : Move s l (s.close c m)
  | releases (c d : CallId) (lease : Lease) (fresh : s.calls c = .unused)
      (station : s.calls d = .leased lease) (unreleased : lease.released = false)
      (free : (s.managers lease.manager).lock = none) : Move s l (s.release c d lease)
  | closes (c : CallId) (m : ManagerId) (key : Text) (r : CallId) (rest : List (Text × CallId))
      (errors : List Failure) (station : s.calls c = .closeOnce m key r rest errors)
      (free : (s.managers m).lock = none) (found : (s.managers m).records.get? key = some r)
      (notClosing : (s.records r).closing = false) :
      Move s l (((s.setRecord r fun record =>
        { record with closing := true, closeError := none }).setValue r
          fun value => { value with closerStarted := true }).setCall c (.closing m key r rest errors))
  | closed {u : State} (c : CallId) (m : ManagerId) (key : Text) (r : CallId)
      (rest : List (Text × CallId)) (errors : List Failure) (call : Call)
      (station : s.calls c = .closing m key r rest errors)
      (next : call = .unlocking m key r (s.records r).locks rest errors ∨
        call = .clearing m key r (s.records r).resource.identities rest errors)
      (drift : Drift (s.setValue r fun value => { value with closed := true }) u) :
      Move s l (u.setCall c call)
  | unlocks (c : CallId) (m : ManagerId) (key : Text) (r : CallId) (file : Text) (pending : List Text)
      (rest : List (Text × CallId)) (errors : List Failure)
      (station : s.calls c = .unlocking m key r (file :: pending) rest errors) :
      Move s l ((s.unlock r file).setCall c (.unlocking m key r pending rest errors))
  | finishes (c : CallId) (m : ManagerId) (key : Text) (r : CallId) (error : Option Failure)
      (rest : List (Text × CallId)) (errors : List Failure)
      (station : s.calls c = .finishing m key r error rest errors)
      (free : (s.managers m).lock = none) : Move s l (s.finishClose c m key r error rest errors)
  | marked {u : State} (c : CallId) (m : ManagerId) (record : Option CallId)
      (pending : List ResourceIdentity) (reason : Text)
      (station : s.calls c = .markingUncertain m record pending reason) (drift : Drift s u) :
      Move s l ((u.setManager m fun manager => { manager with lock := none }).setCall c (.done []))

/-! ## Every step is a move -/

theorem acquire_move (c : CallId) (m : ManagerId) (resource : DeviceResource)
    (prepare valuePrepared : Bool) (fresh : s.calls c = .unused) (free : (s.managers m).lock = none)
    (label : l = .start c (.acquire m resource prepare valuePrepared)) :
    Move s l (s.acquire cfg c m resource prepare valuePrepared) := by
  have drift := drift_refresh cfg m s
  have refuses {u : State} (drift : Drift s u) (failure : Failure) : Move s l (u.fail c m failure) :=
    .fails c m failure (by rw [fresh]; exact .unused) (fun _ => free) drift
  unfold State.acquire
  split
  · exact refuses (.refl s) .closed
  rename_i openManager
  dsimp only
  split
  · rename_i r found
    rw [drift.table m] at found
    unfold State.acquireRecord
    simp only [records_refresh]
    split
    · exact refuses drift _
    rename_i notClosing
    split
    · exact refuses drift _
    rename_i sameOwner
    split
    · exact refuses drift _
    rename_i sameComponents
    split
    · exact refuses drift _
    rename_i usable
    have notClosing : (s.records r).closing = false := Bool.eq_false_iff.mpr notClosing
    split
    · split
      · exact refuses drift _
      · exact refuses drift _
      · exact .enters c m _ fresh free drift (.readies resource r ⟨_, _, label⟩ found notClosing usable)
    · rename_i ready
      exact .joins c m resource prepare valuePrepared r label fresh free found
        ⟨Bool.eq_false_iff.mpr openManager, notClosing, not_not.mp sameOwner, not_not.mp sameComponents,
          usable, ready⟩ drift
  · rename_i absent
    rw [drift.table m] at absent
    unfold State.acquireNew
    dsimp only
    split
    · exact refuses drift _
    · exact refuses drift _
    · refine .enters c m _ fresh free drift ?_
      split
      · rename_i external
        exact .opens resource _ external absent
      · rename_i owned
        exact .locks resource _ (Bool.eq_false_iff.mpr owned) absent

theorem start_move {c} {op} (fresh : s.calls c = .unused)
    (next : s.start cfg c op = some t) : Move s (.start c op) t := by
  have guard {m : ManagerId} {u : State} (next : s.free m u = some t) : (s.managers m).lock = none ∧ u = t := by
    unfold State.free at next
    split at next
    · exact ⟨‹_›, Option.some.inj next⟩
    · cases next
  have ends {u : State} (drift : Drift s u) (call : Call) (advance : Advance s .unused call) :
      Move s (.start c op) (u.setCall c call) :=
    .advances c call drift (by rw [fresh]; exact advance)
  cases op with
  | acquire m resource prepare valuePrepared =>
    obtain ⟨free, rfl⟩ := guard next
    exact acquire_move c m resource prepare valuePrepared fresh free rfl
  | release d =>
    simp only [State.start] at next
    split at next
    · rename_i lease station
      split at next
      · cases next
        exact ends (.refl s) _ .ends
      · rename_i unreleased
        obtain ⟨free, rfl⟩ := guard next
        exact .releases c d lease fresh station (Bool.eq_false_iff.mpr unreleased) free
    · cases next
  | close m =>
    obtain ⟨free, rfl⟩ := guard next
    exact .closesManager c m rfl fresh free
  | markUncertain m identity reason =>
    obtain ⟨free, rfl⟩ := guard next
    exact .enters c m _ fresh free (.refl s) (.marks _ _ reason)
  | clearUncertainty m identity works =>
    obtain ⟨free, rfl⟩ := guard next
    have refreshed := drift_refresh cfg m s
    unfold State.clearUncertainty
    dsimp only
    split
    · exact .fails c m _ (by rw [fresh]; exact .unused) (fun _ => free) refreshed
    · have erased : Drift s ((s.refreshUnresolved cfg m).setManager m fun manager =>
          { manager with unresolved := manager.unresolved.erase identity.key }) := by
        refine refreshed.trans (drift_setManager _ m ?_ ?_ ?_) <;> rfl
      split
      · rename_i cleared
        exact ends (erased.trans (drift_clear cleared)) _ .ends
      · rename_i cleared
        exact .fails c m _ (by rw [fresh]; exact .unused) (fun _ => free)
          (erased.trans (drift_clear cleared))
  | status m =>
    obtain ⟨free, rfl⟩ := guard next
    have refreshed := drift_refresh cfg m s
    unfold State.status
    dsimp only
    split <;> exact ends refreshed _ (.reports _)

theorem store_move {c} {works} (next : s.store cfg c works = some t) : Move s l t := by
  unfold State.store at next
  split at next <;> rename_i station
  · rename_i m resource held identity pending reason error
    cases next
    unfold State.markRollback
    split
    · rename_i u marked
      have drift := drift_mark marked
      split
      · exact .keeps c m resource held _ reason error station drift
      · exact .advances c _ drift (by rw [station]; exact .marksRollback ..)
    · rename_i u error' marked
      exact .keeps c m resource held _ reason error station (drift_mark marked)
    · rename_i u failure _ marked
      exact .fails c m failure (by rw [station]; exact .markingRollback ..)
        (fun unused => nomatch station.symm.trans unused) (drift_mark marked)
  · rename_i m key identity pending error
    cases next
    unfold State.markPrepare
    have fails {u : State} (failure : Failure) (drift : Drift s u) : Move s l (u.fail c m failure) :=
      .fails c m failure (by rw [station]; exact .markingPrepare ..)
        (fun unused => nomatch station.symm.trans unused) drift
    split
    · rename_i u marked
      have drift := drift_mark marked
      split
      · exact fails _ drift
      · exact .advances c _ drift (by rw [station]; exact .marksPrepare ..)
    · rename_i u failure marked
      exact fails failure (drift_mark marked)
  · rename_i m key r identity pending error rest errors
    cases next
    unfold State.markClose
    dsimp only
    split
    · rename_i u marked
      have drift := drift_mark marked
      split
      · exact .advances c _ drift (by rw [station]; exact .closeFails ..)
      · exact .advances c _ drift (by rw [station]; exact .marksClose ..)
    · rename_i u error' marked
      refine .advances c _ ((drift_mark marked).trans (drift_setRecord u r ?_))
        (by rw [station]; exact .closeFails ..)
      exact ⟨rfl, rfl, rfl, rfl, rfl, .inl rfl⟩
    · rename_i u failure _ marked
      exact .advances c _ (drift_mark marked) (by rw [station]; exact .closeFails ..)
  · rename_i m key r identity pending rest errors
    cases next
    unfold State.clearClose
    split
    · rename_i u cleared
      have drift := drift_clear cleared
      split
      · rw [(drift.records r).locks]
        exact .advances c _ drift (by rw [station]; exact .cleared ..)
      · exact .advances c _ drift (by rw [station]; exact .clears ..)
    · rename_i u error' cleared
      refine .advances c _ ((drift_clear cleared).trans (drift_setRecord u r ?_))
        (by rw [station]; exact .clearFails ..)
      exact ⟨rfl, rfl, rfl, rfl, rfl, .inr rfl⟩
    · rename_i u failure _ cleared
      exact .advances c _ (drift_clear cleared) (by rw [station]; exact .clearFails ..)
  · rename_i m record identity pending reason
    cases next
    unfold State.markNext
    dsimp only
    have remembered : Drift s (s.setManager m fun manager =>
        { manager with unresolved := manager.unresolved.set identity.key reason }) := by
      refine drift_setManager s m ?_ ?_ ?_ <;> rfl
    split
    · rename_i u marked
      have drift := remembered.trans (drift_mark marked)
      split
      · split
        · exact .marked c m none _ reason station drift
        · rename_i r
          refine .marked c m (some r) _ reason station (drift.trans (drift_setRecord u r ?_))
          exact ⟨rfl, rfl, rfl, rfl, rfl, .inr rfl⟩
      · exact .advances c _ drift (by rw [station]; exact .marksUncertain ..)
    · rename_i u failure marked
      exact .fails c m failure (by rw [station]; exact .markingUncertain ..)
        (fun unused => nomatch station.symm.trans unused) (remembered.trans (drift_mark marked))
  · cases next

theorem proceed_move {c} (next : s.proceed c = some t) : Move s l t := by
  have guard {m : ManagerId} {u : State} (next : s.free m u = some t) : (s.managers m).lock = none ∧ u = t := by
    unfold State.free at next
    split at next
    · exact ⟨‹_›, Option.some.inj next⟩
    · cases next
  unfold State.proceed at next
  split at next <;> rename_i station
  · rename_i m failure
    cases next
    exact .fails c m failure (by rw [station]; exact .undoing ..)
      (fun unused => nomatch station.symm.trans unused) (.refl s)
  · rename_i m file held failure
    cases next
    exact .undoes c m file held failure station
  · rename_i m key r rest errors
    obtain ⟨free, rfl⟩ := guard next
    unfold State.closeOnce
    split
    · rename_i gone
      exact .advances c _ (.refl s) (by rw [station]; simpa using .skips m key r rest errors gone)
    split
    · rename_i closing
      exact .advances c _ (.refl s) (by rw [station]; exact .waits m key r rest errors closing)
    · rename_i found notClosing
      exact .closes c m key r rest errors station free (not_not.mp found) (Bool.eq_false_iff.mpr notClosing)
  · rename_i m key r rest errors
    split at next
    · cases next
    · obtain ⟨free, rfl⟩ := guard next
      unfold State.await
      split <;> exact .advances c _ (.refl s) (by rw [station]; exact .awaits ..)
  · rename_i m key r rest errors
    cases next
    exact .advances c _ (.refl s) (by rw [station]; exact .unlocked ..)
  · rename_i m key r file pending rest errors
    cases next
    exact .unlocks c m key r file pending rest errors station
  · rename_i m key r error rest errors
    obtain ⟨free, rfl⟩ := guard next
    exact .finishes c m key r error rest errors station free
  · cases next

/-- **A step is one of the moves.** -/
theorem step_move (next : step cfg s l = some t) : Move s l t := by
  cases l with simp only [step] at next
  | start =>
    split at next
    · exact start_move ‹_› next
    · cases next
  | lock c works =>
    split at next
    · rename_i m resource prepare identity pending held station
      cases next
      unfold State.lockNext
      split
      · exact .advances c _ (.refl s) (by rw [station]; exact .lockFails ..)
      split
      · exact .advances c _ (.refl s) (by rw [station]; exact .lockFails ..)
      · rename_i free
        exact .locks c m resource prepare identity pending held station (by simpa using free)
    · cases next
  | opens c reply =>
    split at next
    · rename_i m resource prepare held station
      cases next
      cases reply with
      | raised => exact .advances c _ (.refl s) (by rw [station]; exact .openFails ..)
      | returned isNone =>
        cases prepare with
        | true => exact .opens c m resource held isNone station
        | false => exact .opened c m resource held station
    · cases next
  | prepares c reply =>
    split at next <;> rename_i station
    · rename_i m resource held isNone
      cases next
      have fails (error : Text) (raised : reply ≠ .returned) : Move s (.prepares c reply)
          (if isNone then s.setCall c (.undoing m held (.openFailed resource.identity.key error))
            else (s.setValue c fun value => { value with closerStarted := true }).setCall c
              (.rollingBack m resource held error)) := by
        cases isNone with
        | true => exact .abandons c m resource held _ reply rfl raised station
        | false => exact .rollsBack c m resource held error station
      cases reply with
      | returned => exact .prepared c m resource held isNone station
      | refused error | raised error => exact fails error nofun
    · rename_i m key r
      cases next
      cases reply with
      | returned => exact .readied c m key r rfl station
      | refused =>
        exact .fails c m _ (by rw [station]; exact .preparing ..)
          (fun unused => nomatch station.symm.trans unused) (.refl s)
      | raised =>
        refine .advances c _ (drift_setRecord s r ?_) (by rw [station]; exact .unready ..)
        exact ⟨rfl, rfl, rfl, rfl, rfl, .inr rfl⟩
    · cases next
  | closes c reply =>
    split at next <;> rename_i station
    · rename_i m resource held error
      cases next
      cases reply with
      | returned => exact .rolledBack c m resource held error _ station
      | raised =>
        refine .advances c _ (drift_setManager s m ?_ ?_ ?_) (by rw [station]; exact .rollFails ..) <;> rfl
    · rename_i m key r rest errors
      cases next
      cases reply with
      | returned =>
        simp only [State.closeRecord]
        split
        · exact .closed c m key r rest errors _ station (.inl rfl) (.refl _)
        · refine .closed c m key r rest errors _ station (.inr rfl) (drift_setManager _ m ?_ ?_ ?_) <;> rfl
      | raised =>
        refine .advances c _ ((drift_setRecord s r ?_).trans (drift_setManager _ m ?_ ?_ ?_))
          (by rw [station]; exact .closerFails ..)
        · exact ⟨rfl, rfl, rfl, rfl, rfl, .inr rfl⟩
        · rfl
        · rfl
        · rfl
    · cases next
  | store => exact store_move next
  | proceed => exact proceed_move next
  | corrupt =>
    cases next
    exact .drifts ⟨rfl, rfl, rfl, fun r => .refl (s.records r), fun _ => rfl, fun _ => rfl, fun _ => rfl⟩

end EmbodiRun.Devices.Lifecycle
