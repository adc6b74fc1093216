/-
# Devices.Lifecycle -- `DeviceManager`, any number of them as one machine

The managers of a host share a lock directory, and those with the same state file share its
markers.  One definition for each piece of a method that no other thread can cut in two: a
section under the manager's lock, one file lock taken or given back, one update of the state
file, one driver call.  `step` interleaves them.

`acquire` keeps its manager's lock from its first section to its end, driver calls
included; closing a record gives the lock up while the closer runs.  A record and its value
go by the call of `acquire` that made them.  Drivers do not call back into the manager that
is opening or preparing them.
-/
import EmbodiRun.Data.Dict
import EmbodiRun.Devices.Identity
import EmbodiRun.Transition.Machine

namespace EmbodiRun.Devices.Lifecycle

open Function
open Data

/-! ## Data -/

abbrev ManagerId := Nat
abbrev CallId := Nat
abbrev FileId := Nat

structure Config where
  nodeId : ManagerId → Text
  stateFile : ManagerId → FileId

inductive Failure where
  /-- `DeviceError`: the manager is closed, or the declaration contradicts the record's. -/
  | closed
  | conflictingOwner (key : Text)
  | conflictingComponents (key : Text)
  /-- `DeviceBusyError`; `closing` where the same manager is closing the record. -/
  | busy (identity : ResourceIdentity) (closing : Bool)
  /-- `DeviceUncertainError`: the record is held, the state is unreadable, or it has a marker. -/
  | held (key : Text)
  | unreadable (error : Text)
  | unresolved (key reason : Text)
  /-- `DeviceStateError`, and an `OSError` of a lock or of the state file. -/
  | state (error : Text)
  | os
  /-- `DeviceOpenError`, `RobotPreparationRefused` and a failed preparation. -/
  | openFailed (key error : Text)
  | refused (error : Text)
  | prepareFailed (key error : Text)
  /-- `DeviceCloseError`: the closer failed, or only the state file could not be updated. -/
  | closeFailed (key error : Text)
  | closedUnrecorded (key error : Text)
  deriving DecidableEq

/-- The failure is a `DeviceUncertainError`. -/
def Failure.isUncertain : Failure → Bool
  | .held _ | .unreadable _ | .unresolved _ _ => true
  | _ => false

inductive RecordState where
  | opened | external | uncertain
  deriving DecidableEq

/-- `_Record`; `locks` are the files it holds, the last one taken first. -/
structure Record where
  resource : DeviceResource
  locks : List Text
  references : Int := 0
  prepared : Bool := false
  state : RecordState := .opened
  error : Option Text := none
  uncertainBefore : Bool := false
  leases : List Nat := []
  closing : Bool := false
  closeError : Option Failure := none

/-- What a driver has seen of the value of one `acquire`. -/
structure Value where
  /-- The resource whose opener has returned. -/
  opened : Option DeviceResource := none
  closerStarted : Bool := false
  closed : Bool := false

def Value.Live (value : Value) : Prop := value.opened.isSome = true ∧ value.closed = false

def Value.Fresh (value : Value) : Prop :=
  value.opened = none ∧ value.closed = false ∧ value.closerStarted = false

instance (value : Value) : Decidable value.Live := inferInstanceAs (Decidable (_ ∧ _))

/-- `DeviceLease`; `value` is the record the lease was given on. -/
structure Lease where
  manager : ManagerId
  key : Text
  token : Nat
  value : CallId
  released : Bool := false
  deriving DecidableEq

structure Manager where
  closed : Bool := false
  unresolved : Dict Text Text := Dict.empty
  /-- `state_store.error`. -/
  storeError : Option Text := none
  records : Dict Text CallId := Dict.empty
  nextToken : Nat := 1
  /-- The call inside `acquire` or `mark_uncertain`. -/
  lock : Option CallId := none

structure DeviceStatus where
  identity : ResourceIdentity
  state : Option RecordState
  references : Int
  error : Option Text
  deriving DecidableEq

inductive Call where
  | unused
  /-- `acquire` of a resource without a record: `pending` locks are still to be taken. -/
  | locking (m : ManagerId) (resource : DeviceResource) (prepare : Bool)
      (pending : List ResourceIdentity) (held : List Text)
  | opening (m : ManagerId) (resource : DeviceResource) (prepare : Bool) (held : List Text)
  | preparingValue (m : ManagerId) (resource : DeviceResource) (held : List Text) (isNone : Bool)
  | rollingBack (m : ManagerId) (resource : DeviceResource) (held : List Text) (error : Text)
  | markingRollback (m : ManagerId) (resource : DeviceResource) (held : List Text)
      (pending : List ResourceIdentity) (reason error : Text)
  | undoing (m : ManagerId) (held : List Text) (failure : Failure)
  /-- `acquire` of a resource with a record: `_prepare_record`. -/
  | preparing (m : ManagerId) (key : Text) (r : CallId)
  | markingPrepare (m : ManagerId) (key : Text) (pending : List ResourceIdentity) (error : Text)
  | leased (lease : Lease)
  /-- `_close_record_once`, with what is left to close and the errors so far. -/
  | closeOnce (m : ManagerId) (key : Text) (r : CallId) (rest : List (Text × CallId))
      (errors : List Failure)
  | awaiting (m : ManagerId) (key : Text) (r : CallId) (rest : List (Text × CallId))
      (errors : List Failure)
  | closing (m : ManagerId) (key : Text) (r : CallId) (rest : List (Text × CallId))
      (errors : List Failure)
  | markingClose (m : ManagerId) (key : Text) (r : CallId) (pending : List ResourceIdentity)
      (error : Text) (rest : List (Text × CallId)) (errors : List Failure)
  | clearing (m : ManagerId) (key : Text) (r : CallId) (pending : List ResourceIdentity)
      (rest : List (Text × CallId)) (errors : List Failure)
  | unlocking (m : ManagerId) (key : Text) (r : CallId) (pending : List Text)
      (rest : List (Text × CallId)) (errors : List Failure)
  | finishing (m : ManagerId) (key : Text) (r : CallId) (error : Option Failure)
      (rest : List (Text × CallId)) (errors : List Failure)
  /-- `mark_uncertain`. -/
  | markingUncertain (m : ManagerId) (record : Option CallId) (pending : List ResourceIdentity)
      (reason : Text)
  | reported (status : DeviceStatus)
  /-- The call is over; the errors are what it raises. -/
  | done (errors : List Failure)
  | failed (failure : Failure)
  deriving DecidableEq

def Call.closeNext (m : ManagerId) (rest : List (Text × CallId)) (errors : List Failure) : Call :=
  match rest with
  | [] => .done errors
  | (key, r) :: rest => .closeOnce m key r rest errors

/-- The state files by their contents, or by why they cannot be read, and the lock files by the
`acquire` whose descriptor holds them. -/
structure State where
  managers : ManagerId → Manager
  records : CallId → Record
  files : FileId → Except Text (Dict Text Text)
  flocks : Text → Option CallId
  values : CallId → Value
  calls : CallId → Call

def State.init (files : FileId → Except Text (Dict Text Text)) : State where
  managers := fun _ => {}
  records := fun _ => { resource := { identity := ⟨[], [], []⟩ }, locks := [] }
  files := files
  flocks := fun _ => none
  values := fun _ => {}
  calls := fun _ => .unused

inductive Reply where
  | returned
  | raised (error : Text)

/-- How `opener` ends: with a value, which may be `None`. -/
inductive OpenReply where
  | returned (isNone : Bool)
  | raised (error : Text)

inductive PrepareReply where
  | returned
  | refused (error : Text)
  | raised (error : Text)
  deriving DecidableEq

/-- A public method with its arguments; `valuePrepared` is what `acquire` reads off the value of a
record that is there, `lease` the call that returned it. -/
inductive Operation where
  | acquire (m : ManagerId) (resource : DeviceResource) (prepare valuePrepared : Bool)
  | release (lease : CallId)
  | close (m : ManagerId)
  | markUncertain (m : ManagerId) (identity : ResourceIdentity) (reason : Text)
  | clearUncertainty (m : ManagerId) (identity : ResourceIdentity) (works : Bool)
  | status (m : ManagerId) (identity : ResourceIdentity)

namespace State

/-! ## Assignments -/

def setCall (c : CallId) (call : Call) (s : State) : State :=
  { s with calls := update s.calls c call }

def setManager (m : ManagerId) (change : Manager → Manager) (s : State) : State :=
  { s with managers := update s.managers m (change (s.managers m)) }

def setRecord (r : CallId) (change : Record → Record) (s : State) : State :=
  { s with records := update s.records r (change (s.records r)) }

def setValue (r : CallId) (change : Value → Value) (s : State) : State :=
  { s with values := update s.values r (change (s.values r)) }

/-- `_PosixResourceLock.release`, of a lock that `owner` took. -/
def unlock (owner : CallId) (file : Text) (s : State) : State :=
  if s.flocks file = some owner then { s with flocks := update s.flocks file none } else s

/-- An exception of `acquire`, which gives up the lock of its manager. -/
def fail (c : CallId) (m : ManagerId) (failure : Failure) (s : State) : State :=
  (s.setManager m fun manager => { manager with lock := none }).setCall c (.failed failure)

/-! ## The state file -/

section

variable (cfg : Config)

def refreshUnresolved (m : ManagerId) (s : State) : State :=
  match s.files (cfg.stateFile m) with
  | .error error =>
    s.setManager m fun manager =>
      { manager with storeError := some error, unresolved := Dict.empty }
  | .ok current =>
    s.setManager m fun manager =>
      { manager with
        storeError := none
        unresolved := Dict.ofItems (current.items.map fun item => (normalizeKey (cfg.nodeId m) item.1, item.2)) }

/-- An update of the state file, and how it fails; `works` is whether the file can be written. -/
def updateFile (m : ManagerId) (works : Bool) (change : Dict Text Text → Dict Text Text) (s : State) :
    State × Option Failure :=
  if !works then (s, some .os)
  else match s.files (cfg.stateFile m) with
    | .error error =>
      (s.setManager m fun manager => { manager with storeError := some error }, some (.state error))
    | .ok current =>
      ({ s with files := update s.files (cfg.stateFile m) (.ok (change current)) }.setManager m
        fun manager => { manager with storeError := none }, none)

def mark (m : ManagerId) (identity : ResourceIdentity) (reason : Text) (works : Bool) (s : State) :
    State × Option Failure :=
  s.updateFile cfg m works fun unresolved =>
    (unresolved.retain fun key => physicalKey key ≠ identity.physical).set identity.key reason

def clear (m : ManagerId) (identity : ResourceIdentity) (works : Bool) (s : State) : State × Option Failure :=
  s.updateFile cfg m works fun unresolved =>
    unresolved.retain fun key => physicalKey key ≠ identity.physical

end

def reason? (m : ManagerId) (keys : List Text) (s : State) : Option Text :=
  keys.findSome? (s.managers m).unresolved.get?

/-! ## `acquire` -/

/-- A lease on the record `r`, and the lock given up. -/
def lease (c : CallId) (m : ManagerId) (key : Text) (r : CallId) (s : State) : State :=
  let token := (s.managers m).nextToken
  ((s.setManager m fun manager => { manager with nextToken := token + 1, lock := none }).setRecord r fun record =>
      { record with references := record.references + 1, leases := record.leases ++ [token] }).setCall c
    (.leased { manager := m, key, token, value := r })

def addRecord (c : CallId) (m : ManagerId) (record : Record) (s : State) : State :=
  { s with records := update s.records c record }.setManager m fun manager =>
    { manager with records := manager.records.set record.resource.identity.key c }

/-- The end of an `acquire` that has opened its resource. -/
def finishOpen (c : CallId) (m : ManagerId) (resource : DeviceResource) (prepare : Bool)
    (held : List Text) (s : State) : State :=
  let uncertain := (resource.identities.any fun identity =>
    ((s.managers m).unresolved.get? identity.key).isSome) || (s.managers m).storeError.isSome
  (s.addRecord c m
    { resource
      locks := held
      prepared := prepare
      state := if uncertain then .uncertain else if resource.externalOwner then .external else .opened
      uncertainBefore := uncertain }).lease c m resource.identity.key c

/-- The end of an `acquire` whose cleanup failed: the handle and its locks are kept. -/
def keepUncertain (c : CallId) (m : ManagerId) (resource : DeviceResource) (held : List Text)
    (reason error : Text) (s : State) : State :=
  (s.addRecord c m
    { resource, locks := held, state := .uncertain, error := some reason
      uncertainBefore := true }).fail c m (.openFailed resource.identity.key error)

/-- What `acquire` does about a record that is there. -/
def acquireRecord (c : CallId) (m : ManagerId) (resource : DeviceResource)
    (prepare valuePrepared : Bool) (r : CallId) (s : State) : State :=
  let key := resource.identity.key
  let record := s.records r
  let components := record.resource.componentIdentities.map ResourceIdentity.key
  if record.closing then s.fail c m (.busy resource.identity true)
  else if record.resource.externalOwner ≠ resource.externalOwner then
    s.fail c m (.conflictingOwner key)
  else if components ≠ resource.componentIdentities.map ResourceIdentity.key then
    s.fail c m (.conflictingComponents key)
  else if record.references = 0 ∧ record.state = .uncertain then s.fail c m (.held key)
  else if prepare ∧ (!record.prepared ∨ (record.resource.externalOwner ∧ !valuePrepared)) then
    match (s.managers m).storeError, s.reason? m (key :: components) with
    | some error, _ => s.fail c m (.unreadable error)
    | none, some reason => s.fail c m (.unresolved key reason)
    | none, none =>
      (s.setManager m fun manager => { manager with lock := some c }).setCall c (.preparing m key r)
  else s.lease c m key r

/-- What `acquire` does where there is no record. -/
def acquireNew (c : CallId) (m : ManagerId) (resource : DeviceResource) (prepare : Bool) (s : State) : State :=
  let key := resource.identity.key
  match prepare, (s.managers m).storeError, s.reason? m (resource.identities.map ResourceIdentity.key) with
  | true, some error, _ => s.fail c m (.unreadable error)
  | true, none, some reason => s.fail c m (.unresolved key reason)
  | _, _, _ =>
    (s.setManager m fun manager => { manager with lock := some c }).setCall c
      (if resource.externalOwner then .opening m resource prepare []
        else .locking m resource prepare resource.lockOrder [])

/-- `acquire` up to its first driver call or file lock. -/
def acquire (cfg : Config) (c : CallId) (m : ManagerId) (resource : DeviceResource)
    (prepare valuePrepared : Bool) (s : State) : State :=
  if (s.managers m).closed then s.fail c m .closed
  else
    let s := s.refreshUnresolved cfg m
    match (s.managers m).records.get? resource.identity.key with
    | some r => s.acquireRecord c m resource prepare valuePrepared r
    | none => s.acquireNew c m resource prepare

/-- `_PosixResourceLock.acquire` of the next identity. -/
def lockNext (c : CallId) (m : ManagerId) (resource : DeviceResource) (prepare : Bool)
    (identity : ResourceIdentity) (pending : List ResourceIdentity) (held : List Text) (works : Bool)
    (s : State) : State :=
  if !works then s.setCall c (.undoing m held .os)
  else if (s.flocks identity.physical).isSome then
    s.setCall c (.undoing m held (.busy identity false))
  else
    let held := identity.physical :: held
    { s with flocks := update s.flocks identity.physical (some c) }.setCall c
      (if pending.isEmpty then .opening m resource prepare held else .locking m resource prepare pending held)

/-- `resource.opener()`. -/
def opens (c : CallId) (m : ManagerId) (resource : DeviceResource) (prepare : Bool) (held : List Text)
    (reply : OpenReply) (s : State) : State :=
  match reply with
  | .raised error => s.setCall c (.undoing m held (.openFailed resource.identity.key error))
  | .returned isNone =>
    let s := s.setValue c fun value => { value with opened := some resource }
    if prepare then s.setCall c (.preparingValue m resource held isNone)
    else s.finishOpen c m resource prepare held

/-- `_prepare_value` of a resource that has just been opened. -/
def prepareValue (c : CallId) (m : ManagerId) (resource : DeviceResource) (held : List Text)
    (isNone : Bool) (reply : PrepareReply) (s : State) : State :=
  let fails (error : Text) : State :=
    -- `value is not None` is how the cleanup knows that there is something to close.
    if isNone then s.setCall c (.undoing m held (.openFailed resource.identity.key error))
    else (s.setValue c fun value => { value with closerStarted := true }).setCall c
      (.rollingBack m resource held error)
  match reply with
  | .returned => s.finishOpen c m resource true held
  | .refused error | .raised error => fails error

/-- The closer in the cleanup of `acquire`. -/
def rollBack (c : CallId) (m : ManagerId) (resource : DeviceResource) (held : List Text)
    (error : Text) (reply : Reply) (s : State) : State :=
  match reply with
  | .returned =>
    (s.setValue c fun value => { value with closed := true }).setCall c
      (.undoing m held (.openFailed resource.identity.key error))
  | .raised reason =>
    (s.setManager m fun manager =>
      { manager with
        unresolved := resource.identities.foldl
          (fun unresolved identity => unresolved.set identity.key reason) manager.unresolved }).setCall c
      (.markingRollback m resource held resource.identities reason error)

def markRollback (cfg : Config) (c : CallId) (m : ManagerId) (resource : DeviceResource)
    (held : List Text) (identity : ResourceIdentity) (pending : List ResourceIdentity)
    (reason error : Text) (works : Bool) (s : State) : State :=
  match s.mark cfg m identity reason works with
  | (s, none) =>
    if pending.isEmpty then s.keepUncertain c m resource held reason error
    else s.setCall c (.markingRollback m resource held pending reason error)
  | (s, some (.state _)) => s.keepUncertain c m resource held reason error
  | (s, some failure) => s.fail c m failure

/-- The callback of `_prepare_record`. -/
def prepareRecord (c : CallId) (m : ManagerId) (key : Text) (r : CallId) (reply : PrepareReply) (s : State) : State :=
  match reply with
  | .returned =>
    (s.setRecord r fun record =>
      { record with
        prepared := true
        error := none
        state := if record.resource.externalOwner then .external else .opened }).lease c m key r
  | .refused error => s.fail c m (.refused error)
  | .raised error =>
    (s.setRecord r fun record =>
      { record with state := .uncertain, error := some error, uncertainBefore := true }).setCall c
      (.markingPrepare m key (s.records r).resource.identities error)

def markPrepare (cfg : Config) (c : CallId) (m : ManagerId) (key : Text) (identity : ResourceIdentity)
    (pending : List ResourceIdentity) (error : Text) (works : Bool) (s : State) : State :=
  match s.mark cfg m identity error works with
  | (s, none) =>
    if pending.isEmpty then s.fail c m (.prepareFailed key error)
    else s.setCall c (.markingPrepare m key pending error)
  | (s, some failure) => s.fail c m failure

/-! ## Closing -/

/-- What follows `_close_record_once`. -/
def closeNext (c : CallId) (m : ManagerId) (error : Option Failure) (rest : List (Text × CallId))
    (errors : List Failure) (s : State) : State :=
  s.setCall c (.closeNext m rest (errors ++ error.toList))

/-- `DeviceLease.close` of a lease that is not released, with the section of `_release`; `d` is the
call that returned the lease. -/
def release (c d : CallId) (lease : Lease) (s : State) : State :=
  let s := s.setCall d (.leased { lease with released := true })
  match (s.managers lease.manager).records.get? lease.key with
  | none => s.setCall c (.done [])
  | some r =>
    if lease.token ∉ (s.records r).leases then s.setCall c (.done [])
    else
      let references := (s.records r).references - 1
      let s := s.setRecord r fun record =>
        { record with references := references, leases := record.leases.erase lease.token }
      if references ≠ 0 then s.setCall c (.done [])
      else s.setCall c (.closeOnce lease.manager lease.key r [] [])

/-- The section of `DeviceManager.close`. -/
def close (c : CallId) (m : ManagerId) (s : State) : State :=
  (s.setManager m fun manager => { manager with closed := true }).closeNext c m none (s.managers m).records.items []

/-- The first section of `_close_record_once`, and the call of the closer. -/
def closeOnce (c : CallId) (m : ManagerId) (key : Text) (r : CallId) (rest : List (Text × CallId))
    (errors : List Failure) (s : State) : State :=
  if (s.managers m).records.get? key ≠ some r then s.closeNext c m none rest errors
  else if (s.records r).closing then s.setCall c (.awaiting m key r rest errors)
  else
    ((s.setRecord r fun record => { record with closing := true, closeError := none }).setValue r
      fun value => { value with closerStarted := true }).setCall c (.closing m key r rest errors)

/-- A waiter of `_close_record_once` once the record is not closing any more. -/
def await (c : CallId) (m : ManagerId) (key : Text) (r : CallId) (rest : List (Text × CallId))
    (errors : List Failure) (s : State) : State :=
  if (s.managers m).records.get? key ≠ some r then s.closeNext c m none rest errors
  else s.closeNext c m (s.records r).closeError rest errors

/-- `_close_record` up to its first update of the state file. -/
def closeRecord (c : CallId) (m : ManagerId) (key : Text) (r : CallId) (rest : List (Text × CallId))
    (errors : List Failure) (reply : Reply) (s : State) : State :=
  let identities := (s.records r).resource.identities
  match reply with
  | .raised error =>
    ((s.setRecord r fun record => { record with state := .uncertain, error := some error }).setManager m
      fun manager =>
        { manager with
          unresolved := identities.foldl
            (fun unresolved identity => unresolved.set identity.key error) manager.unresolved }).setCall c
      (.markingClose m key r identities error rest errors)
  | .returned =>
    let s := s.setValue r fun value => { value with closed := true }
    if (s.records r).uncertainBefore then
      s.setCall c (.unlocking m key r (s.records r).locks rest errors)
    else
      (s.setManager m fun manager =>
        { manager with
          unresolved := identities.foldl
            (fun unresolved identity => unresolved.erase identity.key) manager.unresolved }).setCall c
        (.clearing m key r identities rest errors)

def markClose (cfg : Config) (c : CallId) (m : ManagerId) (key : Text) (r : CallId)
    (identity : ResourceIdentity) (pending : List ResourceIdentity) (error : Text)
    (rest : List (Text × CallId)) (errors : List Failure) (works : Bool) (s : State) : State :=
  let failed (error : Text) := Failure.closeFailed (s.records r).resource.identity.key error
  match s.mark cfg m identity error works with
  | (s, none) =>
    if pending.isEmpty then s.setCall c (.finishing m key r (some (failed error)) rest errors)
    else s.setCall c (.markingClose m key r pending error rest errors)
  | (s, some (.state stateError)) =>
    let error := error ++ "; lifecycle state unavailable: ".toList ++ stateError
    (s.setRecord r fun record => { record with error := some error }).setCall c
      (.finishing m key r (some (failed error)) rest errors)
  | (s, some failure) => s.setCall c (.finishing m key r (some failure) rest errors)

def clearClose (cfg : Config) (c : CallId) (m : ManagerId) (key : Text) (r : CallId)
    (identity : ResourceIdentity) (pending : List ResourceIdentity) (rest : List (Text × CallId))
    (errors : List Failure) (works : Bool) (s : State) : State :=
  match s.clear cfg m identity works with
  | (s, none) =>
    if pending.isEmpty then s.setCall c (.unlocking m key r (s.records r).locks rest errors)
    else s.setCall c (.clearing m key r pending rest errors)
  | (s, some (.state error)) =>
    let failure := Failure.closedUnrecorded (s.records r).resource.identity.key error
    (s.setRecord r fun record =>
      { record with state := .uncertain, error := some error, uncertainBefore := true }).setCall c
      (.finishing m key r (some failure) rest errors)
  | (s, some failure) => s.setCall c (.finishing m key r (some failure) rest errors)

/-- The last section of `_close_record_once`. -/
def finishClose (c : CallId) (m : ManagerId) (key : Text) (r : CallId) (error : Option Failure)
    (rest : List (Text × CallId)) (errors : List Failure) (s : State) : State :=
  let s := match error with
    | none =>
      (s.setRecord r fun record => { record with closing := false, closeError := none }).setManager m
        fun manager => { manager with records := manager.records.erase key }
    | some failure =>
      (s.setRecord r fun record =>
        { record with
          closing := false
          references := 0
          leases := []
          state := .uncertain
          closeError := some failure }).setManager m fun manager =>
        { manager with records := manager.records.set key r }
  s.closeNext c m error rest errors

/-! ## `mark_uncertain`, `clear_uncertainty` and `status` -/

/-- `mark_uncertain` up to its first update of the state file. -/
def markUncertain (c : CallId) (m : ManagerId) (identity : ResourceIdentity) (reason : Text) (s : State) : State :=
  let record := (s.managers m).records.get? identity.key
  let identities := match record with
    | some r => (s.records r).resource.identities
    | none => [identity]
  (s.setManager m fun manager => { manager with lock := some c }).setCall c
    (.markingUncertain m record identities reason)

/-- The next marker of `mark_uncertain`, and its end. -/
def markNext (cfg : Config) (c : CallId) (m : ManagerId) (record : Option CallId)
    (identity : ResourceIdentity) (pending : List ResourceIdentity) (reason : Text) (works : Bool)
    (s : State) : State :=
  let s := s.setManager m fun manager =>
    { manager with unresolved := manager.unresolved.set identity.key reason }
  match s.mark cfg m identity reason works with
  | (s, none) =>
    if pending.isEmpty then
      let s := match record with
        | none => s
        | some r => s.setRecord r fun record =>
          { record with state := .uncertain, error := some reason, uncertainBefore := true }
      (s.setManager m fun manager => { manager with lock := none }).setCall c (.done [])
    else s.setCall c (.markingUncertain m record pending reason)
  | (s, some failure) => s.fail c m failure

def clearUncertainty (cfg : Config) (c : CallId) (m : ManagerId) (identity : ResourceIdentity)
    (works : Bool) (s : State) : State :=
  let s := s.refreshUnresolved cfg m
  match (s.managers m).storeError with
  | some error => s.fail c m (.unreadable error)
  | none =>
    let s := s.setManager m fun manager =>
      { manager with unresolved := manager.unresolved.erase identity.key }
    match s.clear cfg m identity works with
    | (s, none) => s.setCall c (.done [])
    | (s, some failure) => s.fail c m failure

/-- `status` of one identity; `none` stands for the state "closed". -/
def status (cfg : Config) (c : CallId) (m : ManagerId) (identity : ResourceIdentity) (s : State) : State :=
  let s := s.refreshUnresolved cfg m
  match (s.managers m).records.get? identity.key with
  | some r =>
    let record := s.records r
    s.setCall c (.reported
      { identity, state := some record.state, references := record.references, error := record.error })
  | none =>
    let reason := (s.managers m).unresolved.get? identity.key
    s.setCall c (.reported
      { identity
        state := if reason.any fun text => !text.isEmpty then some .uncertain else none
        references := 0
        error := reason })

end State

/-! ## The machine -/

/-- One move of one thread; `c` is a call. -/
inductive Label where
  /-- A public method is called, up to the end of its first section. -/
  | start (c : CallId) (op : Operation)
  /-- The next file lock of `c`; `works` is whether the file can be opened and written. -/
  | lock (c : CallId) (works : Bool)
  /-- The driver call of `c` ends: an opener, a preparation, a closer. -/
  | opens (c : CallId) (reply : OpenReply)
  | prepares (c : CallId) (reply : PrepareReply)
  | closes (c : CallId) (reply : Reply)
  /-- The next update of the state file by `c`. -/
  | store (c : CallId) (works : Bool)
  /-- The next section of `c`, or the next lock it gives back. -/
  | proceed (c : CallId)
  /-- Something else makes a state file unreadable. -/
  | corrupt (f : FileId) (error : Text)

namespace State

/-- Nobody is inside `acquire` or `mark_uncertain` of the manager. -/
def free (m : ManagerId) (s : State) (next : State) : Option State :=
  if (s.managers m).lock = none then some next else none

def start (cfg : Config) (c : CallId) (op : Operation) (s : State) : Option State :=
  match op with
  | .acquire m resource prepare valuePrepared =>
    s.free m (s.acquire cfg c m resource prepare valuePrepared)
  | .release d => match s.calls d with
      | .leased lease =>
        if lease.released then some (s.setCall c (.done []))
        else s.free lease.manager (s.release c d lease)
      | _ => none
  | .close m => s.free m (s.close c m)
  | .markUncertain m identity reason => s.free m (s.markUncertain c m identity reason)
  | .clearUncertainty m identity works => s.free m (s.clearUncertainty cfg c m identity works)
  | .status m identity => s.free m (s.status cfg c m identity)

def store (cfg : Config) (c : CallId) (works : Bool) (s : State) : Option State :=
  match s.calls c with
  | .markingRollback m resource held (identity :: pending) reason error =>
    some (s.markRollback cfg c m resource held identity pending reason error works)
  | .markingPrepare m key (identity :: pending) error =>
    some (s.markPrepare cfg c m key identity pending error works)
  | .markingClose m key r (identity :: pending) error rest errors =>
    some (s.markClose cfg c m key r identity pending error rest errors works)
  | .clearing m key r (identity :: pending) rest errors =>
    some (s.clearClose cfg c m key r identity pending rest errors works)
  | .markingUncertain m record (identity :: pending) reason =>
    some (s.markNext cfg c m record identity pending reason works)
  | _ => none

def proceed (c : CallId) (s : State) : Option State :=
  match s.calls c with
  | .undoing m [] failure => some (s.fail c m failure)
  | .undoing m (file :: held) failure => some ((s.unlock c file).setCall c (.undoing m held failure))
  | .closeOnce m key r rest errors => s.free m (s.closeOnce c m key r rest errors)
  | .awaiting m key r rest errors =>
    if (s.records r).closing then none else s.free m (s.await c m key r rest errors)
  | .unlocking m key r [] rest errors => some (s.setCall c (.finishing m key r none rest errors))
  | .unlocking m key r (file :: pending) rest errors =>
    some ((s.unlock r file).setCall c (.unlocking m key r pending rest errors))
  | .finishing m key r error rest errors => s.free m (s.finishClose c m key r error rest errors)
  | _ => none

end State

def step (cfg : Config) (s : State) : Label → Option State
  | .start c op => if s.calls c = .unused then s.start cfg c op else none
  | .lock c works => match s.calls c with
      | .locking m resource prepare (identity :: pending) held =>
        some (s.lockNext c m resource prepare identity pending held works)
      | _ => none
  | .opens c reply => match s.calls c with
      | .opening m resource prepare held => some (s.opens c m resource prepare held reply)
      | _ => none
  | .prepares c reply => match s.calls c with
      | .preparingValue m resource held isNone =>
        some (s.prepareValue c m resource held isNone reply)
      | .preparing m key r => some (s.prepareRecord c m key r reply)
      | _ => none
  | .closes c reply => match s.calls c with
      | .rollingBack m resource held error => some (s.rollBack c m resource held error reply)
      | .closing m key r rest errors => some (s.closeRecord c m key r rest errors reply)
      | _ => none
  | .store c works => s.store cfg c works
  | .proceed c => s.proceed c
  | .corrupt f error => some { s with files := update s.files f (.error error) }

end EmbodiRun.Devices.Lifecycle
