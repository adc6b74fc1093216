/-
# Xlerobot.Proxy -- the lease of an owner service, seen from the proxy

The proxy arms under an owner id of its own making, commands under it, and releases it.  Three flags
and the id say what it knows of the lease; what the service does with a request, and whether it drops
the lease, is the environment's.

* `lease_kept`: **in a run of regular calls a command is sent only under a lease that was confirmed and
  not put in doubt since, nothing is sent after an uncertain outcome before a confirmed release, and
  the lease is not replaced or left while the service holds it**.
-/
import EmbodiRun.Transition.Machine

namespace EmbodiRun.Xlerobot.Proxy

open Transition List

/-! ## Replies -/

inductive Json where
  | null
  | bool (b : Bool)
  | int (n : Int)
  | float (numeral : List Char)
  | str (text : List Char)
  | array (items : List Json)
  | object (fields : List (List Char × Json))

/-- A `dict` that `json.load` gave. -/
abbrev Object := List (List Char × Json)

namespace Json

def isTrue : Json → Bool
  | .bool b => b
  | _ => false

def isFalse : Json → Bool
  | .bool b => !b
  | _ => false

def isNull : Json → Bool
  | .null => true
  | _ => false

def isEmptyArray : Json → Bool
  | .array items => items.isEmpty
  | _ => false

def isStr (text : String) : Json → Bool
  | .str other => other = text.toList
  | _ => false

/-- `bool(value)`. -/
def truthy : Json → Bool
  | .null => false
  | .bool b => b
  | .int n => n ≠ 0
  | .float numeral => numeral.any fun c => c ∈ "123456789".toList
  | .str text => !text.isEmpty
  | .array items => !items.isEmpty
  | .object fields => !fields.isEmpty

/-- `isinstance(value, int) and value >= 0`, for what is not a `bool`. -/
def stamp : Json → Option Nat
  | .int n => if 0 ≤ n then some n.toNat else none
  | _ => none

end Json

/-- `d.get(key)`. -/
def get (o : Object) (key : String) : Json := (o.lookup key.toList).getD .null

/-- What comes of the transaction: an `HTTPError` with its detail, a transport error, a body that is not
JSON, something that no handler of `_request` takes, or a value. -/
inductive Reply where
  | httpError (detail : List Char)
  | transport
  | malformed
  | escapes
  | json (value : Json)

inductive Raised where
  /-- `XLeRobotAdapterError` itself. -/
  | adapter (message : List Char)
  /-- `XLeRobotAdapterError(str(result["error"]))`. -/
  | owner (error : Json)
  /-- `owner did not accept command`, with its receipt. -/
  | unaccepted (receipt : Object)
  /-- `XLeRobotTransportError`. -/
  | transport (message : List Char)
  /-- `XLeRobotProtocolError`. -/
  | protocol (message : List Char)
  /-- `RobotPreparationRefused`. -/
  | refused (result : Object)
  | valueError (message : List Char)
  | other

/-- Is an `XLeRobotAdapterError`, or of a class under it. -/
def Raised.ofAdapter : Raised → Bool
  | .adapter _ | .owner _ | .unaccepted _ | .transport _ | .protocol _ => true
  | .refused _ | .valueError _ | .other => false

/-- What `prepare` and `execute` take as uncertain. -/
def Raised.uncertain : Raised → Bool
  | .transport _ | .protocol _ => true
  | _ => false

/-- `_request`, once the transaction is over. -/
def request (endpoint : String) : Reply → Except Raised Object
  | .httpError detail => .error (.adapter (("XLeRobot " ++ endpoint ++ ": ").toList ++ detail))
  | .transport => .error (.transport ("XLeRobot " ++ endpoint ++ " transport failed").toList)
  | .malformed => .error (.protocol ("XLeRobot " ++ endpoint ++ " returned malformed JSON").toList)
  | .escapes => .error .other
  | .json (.object fields) =>
    if (get fields "error").truthy then .error (.owner (get fields "error")) else .ok fields
  | .json _ => .error (.protocol ("XLeRobot " ++ endpoint ++ " returned a non-object").toList)

/-! ## Configuration and actions -/

inductive Scope where
  | arms
  | base
  deriving DecidableEq, Repr

def Scope.name : Scope → String
  | .arms => "arms"
  | .base => "base"

/-- A value of an action: `float(value)` is finite, is not, or raises. -/
inductive Value where
  | number (finite : Option Bool)
  | bool
  | other

/-- What `execute` reads of a `RobotAction`: `values`, unless it is not a mapping; and of the metadata,
unless it is not a mapping, `action_space` if it is a `str`, and `units`, `none` if it is there and not a
mapping. -/
structure Action where
  values : Option (List (List Char × Value))
  metadata : Option (Option (List Char) × Option (List (List Char × List Char)))

def actionSpace : List Char := "lerobot.xlerobot.external_owner.v1".toList

def joints : List String := ["shoulder_pan", "shoulder_lift", "elbow_flex", "wrist_flex", "wrist_roll", "gripper"]

def armKeys : List (List Char) :=
  ["left", "right"].flatMap fun side => joints.map fun joint => (side ++ "_arm_" ++ joint ++ ".pos").toList

def baseKeys : List (List Char) := ["x.vel".toList, "theta.vel".toList]

def unitsOf (key : List Char) : String × List String :=
  if "gripper.pos".toList <:+ key then ("range_0_100", ["range_0_100", "percent"])
  else if ".pos".toList <:+ key then ("degrees", ["degrees"])
  else if key = "x.vel".toList then ("metres-per-sec", ["metres-per-sec", "m/s"])
  else ("angular-degrees-per-sec", ["angular-degrees-per-sec", "deg/s"])

def checkValues (units : Option (List (List Char × List Char))) : List (List Char × Value) → Except Raised Unit
  | [] => .ok ()
  | (key, value) :: rest =>
    match value with
    | .number none => .error .other
    | .number (some true) =>
      let unit := (units.bind fun units => units.lookup key)
      if unit.any fun unit => unit ∈ (unitsOf key).2.map String.toList then checkValues units rest
      else .error (.valueError ("unsupported unit for ".toList ++ key ++ (": expected " ++ (unitsOf key).1).toList))
    | _ => .error (.valueError (key ++ " must be finite numeric".toList))

/-- What `execute` refuses before it sends anything. -/
def checkAction (scope : Scope) (action : Action) : Except Raised Unit :=
  match action.values, action.metadata with
  | none, _ => .error (.valueError "XLeRobot action must be a mapping".toList)
  | some _, none => .error .other
  | some values, some (space, units) =>
    let keys := values.map Prod.fst
    let allowed := if scope = .arms then armKeys else baseKeys
    if space ≠ some actionSpace then .error (.valueError "unsupported XLeRobot action_space".toList)
    else if scope = .base ∧ ¬ (keys ⊆ baseKeys ∧ baseKeys ⊆ keys) then
      .error (.valueError "base action requires both x.vel and theta.vel".toList)
    else if values = [] ∨ ¬ keys ⊆ allowed then
      .error (.valueError "action contains keys outside the selected XLeRobot scope".toList)
    else checkValues units values

/-! ## The proxy and the service -/

inductive Entry where
  | armSent (o : Nat)
  /-- The reply says `armed: true`. -/
  | armed (o : Nat)
  | commandSent (o : Nat)
  /-- A command was not accepted, or failed. -/
  | failed (o : Nat)
  /-- Neither a confirmation nor a refusal was heard. -/
  | uncertain (o : Nat)
  /-- An observation without `control_owned: true`. -/
  | lost (o : Nat)
  | releaseSent (o : Nat)
  /-- The reply says `released: true` and `stop_confirmed: true`. -/
  | released (o : Nat)
  /-- The owner id is replaced, and whether the service holds a lease for it. -/
  | replaced (o : Nat) (held : Bool)
  /-- `stop` or `close` returns, and whether the service holds a lease for the id. -/
  | left (o : Nat) (held : Bool)
  deriving DecidableEq

/-- `XLeRobotAdapter`; the id is one that was never used where it is counted up. -/
structure Adapter where
  scope : Scope
  owner : Nat := 0
  prepared : Bool := false
  stopUnconfirmed : Bool := false
  lastRelease : Option Object := none
  cleanupPending : Bool := false
  connected : Bool := false
  metadata : Object := []
  /-- The service: for whom it holds the lease. -/
  held : Option Nat := none
  /-- What happened, the newest first. -/
  log : List Entry := []

open Adapter

/-- `__init__`. -/
def start (scope : Scope) : Adapter where
  scope := scope
  metadata := [("source".toList, .str "xlerobot.external_owner".toList),
    ("control_scopes".toList, .array [.str scope.name.toList]), ("allow_motion".toList, .bool false)]

/-- A transaction with the service: its reply, whether it has taken effect, and whether the service has
dropped the lease in the meantime. -/
structure Exchange where
  reply : Reply
  applied : Bool := true
  drops : Bool := false

/-- `armed: false`, `status: "refused"`, and no writes: nothing was armed. -/
def refuses (result : Object) : Bool :=
  (get result "armed").isFalse && (get result "status").isStr "refused" && (get result "writes").isEmptyArray

def confirms (result : Object) : Bool := (get result "released").isTrue && (get result "stop_confirmed").isTrue

def accepts (receipt : Object) : Bool := (get receipt "command_accepted").isTrue && !(get receipt "errors").truthy

namespace Adapter

variable (s : Adapter)

def note (entry : Entry) : Adapter := { s with log := entry :: s.log }

def dropped (x : Exchange) : Adapter := { s with held := if x.drops then none else s.held }

/-- `POST arm`: a service that answers with a refusal has not armed. -/
def sendArm (x : Exchange) : Adapter :=
  let s := (s.note (.armSent s.owner)).dropped x
  match request "arm" x.reply with
  | .ok result =>
    if (get result "armed").isTrue then
      { s with held := if x.applied then some s.owner else s.held }.note (.armed s.owner)
    else if refuses result then s
    else { s with held := if x.applied then some s.owner else s.held }.note (.uncertain s.owner)
  | .error _ => { s with held := if x.applied then some s.owner else s.held }.note (.uncertain s.owner)

/-- `POST command`. -/
def sendCommand (x : Exchange) : Adapter :=
  let s := (s.note (.commandSent s.owner)).dropped x
  match request "command" x.reply with
  | .ok receipt => if accepts receipt then s else s.note (.failed s.owner)
  | .error _ => (s.note (.failed s.owner)).note (.uncertain s.owner)

/-- `POST release`: a service that confirms it holds no lease for the id. -/
def sendRelease (x : Exchange) : Adapter :=
  let s := (s.note (.releaseSent s.owner)).dropped x
  let freed : Option Nat := if s.held = some s.owner then none else s.held
  match request "release" x.reply with
  | .ok result =>
    if confirms result then { s with held := freed }.note (.released s.owner)
    else { s with held := if x.applied then freed else s.held }
  | .error _ => { s with held := if x.applied then freed else s.held }

/-- `GET observe`. -/
def sendObserve (x : Exchange) : Adapter :=
  let s := s.dropped x
  match request "observe" x.reply with
  | .ok result => match get result "observation" with
      | .object observation => if (get observation "control_owned").isTrue then s else s.note (.lost s.owner)
      | _ => s
  | .error _ => s

/-! ## The calls -/

/-- The request of `prepare`, and what it makes of the reply. -/
def arm (x : Exchange) : Adapter × Except Raised Unit :=
  let s := s.sendArm x
  match request "arm" x.reply with
  | .error raised =>
    if raised.uncertain then ({ s with stopUnconfirmed := true, prepared := false }, .error raised)
    else (s, .error raised)
  | .ok result =>
    if (get result "armed").isTrue then ({ s with prepared := true, cleanupPending := false }, .ok ())
    else if refuses result then ({ s with cleanupPending := false }, .error (.refused result))
    else ({ s with stopUnconfirmed := true }, .error (.protocol "owner did not confirm control preparation".toList))

def prepare (x : Exchange) : Adapter × Except Raised Unit :=
  if !s.connected then (s, .error (.adapter "XLeRobot proxy is not connected".toList))
  else if s.stopUnconfirmed || s.cleanupPending then
    (s, .error (.adapter "previous XLeRobot stop is unconfirmed".toList))
  else if s.prepared then (s, .ok ())
  else
    let s := s.note (.replaced s.owner (s.held = some s.owner))
    { s with owner := s.owner + 1, lastRelease := none, cleanupPending := true }.arm x

/-- `self.config.scope in metadata.get("control_scopes", ())`, of a mapping `metadata`; `none` raises. -/
def advertised (scope : Scope) (metadata : Object) : Option Bool :=
  match metadata.lookup "control_scopes".toList with
  | none => some false
  | some (.array scopes) => some (scopes.any (Json.isStr scope.name))
  | some (.str text) => some (scope.name.toList <:+: text)
  | some (.object fields) => some (fields.any fun field => field.1 = scope.name.toList)
  | some _ => none

/-- What `connect` makes of the status. -/
def readStatus (scope : Scope) (reply : Reply) : Except Raised Object :=
  match request "status" reply with
  | .error raised => .error raised
  | .ok status => match get status "metadata" with
      | .object metadata => match advertised scope metadata with
          | some true => .ok metadata
          | some false =>
            .error (.adapter "owner does not advertise the requested control scope".toList)
          | none => .error .other
      | _ => .error (.adapter "owner does not advertise the requested control scope".toList)

def connect (prepares : Bool) (status x : Exchange) : Adapter × Except Raised Unit :=
  let s := s.dropped status
  match readStatus s.scope status.reply with
  | .error raised => (s, .error raised)
  | .ok metadata =>
    let s := { s with
      metadata := ("source".toList, .str "xlerobot.external_owner".toList) :: metadata
      connected := true
      prepared := false }
    if prepares then s.prepare x else (s, .ok ())

/-- From here on `float` raises on an `int`. -/
def tooLarge : Nat := 2 ^ 1024 - 2 ^ 970

/-- The checks of `observe` that come before it looks at `control_owned`: the state, and the time. -/
def readObservation (observation : Object) : Except Raised (Object × Nat) :=
  match get observation "state" with
  | .object state => match (get observation "state_timestamp_ns").stamp with
      | none => .error (.protocol "XLeRobot state_timestamp_ns is invalid".toList)
      | some stamp =>
        if !(get observation "source_timestamp_ns").isNull &&
            (get observation "source_timestamp_ns").stamp.isNone then
          .error (.protocol "XLeRobot source_timestamp_ns is invalid".toList)
        else if tooLarge ≤ stamp then .error .other
        else .ok (state, stamp)
  | _ => .error (.protocol "XLeRobot observation state is missing".toList)

def observe (x : Exchange) : Adapter × Except Raised (Object × Nat) :=
  let s := s.sendObserve x
  match request "observe" x.reply with
  | .error raised => (s, .error raised)
  | .ok result => match get result "observation" with
      | .object observation => match readObservation observation with
          | .error raised => (s, .error raised)
          | .ok read =>
            (if s.prepared && !(get observation "control_owned").isTrue then
              { s with prepared := false, cleanupPending := true } else s, .ok read)
      | _ => (s, .error (.adapter "owner observation is missing".toList))

/-- `execute` gets to its checks. -/
def controls : Bool := s.prepared && !s.cleanupPending && !s.stopUnconfirmed

def execute (action : Action) (x : Exchange) : Adapter × Except Raised Object :=
  if !s.controls then (s, .error (.adapter "XLeRobot control is not prepared".toList))
  else match checkAction s.scope action with
    | .error raised => (s, .error raised)
    | .ok () =>
      let s := s.sendCommand x
      match request "command" x.reply with
      | .error raised =>
        if raised.uncertain then
          ({ s with prepared := false, stopUnconfirmed := true, cleanupPending := true }, .error raised)
        else (s, .error raised)
      | .ok receipt =>
        if accepts receipt then (s, .ok receipt)
        else ({ s with prepared := false, cleanupPending := true }, .error (.unaccepted receipt))

/-- What `stop` returns where it has nothing to release. -/
def unreleased : Object :=
  [("released".toList, .bool false), ("control_owned".toList, .bool false), ("stop_confirmed".toList, .null),
    ("physical_outcome".toList, .str "unknown".toList)]

/-- The end of a `stop` or `close` that does not raise. -/
def leave : Adapter := s.note (.left s.owner (s.held = some s.owner))

def release (x : Exchange) : Adapter × Except Raised Object :=
  let s := { s with cleanupPending := true }.sendRelease x
  match request "release" x.reply with
  | .error raised =>
    if raised.ofAdapter then ({ s with prepared := false, stopUnconfirmed := true }, .error raised)
    else (s, .error raised)
  | .ok result =>
    if confirms result then
      ({ s with prepared := false, stopUnconfirmed := false, cleanupPending := false, lastRelease := some result },
        .ok result)
    else ({ s with prepared := false, stopUnconfirmed := true },
      .error (.adapter "owner release did not confirm a stop".toList))

def stop (x : Exchange) : Adapter × Except Raised Object :=
  if !s.prepared && !s.cleanupPending then (s.leave, .ok (s.lastRelease.getD unreleased))
  else match s.release x with
    | (s, .ok result) => (s.leave, .ok result)
    | (s, .error raised) => (s, .error raised)

def close (x : Exchange) : Adapter × Except Raised Unit :=
  if s.prepared || s.cleanupPending then
    match s.release x with
    | (s, .ok _) => ({ s with connected := false }.leave, .ok ())
    | (s, .error raised) => (s, .error raised)
  else ({ s with connected := false }.leave, .ok ())

end Adapter

/-! ## Runs -/

inductive Label where
  | connect (prepares : Bool) (status arm : Exchange)
  | prepare (arm : Exchange)
  | observe (x : Exchange)
  | execute (action : Action) (x : Exchange)
  | stop (x : Exchange)
  | close (x : Exchange)
  /-- The service drops the lease. -/
  | drops

def step (s : Adapter) : Label → Option Adapter
  | .connect prepares status arm => some (s.connect prepares status arm).1
  | .prepare arm => some (s.prepare arm).1
  | .observe x => some (s.observe x).1
  | .execute action x => some (s.execute action x).1
  | .stop x => some (s.stop x).1
  | .close x => some (s.close x).1
  | .drops => some { s with held := none }

def Entry.spoils (o : Nat) : Entry → Prop
  | .failed p | .uncertain p | .lost p | .releaseSent p => p = o
  | _ => False

/-- The lease of `o` was confirmed, and nothing has put it in doubt since. -/
def Trusted (o : Nat) (log : List Entry) : Prop :=
  ∃ since earlier, log = since ++ .armed o :: earlier ∧ ∀ entry ∈ since, ¬ entry.spoils o

/-- An outcome under `o` was uncertain, and no release under it was confirmed since. -/
def Pending (o : Nat) (log : List Entry) : Prop :=
  ∃ since earlier, log = since ++ .uncertain o :: earlier ∧ .released o ∉ since

/-- Commands go out under trusted leases, nothing while an outcome is pending, and no lease held is left. -/
structure Safe (log : List Entry) : Prop where
  commands : ∀ after o before, log = after ++ .commandSent o :: before → Trusted o before
  resent : ∀ after o before p, log = after ++ .commandSent o :: before ∨ log = after ++ .armSent o :: before →
    ¬ Pending p before
  leases : ∀ o, .replaced o true ∉ log ∧ .left o true ∉ log

def Regular (s : Adapter) : Label → Prop
  | .connect _ status _ => s.prepared = true → ∃ raised, readStatus s.scope status.reply = .error raised
  | .observe x => s.prepared = true → ∀ result observation, request "observe" x.reply = .ok result →
      get result "observation" = .object observation → (get observation "control_owned").isTrue = false →
      ∃ read, readObservation observation = .ok read
  | .execute action x => s.controls = true → checkAction s.scope action = .ok () → ∀ raised,
      request "command" x.reply = .error raised → raised.uncertain = true
  | _ => True

/-! ## What the calls keep -/

variable {s t : Adapter} {l : Label} {log : List Entry} {e : Entry} {o p : Nat}

theorem pending_cons (pending : Pending o (e :: log)) : e = .uncertain o ∨ e ≠ .released o ∧ Pending o log := by
  obtain ⟨since, earlier, split, kept⟩ := pending
  cases since with
  | nil => exact .inl (List.cons.inj split).1
  | cons first since =>
    obtain ⟨rfl, rest⟩ := List.cons.inj split
    rw [mem_cons, not_or] at kept
    exact .inr ⟨Ne.symm kept.1, since, earlier, rest, kept.2⟩

theorem trusted_cons (trusted : Trusted o log) (kept : ¬ e.spoils o) : Trusted o (e :: log) := by
  obtain ⟨since, earlier, rfl, rest⟩ := trusted
  exact ⟨e :: since, earlier, rfl, List.forall_mem_cons.mpr ⟨kept, rest⟩⟩

structure Fits (e : Entry) (log : List Entry) : Prop where
  command : ∀ o, e = .commandSent o → Trusted o log
  sent : ∀ o p, e = .commandSent o ∨ e = .armSent o → ¬ Pending p log
  lease : ∀ o, e ≠ .replaced o true ∧ e ≠ .left o true

theorem safe_cons (safe : Safe log) (fits : Fits e log) : Safe (e :: log) where
  commands after o before split := by
    cases after with
    | nil =>
      obtain ⟨same, rfl⟩ := List.cons.inj split
      exact fits.command o same
    | cons first after => exact safe.commands after o before (List.cons.inj split).2
  resent after o before p split := by
    cases after with
    | nil =>
      rcases split with split | split
      · obtain ⟨same, rfl⟩ := List.cons.inj split
        exact fits.sent o p (.inl same)
      · obtain ⟨same, rfl⟩ := List.cons.inj split
        exact fits.sent o p (.inr same)
    | cons first after =>
      exact safe.resent after o before p
        (split.imp (fun split => (List.cons.inj split).2) fun split => (List.cons.inj split).2)
  leases o := by
    obtain ⟨replaced, left⟩ := fits.lease o
    simp only [mem_cons, not_or]
    exact ⟨⟨replaced.symm, (safe.leases o).1⟩, left.symm, (safe.leases o).2⟩

structure Inv (s : Adapter) : Prop where
  safe : Safe s.log
  unconfirmed : s.stopUnconfirmed = true → s.cleanupPending = true
  pending : ∀ o, Pending o s.log → o = s.owner ∧ s.cleanupPending = true
  trusted : s.prepared = true → s.cleanupPending = false → Trusted s.owner s.log
  held : ∀ o, s.held = some o → o = s.owner ∧ (s.prepared = true ∨ s.cleanupPending = true)

theorem inv_start (scope : Scope) : Inv (start scope) where
  safe := by
    refine ⟨fun after o before split => ?_, fun after o before p split => ?_, fun o => ⟨nofun, nofun⟩⟩
    · cases after <;> cases split
    · rcases split with split | split <;> cases after <;> cases split
  unconfirmed := nofun
  pending o pending := by
    obtain ⟨since, earlier, split, _⟩ := pending
    cases since <;> cases split
  trusted := nofun
  held o held := nomatch held

theorem Inv.note (inv : Inv s) (fits : Fits e s.log)
    (uncertain : ∀ o, e = .uncertain o → o = s.owner ∧ s.cleanupPending = true)
    (spoils : e.spoils s.owner → s.cleanupPending = true ∨ s.prepared = false) : Inv (s.note e) where
  safe := safe_cons inv.safe fits
  unconfirmed := inv.unconfirmed
  pending o pending := by
    rcases pending_cons pending with same | ⟨_, before⟩
    · exact uncertain o same
    · exact inv.pending o before
  trusted prepared clean := by
    refine trusted_cons (inv.trusted prepared clean) fun spoilt => ?_
    rcases spoils spoilt with pending | unprepared
    · cases clean.symm.trans pending
    · cases prepared.symm.trans unprepared
  held := inv.held

theorem fits_heard (quiet : ∀ o, e ≠ .commandSent o ∧ e ≠ .armSent o ∧ e ≠ .replaced o true ∧
    e ≠ .left o true) : Fits e log where
  command o same := absurd same (quiet o).1
  sent o _ sent := sent.elim (fun same => absurd same (quiet o).1) fun same => absurd same (quiet o).2.1
  lease o := (quiet o).2.2

theorem Inv.dropped (inv : Inv s) (x : Exchange) : Inv (s.dropped x) := by
  refine ⟨inv.safe, inv.unconfirmed, inv.pending, inv.trusted, fun o held => inv.held o ?_⟩
  unfold Adapter.dropped at held
  cases drops : x.drops with
  | true => simp [drops] at held
  | false => simpa [drops] using held

theorem Inv.cleanup (inv : Inv s) (prepared unconfirmed : Bool) :
    Inv { s with prepared := prepared, stopUnconfirmed := unconfirmed, cleanupPending := true } where
  safe := inv.safe
  unconfirmed _ := rfl
  pending o pending := ⟨(inv.pending o pending).1, rfl⟩
  trusted _ clean := nomatch clean
  held o held := ⟨(inv.held o held).1, .inr rfl⟩

theorem Inv.still (inv : Inv s) (pending : s.cleanupPending = true) (prepared unconfirmed : Bool) :
    Inv { s with prepared := prepared, stopUnconfirmed := unconfirmed } := by
  have still := inv.cleanup prepared unconfirmed
  rw [← pending] at still
  exact still

theorem Inv.free (inv : Inv s) (unprepared : s.prepared = false) (clean : s.cleanupPending = false) :
    s.held = none := by
  cases held : s.held with
  | none => rfl
  | some o =>
    rcases (inv.held o held).2 with prepared | pending
    · cases unprepared.symm.trans prepared
    · cases clean.symm.trans pending

theorem Inv.leave (inv : Inv s) (free : s.held = none) : Inv s.leave := by
  unfold Adapter.leave
  rw [free]
  refine inv.note ⟨nofun, nofun, fun o => ⟨nofun, nofun⟩⟩ nofun ?_
  exact fun spoils => spoils.elim

theorem Inv.clean (inv : Inv s) (clean : s.cleanupPending = false) (o : Nat) : ¬ Pending o s.log := by
  intro pending
  cases clean.symm.trans (inv.pending o pending).2

theorem inv_observe (inv : Inv s) (x : Exchange) (regular : Regular s (.observe x)) : Inv (s.observe x).1 := by
  have dropped := inv.dropped x
  cases heard : request "observe" x.reply with
  | error =>
    simp only [observe, sendObserve, heard]
    exact dropped
  | ok result =>
    cases shown : get result "observation" with
    | object observation =>
      have lost : Fits (.lost s.owner) s.log := fits_heard fun o => ⟨nofun, nofun, nofun, nofun⟩
      cases owned : (get observation "control_owned").isTrue with
      | true =>
        have sent : s.sendObserve x = s.dropped x := by
          simp only [sendObserve, heard, shown, owned, if_true]
        simp only [observe, sent, heard, shown, owned, Bool.not_true, Bool.and_false, Bool.false_eq_true, if_false]
        split <;> exact dropped
      | false =>
        have sent : s.sendObserve x = (s.dropped x).note (.lost s.owner) := by
          simp only [sendObserve, heard, shown, owned, Bool.false_eq_true, if_false]
          rfl
        cases prepared : s.prepared with
        | false =>
          have noted : Inv ((s.dropped x).note (.lost s.owner)) := dropped.note lost nofun fun _ =>
            .inr prepared
          have still : ((s.dropped x).note (.lost s.owner)).prepared = false := prepared
          simp only [observe, sent, heard, shown, still, Bool.false_and, Bool.false_eq_true, if_false]
          split <;> exact noted
        | true =>
          obtain ⟨read, reads⟩ := regular prepared result observation heard shown owned
          have still : ((s.dropped x).note (.lost s.owner)).prepared = true := prepared
          have taken := (dropped.cleanup false s.stopUnconfirmed).note lost nofun fun _ => .inl rfl
          simp only [observe, sent, heard, shown, reads, still, owned, Bool.not_false, Bool.and_self, if_true]
          exact taken
    | _ =>
      simp only [observe, sendObserve, heard, shown]
      exact dropped

theorem sendArm_flags (s : Adapter) (x : Exchange) : (s.sendArm x).owner = s.owner ∧
    (s.sendArm x).prepared = s.prepared ∧ (s.sendArm x).stopUnconfirmed = s.stopUnconfirmed ∧
    (s.sendArm x).cleanupPending = s.cleanupPending := by
  unfold sendArm
  dsimp only
  split
  · split
    · exact ⟨rfl, rfl, rfl, rfl⟩
    · split <;> exact ⟨rfl, rfl, rfl, rfl⟩
  · exact ⟨rfl, rfl, rfl, rfl⟩

theorem inv_sendArm (inv : Inv s) (x : Exchange) (pending : s.cleanupPending = true)
    (none_ : ∀ p, ¬ Pending p s.log) : Inv (s.sendArm x) := by
  have sent : Inv ((s.note (.armSent s.owner)).dropped x) := by
    refine (inv.note (e := .armSent s.owner) ⟨nofun, fun _ p _ => none_ p, fun o => ⟨nofun, nofun⟩⟩ nofun ?_).dropped x
    exact fun spoils => spoils.elim
  have applied : Inv { (s.note (.armSent s.owner)).dropped x with
      held := if x.applied then some s.owner else ((s.note (.armSent s.owner)).dropped x).held } := by
    refine ⟨sent.safe, sent.unconfirmed, sent.pending, sent.trusted, fun o held => ?_⟩
    dsimp only at held
    split at held
    · exact ⟨(Option.some.inj held).symm, .inr pending⟩
    · exact sent.held o held
  unfold sendArm
  dsimp only
  split
  · split
    · exact applied.note (fits_heard fun o => ⟨nofun, nofun, nofun, nofun⟩) nofun fun _ => .inl pending
    · split
      · exact sent
      · exact applied.note (fits_heard fun o => ⟨nofun, nofun, nofun, nofun⟩)
          (fun o same => ⟨(Entry.uncertain.inj same).symm, pending⟩) fun _ => .inl pending
  · exact applied.note (fits_heard fun o => ⟨nofun, nofun, nofun, nofun⟩)
      (fun o same => ⟨(Entry.uncertain.inj same).symm, pending⟩) fun _ => .inl pending

theorem inv_arm (inv : Inv s) (x : Exchange) (pending : s.cleanupPending = true) (none_ : ∀ p, ¬ Pending p s.log)
    (confirmed : s.stopUnconfirmed = false) (unprepared : s.prepared = false) (free : s.held = none) :
    Inv (s.arm x).1 := by
  have armed := inv_sendArm inv x pending none_
  obtain ⟨owner, prepared, unconfirmed, cleanup⟩ := sendArm_flags s x
  have left := armed.still (cleanup.trans pending)
  unfold arm
  dsimp only
  cases heard : request "arm" x.reply with
  | error =>
    dsimp only
    split
    · exact left false true
    · exact armed
  | ok result =>
    dsimp only
    split
    · rename_i confirms
      have log : (s.sendArm x).log = .armed s.owner :: .armSent s.owner :: s.log := by
        simp only [sendArm, heard, confirms, if_true]
        rfl
      refine ⟨armed.safe, fun still => ?_, fun o waiting => ?_, fun _ _ => ?_, fun o held => ?_⟩
      · cases (unconfirmed.trans confirmed).symm.trans still
      · rw [show Adapter.log _ = (s.sendArm x).log from rfl, log] at waiting
        rcases pending_cons waiting with same | ⟨_, waiting⟩
        · cases same
        · rcases pending_cons waiting with same | ⟨_, waiting⟩
          · cases same
          · exact absurd waiting (none_ o)
      · show Trusted (s.sendArm x).owner (s.sendArm x).log
        rw [log, owner]
        exact ⟨[], _, rfl, nofun⟩
      · exact ⟨(armed.held o held).1, .inl rfl⟩
    · rename_i unarmed
      split
      · rename_i refused
        have sent : s.sendArm x = (s.note (.armSent s.owner)).dropped x := by
          simp only [sendArm, heard, unarmed, refused, if_true, Bool.false_eq_true, if_false]
        rw [sent] at armed ⊢
        refine ⟨armed.safe, fun still => ?_, fun o waiting => ?_, fun still => ?_, fun o held => ?_⟩
        · cases confirmed.symm.trans still
        · rcases pending_cons waiting with same | ⟨_, waiting⟩
          · cases same
          · exact absurd waiting (none_ o)
        · cases unprepared.symm.trans still
        · have gone : ((s.note (.armSent s.owner)).dropped x).held = none := by
            show (if x.drops then none else s.held) = none
            rw [free, ite_self]
          cases gone.symm.trans held
      · have kept := left (s.sendArm x).prepared true
        exact kept

theorem inv_prepare (inv : Inv s) (x : Exchange) : Inv (s.prepare x).1 := by
  unfold prepare
  split
  · exact inv
  split
  · exact inv
  rename_i clear
  simp only [Bool.or_eq_true, not_or, Bool.not_eq_true] at clear
  obtain ⟨confirmed, clean⟩ := clear
  split
  · exact inv
  rename_i unprepared
  simp only [Bool.not_eq_true] at unprepared
  have free := inv.free unprepared clean
  have replaced : Inv (s.note (.replaced s.owner (s.held = some s.owner))) := by
    rw [free]
    exact inv.note ⟨nofun, nofun, fun o => ⟨nofun, nofun⟩⟩ nofun fun spoils => spoils.elim
  have none_ := replaced.clean clean
  have renewed : Inv { s.note (.replaced s.owner (s.held = some s.owner)) with
      owner := s.owner + 1, lastRelease := none, cleanupPending := true } := by
    refine ⟨replaced.safe, fun _ => rfl, fun o pending => absurd pending (none_ o), nofun, fun o held => ?_⟩
    cases free.symm.trans held
  exact inv_arm renewed x rfl none_ confirmed unprepared free

theorem inv_connect (inv : Inv s) (prepares : Bool) (status x : Exchange)
    (regular : Regular s (.connect prepares status x)) : Inv (s.connect prepares status x).1 := by
  have dropped := inv.dropped status
  unfold connect
  dsimp only
  cases read : readStatus (s.dropped status).scope status.reply with
  | error => exact dropped
  | ok metadata =>
    have unprepared : s.prepared = false := by
      cases prepared : s.prepared with
      | false => rfl
      | true =>
        obtain ⟨raised, fails⟩ := regular prepared
        cases fails.symm.trans read
    have still : (s.dropped status).prepared = false := unprepared
    have connected : Inv { s.dropped status with
        metadata := ("source".toList, .str "xlerobot.external_owner".toList) :: metadata
        connected := true
        prepared := false } :=
      ⟨dropped.safe, dropped.unconfirmed, dropped.pending, nofun, fun o held => by
        obtain ⟨same, kept⟩ := dropped.held o held
        rw [still] at kept
        exact ⟨same, kept⟩⟩
    dsimp only
    split
    · exact inv_prepare connected x
    · exact connected

theorem inv_execute (inv : Inv s) (action : Action) (x : Exchange) (regular : Regular s (.execute action x)) :
    Inv (s.execute action x).1 := by
  unfold execute
  split
  · exact inv
  rename_i controls
  simp only [Bool.not_eq_true', Bool.not_eq_false] at controls
  cases checked : checkAction s.scope action with
  | error => exact inv
  | ok =>
    dsimp only
    have flags := controls
    simp only [Adapter.controls, Bool.and_eq_true, Bool.not_eq_true'] at flags
    obtain ⟨⟨prepared, clean⟩, confirmed⟩ := flags
    have trusted := inv.trusted prepared clean
    have sent : Inv ((s.note (.commandSent s.owner)).dropped x) := by
      refine (inv.note (e := .commandSent s.owner) ⟨fun o same => ?_, fun _ p _ => inv.clean clean p, fun o => ⟨nofun, nofun⟩⟩ nofun ?_).dropped x
      · exact (Entry.commandSent.inj same) ▸ trusted
      · exact fun spoils => spoils.elim
    have failed (u : Bool) := (sent.cleanup false u).note (e := .failed s.owner)
      (fits_heard fun o => ⟨nofun, nofun, nofun, nofun⟩) nofun fun _ => .inl rfl
    cases heard : request "command" x.reply with
    | error raised =>
      have uncertain := regular controls checked raised heard
      simp only [sendCommand, heard, uncertain, if_true]
      exact (failed true).note (fits_heard fun o => ⟨nofun, nofun, nofun, nofun⟩)
        (fun o same => ⟨(Entry.uncertain.inj same).symm, rfl⟩) fun _ => .inl rfl
    | ok receipt =>
      cases accepted : accepts receipt with
      | true =>
        simp only [sendCommand, heard, accepted, if_true]
        exact sent
      | false =>
        simp only [sendCommand, heard, accepted, Bool.false_eq_true, if_false]
        exact failed s.stopUnconfirmed

theorem sendRelease_flags (s : Adapter) (x : Exchange) : (s.sendRelease x).owner = s.owner ∧
    (s.sendRelease x).prepared = s.prepared ∧ (s.sendRelease x).stopUnconfirmed = s.stopUnconfirmed ∧
    (s.sendRelease x).cleanupPending = s.cleanupPending := by
  unfold sendRelease
  dsimp only
  split
  · split <;> exact ⟨rfl, rfl, rfl, rfl⟩
  · exact ⟨rfl, rfl, rfl, rfl⟩

theorem Inv.freed (inv : Inv s) : (if s.held = some s.owner then none else s.held) = none := by
  split
  · rfl
  · rename_i other
    cases held : s.held with
    | none => rfl
    | some o => exact absurd ((inv.held o held).1 ▸ held) other

theorem Inv.holding (inv : Inv s) {held} (fewer : held = none ∨ held = s.held) : Inv { s with held := held } := by
  refine ⟨inv.safe, inv.unconfirmed, inv.pending, inv.trusted, fun o holds => ?_⟩
  rcases fewer with rfl | rfl
  · cases holds
  · exact inv.held o holds

theorem inv_sendRelease (inv : Inv s) (x : Exchange) (pending : s.cleanupPending = true) : Inv (s.sendRelease x) ∧
    ∀ result, request "release" x.reply = .ok result → confirms result = true →
      (s.sendRelease x).held = none ∧ ∀ p, ¬ Pending p (s.sendRelease x).log := by
  have sent : Inv ((s.note (.releaseSent s.owner)).dropped x) :=
    (inv.note (e := .releaseSent s.owner) (fits_heard fun o => ⟨nofun, nofun, nofun, nofun⟩) nofun
      fun _ => .inl pending).dropped x
  have freed := sent.freed
  have applied : Inv { (s.note (.releaseSent s.owner)).dropped x with
      held := if x.applied then none else ((s.note (.releaseSent s.owner)).dropped x).held } := by
    refine sent.holding ?_
    split
    · exact .inl rfl
    · exact .inr rfl
  have unheld : Inv { (s.note (.releaseSent s.owner)).dropped x with held := none } := sent.holding (.inl rfl)
  unfold sendRelease
  dsimp only
  have owner : ((s.note (.releaseSent s.owner)).dropped x).owner = s.owner := rfl
  rw [owner] at freed ⊢
  rw [freed]
  cases heard : request "release" x.reply with
  | error => exact ⟨applied, nofun⟩
  | ok result =>
    dsimp only
    split
    · have released := unheld.note (e := .released s.owner) (fits_heard fun o => ⟨nofun, nofun, nofun, nofun⟩) nofun
        fun spoils => spoils.elim
      refine ⟨released, fun _ _ _ => ⟨rfl, fun p waiting => ?_⟩⟩
      rcases pending_cons waiting with same | ⟨other, waiting⟩
      · cases same
      · exact other (congrArg Entry.released (unheld.pending p waiting).1.symm)
    · rename_i unconfirmed
      refine ⟨applied, fun other same confirmed => ?_⟩
      obtain rfl := Except.ok.inj same
      exact absurd confirmed unconfirmed

theorem inv_release (inv : Inv s) (x : Exchange) :
    Inv (s.release x).1 ∧ ∀ result, (s.release x).2 = .ok result → (s.release x).1.held = none := by
  obtain ⟨sent, confirmed⟩ := inv_sendRelease (inv.cleanup s.prepared s.stopUnconfirmed) x rfl
  obtain ⟨_, _, _, cleanup⟩ := sendRelease_flags { s with cleanupPending := true } x
  have still := sent.still cleanup
  unfold release
  dsimp only
  cases heard : request "release" x.reply with
  | error =>
    dsimp only
    split
    · exact ⟨still false true, nofun⟩
    · exact ⟨sent, nofun⟩
  | ok result =>
    dsimp only
    split
    · rename_i confirms
      obtain ⟨free, none_⟩ := confirmed result heard confirms
      refine ⟨⟨sent.safe, nofun, fun p waiting => absurd waiting (none_ p), nofun, fun o held => ?_⟩, fun _ _ => free⟩
      cases free.symm.trans held
    · exact ⟨still false true, nofun⟩

theorem inv_stop (inv : Inv s) (x : Exchange) : Inv (s.stop x).1 := by
  obtain ⟨released, free⟩ := inv_release inv x
  unfold stop
  split
  · rename_i none_
    simp only [Bool.and_eq_true, Bool.not_eq_true'] at none_
    exact inv.leave (inv.free none_.1 none_.2)
  · generalize s.release x = after at released free
    obtain ⟨after, raised | result⟩ := after
    · exact released
    · exact released.leave (free result rfl)

theorem inv_close (inv : Inv s) (x : Exchange) : Inv (s.close x).1 := by
  obtain ⟨released, free⟩ := inv_release inv x
  have closed {s : Adapter} (inv : Inv s) (free : s.held = none) : Inv { s with connected := false }.leave := by
    have shut : Inv { s with connected := false } :=
      ⟨inv.safe, inv.unconfirmed, inv.pending, inv.trusted, inv.held⟩
    exact shut.leave free
  unfold close
  split
  · generalize s.release x = after at released free
    obtain ⟨after, raised | result⟩ := after
    · exact released
    · exact closed released (free result rfl)
  · rename_i none_
    simp only [Bool.or_eq_true, not_or, Bool.not_eq_true] at none_
    exact closed inv (inv.free none_.1 none_.2)

theorem inv_step (inv : Inv s) (regular : Regular s l) (next : step s l = some t) : Inv t := by
  cases l with cases next
  | connect prepares status arm => exact inv_connect inv prepares status arm regular
  | prepare arm => exact inv_prepare inv arm
  | observe x => exact inv_observe inv x regular
  | execute action x => exact inv_execute inv action x regular
  | stop x => exact inv_stop inv x
  | close x => exact inv_close inv x
  | drops => exact inv.holding (.inl rfl)

/-- In a run of regular calls commands go out under a confirmed lease only, nothing while an outcome is
pending, and no lease that is held is left. -/
theorem lease_kept {scope : Scope} {labels : List Label} (regular : Along step Regular (start scope) labels) :
    ∀ before after u, labels = before ++ after → run step (start scope) before = some u → Safe u.log := by
  intro before after u split reached
  subst split
  have first := ((along_append reached).mp regular).1
  exact (run_induction (fun _ _ _ regular inv next => inv_step inv regular next) first (inv_start scope) reached).safe

def served (fields : List (String × Json)) : Exchange where
  reply := .json (.object (fields.map fun field => (field.1.toList, field.2)))

/-- A service that has the scope `arms`. -/
def status : Exchange :=
  served [("metadata", .object [("control_scopes".toList, .array [.str Scope.arms.name.toList])])]

def arming : Exchange := served [("armed", .bool true)]

def gripping : Action where
  values := some [("left_arm_gripper.pos".toList, .number (some true))]
  metadata := some (some actionSpace, some [("left_arm_gripper.pos".toList, "percent".toList)])

def accepting : Exchange := served [("command_accepted", .bool true)]

def confirming : Exchange := served [("released", .bool true), ("stop_confirmed", .bool true)]

def once : List Label := [.connect true status arming, .execute gripping accepting, .stop confirming]

/-- Armed, commanded, and stopped. -/
theorem lease_kept_once : ∃ u, run step (start .arms) once = some u ∧
    u.log = [.left 1 false, .released 1, .releaseSent 1, .commandSent 1, .armed 1, .armSent 1, .replaced 0 false] ∧
    Safe u.log := by
  have logged : (run step (start .arms) once).map log = some [.left 1 false, .released 1,
      .releaseSent 1, .commandSent 1, .armed 1, .armSent 1, .replaced 0 false] := by decide +kernel
  obtain ⟨u, ran, log⟩ := Option.map_eq_some_iff.mp logged
  have regular : Along step Regular (start .arms) once := by
    refine along_cons (fun prepared => nomatch prepared) rfl (along_cons ?_ rfl (along_cons trivial rfl trivial))
    intro _ _ raised fails
    cases fails
  exact ⟨u, ran, log, lease_kept regular once [] u (append_nil once).symm ran⟩

/-- A second `connect` arms under another id, while the service holds the lease for the first one. -/
theorem lease_replaced : ∃ u,
    run step (start .arms) [.connect true status arming, .connect true status arming] = some u ∧
      u.log = [.armed 2, .armSent 2, .replaced 1 true, .armed 1, .armSent 1, .replaced 0 false] ∧ ¬ Safe u.log := by
  have logged : (run step (start .arms) [.connect true status arming, .connect true status arming]).map log =
      some [.armed 2, .armSent 2, .replaced 1 true, .armed 1, .armSent 1, .replaced 0 false] := by decide +kernel
  obtain ⟨u, ran, log⟩ := Option.map_eq_some_iff.mp logged
  refine ⟨u, ran, log, fun safe => (safe.leases 1).1 ?_⟩
  rw [log]
  exact mem_cons_of_mem _ (mem_cons_of_mem _ mem_cons_self)

end EmbodiRun.Xlerobot.Proxy
