/-
# Http.Handler -- `ControlRequestHandler` of a server that owns an application

Two dispatchers look at the raw path.  Application routes go to `ControlHTTPAPI`, where every
method of the application authorizes before it does anything; the control routes authorize in
the handler.  What is left runs without authorization, and is not reached.

* `handle_guarded`: **each of them is `health`, or covered by the token of the request, and a job
  is touched in the scope of its owner only**.
-/
import EmbodiRun.Http.Dispatch

namespace EmbodiRun.Http

open Application Data Devices

/-! ## Authorization -/

inductive Role where
  | observer | controller | admin
  deriving DecidableEq

/-- `_ROLE_RANK`. -/
def Role.rank : Role → Nat
  | observer => 0
  | controller => 1
  | admin => 2

/-- A configured principal; `AuthPolicy` takes none without a caller. -/
structure Principal where
  role : Role
  trusted : Bool := false
  callerId : Text
  sessionId : Option Text := none
  deriving DecidableEq

structure AuthPolicy where
  principals : List (Text × Principal)

namespace AuthPolicy

def enabled (policy : AuthPolicy) : Bool := !policy.principals.isEmpty

def find? (policy : AuthPolicy) (token : Text) : Option Principal :=
  (policy.principals.find? fun entry => entry.1 = token).map Prod.snd

def Principal.stands (principal : Principal) (owner : Owner) : Bool :=
  principal.trusted ||
    (principal.callerId = owner.callerId && principal.sessionId.all fun session => session = owner.sessionId)

/-- `authorize_scope`, where it returns; without tokens everything is trusted. -/
def authorizeScope (policy : AuthPolicy) (token : Option Text) (required : Role) (owner : Owner) : Bool :=
  !policy.enabled || match token.bind policy.find? with
    | some principal => required.rank ≤ principal.role.rank && Principal.stands principal owner
    | none => false

end AuthPolicy

/-! ## Operations -/

inductive Primitive where
  | health
  | describe | observe | propose | media | recordingStatus | recordingGet | controlSnapshot
  | startRecording | stopRecording
  | emergencyStop | resetEmergencyStop | acquireManual | releaseManual | setManualDeadman
  | submitManualAction
  /-- `ControlService.execute` outside a job. -/
  | execute
  | inspectJob (key : JobKey)
  | submitJob (key : JobKey)
  | waitJob (key : JobKey)
  | cancelJob (key : JobKey)
  deriving DecidableEq

/-- The operation changes a state: the role of its route is at least `CONTROLLER`. -/
def Primitive.changes : Primitive → Bool
  | health | describe | observe | propose | media | recordingStatus | recordingGet | controlSnapshot
  | inspectJob _ | waitJob _ => false
  | _ => true

def Primitive.job : Primitive → Option JobKey
  | inspectJob key | submitJob key | waitJob key | cancelJob key => some key
  | _ => none

structure Invocation where
  primitive : Primitive
  owner : Owner
  token : Option Text
  deriving DecidableEq

/-- The role a method of `ControlApplication` asks for. -/
def AppOperation.role : AppOperation → Role
  | .describe | .observe .. | .media .. | .recordingStatus | .recordingGet _ | .inspect _ | .propose _ =>
    .observer
  | .execute _ | .legacyTask .. | .recordingStart | .recordingStop _ | .cancel _ | .stop _ => .controller

def AppOperation.primitives (owner : Owner) : AppOperation → List Primitive
  | .describe => [.describe]
  | .observe .. => [.observe]
  | .media .. => [.media]
  | .recordingStatus => [.recordingStatus]
  | .recordingGet _ => [.recordingGet]
  | .propose _ => [.propose]
  | .recordingStart => [.startRecording]
  | .recordingStop _ => [.stopRecording]
  | .inspect requestId => [.inspectJob (owner.key requestId)]
  | .cancel requestId | .stop requestId => [.cancelJob (owner.key requestId)]
  | .execute args =>
    [.inspectJob (owner.key args.requestId), .submitJob (owner.key args.requestId),
      .waitJob (owner.key args.requestId)]
  | .legacyTask request _ _ =>
    [.submitJob (owner.key request.requestId), .waitJob (owner.key request.requestId)]

/-- A method of `ControlApplication`: `_scope`, `_authorize`, and what it does. -/
def invoked (policy : AuthPolicy) (call : Call) : List Invocation :=
  if !blank call.owner.callerId && !blank call.owner.sessionId &&
      policy.authorizeScope call.token call.operation.role call.owner then
    (call.operation.primitives call.owner).map fun primitive => ⟨primitive, call.owner, call.token⟩
  else []

/-! ## The handler -/

structure ControlServer where
  py : Python
  policy : AuthPolicy
  trusted : Trusted
  app : Call → Result Answer

section

variable (server : ControlServer)

def controlPath : Text := "/v1/control".toList
def controlPrefix : Text := "/v1/control/".toList
def healthPath : Text := "/healthz".toList

def isApplicationRoute (path : Text) : Bool :=
  let route := match rstrip (path.takeWhile (· ≠ '?')) with
    | [] => ['/']
    | text => text
  !controlPath.isPrefixOf route &&
    (route ∈ [describePath, observePath, proposePath, executePath, tasksPath, cancelPath, stopPath,
        recordingStartPath, recordingStopPath, statusPath] ||
      jobsPrefix.isPrefixOf route || mediaPrefix.isPrefixOf route || recordPrefix.isPrefixOf route)

/-- `_dispatch_application`, on a route of the application. -/
def dispatched (method path : Text) (body : Body) (headers : Headers) : List Invocation :=
  (dispatch server.py server.policy.enabled server.trusted server.app
    ⟨method, path, body, headers⟩).1.flatMap (invoked server.policy)

/-- `_authorize_legacy`: the scope, where it returns true. -/
def authorizeLegacy (role : Role) (given : Headers) : Option (Owner × Option Text) :=
  match (do
    let found ← headers server.py given
    let token ← token server.py found
    let owner ← identity server.policy.enabled server.trusted found token
    return (owner, token) : Result (Owner × Option Text)) with
  | .ok (owner, token) =>
    if server.policy.authorizeScope token role owner then some (owner, token) else none
  | .error _ => none

def legacy (role : Role) (given : Headers) (primitive : Primitive) : List Invocation :=
  match authorizeLegacy server role given with
  | some (owner, token) => [⟨primitive, owner, token⟩]
  | none => []

def unguarded (primitive : Primitive) : List Invocation := [⟨primitive, ⟨[], []⟩, none⟩]

def doGet (path : Text) (given : Headers) : List Invocation :=
  if isApplicationRoute path then dispatched server "GET".toList path .absent given
  else if path = describePath then unguarded .describe
  else if path = observePath then unguarded .observe
  else if path = controlPath then legacy server .observer given .controlSnapshot
  else if path = healthPath then unguarded .health
  else []

def controlOperation (path : Text) : Option Primitive :=
  if path = "/v1/control/emergency-stop".toList then some .emergencyStop
  else if path = "/v1/control/reset".toList then some .resetEmergencyStop
  else if path = "/v1/control/manual/acquire".toList then some .acquireManual
  else if path = "/v1/control/manual/release".toList then some .releaseManual
  else if path = "/v1/control/manual/deadman".toList then some .setManualDeadman
  else if path = "/v1/control/manual/action".toList then some .submitManualAction
  else none

def handleControlPost (path : Text) (given : Headers) : List Invocation :=
  match controlOperation path with
  | some primitive => legacy server .controller given primitive
  | none => []

/-- `do_POST`; `body` is `none` where it cannot be read. -/
def doPost (path : Text) (body : Option Body) (given : Headers) : List Invocation :=
  if isApplicationRoute path then
    match body with
    | some body => dispatched server "POST".toList path body given
    | none => []
  else if path = tasksPath then unguarded .execute
  else if controlPrefix.isPrefixOf path then handleControlPost server path given
  else []

def handle (verb : Verb) (path : Text) (body : Option Body) (given : Headers) : List Invocation :=
  match verb with
  | .get => doGet server path given
  | .post => doPost server path body given
  | .other _ => []

/-! ## Every operation is guarded -/

/-- The token of the request is configured, its role covers the operation, and it is bound to the
scope of the operation, unless the principal is configured as trusted. -/
def Guarded (policy : AuthPolicy) (i : Invocation) : Prop :=
  ∃ token principal, i.token = some token ∧ policy.find? token = some principal ∧
    (if i.primitive.changes then Role.controller else Role.observer).rank ≤ principal.role.rank ∧
    (principal.trusted = false → principal.callerId = i.owner.callerId ∧
      ∀ session, principal.sessionId = some session → session = i.owner.sessionId)

def Owned (i : Invocation) : Prop := ∀ key, i.primitive.job = some key → key.owner = i.owner

variable {server}
variable {policy : AuthPolicy} {required : Role} {owner : Owner} {i : Invocation}
  {primitive : Primitive} {given : Headers}

theorem authorizeScope_spec {token} (enabled : policy.enabled)
    (authorized : policy.authorizeScope token required owner) :
    ∃ text principal, token = some text ∧ policy.find? text = some principal ∧
      required.rank ≤ principal.role.rank ∧ (principal.trusted = false → principal.callerId = owner.callerId ∧
        ∀ session, principal.sessionId = some session → session = owner.sessionId) := by
  unfold AuthPolicy.authorizeScope at authorized
  rw [enabled] at authorized
  simp only [Bool.not_true, Bool.false_or] at authorized
  split at authorized
  · rename_i principal found
    obtain ⟨text, given, configured⟩ := Option.bind_eq_some_iff.mp found
    obtain ⟨ranked, stands⟩ := Bool.and_eq_true_iff.mp authorized
    refine ⟨text, principal, given, configured, of_decide_eq_true ranked, fun bound => ?_⟩
    unfold AuthPolicy.Principal.stands at stands
    rw [bound, Bool.false_or, Bool.and_eq_true_iff] at stands
    refine ⟨of_decide_eq_true stands.1, fun session same => ?_⟩
    have all := stands.2
    rw [same] at all
    exact of_decide_eq_true all
  · cases authorized

theorem guarded_of_authorized (enabled : policy.enabled)
    (authorized : policy.authorizeScope i.token required i.owner)
    (covers : i.primitive.changes → required = .controller) : Guarded policy i := by
  obtain ⟨text, principal, given, configured, ranked, bound⟩ := authorizeScope_spec enabled authorized
  refine ⟨text, principal, given, configured, ?_, bound⟩
  by_cases changes : i.primitive.changes
  · rw [if_pos changes, ← covers changes]
    exact ranked
  · rw [if_neg changes]
    exact Nat.zero_le _

theorem primitives_spec {operation : AppOperation} (does : primitive ∈ operation.primitives owner) :
    (primitive.changes → operation.role = .controller) ∧
      ∀ key, primitive.job = some key → key.owner = owner := by
  cases operation
  all_goals simp only [AppOperation.primitives, List.mem_cons, List.not_mem_nil, or_false] at does
  case execute args =>
    refine ⟨fun _ => rfl, fun key found => ?_⟩
    rcases does with rfl | rfl | rfl <;> (obtain rfl := Option.some.inj found; rfl)
  case legacyTask request wait timeout =>
    refine ⟨fun _ => rfl, fun key found => ?_⟩
    rcases does with rfl | rfl <;> (obtain rfl := Option.some.inj found; rfl)
  case inspect requestId =>
    subst does
    exact ⟨nofun, fun key found => by obtain rfl := Option.some.inj found; rfl⟩
  case cancel requestId | stop requestId =>
    subst does
    exact ⟨fun _ => rfl, fun key found => by obtain rfl := Option.some.inj found; rfl⟩
  case recordingStart | recordingStop timeout =>
    subst does
    exact ⟨fun _ => rfl, nofun⟩
  all_goals
    subst does
    exact ⟨nofun, nofun⟩

theorem guarded_invoked {call : Call} (enabled : policy.enabled) (member : i ∈ invoked policy call) :
    Guarded policy i ∧ Owned i := by
  unfold invoked at member
  split at member
  · rename_i admitted
    obtain ⟨primitive, does, rfl⟩ := List.mem_map.mp member
    obtain ⟨covers, owned⟩ := primitives_spec does
    exact ⟨guarded_of_authorized enabled (Bool.and_eq_true_iff.mp admitted).2 covers, owned⟩
  · cases member

theorem guarded_dispatched {method path} {body} (enabled : server.policy.enabled)
    (member : i ∈ dispatched server method path body given) : Guarded server.policy i ∧ Owned i := by
  obtain ⟨call, _, here⟩ := List.mem_flatMap.mp member
  exact guarded_invoked enabled here

theorem guarded_legacy {role} (enabled : server.policy.enabled)
    (covers : primitive.changes → role = .controller) (jobless : primitive.job = none)
    (member : i ∈ legacy server role given primitive) : Guarded server.policy i ∧ Owned i := by
  unfold legacy at member
  split at member
  · rename_i owner token authorized
    obtain rfl := List.mem_singleton.mp member
    unfold authorizeLegacy at authorized
    split at authorized
    · split at authorized
      · rename_i allowed
        obtain ⟨rfl, rfl⟩ := Prod.mk.inj (Option.some.inj authorized)
        refine ⟨guarded_of_authorized enabled allowed covers, fun key found => ?_⟩
        rw [jobless] at found
        cases found
      · cases authorized
    · cases authorized
  · cases member

theorem controlOperation_jobless {path} (found : controlOperation path = some primitive) :
    primitive.job = none := by
  unfold controlOperation at found
  repeat' split at found
  all_goals first | (obtain rfl := Option.some.inj found; rfl) | cases found

theorem isApplicationRoute_unguarded : isApplicationRoute describePath ∧
    isApplicationRoute observePath ∧ isApplicationRoute tasksPath := by decide +kernel

/-- **Every operation is guarded**: past its authorization it is `health`, or the token is configured and
covers it, and is bound to its scope unless trusted; a job is touched under its owner. -/
theorem handle_guarded (enabled : server.policy.enabled) {verb : Verb} {path : Text}
    {body : Option Body} {given : Headers} {i : Invocation}
    (member : i ∈ handle server verb path body given) :
    (i.primitive = .health ∨ Guarded server.policy i) ∧ Owned i := by
  obtain ⟨describe, observe, tasks⟩ := isApplicationRoute_unguarded
  have both (guarded : Guarded server.policy i ∧ Owned i) :
      (i.primitive = .health ∨ Guarded server.policy i) ∧ Owned i := ⟨.inr guarded.1, guarded.2⟩
  cases verb with
  | get =>
    simp only [handle, doGet] at member
    split at member
    · exact both (guarded_dispatched enabled member)
    rename_i other
    split at member
    · rename_i same
      rw [same] at other
      exact absurd describe other
    split at member
    · rename_i same
      rw [same] at other
      exact absurd observe other
    split at member
    · exact both (guarded_legacy enabled (fun changes => (by cases changes)) rfl member)
    split at member
    · obtain rfl := List.mem_singleton.mp member
      exact ⟨.inl rfl, fun key found => (by cases found)⟩
    · cases member
  | post =>
    simp only [handle, doPost] at member
    split at member
    · split at member
      · exact both (guarded_dispatched enabled member)
      · cases member
    rename_i other
    split at member
    · rename_i same
      rw [same] at other
      exact absurd tasks other
    split at member
    · unfold handleControlPost at member
      split at member
      · rename_i primitive found
        exact both (guarded_legacy enabled (fun _ => rfl) (controlOperation_jobless found) member)
      · cases member
    · cases member
  | other => cases member

end

/-! ## A trusted principal -/

/-- The token `t` stands for a trusted controller with the caller `a`. -/
def trustedServer (trusted : Bool) : ControlServer where
  py := asciiPython
  policy := ⟨[(['t'], ⟨.controller, trusted, ['a'], none⟩)]⟩
  trusted := ⟨['c'], ['s']⟩
  app := acknowledges

/-- The headers of a caller in the session `s` with the token `t`. -/
def headersOf (caller : Text) : Headers :=
  .items [(some "X-Caller-ID".toList, some caller), (some "X-Session-ID".toList, some ['s']),
    (some "X-Control-Token".toList, some ['t'])]

/-- Job `j` is inspected under the scope of the token's own caller. -/
theorem handle_guarded_inspect :
    (Primitive.inspectJob ⟨['a'], ['s'], ['j']⟩ = .health ∨ Guarded (trustedServer false).policy
      ⟨.inspectJob ⟨['a'], ['s'], ['j']⟩, ⟨['a'], ['s']⟩, some ['t']⟩) ∧
    Owned ⟨.inspectJob ⟨['a'], ['s'], ['j']⟩, ⟨['a'], ['s']⟩, some ['t']⟩ := by
  have member : (⟨.inspectJob ⟨['a'], ['s'], ['j']⟩, ⟨['a'], ['s']⟩, some ['t']⟩ : Invocation) ∈
      handle (trustedServer false) .get "/v1/jobs/j".toList none (headersOf ['a']) := by decide +kernel
  exact @handle_guarded (trustedServer false) rfl _ _ _ _ _ member

/-- A trusted principal of caller `a` inspects a job of caller `b`. -/
theorem trusted_unbound : (⟨.inspectJob ⟨['b'], ['s'], ['j']⟩, ⟨['b'], ['s']⟩, some ['t']⟩ : Invocation) ∈
      handle (trustedServer true) .get "/v1/jobs/j".toList none (headersOf ['b']) ∧
    (trustedServer true).policy.find? ['t'] = some ⟨.controller, true, ['a'], none⟩ := by
  constructor <;> decide +kernel

end EmbodiRun.Http
