/-
# Deployment.CaptureProfiles -- the cameras that the runtimes of one service share

Runtimes whose sensor inputs resolve to one camera share its source.  The plan compares the kind, the value
and the owner of the resources that it merges; the service compares how each input captures, when it acquires
the cameras of a runtime.
-/
import EmbodiRun.Deployment.Configs

namespace EmbodiRun.Deployment.Views

open Application Data Devices List

/-! ## What the service compares -/

def selectors : List Text := ["device".toList, "path".toList, "serial".toList, "serial_number".toList]

def captureOptions (options : Fields) : Fields := selectors.foldl (fun left key => left.erase key) options

/-- A kind, and the text of the options: `json.dumps` with `sort_keys` writes two trees alike only if they
are the same. -/
structure CaptureProfile where
  kind : Text
  options : Fields
  deriving DecidableEq

/-- `_camera_capture_profile`. -/
def captureProfile (input : SensorInput) : CaptureProfile := ⟨input.kind, captureOptions input.options⟩

structure Cameras where
  sources : List Text := []
  profiles : Dict Text CaptureProfile := .empty

inductive CameraError where
  | unresolved (sensorId : Text)
  | incompatible (key : Text)
  | unopened (key : Text)

section

variable (fs : FileSystem)

/-- `_sensor_identity(config, item).key`. -/
def cameraKey (config : ControlServiceConfig) (input : SensorInput) : Option Text :=
  (sensorIdentity fs config input).map ResourceIdentity.key

/-- The inputs whose cameras are wanted.  A second input of one camera is passed over before its profile is
looked at, so the profiles of this call, which are compared next, never hold its key. -/
def wanted (cameras : Cameras) (config : ControlServiceConfig) (seen : List Text)
    (profiles : Dict Text CaptureProfile) : List SensorInput → Except CameraError (List (Text × CaptureProfile))
  | [] => .ok []
  | input :: rest => match cameraKey fs config input with
      | none => .error (.unresolved input.sensorId)
      | some key =>
        if key ∈ seen then wanted cameras config seen profiles rest
        else if ∃ existing ∈ cameras.profiles.get? key, existing ≠ captureProfile input then
          .error (.incompatible key)
        else if ∃ existing ∈ profiles.get? key, existing ≠ captureProfile input then .error (.incompatible key)
        else (wanted cameras config (key :: seen) (profiles.set key (captureProfile input)) rest).map
          ((key, captureProfile input) :: ·)

/-- The wanted cameras are opened in turn, where they are not open; what was opened before a failure stays.
The plan lists no resource with an external owner. -/
def register (opens : Text → Bool) (cameras : Cameras) :
    List (Text × CaptureProfile) → Cameras × Except CameraError Unit
  | [] => (cameras, .ok ())
  | (key, profile) :: rest =>
    if key ∉ cameras.sources ∧ opens key = false then (cameras, .error (.unopened key))
    else register opens ⟨if key ∈ cameras.sources then cameras.sources else key :: cameras.sources,
      cameras.profiles.set key profile⟩ rest

/-- `_acquire_cameras`, of a service that manages its devices. -/
def acquireCameras (opens : Text → Bool) (cameras : Cameras) (config : ControlServiceConfig) :
    Cameras × Except CameraError Unit :=
  match wanted fs cameras config [] .empty config.inputs with
  | .error error => (cameras, .error error)
  | .ok pending => register opens cameras pending

/-- What the acquisitions of some runtimes' cameras return, one after the other; each comes with the cameras
that can be opened. -/
def acquisitions (cameras : Cameras) : List (ControlServiceConfig × (Text → Bool)) → List (Except CameraError Unit)
  | [] => []
  | (config, opens) :: rest =>
    (acquireCameras fs opens cameras config).2 :: acquisitions (acquireCameras fs opens cameras config).1 rest

end

/-! ## What the plan accepts -/

def controlOf : List ControlServiceConfig → Except MergeError ControlServiceConfig
  | [config] => .ok config
  | configs => mergeControlServices configs

def view (service : ControlServiceConfig) (robot : Robot) (runtime : Runtime) : ControlServiceConfig :=
  service.forProfile (controlService robot runtime).toControlRuntimeProfile

variable (fs : FileSystem)

def Compatible (service : ControlServiceConfig) (robot : Robot) (runtimes : List Runtime) : Prop :=
  ∀ a ∈ runtimes, ∀ b ∈ runtimes, ∀ x ∈ (view service robot a).inputs, ∀ y ∈ (view service robot b).inputs,
    ∀ key, cameraKey fs (view service robot a) x = some key → cameraKey fs (view service robot b) y = some key →
      captureProfile x = captureProfile y

/-- No acquisition fails on a profile, whatever the order and whichever cameras can be opened. -/
def Peaceful (service : ControlServiceConfig) (robot : Robot) (runtimes : List Runtime) : Prop :=
  ∀ calls : List (Runtime × (Text → Bool)), (∀ call ∈ calls, call.1 ∈ runtimes) →
    ∀ result ∈ acquisitions fs {} (calls.map fun call => (view service robot call.1, call.2)),
      ∀ key, result ≠ .error (.incompatible key)

/-- Sensors of one camera are declared with one kind, and with the same options but for selectors. -/
def Agreeing (robot : Robot) (runtimes : List Runtime) : Prop :=
  ∀ a ∈ runtimes, ∀ b ∈ runtimes, ∀ s ∈ a.inputs, ∀ t ∈ b.inputs, ∀ key,
    cameraKey fs (controlService robot a) ⟨s.2.sensorId, s.1, s.2.kind, s.2.options⟩ = some key →
    cameraKey fs (controlService robot b) ⟨t.2.sensorId, t.1, t.2.kind, t.2.options⟩ = some key →
      s.2.kind = t.2.kind ∧ captureOptions s.2.options = captureOptions t.2.options

/-! ## Acquisitions -/

section

variable {fs} {service : ControlServiceConfig} {robot : Robot} {runtimes : List Runtime} {cameras : Cameras}

def Kept (fs : FileSystem) (service : ControlServiceConfig) (robot : Robot) (runtimes : List Runtime)
    (profiles : Dict Text CaptureProfile) : Prop :=
  ∀ key profile, profiles.get? key = some profile →
    ∃ runtime ∈ runtimes, ∃ input ∈ (view service robot runtime).inputs,
      cameraKey fs (view service robot runtime) input = some key ∧ profile = captureProfile input

theorem kept_set {profiles} {runtime} {input} {key}
    (kept : Kept fs service robot runtimes profiles) (member : runtime ∈ runtimes)
    (given : input ∈ (view service robot runtime).inputs)
    (found : cameraKey fs (view service robot runtime) input = some key) :
    Kept fs service robot runtimes (profiles.set key (captureProfile input)) := by
  intro other profile held
  by_cases same : other = key
  · subst same
    rw [Dict.get?_set_self] at held
    exact ⟨runtime, member, input, given, found, (Option.some.inj held).symm⟩
  · rw [Dict.get?_set_of_ne same] at held
    exact kept other profile held

theorem wanted_spec (compatible : Compatible fs service robot runtimes)
    (kept : Kept fs service robot runtimes cameras.profiles)
    {runtime} (member : runtime ∈ runtimes) {inputs}
    (given : ∀ input ∈ inputs, input ∈ (view service robot runtime).inputs) {seen}
    {profiles} (own : Kept fs service robot runtimes profiles) :
    (∀ key, wanted fs cameras (view service robot runtime) seen profiles inputs ≠ .error (.incompatible key)) ∧
    ∀ pending, wanted fs cameras (view service robot runtime) seen profiles inputs = .ok pending →
      ∀ item ∈ pending, ∃ input ∈ (view service robot runtime).inputs,
        cameraKey fs (view service robot runtime) input = some item.1 ∧ item.2 = captureProfile input := by
  induction inputs generalizing seen profiles with
  | nil => exact ⟨(by rintro _ ⟨⟩), fun pending done item held => by cases done; cases held⟩
  | cons input inputs ih =>
    have here := given input mem_cons_self
    have there : ∀ other ∈ inputs, other ∈ (view service robot runtime).inputs :=
      fun other held => given other (mem_cons_of_mem _ held)
    unfold wanted
    cases found : cameraKey fs (view service robot runtime) input with
    | none => exact ⟨(by simp), (by simp)⟩
    | some key =>
      have alike {kept' : Dict Text CaptureProfile} (kept : Kept fs service robot runtimes kept') :
          ¬∃ existing ∈ kept'.get? key, existing ≠ captureProfile input := by
        rintro ⟨existing, held, other⟩
        obtain ⟨b, memberB, y, givenY, foundY, rfl⟩ := kept key existing held
        exact other (compatible b memberB runtime member y givenY input here key foundY found)
      dsimp only
      split
      case isTrue => exact ih there own
      rw [if_neg (alike kept), if_neg (alike own)]
      obtain ⟨clear, listed⟩ := @ih there (key :: seen) _ (kept_set own member here found)
      constructor
      · intro other raised
        cases rest : wanted fs cameras (view service robot runtime) (key :: seen)
            (profiles.set key (captureProfile input)) inputs with
        | ok pending =>
          rw [rest] at raised
          cases raised
        | error error =>
          rw [rest] at raised
          exact clear other (rest.trans (congrArg Except.error (Except.error.inj raised)))
      · intro pending done item held
        cases rest : wanted fs cameras (view service robot runtime) (key :: seen)
            (profiles.set key (captureProfile input)) inputs with
        | error error =>
          rw [rest] at done
          cases done
        | ok others =>
          rw [rest] at done
          obtain rfl := Except.ok.inj done
          rcases List.mem_cons.mp held with rfl | later
          · exact ⟨input, here, found, rfl⟩
          · exact listed others rest item later

theorem register_spec {opens} {runtime} (member : runtime ∈ runtimes)
    {pending} (kept : Kept fs service robot runtimes cameras.profiles)
    (listed : ∀ item ∈ pending, ∃ input ∈ (view service robot runtime).inputs,
      cameraKey fs (view service robot runtime) input = some item.1 ∧ item.2 = captureProfile input) :
    Kept fs service robot runtimes (register opens cameras pending).1.profiles ∧
      ∀ key, (register opens cameras pending).2 ≠ .error (.incompatible key) := by
  induction pending generalizing cameras with
  | nil => exact ⟨kept, nofun⟩
  | cons item pending ih =>
    obtain ⟨input, given, found, same⟩ := listed item mem_cons_self
    unfold register
    split
    case isTrue => exact ⟨kept, nofun⟩
    refine ih ?_ fun other held => listed other (mem_cons_of_mem _ held)
    rw [same]
    exact kept_set kept member given found

theorem acquire_spec (compatible : Compatible fs service robot runtimes) {opens} {runtime}
    (member : runtime ∈ runtimes) (kept : Kept fs service robot runtimes cameras.profiles) :
    Kept fs service robot runtimes (acquireCameras fs opens cameras (view service robot runtime)).1.profiles ∧
      ∀ key, (acquireCameras fs opens cameras (view service robot runtime)).2 ≠ .error (.incompatible key) := by
  have start : Kept fs service robot runtimes .empty := nofun
  obtain ⟨clear, listed⟩ := @wanted_spec _ _ _ _ _ compatible kept _ member _ (fun input held => held) [] _ start
  unfold acquireCameras
  cases found : wanted fs cameras (view service robot runtime) [] .empty (view service robot runtime).inputs with
  | error =>
    refine ⟨kept, fun key raised => clear key (found.trans ?_)⟩
    exact congrArg Except.error (Except.error.inj raised)
  | ok pending => exact register_spec member kept (listed pending found)

theorem acquisitions_spec (compatible : Compatible fs service robot runtimes)
    {calls : List (Runtime × (Text → Bool))} (known : ∀ call ∈ calls, call.1 ∈ runtimes)
    (kept : Kept fs service robot runtimes cameras.profiles) :
    ∀ result ∈ acquisitions fs cameras (calls.map fun call => (view service robot call.1, call.2)),
      ∀ key, result ≠ .error (.incompatible key) := by
  induction calls generalizing cameras with
  | nil => nofun
  | cons call calls ih =>
    obtain ⟨kept', clear⟩ := @acquire_spec _ _ _ _ _ compatible call.2 _ (known call mem_cons_self) kept
    intro result member
    rcases List.mem_cons.mp member with rfl | later
    · exact clear
    · exact ih (fun other held => known other (mem_cons_of_mem _ held)) kept' result later

/-- **Compatible runtimes** never conflict. -/
theorem no_conflict (compatible : Compatible fs service robot runtimes) : Peaceful fs service robot runtimes :=
  fun _ known => acquisitions_spec compatible known nofun

/-! ## Accepted plans -/

theorem cameraKey_view (deployed : Deployed robot runtimes)
    (accepted : controlOf (runtimes.map (controlService robot)) = .ok service) {runtime : Runtime}
    (member : runtime ∈ runtimes) {input : SensorInput} (given : input ∈ (controlService robot runtime).inputs) :
    cameraKey fs (view service robot runtime) input = cameraKey fs (controlService robot runtime) input := by
  match runtimes, deployed, accepted, member with
  | [], _, _, member => cases member
  | [only], _, accepted, member =>
    obtain rfl := List.mem_singleton.mp member
    obtain rfl := Except.ok.inj accepted
    rfl
  | a :: b :: rest, deployed, accepted, member =>
    exact congrArg (Option.map ResourceIdentity.key) (plan_keeps_views fs deployed accepted member given)

theorem compatible_iff_agreeing (deployed : Deployed robot runtimes)
    (accepted : controlOf (runtimes.map (controlService robot)) = .ok service) :
    Compatible fs service robot runtimes ↔ Agreeing fs robot runtimes := by
  have listed {runtime : Runtime} {s : Text × Sensor} (held : s ∈ runtime.inputs) :
      (⟨s.2.sensorId, s.1, s.2.kind, s.2.options⟩ : SensorInput) ∈ (controlService robot runtime).inputs :=
    List.mem_map.mpr ⟨s, held, rfl⟩
  constructor
  · intro compatible a memberA b memberB s heldS t heldT key foundS foundT
    rw [← cameraKey_view deployed accepted memberA (listed heldS)] at foundS
    rw [← cameraKey_view deployed accepted memberB (listed heldT)] at foundT
    exact CaptureProfile.mk.inj (compatible a memberA b memberB _ (listed heldS) _ (listed heldT) key foundS foundT)
  · intro agreeing a memberA b memberB x givenX y givenY key foundX foundY
    obtain ⟨s, heldS, rfl⟩ := List.mem_map.mp givenX
    obtain ⟨t, heldT, rfl⟩ := List.mem_map.mp givenY
    rw [cameraKey_view deployed accepted memberA (listed heldS)] at foundX
    rw [cameraKey_view deployed accepted memberB (listed heldT)] at foundY
    obtain ⟨kind, options⟩ := agreeing a memberA b memberB s heldS t heldT key foundX foundY
    exact CaptureProfile.mk.injEq _ _ _ _ ▸ ⟨kind, options⟩

/-- **Camera profiles of an accepted plan** agree, exactly when the sensors of each camera are declared
alike. -/
theorem compatible_iff (deployed : Deployed robot runtimes)
    (accepted : controlOf (runtimes.map (controlService robot)) = .ok service) :
    Compatible fs service robot runtimes ∧ Peaceful fs service robot runtimes ↔ Agreeing fs robot runtimes :=
  (and_iff_left_of_imp no_conflict).trans (compatible_iff_agreeing deployed accepted)

end

/-! ## One camera under two names -/

def arm : Robot where
  robotId := ['r']
  kind := ['k']
  options := .empty
  owner := .null
  node := ['n']
  connection := ⟨['n'], robotKind, ['p']⟩
  ports := []
  robot := List.forall_mem_singleton.mpr (by decide +kernel)

/-- The sensor of this name at the device `/v`. -/
def declared (name : Char) (named : Http.blank [name] = false) (width : ℤ) : Sensor where
  sensorId := [name]
  kind := ['k']
  options := .field "device".toList (.str ['/', 'v']) (.field "width".toList (.number (.int width)) .empty)
  owner := .null
  identity := ⟨['n'], sensorKind, ['/', 'v']⟩
  named
  sensor := rfl

def runtimeOf (name : Char) (named : Http.blank [name] = false) (width : ℤ) : Runtime where
  profile := {
    runtimeId := [name]
    bindingKind := ['b']
    inferenceBackend := ['v']
    inferenceTransport := "http".toList
    inferenceEndpoint := ['e']
    inferenceOptions := .empty
    inputs := []
    runtimeOptions := .empty }
  bind := "localhost".toList
  port := 1
  inputs := [(['f'], declared name named width)]

def pair (first second : ℤ) : List Runtime := [runtimeOf 'c' (by decide) first, runtimeOf 'd' (by decide) second]

theorem deployed_pair (first second : ℤ) : Deployed arm (pair first second) := by
  have inputs (runtime : Runtime) (member : runtime ∈ pair first second) (input : Text × Sensor)
      (given : input ∈ runtime.inputs) : input.2.identity = ⟨['n'], sensorKind, ['/', 'v']⟩ := by
    rcases List.mem_cons.mp member with rfl | member
    · obtain rfl := List.mem_singleton.mp given
      rfl
    · obtain rfl := List.mem_singleton.mp member
      obtain rfl := List.mem_singleton.mp given
      rfl
  have node : Http.strip arm.node = ['n'] := by decide +kernel
  refine ⟨by simp [pair, runtimeOf], fun runtime member input given => ?_,
    fun a memberA b memberB x givenX y givenY _ => ?_⟩
  · rw [inputs runtime member input given, node]
  · rw [inputs a memberA x givenX, inputs b memberB y givenY]

theorem agreeing_pair (width : ℤ) : Agreeing plainFiles arm (pair width width) := by
  have declares (runtime : Runtime) (member : runtime ∈ pair width width) (input : Text × Sensor)
      (given : input ∈ runtime.inputs) : input.2.kind = ['k'] ∧ input.2.options =
        .field "device".toList (.str ['/', 'v']) (.field "width".toList (.number (.int width)) .empty) := by
    rcases List.mem_cons.mp member with rfl | member
    · obtain rfl := List.mem_singleton.mp given
      exact ⟨rfl, rfl⟩
    · obtain rfl := List.mem_singleton.mp member
      obtain rfl := List.mem_singleton.mp given
      exact ⟨rfl, rfl⟩
  intro a memberA b memberB s givenS t givenT _ _ _
  obtain ⟨kindS, optionsS⟩ := declares a memberA s givenS
  obtain ⟨kindT, optionsT⟩ := declares b memberB t givenT
  rw [kindS, kindT, optionsS, optionsT]
  exact ⟨rfl, rfl⟩

theorem exists_control (first second : ℤ)
    (planned : (controlOf ((pair first second).map (controlService arm))).isOk = true) :
    ∃ service, controlOf ((pair first second).map (controlService arm)) = .ok service := by
  cases accepted : controlOf ((pair first second).map (controlService arm)) with
  | error =>
    rw [accepted] at planned
    cases planned
  | ok service => exact ⟨service, rfl⟩

/-- The camera is planned for two runtimes with one width, and never refused to one of them. -/
theorem compatible_pair : ∃ service, controlOf ((pair 640 640).map (controlService arm)) = .ok service ∧
    Compatible plainFiles service arm (pair 640 640) ∧ Peaceful plainFiles service arm (pair 640 640) := by
  obtain ⟨service, accepted⟩ := exists_control 640 640 (by decide +kernel)
  exact ⟨service, accepted, (compatible_iff (deployed_pair 640 640) accepted).mpr (agreeing_pair 640)⟩

/-- The camera is planned for two runtimes with two widths. -/
theorem profiles_conflict : ¬∀ (fs : FileSystem) (robot : Robot) (runtimes : List Runtime)
    (service : ControlServiceConfig), Deployed robot runtimes →
      controlOf (runtimes.map (controlService robot)) = .ok service →
        Compatible fs service robot runtimes ∧ Peaceful fs service robot runtimes := by
  intro all
  obtain ⟨service, accepted⟩ := exists_control 640 320 (by decide +kernel)
  have compatible := (all plainFiles arm (pair 640 320) service (deployed_pair 640 320) accepted).1
  have agreeing := (compatible_iff_agreeing (deployed_pair 640 320) accepted).mp compatible
  have alike := agreeing _ mem_cons_self _ (mem_cons_of_mem _ mem_cons_self) _
    (List.mem_singleton_self _) _ (List.mem_singleton_self _)
    (⟨['n'], sensorKind, ['/', 'v']⟩ : ResourceIdentity).key (by decide +kernel) (by decide +kernel)
  exact absurd alike.2 (by decide +kernel)

end EmbodiRun.Deployment.Views
