/-
# Deployment.Sync -- one node's source, link, marker and environments

`init` prepares the managed checkout and every environment from it; `sync` uploads a source
tree, prepares the environments from it where it takes them to be out of date, and links it.
One label is one command on the node, so an operation may fail after any of them.

Whether `sync` prepares is decided from the marker and the link, or else from the managed
checkout.  None of them says what the environments were prepared from.

A digest stands here for what it hashes, and a release for the tree it is named after.
-/
import EmbodiRun.Devices.Identity
import EmbodiRun.Transition.Machine

namespace EmbodiRun.Deployment.Sync

open Devices Transition

abbrev EnvironmentId := Text

/-! ## The node -/

/-- `_DEPENDENCY_FILES` of a source tree: `pyproject.toml` and `uv.lock`. -/
structure DependencyFiles where
  pyproject : Text
  uvLock : Text
  deriving DecidableEq, Repr

structure SourceTree where
  dependencyFiles : DependencyFiles
  rest : Text
  deriving DecidableEq, Repr

structure Checkout where
  pyproject : Option Text := none
  uvLock : Option Text := none
  deriving DecidableEq, Repr

def Checkout.dependencyFiles (checkout : Checkout) : Option DependencyFiles :=
  match checkout.pyproject, checkout.uvLock with
  | some pyproject, some uvLock => some ⟨pyproject, uvLock⟩
  | _, _ => none

/-- `_managed_dependencies_match`. -/
def Checkout.matches (checkout : Checkout) (files : DependencyFiles) : Bool :=
  checkout.pyproject = some files.pyproject ∧ checkout.uvLock = some files.uvLock

/-- The target of `overlays/deploy/current`. -/
inductive Link where
  | managed
  | release (tree : SourceTree)
  deriving DecidableEq

/-- Where the operation on the node stands; `changed` as `_synchronize_dependencies` returns it. -/
inductive Stage where
  | idle
  /-- `init`: before the checkout, before the link, preparing, verifying resources. -/
  | starting
  | linking
  | initializing (rest : List EnvironmentId)
  | probing
  /-- `sync`: the release is installed; preparing; writing the marker; linking. -/
  | checking (archive : SourceTree)
  | preparing (archive : SourceTree) (rest : List EnvironmentId)
  | marking (archive : SourceTree) (changed : Bool)
  | activating (archive : SourceTree) (changed : Bool)
  deriving DecidableEq

structure State where
  managed : Checkout := {}
  link : Option Link := none
  marker : Option DependencyFiles := none
  /-- What each environment was last prepared from. -/
  prepared : EnvironmentId → Option DependencyFiles := fun _ => none
  /-- The state file has the node and its environments. -/
  ready : Bool := false
  stage : Stage := .idle
  /-- An operation was given up between the first thing it changed and the last, and none has
  prepared every environment since.  No command reads it. -/
  interrupted : Bool := false

open State

inductive Label where
  | init
  /-- What the checkout leaves of the managed files, also where it fails. -/
  | checkout (files : Checkout)
  | linkManaged
  | prepare
  /-- `init` is over; `saves` says whether the state file is written. -/
  | initialized (saves : Bool)
  | initFails (saves : Bool)
  | sync (archive : SourceTree)
  | check
  | mark
  | activate
  | syncFails
  deriving DecidableEq, Repr

/-! ## The machine -/

namespace State

def active (s : State) : Option DependencyFiles :=
  match s.link with
  | some .managed => s.managed.dependencyFiles
  | some (.release tree) => some tree.dependencyFiles
  | none => none

def recorded (s : State) (archive : SourceTree) : Bool :=
  s.marker = some archive.dependencyFiles ∧ s.link = some (.release archive)

/-- `_synchronize_dependencies` prepares the environments. -/
def prepares (s : State) (archive : SourceTree) : Bool :=
  !s.recorded archive && !s.managed.matches archive.dependencyFiles

def prepareOne (s : State) (e : EnvironmentId) (files : DependencyFiles) : State :=
  { s with prepared := Function.update s.prepared e (some files) }

def preparing (archive : SourceTree) : List EnvironmentId → Stage
  | [] => .marking archive true
  | rest => .preparing archive rest

end State

/-- `init` given up at this stage leaves the node half-way, or in step, or as it was. -/
def Stage.initInterrupted (before : Bool) : Stage → Bool
  | .linking | .initializing _ => true
  | .probing => false
  | _ => before

/-- `sync` given up at this stage, likewise. -/
def Stage.syncInterrupted (environments : List EnvironmentId) (before : Bool) : Stage → Bool
  | .preparing _ rest => before || rest ≠ environments
  | .marking _ changed | .activating _ changed => before || changed
  | _ => before

def step (environments : List EnvironmentId) (s : State) : Label → Option State
  | .init => match s.stage with
      | .idle => some { s with stage := .starting }
      | _ => none
  | .checkout files => match s.stage with
      | .starting => some { s with managed := files, stage := .linking }
      | _ => none
  | .linkManaged => match s.stage with
      | .linking => some { s with link := some .managed, stage := .initializing environments }
      | _ => none
  | .prepare => match s.stage with
      -- `uv sync --frozen` fails without the files of the project it is run in
      | .initializing (e :: rest) => s.managed.dependencyFiles.map fun files =>
        { s.prepareOne e files with stage := .initializing rest }
      | .initializing [] => some { s with stage := .probing }
      | .preparing archive (e :: rest) => some
          { s.prepareOne e archive.dependencyFiles with stage := preparing archive rest }
      | _ => none
  | .initialized saves => match s.stage with
      | .probing => some { s with ready := s.ready || saves, stage := .idle, interrupted := false }
      | _ => none
  | .initFails saves => match s.stage with
      | .starting | .linking | .initializing _ | .probing => some { s with
          ready := s.ready && !saves
          stage := .idle
          interrupted := s.stage.initInterrupted s.interrupted }
      | _ => none
  | .sync archive => match s.stage with
      | .idle => if s.ready then some { s with stage := .checking archive } else none
      | _ => none
  | .check => match s.stage with
      | .checking archive =>
        if s.recorded archive then some { s with stage := .activating archive false }
        else if s.managed.matches archive.dependencyFiles then
          some { s with stage := .marking archive false }
        else some { s with stage := preparing archive environments }
      | _ => none
  | .mark => match s.stage with
      | .marking archive changed => some { s with
          marker := some archive.dependencyFiles
          stage := .activating archive changed }
      | _ => none
  | .activate => match s.stage with
      | .activating archive changed => some { s with
          link := some (.release archive)
          stage := .idle
          interrupted := s.interrupted && !changed }
      | _ => none
  | .syncFails => match s.stage with
      | .checking _ | .preparing _ _ | .marking _ _ | .activating _ _ => some { s with
          stage := .idle
          interrupted := s.stage.syncInterrupted environments s.interrupted }
      | _ => none

/-! ## What every command keeps -/

variable {environments : List EnvironmentId} {s t : State} {l : Label} {ls : List Label}

/-- Unless an operation was given up half-way, a node that is ready has every environment prepared
from the files of its active source. -/
def Base (environments : List EnvironmentId) (s : State) : Prop :=
  s.ready = true → s.interrupted = false → ∀ e ∈ environments, s.prepared e = s.active

def Partly (environments : List EnvironmentId) (s : State) (rest : List EnvironmentId)
    (files : Option DependencyFiles) : Prop :=
  ∃ done, environments = done ++ rest ∧ ∀ e ∈ done, s.prepared e = files

def InStep (environments : List EnvironmentId) (s : State) : Prop :=
  match s.stage with
  | .idle | .starting => Base environments s
  | .checking _ => s.ready = true ∧ Base environments s
  | .linking => True
  | .initializing rest =>
    s.link = some .managed ∧ Partly environments s rest s.managed.dependencyFiles
  | .probing => s.link = some .managed ∧
      ∀ e ∈ environments, s.prepared e = s.managed.dependencyFiles
  | .preparing archive rest =>
    Partly environments s rest (some archive.dependencyFiles) ∧ (rest = environments → Base environments s)
  | .marking archive changed | .activating archive changed =>
    (∀ e ∈ environments, s.prepared e = some archive.dependencyFiles) ∧ (changed = false → Base environments s)

/-- A sync that prepares nothing finds the active source with the archive's files, and no operation
given up half-way. -/
def Settled (s : State) (l : Label) : Prop :=
  ∀ archive, l = .check → s.stage = .checking archive → s.prepares archive = false →
    s.interrupted = false ∧ s.active = some archive.dependencyFiles
variable {rest : List EnvironmentId}

theorem Partly.prepareOne {e} {files} (partly : Partly environments s (e :: rest) (some files)) :
    Partly environments (s.prepareOne e files) rest (some files) := by
  obtain ⟨done, split, before⟩ := partly
  refine ⟨done ++ [e], by simp [split], fun d member => ?_⟩
  change Function.update s.prepared e (some files) d = some files
  by_cases same : d = e
  · rw [same, Function.update_self]
  · rw [Function.update_of_ne same]
    rcases List.mem_append.mp member with old | new
    · exact before d old
    · exact absurd (List.mem_singleton.mp new) same

theorem Partly.all {files} (partly : Partly environments s [] files) : ∀ e ∈ environments, s.prepared e = files := by
  obtain ⟨done, split, before⟩ := partly
  rw [List.append_nil] at split
  exact split ▸ before

theorem inStep_preparing {archive} (partly : Partly environments s rest (some archive.dependencyFiles))
    (untouched : rest = environments → Base environments s) :
    InStep environments { s with stage := preparing archive rest } := by
  cases rest with
  | nil => exact ⟨partly.all, nofun⟩
  | cons => exact ⟨partly, untouched⟩

theorem Base.of_interrupted (interrupted : t.interrupted = true) : Base environments t := by
  intro _ whole
  rw [interrupted] at whole
  cases whole

theorem inStep_step (inStep : InStep environments s) (settled : Settled s l)
    (next : step environments s l = some t) : InStep environments t := by
  unfold InStep at inStep
  cases l with simp only [step] at next
  | init =>
    split at next
    · rename_i stage
      cases next
      rw [stage] at inStep
      exact inStep
    · cases next
  | checkout =>
    split at next <;> cases next
    trivial
  | linkManaged =>
    split at next <;> cases next
    exact ⟨rfl, [], rfl, nofun⟩
  | prepare =>
    split at next
    · rename_i e rest stage
      obtain ⟨files, read, rfl⟩ := Option.map_eq_some_iff.mp next
      rw [stage] at inStep
      refine ⟨inStep.1, ?_⟩
      have partly := inStep.2
      rw [read] at partly
      change Partly environments _ rest s.managed.dependencyFiles
      rw [read]
      exact partly.prepareOne
    · rename_i stage
      cases next
      rw [stage] at inStep
      exact ⟨inStep.1, inStep.2.all⟩
    · rename_i archive e rest stage
      cases next
      rw [stage] at inStep
      refine inStep_preparing inStep.1.prepareOne fun same => ?_
      -- the environments to prepare only get fewer
      obtain ⟨done, split, _⟩ := inStep.1
      have shorter := congrArg List.length (same.trans split)
      simp at shorter
      omega
    · cases next
  | initialized saves =>
    split at next
    · rename_i stage
      cases next
      rw [stage] at inStep
      intro _ _ e member
      change s.prepared e = active _
      rw [inStep.2 e member]
      simp [active, inStep.1]
    · cases next
  | initFails saves =>
    split at next
    · rename_i stage
      cases next
      rw [stage] at inStep
      intro ready whole
      have before : s.ready = true := (Bool.and_eq_true_iff.mp ready).1
      change s.stage.initInterrupted s.interrupted = false at whole
      rw [stage] at whole
      exact inStep before whole
    · rename_i stage
      cases next
      exact Base.of_interrupted (by rw [stage]; rfl)
    · rename_i rest stage
      cases next
      exact Base.of_interrupted (by rw [stage]; rfl)
    · rename_i stage
      cases next
      rw [stage] at inStep
      intro _ _ e member
      change s.prepared e = active _
      rw [inStep.2 e member]
      simp [active, inStep.1]
    · cases next
  | sync archive =>
    split at next
    · rename_i stage
      split at next
      · rename_i ready
        cases next
        rw [stage] at inStep
        exact ⟨ready, inStep⟩
      · cases next
    · cases next
  | check =>
    split at next
    · rename_i archive stage
      rw [stage] at inStep
      obtain ⟨ready, base⟩ := inStep
      have keeps (left : s.prepares archive = false) :
          ∀ e ∈ environments, s.prepared e = some archive.dependencyFiles := by
        obtain ⟨whole, same⟩ := settled archive rfl stage left
        exact fun e member => (base ready whole e member).trans same
      split at next
      · rename_i recorded
        cases next
        exact ⟨keeps (by simp [prepares, recorded]), fun _ => base⟩
      split at next
      · rename_i fits
        cases next
        exact ⟨keeps (by simp [prepares, fits]), fun _ => base⟩
      · cases next
        exact inStep_preparing ⟨[], rfl, nofun⟩ fun _ => base
    · cases next
  | mark =>
    split at next
    · rename_i archive changed stage
      cases next
      rw [stage] at inStep
      exact inStep
    · cases next
  | activate =>
    split at next
    · rename_i archive changed stage
      cases next
      rw [stage] at inStep
      exact fun _ _ => inStep.1
    · cases next
  | syncFails =>
    -- what was interrupted stays so, and a stage that was not left the environments alone
    have same (other : State) (base : s.interrupted = other.interrupted → Base environments s)
        (ready : other.ready = s.ready) (prepared : other.prepared = s.prepared)
        (active : other.active = s.active) (kept : s.interrupted = other.interrupted) :
        Base environments other := by
      intro isReady whole e member
      rw [prepared, active]
      exact base kept (ready ▸ isReady) (kept.trans whole) e member
    have late (changed : Bool) (base : changed = false → Base environments s)
        (given : s.stage.syncInterrupted environments s.interrupted = (s.interrupted || changed)) :
        Base environments { s with
          stage := .idle
          interrupted := s.stage.syncInterrupted environments s.interrupted } := by
      cases changed with
      | true => exact Base.of_interrupted (given.trans (Bool.or_true _))
      | false => exact same _ (fun _ => base rfl) rfl rfl rfl (given.trans (Bool.or_false _)).symm
    split at next
    · rename_i archive stage
      cases next
      rw [stage] at inStep
      exact same _ (fun _ => inStep.2) rfl rfl rfl (by rw [stage]; rfl)
    · rename_i archive rest stage
      cases next
      rw [stage] at inStep
      by_cases untouched : rest = environments
      · exact same _ (fun _ => inStep.2 untouched) rfl rfl rfl (by simp [stage, Stage.syncInterrupted, untouched])
      · exact Base.of_interrupted (by simp [stage, Stage.syncInterrupted, untouched])
    · rename_i archive changed stage
      cases next
      rw [stage] at inStep
      exact late changed inStep.2 (by rw [stage]; rfl)
    · rename_i archive changed stage
      cases next
      rw [stage] at inStep
      exact late changed inStep.2 (by rw [stage]; rfl)
    · cases next

/-- **Environments and code in step**: what is linked is what every environment was prepared from. -/
theorem environments_in_step {archive : SourceTree} {changed : Bool}
    (ran : run (step environments) {} ls = some s) (stage : s.stage = .activating archive changed)
    (settled : Along (step environments) Settled {} ls)
    (next : step environments s .activate = some t) :
    t.link = some (.release archive) ∧ ∀ e ∈ environments, t.prepared e = some archive.dependencyFiles := by
  have inStep : InStep environments s :=
    run_induction (fun _ _ _ met inStep next => inStep_step inStep met next) settled
      (I := InStep environments) (fun ready => nomatch ready) ran
  unfold InStep at inStep
  rw [stage] at inStep
  simp only [step, stage] at next
  cases next
  exact ⟨rfl, inStep.1⟩

/-! ## Syncing back, and a preparation that stops half-way -/

/-- Two environments, and source trees with the files of the managed checkout and with others. -/
def two : List EnvironmentId := [['a'], ['b']]

def managedFiles : DependencyFiles := ⟨['p'], ['l']⟩

def managedTree : SourceTree := ⟨managedFiles, []⟩

def otherTree : SourceTree := ⟨⟨['p'], ['m']⟩, []⟩

/-- `init` to its end. -/
def initializes : List Label :=
  [.init, .checkout ⟨some ['p'], some ['l']⟩, .linkManaged, .prepare, .prepare, .prepare, .initialized true]

def syncsOther : List Label := [.sync otherTree, .check, .prepare, .prepare, .mark]

theorem environments_in_step_other : ∃ s t, run (step two) {} (initializes ++ syncsOther) = some s ∧
      step two s .activate = some t ∧ t.link = some (.release otherTree) ∧
      ∀ e ∈ two, t.prepared e = some otherTree.dependencyFiles := by
  have facts : ((run (step two) {} (initializes ++ syncsOther)).bind fun s =>
      (step two s .activate).map fun _ => s.stage) = some (.activating otherTree true) := by decide +kernel
  obtain ⟨s, ran, after⟩ := Option.bind_eq_some_iff.mp facts
  obtain ⟨t, next, stage⟩ := Option.map_eq_some_iff.mp after
  refine ⟨s, t, ran, next, environments_in_step ran stage ?_ next⟩
  let first : List Label := [.sync otherTree]
  let rest : List Label := [.prepare, .prepare, .mark]
  have checks : (run (step two) {} (initializes ++ first)).map (fun u => (u.stage, u.prepares otherTree)) =
      some (.checking otherTree, true) := by decide +kernel
  obtain ⟨u, before, both⟩ := Option.map_eq_some_iff.mp checks
  have checking := Prod.mk.inj both
  have quiet {ls : List Label} (other : ∀ l ∈ ls, l ≠ .check) (s : State) : Along (step two) Settled s ls :=
    along_mono (fun _ l other _ same => absurd same other) (along_of_mem (P := fun l => l ≠ .check) other)
  have split : initializes ++ syncsOther = initializes ++ first ++ Label.check :: rest := rfl
  rw [split]
  refine (along_append before).mpr ⟨quiet (by decide) _, ?_, fun v _ => quiet (by decide) v⟩
  intro archive _ held left
  obtain rfl : otherTree = archive := Stage.checking.inj (checking.1.symm.trans held)
  rw [checking.2] at left
  cases left

/-- **Out of step**: a tree that is synced back, and a preparation that stops half-way. -/
theorem environments_out_of_step : (∃ t, run (step two) {} (initializes ++ syncsOther ++
        [.activate, .sync managedTree, .check, .mark, .activate]) = some t ∧
      t.link = some (.release managedTree) ∧
      ∀ e ∈ two, t.prepared e = some otherTree.dependencyFiles) ∧
    ∃ t, run (step two) {} (initializes ++ syncsOther ++
        [.activate, .sync ⟨⟨['q'], ['m']⟩, []⟩, .check, .prepare, .syncFails, .sync otherTree, .check,
          .activate]) = some t ∧
      t.link = some (.release otherTree) ∧ t.prepared ['a'] = some ⟨['q'], ['m']⟩ := by
  let returns : List Label := [.activate, .sync managedTree, .check, .mark, .activate]
  let stops : List Label := [.activate, .sync ⟨⟨['q'], ['m']⟩, []⟩, .check, .prepare, .syncFails,
    .sync otherTree, .check, .activate]
  have back : (run (step two) {} (initializes ++ syncsOther ++ returns)).map (fun t =>
      (t.link, two.all fun e => t.prepared e = some otherTree.dependencyFiles)) =
      some (some (.release managedTree), true) := by decide +kernel
  have half : (run (step two) {} (initializes ++ syncsOther ++ stops)).map (fun t =>
      (t.link, t.prepared ['a'])) =
      some (some (.release otherTree), some ⟨['q'], ['m']⟩) := by decide +kernel
  obtain ⟨t, ran, both⟩ := Option.map_eq_some_iff.mp back
  obtain ⟨u, ran', both'⟩ := Option.map_eq_some_iff.mp half
  obtain ⟨linked, all⟩ := Prod.mk.inj both
  have unprepared (e : EnvironmentId) (here : e ∈ two) : t.prepared e = some otherTree.dependencyFiles :=
    of_decide_eq_true (List.all_eq_true.mp all e here)
  exact ⟨⟨t, ran, linked, unprepared⟩, u, ran', Prod.mk.inj both'⟩

end EmbodiRun.Deployment.Sync
