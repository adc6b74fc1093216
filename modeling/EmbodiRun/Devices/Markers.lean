/-
# Devices.Markers -- how long a recorded fault refuses preparation

A fault is recorded in the state file under the name of its device, which every manager reads
back with its own node label.  An acquire that prepares looks its identities up there.
-/
import EmbodiRun.Devices.Locks
import EmbodiRun.Transition.History

namespace EmbodiRun.Devices.Lifecycle

open Function
open Data Transition List Dict ResourceIdentity

variable {cfg : Config} {s t u : State} {l : Label} {ls : List Label}

/-! ## Faults in a file -/

def Persisted (d : Dict Text Text) (device : Text) : Prop :=
  ∃ key, (d.get? key).isSome = true ∧ (pieces key).isSome = true ∧ physicalKey key = device

/-- What `mark` writes. -/
def remember (identity : ResourceIdentity) (reason : Text) (d : Dict Text Text) : Dict Text Text :=
  (d.retain fun key => physicalKey key ≠ identity.physical).set identity.key reason

/-- What `clear` writes. -/
def forget (identity : ResourceIdentity) (d : Dict Text Text) : Dict Text Text :=
  d.retain fun key => physicalKey key ≠ identity.physical

theorem persisted_forget {d} {device} {identity} (held : Persisted d device) (other : device ≠ identity.physical) :
    Persisted (forget identity d) device := by
  obtain ⟨key, found, parts, named⟩ := held
  refine ⟨key, ?_, parts, named⟩
  rw [forget, get?_retain, if_pos (by simpa [named] using other)]
  exact found

theorem persisted_remember {d} {device} {identity}
    (held : Persisted d device) (other : device ≠ identity.physical) (reason : Text) :
    Persisted (remember identity reason d) device := by
  obtain ⟨key, found, parts, named⟩ := persisted_forget held other
  refine ⟨key, ?_, parts, named⟩
  by_cases same : key = identity.key
  · rw [remember, same, get?_set_self]
    rfl
  · rw [remember, get?_set_of_ne same]
    exact found

theorem persisted_remember_self (d : Dict Text Text) {identity} (plain : identity.PlainNode) (reason : Text) :
    Persisted (remember identity reason d) identity.physical := by
  obtain ⟨kind, value, parts, _⟩ := pieces_key plain
  refine ⟨identity.key, ?_, ?_, physicalKey_key plain⟩
  · rw [remember, get?_set_self]
    rfl
  · rw [parts]
    rfl

/-- **A recorded fault is found** under the label of the manager that reads it. -/
theorem Persisted.found {d : Dict Text Text} {identity : ResourceIdentity} (held : Persisted d identity.physical) :
    ((ofItems (d.items.map fun item => (normalizeKey identity.node item.1, item.2))).get?
      identity.key).isSome = true := by
  obtain ⟨key, found, parts, named⟩ := held
  obtain ⟨reason, found⟩ := Option.isSome_iff_exists.mp found
  refine (isSome_get?_ofItems _).mpr ⟨_, mem_map_of_mem (mem_of_get? found), ?_⟩
  change normalizeKey identity.node key = identity.key
  rw [normalizeKey_eq parts, named]
  rfl

/-! ## The steps that touch a file -/

def Call.marking : Call → Option (ManagerId × ResourceIdentity)
  | .markingRollback m _ _ (identity :: _) _ _ | .markingPrepare m _ (identity :: _) _
  | .markingClose m _ _ (identity :: _) _ _ _ | .markingUncertain m _ (identity :: _) _ =>
    some (m, identity)
  | _ => none

def Call.unmarking : Call → Option (ManagerId × ResourceIdentity)
  | .clearing m _ _ (identity :: _) _ _ => some (m, identity)
  | _ => none

theorem marking_of_unmarking {call : Call} {place : ManagerId × ResourceIdentity}
    (unmarking : call.unmarking = some place) : call.marking = none := by
  unfold Call.unmarking at unmarking
  split at unmarking
  · rfl
  · cases unmarking

def State.revised (cfg : Config) (m : ManagerId) (change : Dict Text Text → Dict Text Text) (s : State) :
    FileId → Except Text (Dict Text Text) :=
  update s.files (cfg.stateFile m) ((s.files (cfg.stateFile m)).map change)

open State

theorem files_refresh (cfg : Config) (m : ManagerId) (s : State) : (s.refreshUnresolved cfg m).files = s.files := by
  unfold refreshUnresolved
  split <;> rfl

theorem files_updateFile (cfg : Config) (m : ManagerId) (works : Bool)
    (change : Dict Text Text → Dict Text Text) (s : State) :
    (s.updateFile cfg m works change).1.files = if works then s.revised cfg m change else s.files := by
  unfold updateFile revised
  cases works with
  | false => rfl
  | true =>
    simp only [Bool.not_true, Bool.false_eq_true, if_false, if_true]
    cases found : s.files (cfg.stateFile m) with
    | error error =>
      change s.files = update s.files (cfg.stateFile m) (.error error)
      rw [← found, update_eq_self]
    | ok => rfl

inductive Touches (cfg : Config) (s : State) (files : FileId → Except Text (Dict Text Text)) :
    Label → Prop
  | marks (c : CallId) (m : ManagerId) (identity : ResourceIdentity) (reason : Text) (works : Bool)
      (station : (s.calls c).marking = some (m, identity))
      (after : files = if works then s.revised cfg m (remember identity reason) else s.files) :
      Touches cfg s files (.store c works)
  | clears (c : CallId) (m : ManagerId) (identity : ResourceIdentity) (works : Bool)
      (station : (s.calls c).unmarking = some (m, identity))
      (after : files = if works then s.revised cfg m (forget identity) else s.files) :
      Touches cfg s files (.store c works)
  | operator (c : CallId) (m : ManagerId) (identity : ResourceIdentity) (works : Bool)
      (after : files = s.files ∨ files = s.revised cfg m (forget identity)) :
      Touches cfg s files (.start c (.clearUncertainty m identity works))
  | corrupts (f : FileId) (error : Text) (after : files = update s.files f (.error error)) :
      Touches cfg s files (.corrupt f error)
  | leaves (l : Label) (after : files = s.files) (quiet : ∀ c works, l ≠ .store c works)
      (unasked : ∀ c m identity works, l ≠ .start c (.clearUncertainty m identity works)) :
      Touches cfg s files l

theorem files_mark {m} {identity} {reason} {works}
    {outcome} (marked : s.mark cfg m identity reason works = (u, outcome)) :
    u.files = if works then s.revised cfg m (remember identity reason) else s.files := by
  have files := files_updateFile cfg m works (remember identity reason) s
  have same : s.updateFile cfg m works (remember identity reason) = (u, outcome) := marked
  rwa [same] at files

theorem files_clear {m} {identity} {works} {outcome} (cleared : s.clear cfg m identity works = (u, outcome)) :
    u.files = if works then s.revised cfg m (forget identity) else s.files := by
  have files := files_updateFile cfg m works (forget identity) s
  have same : s.updateFile cfg m works (forget identity) = (u, outcome) := cleared
  rwa [same] at files

theorem files_acquire (c : CallId) (m : ManagerId) (resource : DeviceResource)
    (prepare valuePrepared : Bool) : (s.acquire cfg c m resource prepare valuePrepared).files = s.files := by
  have refreshed := files_refresh cfg m s
  unfold acquire
  split
  · rfl
  dsimp only
  split
  · unfold acquireRecord
    dsimp only
    split
    · exact refreshed
    split
    · exact refreshed
    split
    · exact refreshed
    split
    · exact refreshed
    split
    · split <;> exact refreshed
    · exact refreshed
  · unfold acquireNew
    dsimp only
    split <;> exact refreshed

theorem store_files {c} {works} (next : s.store cfg c works = some t) : Touches cfg s t.files (.store c works) := by
  unfold store at next
  split at next <;> rename_i station
  · rename_i m resource held identity pending reason error
    cases next
    refine .marks c m identity reason works (by rw [station]; rfl) ?_
    unfold markRollback
    split
    · rename_i marked
      have files := files_mark marked
      split <;> exact files
    · rename_i marked
      have files := files_mark marked
      exact files
    · rename_i marked
      have files := files_mark marked
      exact files
  · rename_i m key identity pending error
    cases next
    refine .marks c m identity error works (by rw [station]; rfl) ?_
    unfold markPrepare
    split
    · rename_i marked
      have files := files_mark marked
      split <;> exact files
    · rename_i marked
      have files := files_mark marked
      exact files
  · rename_i m key r identity pending error rest errors
    cases next
    refine .marks c m identity error works (by rw [station]; rfl) ?_
    unfold markClose
    dsimp only
    split
    · rename_i marked
      have files := files_mark marked
      split <;> exact files
    · rename_i marked
      have files := files_mark marked
      exact files
    · rename_i marked
      have files := files_mark marked
      exact files
  · rename_i m key r identity pending rest errors
    cases next
    refine .clears c m identity works (by rw [station]; rfl) ?_
    unfold clearClose
    split
    · rename_i cleared
      have files := files_clear cleared
      split <;> exact files
    · rename_i cleared
      have files := files_clear cleared
      exact files
    · rename_i cleared
      have files := files_clear cleared
      exact files
  · rename_i m record identity pending reason
    cases next
    refine .marks c m identity reason works (by rw [station]; rfl) ?_
    unfold markNext
    dsimp only
    split
    · rename_i marked
      have files := files_mark marked
      split
      · split <;> exact files
      · exact files
    · rename_i marked
      have files := files_mark marked
      exact files
  · cases next

theorem start_files {c} {op} (next : s.start cfg c op = some t) : Touches cfg s t.files (.start c op) := by
  have guard {m : ManagerId} {u : State} (next : s.free m u = some t) : u = t := by
    unfold free at next
    split at next
    · exact Option.some.inj next
    · cases next
  have leaves (files : t.files = s.files) (unasked : ∀ m identity works, op ≠ .clearUncertainty m identity works) :
      Touches cfg s t.files (.start c op) :=
    .leaves _ files (by simp) fun d m identity works same => by
      cases same
      exact unasked m identity works rfl
  cases op with
  | acquire =>
    obtain rfl := guard next
    exact leaves (files_acquire ..) (by simp)
  | release =>
    refine leaves ?_ (by simp)
    simp only [start] at next
    split at next
    · split at next
      · cases next
        rfl
      · obtain rfl := guard next
        unfold release
        dsimp only
        split
        · rfl
        split
        · rfl
        split <;> rfl
    · cases next
  | close | markUncertain =>
    obtain rfl := guard next
    exact leaves rfl (by simp)
  | clearUncertainty m identity works =>
    obtain rfl := guard next
    refine .operator c m identity works ?_
    have refreshed := files_refresh cfg m s
    have revised {u v : State} {outcome : Option Failure}
        (cleared : u.clear cfg m identity works = (v, outcome)) (same : u.files = s.files) :
        v.files = s.files ∨ v.files = s.revised cfg m (forget identity) := by
      rw [files_clear cleared]
      split
      · unfold revised
        rw [same]
        exact .inr rfl
      · exact .inl same
    unfold clearUncertainty
    dsimp only
    split
    · exact .inl refreshed
    · split
      · rename_i cleared
        have files := revised cleared refreshed
        exact files
      · rename_i cleared
        have files := revised cleared refreshed
        exact files
  | status m =>
    obtain rfl := guard next
    refine leaves ?_ (by simp)
    unfold status
    dsimp only
    split <;> exact files_refresh cfg m s

/-- **Only updates touch the files.** -/
theorem step_files (next : step cfg s l = some t) : Touches cfg s t.files l := by
  cases l with
  | start =>
    simp only [step] at next
    split at next
    · exact start_files next
    · cases next
  | store => exact store_files next
  | corrupt f error =>
    cases next
    exact .corrupts f error rfl
  | lock =>
    refine .leaves _ ?_ (by simp) (by simp)
    simp only [step] at next
    split at next <;> cases next
    unfold lockNext
    split
    · rfl
    split <;> rfl
  | opens c reply =>
    refine .leaves _ ?_ (by simp) (by simp)
    simp only [step] at next
    split at next
    · rename_i m resource prepare held station
      cases next
      cases reply with
      | raised => rfl
      | returned => cases prepare <;> rfl
    · cases next
  | prepares c reply =>
    refine .leaves _ ?_ (by simp) (by simp)
    simp only [step] at next
    split at next
    · rename_i m resource held isNone station
      cases next
      cases reply <;> cases isNone <;> rfl
    · cases next
      cases reply <;> rfl
    · cases next
  | closes c reply =>
    refine .leaves _ ?_ (by simp) (by simp)
    simp only [step] at next
    split at next <;> cases next
    · cases reply <;> rfl
    · cases reply with
      | raised => rfl
      | returned =>
        simp only [closeRecord]
        split <;> rfl
  | proceed c =>
    refine .leaves _ ?_ (by simp) (by simp)
    have guard {m : ManagerId} {u : State} (next : s.free m u = some t) : u = t := by
      unfold free at next
      split at next
      · exact Option.some.inj next
      · cases next
    have unlocked (owner : CallId) (file : Text) : (s.unlock owner file).files = s.files := by
      unfold unlock
      split <;> rfl
    simp only [step] at next
    unfold proceed at next
    split at next
    · cases next
      rfl
    · cases next
      exact unlocked ..
    · obtain rfl := guard next
      unfold closeOnce
      split
      · rfl
      split <;> rfl
    · split at next
      · cases next
      · obtain rfl := guard next
        unfold await
        split <;> rfl
    · cases next
      rfl
    · cases next
      exact unlocked ..
    · rename_i error _ _ _
      obtain rfl := guard next
      cases error <;> rfl
    · cases next

/-! ## Faults on record -/

/-- The faults recorded since the start, by file and device, that no `clear_uncertainty` was
called for. -/
abbrev Faults := List (FileId × Text)

def note (cfg : Config) (s : State) (l : Label) (_ : State) (faults : Faults) : Faults :=
  match l with
  | .store c works => match (s.calls c).marking with
      | some (m, identity) => match works, s.files (cfg.stateFile m) with
          | true, .ok _ => (cfg.stateFile m, identity.physical) :: faults
          | _, _ => faults
      | none => faults
  | .start _ (.clearUncertainty m identity _) =>
    faults.filter fun fault => fault ≠ (cfg.stateFile m, identity.physical)
  | _ => faults

/-- No close clears a device with a fault on record, and the node label of a device with a fault
can be told from the rest of its name. -/
def Lasting (cfg : Config) (s : State × Faults) : Label → Prop
  | .store c _ =>
    (∀ m identity, (s.1.calls c).unmarking = some (m, identity) → (cfg.stateFile m, identity.physical) ∉ s.2) ∧
    ∀ m identity, (s.1.calls c).marking = some (m, identity) → identity.PlainNode
  | _ => True

def Kept (s : State × Faults) : Prop :=
  ∀ fault ∈ s.2, ∀ d, s.1.files fault.1 = .ok d → Persisted d fault.2

theorem kept_revised {faults} {m} {change} (kept : Kept (s, faults)) {fault} (member : fault ∈ faults)
    (keeps : ∀ d, fault.1 = cfg.stateFile m → Persisted d fault.2 → Persisted (change d) fault.2)
    {d} (reads : s.revised cfg m change fault.1 = .ok d) : Persisted d fault.2 := by
  unfold revised at reads
  by_cases same : fault.1 = cfg.stateFile m
  · rw [same, update_self] at reads
    cases before : s.files (cfg.stateFile m) with
    | error =>
      rw [before] at reads
      cases reads
    | ok d' =>
      rw [before] at reads
      obtain rfl := Except.ok.inj reads
      exact keeps d' same (kept fault member d' (same ▸ before))
  · rw [update_of_ne same] at reads
    exact kept fault member d reads

/-- **A fault on record stays in the file** until an operator clears it. -/
theorem kept_step {s t : State × Faults} (kept : Kept s) (next : noted (step cfg) (note cfg) s l = some t)
    (lasting : Lasting cfg s l) : Kept t := by
  obtain ⟨stepped, recorded⟩ := noted_eq_some.mp next
  obtain ⟨s, faults⟩ := s
  obtain ⟨t, after⟩ := t
  change step cfg s l = some t at stepped
  change after = note cfg s l t faults at recorded
  subst recorded
  have quiet (same : t.files = s.files) : Kept (t, faults) := by
    intro fault member d reads
    change t.files fault.1 = .ok d at reads
    rw [same] at reads
    exact kept fault member d reads
  cases step_files stepped with
  | marks c m identity reason works station files =>
    have plain : identity.PlainNode := lasting.2 m identity station
    simp only [note, station]
    cases works with
    | false => exact quiet files
    | true =>
      have files : t.files = s.revised cfg m (remember identity reason) := files
      intro fault member d reads
      change t.files fault.1 = .ok d at reads
      rw [files] at reads
      cases readable : s.files (cfg.stateFile m) with
      | error =>
        rw [readable] at member
        refine kept_revised kept member (fun d' same _ => ?_) reads
        rw [revised, same, update_self, readable] at reads
        cases reads
      | ok before =>
        rw [readable] at member
        by_cases self : fault = (cfg.stateFile m, identity.physical)
        · subst self
          rw [revised, update_self, readable] at reads
          obtain rfl := Except.ok.inj reads
          exact persisted_remember_self before plain reason
        · have member := (List.mem_cons.mp member).resolve_left self
          refine kept_revised kept member (fun d' same held => ?_) reads
          refine persisted_remember held (fun named => self ?_) reason
          exact Prod.ext same named
  | clears c m identity works station files =>
    have unrecorded := lasting.1 m identity station
    have unmarked : (s.calls c).marking = none := marking_of_unmarking station
    simp only [note, unmarked]
    cases works with
    | false => exact quiet files
    | true =>
      have files : t.files = s.revised cfg m (forget identity) := files
      intro fault member d reads
      change t.files fault.1 = .ok d at reads
      rw [files] at reads
      refine kept_revised kept member (fun d' same held => ?_) reads
      refine persisted_forget held fun named => unrecorded ?_
      rw [← same, ← named]
      exact member
  | operator c m identity works files =>
    simp only [note]
    intro fault member d reads
    obtain ⟨member, other⟩ := List.mem_filter.mp member
    have other := of_decide_eq_true other
    change t.files fault.1 = .ok d at reads
    rcases files with same | revised
    · rw [same] at reads
      exact kept fault member d reads
    · rw [revised] at reads
      refine kept_revised kept member (fun d' same held => ?_) reads
      exact persisted_forget held fun named => other (Prod.ext same named)
  | corrupts f error files =>
    intro fault member d reads
    change t.files fault.1 = .ok d at reads
    rw [files] at reads
    by_cases same : fault.1 = f
    · rw [same, update_self] at reads
      cases reads
    · rw [update_of_ne same] at reads
      exact kept fault member d reads
  | leaves _ same unstored unasked =>
    have unnoted : note cfg s l t faults = faults := by
      cases l with
      | store c works => exact absurd rfl (unstored c works)
      | start c op =>
        cases op with
        | clearUncertainty m identity works => exact absurd rfl (unasked c m identity works)
        | acquire | release | close | markUncertain | status => rfl
      | lock | opens | prepares | closes | proceed | corrupt => rfl
    rw [unnoted]
    exact quiet same

/-! ## Acquires -/

/-- The refusals of `acquire` before it looks for faults. -/
def State.Refuses (s : State) (m : ManagerId) (resource : DeviceResource) : Prop :=
  (s.managers m).closed = true ∨ ∃ r, (s.managers m).records.get? resource.identity.key = some r ∧
    ((s.records r).closing = true ∨ (s.records r).resource.externalOwner ≠ resource.externalOwner ∨
      (s.records r).resource.componentIdentities.map key ≠ resource.componentIdentities.map key)

def State.Unprepared (s : State) (m : ManagerId) (resource : DeviceResource) (valuePrepared : Bool) : Prop :=
  ∀ r, (s.managers m).records.get? resource.identity.key = some r →
    (s.records r).prepared = false ∨ (s.records r).resource.externalOwner = true ∧ valuePrepared = false

theorem refresh_blocks {m : ManagerId} {identity : ResourceIdentity}
    (held : ∀ d, s.files (cfg.stateFile m) = .ok d → Persisted d identity.physical)
    (reads : identity.node = cfg.nodeId m) :
    ((s.refreshUnresolved cfg m).managers m).storeError.isSome = true ∨
      (((s.refreshUnresolved cfg m).managers m).unresolved.get? identity.key).isSome = true := by
  unfold refreshUnresolved
  split
  · rw [setManager_self]
    exact .inl rfl
  · rename_i d readable
    rw [setManager_self, ← reads]
    exact .inr (held d readable).found

theorem reason_isSome {m} {key} {keys} (member : key ∈ keys)
    (found : ((s.managers m).unresolved.get? key).isSome = true) : (s.reason? m keys).isSome = true := by
  rw [reason?, findSome?_isSome_iff]
  exact ⟨key, member, found⟩

/-- **An acquire that prepares is refused** where the fault of one of its devices is in the file. -/
theorem acquire_refused {c : CallId} {m : ManagerId} {resource : DeviceResource}
    {valuePrepared : Bool} {identity : ResourceIdentity}
    (held : ∀ d, s.files (cfg.stateFile m) = .ok d → Persisted d identity.physical)
    (member : identity ∈ resource.identities) (reads : identity.node = cfg.nodeId m)
    (unprepared : s.Unprepared m resource valuePrepared) :
    ∃ failure, (s.acquire cfg c m resource true valuePrepared).calls c = .failed failure ∧
      (failure.isUncertain = true ∨ s.Refuses m resource) := by
  have blocked := refresh_blocks held reads
  have drift := drift_refresh cfg m s
  have refused {u : State} {failure : Failure} (why : failure.isUncertain = true ∨ s.Refuses m resource) :
      ∃ raised, (u.fail c m failure).calls c = .failed raised ∧
        (raised.isUncertain = true ∨ s.Refuses m resource) := ⟨failure, setCall_self .., why⟩
  have named : identity.key ∈ resource.identities.map key := mem_map_of_mem member
  unfold acquire
  split
  · rename_i closed
    exact refused (.inr (.inl closed))
  dsimp only
  split
  · rename_i r found
    rw [drift.table m] at found
    unfold acquireRecord
    simp only [records_refresh]
    split
    · rename_i closing
      exact refused (.inr (.inr ⟨r, found, .inl closing⟩))
    split
    · rename_i owner
      exact refused (.inr (.inr ⟨r, found, .inr (.inl owner)⟩))
    split
    · rename_i components
      exact refused (.inr (.inr ⟨r, found, .inr (.inr components)⟩))
    rename_i components
    have components := not_not.mp components
    split
    · exact refused (.inl rfl)
    split
    · split
      · exact refused (.inl rfl)
      · exact refused (.inl rfl)
      · rename_i readable unreasoned
        exfalso
        rcases blocked with error | fault
        · rw [readable] at error
          cases error
        · have reasoned : (reason? m (resource.identity.key :: resource.componentIdentities.map
              key) (s.refreshUnresolved cfg m)).isSome = true := reason_isSome named fault
          rw [← components, unreasoned] at reasoned
          cases reasoned
    · rename_i ready
      refine absurd ?_ ready
      rcases unprepared r found with unset | ⟨external, unset⟩
      · simp [unset]
      · simp [external, unset]
  · unfold acquireNew
    dsimp only
    split
    · exact refused (.inl rfl)
    · exact refused (.inl rfl)
    · rename_i readable unreasoned
      exfalso
      rcases blocked with error | fault
      · obtain ⟨error, unreadable⟩ := Option.isSome_iff_exists.mp error
        exact readable error rfl unreadable
      · obtain ⟨reason, found⟩ := Option.isSome_iff_exists.mp (reason_isSome named fault)
        cases error : ((s.refreshUnresolved cfg m).managers m).storeError with
        | none => exact unreasoned reason rfl error found
        | some error' => exact readable error' rfl error

/-! ## Every run -/

/-- **A recorded fault refuses preparation**, under the label of its manager. -/
theorem recorded_fault_refused {files : FileId → Except Text (Dict Text Text)} {t : State × Faults}
    (ran : run (noted (step cfg) (note cfg)) (init files, []) ls = some t)
    (lasting : Along (noted (step cfg) (note cfg)) (Lasting cfg) (init files, []) ls) {c : CallId}
    {m : ManagerId} {resource : DeviceResource} {valuePrepared : Bool} {identity : ResourceIdentity}
    (member : identity ∈ resource.identities)
    (faulty : (cfg.stateFile m, identity.physical) ∈ t.2) (reads : identity.node = cfg.nodeId m)
    (unprepared : t.1.Unprepared m resource valuePrepared)
    (next : step cfg t.1 (.start c (.acquire m resource true valuePrepared)) = some u) :
    ∃ failure, u.calls c = .failed failure ∧ (failure.isUncertain = true ∨ t.1.Refuses m resource) := by
  have start : Kept (init files, []) := fun fault member => nomatch member
  have kept : Kept t :=
    run_induction (fun _ _ _ lasting kept next => kept_step kept next lasting) lasting start ran
  have acquired : t.1.acquire cfg c m resource true valuePrepared = u := by
    simp only [step] at next
    split at next
    · simp only [State.start, State.free] at next
      split at next
      · exact Option.some.inj next
      · cases next
    · cases next
  rw [← acquired]
  exact acquire_refused (kept _ faulty) member reads unprepared

/-- The opener's preparation of the camera fails, and so does its cleanup: the other manager is
refused. -/
theorem recorded_fault_refused_other :
    ∃ t u failure, run (noted (step ⟨fun _ => ['n'], fun _ => 0⟩) (note ⟨fun _ => ['n'], fun _ => 0⟩))
        (init fun _ => .ok empty, [])
        [.start 0 (.acquire 0 camera true false), .lock 0 true, .opens 0 (.returned false),
          .prepares 0 (.raised []), .closes 0 (.raised []), .store 0 true] = some t ∧
      step ⟨fun _ => ['n'], fun _ => 0⟩ t.1 (.start 1 (.acquire 1 camera true false)) = some u ∧
      u.calls 1 = .failed failure ∧ (failure.isUncertain = true ∨ t.1.Refuses 1 camera) := by
  obtain ⟨t, ran, u, next, faulty, absent⟩ : ∃ t, run (noted (step ⟨fun _ => ['n'], fun _ => 0⟩)
        (note ⟨fun _ => ['n'], fun _ => 0⟩)) (init fun _ => .ok empty, [])
        [.start 0 (.acquire 0 camera true false), .lock 0 true, .opens 0 (.returned false),
          .prepares 0 (.raised []), .closes 0 (.raised []), .store 0 true] = some t ∧
      ∃ u, step ⟨fun _ => ['n'], fun _ => 0⟩ t.1 (.start 1 (.acquire 1 camera true false)) = some u ∧
        (0, camera.identity.physical) ∈ t.2 ∧
        (t.1.managers 1).records.get? camera.identity.key = none :=
    ⟨_, rfl, _, rfl, mem_cons_self, rfl⟩
  have member : camera.identity ∈ camera.identities := mem_cons_self
  have unprepared : t.1.Unprepared 1 camera false := fun r found => nomatch absent.symm.trans found
  have lasting : Along (noted (step ⟨fun _ => ['n'], fun _ => 0⟩) (note ⟨fun _ => ['n'], fun _ => 0⟩))
      (Lasting ⟨fun _ => ['n'], fun _ => 0⟩) (init fun _ => .ok empty, [])
      [.start 0 (.acquire 0 camera true false), .lock 0 true, .opens 0 (.returned false),
        .prepares 0 (.raised []), .closes 0 (.raised []), .store 0 true] := by
    refine ⟨trivial, fun _ first => ⟨trivial, fun _ second => ⟨trivial, fun _ third => ⟨trivial,
      fun _ fourth => ⟨trivial, fun _ fifth => ⟨⟨fun m identity clears => ?_, fun m identity marks => ?_⟩,
        fun _ _ => trivial⟩⟩⟩⟩⟩⟩
    all_goals
      cases first
      cases second
      cases third
      cases fourth
      cases fifth
    · cases clears
    · obtain ⟨rfl, rfl⟩ := Prod.mk.inj (Option.some.inj marks)
      decide
  obtain ⟨failure, failed, why⟩ := recorded_fault_refused ran lasting member faulty rfl unprepared next
  exact ⟨t, u, failure, ran, next, failed, why⟩

/-- A recorded fault is got past by another manager's close, another label, or a record that is prepared. -/
theorem recorded_fault_admitted :
    (∃ t, run (noted (step ⟨fun _ => ['n'], fun _ => 0⟩) (note ⟨fun _ => ['n'], fun _ => 0⟩))
        (init fun _ => .ok empty, [])
        [.start 0 (.acquire 0 camera false false), .lock 0 true, .opens 0 (.returned false),
          .start 1 (.markUncertain 1 camera.identity []), .store 1 true, .start 2 (.release 0), .proceed 2,
          .closes 2 .returned, .store 2 true, .start 3 (.acquire 1 camera true false)] = some t ∧
      (0, camera.identity.physical) ∈ t.2 ∧
      t.1.calls 3 = .locking 1 camera true [camera.identity] []) ∧
    (∃ t, run (noted (step ⟨fun _ => ['m'], fun _ => 0⟩) (note ⟨fun _ => ['m'], fun _ => 0⟩))
        (init fun _ => .ok empty, [])
        [.start 0 (.markUncertain 0 camera.identity []), .store 0 true,
          .start 1 (.acquire 0 camera true false)] = some t ∧
      (0, camera.identity.physical) ∈ t.2 ∧
      t.1.calls 1 = .locking 0 camera true [camera.identity] []) ∧
    ∃ t, run (noted (step ⟨fun _ => ['n'], fun _ => 0⟩) (note ⟨fun _ => ['n'], fun _ => 0⟩))
        (init fun _ => .ok empty, [])
        [.start 0 (.acquire 0 camera true false), .lock 0 true, .opens 0 (.returned false),
          .prepares 0 .returned, .start 1 (.markUncertain 0 camera.identity []), .store 1 true,
          .start 2 (.acquire 0 camera true false)] = some t ∧
      (0, camera.identity.physical) ∈ t.2 ∧
      t.1.calls 2 = .leased ⟨0, camera.identity.key, 2, 0, false⟩ :=
  ⟨⟨_, rfl, mem_cons_self, rfl⟩, ⟨_, rfl, mem_cons_self, rfl⟩, ⟨_, rfl, mem_cons_self, rfl⟩⟩

end EmbodiRun.Devices.Lifecycle
