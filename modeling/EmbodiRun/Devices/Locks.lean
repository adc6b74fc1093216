/-
# Devices.Locks -- a live value holds the locks of its resource

`acquire` takes one file lock for each identity of a resource that is not externally owned,
and they are given back on four paths: a lock that is busy, an opener that raises, a
preparation whose cleanup succeeds, and a closer that returns.
-/
import EmbodiRun.Devices.Moves

namespace EmbodiRun.Devices.Lifecycle

open Function
open Transition List

variable {cfg : Config} {s t u : State} {l : Label} {ls : List Label}

/-! ## Stations and their locks -/

def Call.held : Call → List Text
  | .locking _ _ _ _ held | .opening _ _ _ held | .preparingValue _ _ held _ | .rollingBack _ _ held _
  | .markingRollback _ _ held _ _ _ | .undoing _ held _ => held
  | _ => []

def Call.about : Call → List CallId
  | .closeOnce _ _ r rest _ | .awaiting _ _ r rest _ | .closing _ _ r rest _
  | .markingClose _ _ r _ _ rest _ | .clearing _ _ r _ rest _ | .unlocking _ _ r _ rest _
  | .finishing _ _ r _ rest _ => r :: rest.map Prod.snd
  | .preparing _ _ r => [r]
  | _ => []

def Call.releasing : Call → Option CallId
  | .clearing _ _ r _ _ _ | .unlocking _ _ r _ _ _ => some r
  | _ => none

namespace State

def Past (s : State) (r : CallId) : Prop :=
  (∃ lease, s.calls r = .leased lease) ∨ ∃ failure, s.calls r = .failed failure

/-- The acquire `c` has every lock of the resource. -/
def Covers (s : State) (c : CallId) (resource : DeviceResource) : Prop :=
  resource.externalOwner = false → ∀ identity ∈ resource.identities, s.flocks identity.physical = some c

def At (s : State) (c : CallId) : Call → Prop
  | .locking _ resource _ pending _ =>
    (s.values c).Fresh ∧ resource.externalOwner = false ∧
      ∀ identity ∈ resource.identities, identity ∈ pending ∨ s.flocks identity.physical = some c
  | .opening _ resource _ _ => (s.values c).Fresh ∧ s.Covers c resource
  | .preparingValue _ resource _ _ =>
    (s.values c).opened = some resource ∧ (s.values c).closed = false ∧ (s.values c).closerStarted = false
  | .rollingBack _ resource _ _ | .markingRollback _ resource _ _ _ _ =>
    (s.values c).opened = some resource ∧ (s.values c).closed = false
  | .undoing _ _ _ | .leased _ | .failed _ => True
  | _ => (s.values c).Fresh

end State

structure LockInv (s : State) : Prop where
  inPlace : ∀ c, s.At c (s.calls c)
  holding : ∀ file c, s.flocks file = some c → s.Past c ∨ file ∈ (s.calls c).held
  about : ∀ c, ∀ r ∈ (s.calls c).about, s.Past r
  releasing : ∀ c r, (s.calls c).releasing = some r → (s.values r).closed = true
  table : ∀ m, ∀ item ∈ (s.managers m).records.items, s.Past item.2

theorem LockInv.drift (inv : LockInv s) (drift : Drift s u) : LockInv u := by
  have past (r : CallId) (before : s.Past r) : u.Past r := by
    unfold State.Past
    rw [drift.calls]
    exact before
  refine ⟨fun c => ?_, fun file c held => ?_, fun c r member => ?_, fun c r found => ?_,
    fun m item member => ?_⟩
  · have before := inv.inPlace c
    rw [drift.calls]
    unfold State.At State.Covers at before ⊢
    rw [drift.values, drift.flocks]
    exact before
  · rw [drift.flocks] at held
    rw [drift.calls]
    exact (inv.holding file c held).imp (past c) id
  · rw [drift.calls] at member
    exact past r (inv.about c r member)
  · rw [drift.calls] at found
    rw [drift.values]
    exact inv.releasing c r found
  · rw [drift.table] at member
    exact past item.2 (inv.table m item member)

/-- What a move of `c` leaves of the others. -/
structure Others (s t : State) (c : CallId) : Prop where
  calls : ∀ d, d ≠ c → t.calls d = s.calls d ∨
    ∃ before after, s.calls d = .leased before ∧ t.calls d = .leased after
  values : ∀ d, d ≠ c → ¬ s.Past d → t.values d = s.values d
  flocks : ∀ d, d ≠ c → ¬ s.Past d → ∀ file, t.flocks file = some d ↔ s.flocks file = some d
  closed : ∀ d, (s.values d).closed = true → (t.values d).closed = true

/-- What a move of `c` has to see to. -/
structure Here (s t : State) (c : CallId) : Prop where
  inPlace : t.At c (t.calls c)
  holding : ∀ file, t.flocks file = some c → t.Past c ∨ file ∈ (t.calls c).held
  about : ∀ r ∈ (t.calls c).about, t.Past r
  releasing : ∀ r, (t.calls c).releasing = some r → (t.values r).closed = true
  table : ∀ m, ∀ item ∈ (t.managers m).records.items, item ∈ (s.managers m).records.items ∨ t.Past item.2
variable {c : CallId} {before call : Call} {m : ManagerId} {rest : List (Text × CallId)} {errors : List Failure}

theorem LockInv.move (inv : LockInv s) (mover : ¬ s.Past c) (others : Others s t c)
    (here : Here s t c) : LockInv t := by
  have past (r : CallId) (before : s.Past r) : t.Past r := by
    have other : r ≠ c := fun same => mover (same ▸ before)
    rcases others.calls r other with same | ⟨_, after, _, leased⟩
    · unfold State.Past
      rw [same]
      exact before
    · exact .inl ⟨after, leased⟩
  refine ⟨fun d => ?_, fun file d held => ?_, fun d r member => ?_, fun d r found => ?_,
    fun m item member => ?_⟩
  · by_cases same : d = c
    · exact same ▸ here.inPlace
    rcases others.calls d same with station | ⟨_, after, _, station⟩
    · by_cases past' : s.Past d
      · rcases past d past' with ⟨lease, station⟩ | ⟨failure, station⟩ <;> rw [station] <;> trivial
      · have before := inv.inPlace d
        rw [station]
        unfold State.At State.Covers at before ⊢
        rw [others.values d same past']
        simp only [others.flocks d same past']
        exact before
    · rw [station]
      trivial
  · by_cases same : d = c
    · exact same ▸ here.holding file (same ▸ held)
    by_cases past' : s.Past d
    · exact .inl (past d past')
    · rcases others.calls d same with station | ⟨before, _, station, _⟩
      · rw [station]
        exact (inv.holding file d ((others.flocks d same past' file).mp held)).imp (past d) id
      · exact absurd (.inl ⟨before, station⟩) past'
  · by_cases same : d = c
    · exact here.about r (same ▸ member)
    rcases others.calls d same with station | ⟨_, _, _, station⟩ <;> rw [station] at member
    · exact past r (inv.about d r member)
    · cases member
  · by_cases same : d = c
    · exact here.releasing r (same ▸ found)
    rcases others.calls d same with station | ⟨_, _, _, station⟩ <;> rw [station] at found
    · exact others.closed r (inv.releasing d r found)
    · cases found
  · exact (here.table m item member).elim (fun before => past item.2 (inv.table m item before)) id
variable {call : Call} {c r : CallId} {w : State} {change : Value → Value}

theorem not_past_of (station : s.calls c = call) (live : ∀ lease, call ≠ .leased lease)
    (unfailed : ∀ failure, call ≠ .failed failure) : ¬ s.Past c := by
  rintro (⟨lease, leased⟩ | ⟨failure, failed⟩)
  · exact live lease (station.symm.trans leased)
  · exact unfailed failure (station.symm.trans failed)

def Call.passed : Call → Bool
  | .leased _ | .failed _ => true
  | _ => false

theorem not_past (station : s.calls c = call) (before : call.passed = false) : ¬ s.Past c := by
  refine not_past_of station ?_ ?_ <;>
  · rintro _ rfl
    cases before

theorem Drift.not_past (drift : Drift s u) (mover : ¬ s.Past c) : ¬ u.Past c := by
  unfold State.Past
  rw [drift.calls]
  exact mover

theorem others_setCall (s : State) (c : CallId) (call : Call) : Others s (s.setCall c call) c where
  calls _ other := .inl (update_of_ne other ..)
  values _ _ _ := rfl
  flocks _ _ _ _ := Iff.rfl
  closed _ := id

theorem LockInv.at_of (inv : LockInv s) (station : s.calls c = call) : s.At c call := by
  have inPlace := inv.inPlace c
  rwa [station] at inPlace

theorem LockInv.held_of (inv : LockInv s) (station : s.calls c = call) (mover : ¬ s.Past c)
    (file : Text) (held : s.flocks file = some c) : file ∈ call.held := by
  have claimed := (inv.holding file c held).resolve_left mover
  rwa [station] at claimed

theorem past_setCall (past : s.Past r) (other : r ≠ c) : (s.setCall c call).Past r := by
  simpa only [State.Past, State.setCall, update_of_ne other] using past

theorem here_of_advance (inv : LockInv s) (station : s.calls c = before)
    (advance : Advance w before call) : ¬ s.Past c ∧ Here s (s.setCall c call) c := by
  have mover : ¬ s.Past c := by
    refine not_past station ?_
    cases advance <;> rfl
  have calls : (s.setCall c call).calls c = call := update_self ..
  have past (r : CallId) (member : r ∈ before.about) : (s.setCall c call).Past r := by
    have past := inv.about c r (by rw [station]; exact member)
    exact past_setCall past fun same => mover (same ▸ past)
  have inPlace := inv.inPlace c
  have releasing := inv.releasing c
  rw [station] at inPlace releasing
  refine ⟨mover, ⟨?_, fun file held => ?_, fun r member => ?_, fun r found => ?_,
    fun m item member => .inl member⟩⟩
  · rw [calls]
    cases advance with
    | skips m key r rest | awaits m key r rest =>
      cases rest <;> exact inPlace
    | lockFails | openFails => trivial
    | rollFails | marksRollback => exact inPlace
    | _ => exact inPlace
  · rw [calls]
    have claimed := inv.held_of station mover file held
    cases advance with
    | skips | awaits => cases claimed
    | lockFails | openFails | rollFails | marksRollback => exact .inr claimed
    | _ => cases claimed
  · rw [calls] at member
    cases advance with
    | skips m key r rest | awaits m key r rest =>
      cases rest with
      | nil => cases member
      | cons => exact past _ (mem_cons_of_mem _ member)
    | waits | closerFails | marksClose | closeFails | clears | cleared | clearFails | unlocked =>
      exact past r member
    | _ => cases member
  · rw [calls] at found
    cases advance with
    | skips m key r rest | awaits m key r rest => cases rest <;> cases found
    | clears | cleared => exact releasing r found
    | _ => cases found

theorem here_of_past (past : t.Past c) (table : ∀ m, ∀ item ∈ (t.managers m).records.items,
      item ∈ (s.managers m).records.items ∨ t.Past item.2) : Here s t c := by
  refine ⟨?_, fun _ _ => .inl past, fun r member => ?_, fun r found => ?_, table⟩
  · rcases past with ⟨_, station⟩ | ⟨_, station⟩ <;> rw [station] <;> trivial
  · rcases past with ⟨_, station⟩ | ⟨_, station⟩ <;> rw [station] at member <;> cases member
  · rcases past with ⟨_, station⟩ | ⟨_, station⟩ <;> rw [station] at found <;> cases found

theorem lockInv_lease (inv : LockInv s) (mover : ¬ s.Past c) (m : ManagerId) (key : Text) (r : CallId) :
    LockInv (s.lease c m key r) := by
  have others : Others s (s.lease c m key r) c :=
    ⟨fun d other => .inl (update_of_ne other ..), fun _ _ _ => rfl, fun _ _ _ _ => Iff.rfl, fun _ => id⟩
  refine inv.move mover others (here_of_past (.inl ⟨_, setCall_self ..⟩) fun n item member => .inl ?_)
  rwa [table_lease] at member

theorem lockInv_fail (inv : LockInv s) (mover : ¬ s.Past c) (m : ManagerId) (failure : Failure) :
    LockInv (s.fail c m failure) := by
  have others : Others s (s.fail c m failure) c :=
    ⟨fun d other => .inl (update_of_ne other ..), fun _ _ _ => rfl, fun _ _ _ _ => Iff.rfl, fun _ => id⟩
  refine inv.move mover others (here_of_past (.inr ⟨_, setCall_self ..⟩) fun n item member => .inl ?_)
  rwa [table_fail] at member

theorem lockInv_enters (inv : LockInv s) (fresh : s.calls c = .unused)
    (table : ∀ m, (w.managers m).records = (s.managers m).records) (entry : Entry w l c m call) :
    LockInv ((s.setManager m fun manager => { manager with lock := some c }).setCall c call) := by
  have mover : ¬ s.Past c := not_past fresh rfl
  have unopened : (s.values c).Fresh := inv.at_of fresh
  have none_held (file : Text) : s.flocks file ≠ some c := fun held => by
    cases inv.held_of fresh mover file held
  refine inv.move mover ⟨fun d other => .inl (update_of_ne other ..), fun _ _ _ => rfl,
    fun _ _ _ _ => Iff.rfl, fun _ => id⟩ ⟨?_, fun file held => absurd held (none_held file),
    fun r member => ?_, fun r found => ?_, fun n item member => ?_⟩
  · rw [setCall_self]
    cases entry with
    | readies | marks => exact unopened
    | opens resource prepare external =>
      exact ⟨unopened, fun owned => by cases external.symm.trans owned⟩
    | locks resource prepare owned =>
      exact ⟨unopened, owned, fun identity member => .inl (DeviceResource.mem_lockOrder.mpr member)⟩
  · rw [setCall_self] at member
    cases entry with
    | readies resource r' label found =>
      obtain rfl := List.mem_singleton.mp member
      rw [table] at found
      have past : s.Past r := inv.table m _ (Data.Dict.mem_of_get? found)
      exact past_setCall (s := s.setManager m _) past fun same => mover (same ▸ past)
    | opens | locks | marks => cases member
  · rw [setCall_self] at found
    cases entry <;> cases found
  · have table : ((s.setManager m fun manager => { manager with lock := some c }).managers n).records =
        (s.managers n).records := setManager_field Manager.records rfl n
    exact .inl (table ▸ member)

theorem mem_addRecord {m n} {record} {item}
    (member : item ∈ ((s.addRecord c m record).managers n).records.items) :
    item ∈ (s.managers n).records.items ∨ item.2 = c := by
  by_cases same : n = m
  · subst same
    rw [State.addRecord, setManager_self] at member
    rcases Data.Dict.mem_set member with before | rfl
    · exact .inl before
    · exact .inr rfl
  · rw [State.addRecord, setManager_of_ne _ _ same] at member
    exact .inl member

theorem lockInv_made (inv : LockInv s) (mover : ¬ s.Past c)
    (calls : ∀ d, d ≠ c → t.calls d = s.calls d) (past : t.Past c)
    (values : ∀ d, d ≠ c → t.values d = s.values d)
    (closed : (s.values c).closed = true → (t.values c).closed = true) (flocks : t.flocks = s.flocks)
    (table : ∀ n, ∀ item ∈ (t.managers n).records.items,
      item ∈ (s.managers n).records.items ∨ item.2 = c) : LockInv t := by
  refine inv.move mover ⟨fun d other => .inl (calls d other), fun d other _ => values d other,
    fun _ _ _ _ => by rw [flocks], fun d before => ?_⟩ (here_of_past past fun n item member => ?_)
  · by_cases same : d = c
    · exact same ▸ closed (same ▸ before)
    · rw [values d same]
      exact before
  · refine (table n item member).imp_right fun same => ?_
    rw [same]
    exact past

theorem lockInv_finishOpen (inv : LockInv s) (mover : ¬ s.Past c) (m : ManagerId)
    (resource : DeviceResource) (prepare : Bool) (held : List Text)
    (closed : (s.values c).closed = true → (change (s.values c)).closed = true) :
    LockInv ((s.setValue c change).finishOpen c m resource prepare held) := by
  refine lockInv_made inv mover (fun d other => setCall_of_ne _ _ other) (.inl ⟨_, setCall_self ..⟩)
    (fun d other => update_of_ne other ..) (fun before => ?_) rfl (fun n item member => ?_)
  · change ((s.setValue c change).values c).closed = true
    rw [setValue_self]
    exact closed before
  · unfold State.finishOpen at member
    dsimp only at member
    rw [table_lease] at member
    exact mem_addRecord member

theorem lockInv_keepUncertain (inv : LockInv s) (mover : ¬ s.Past c) (m : ManagerId)
    (resource : DeviceResource) (held : List Text) (reason error : Text) :
    LockInv (s.keepUncertain c m resource held reason error) := by
  refine lockInv_made inv mover (fun d other => setCall_of_ne _ _ other) (.inr ⟨_, setCall_self ..⟩)
    (fun _ _ => rfl) id rfl (fun n item member => ?_)
  unfold State.keepUncertain at member
  rw [table_fail] at member
  exact mem_addRecord member

theorem flocks_unlock {owner d} {file f} :
    (s.unlock owner file).flocks f = some d ↔ s.flocks f = some d ∧ ¬(d = owner ∧ f = file) := by
  unfold State.unlock
  split
  · rename_i owned
    dsimp only
    by_cases same : f = file
    · subst same
      rw [update_self, owned]
      grind
    · rw [update_of_ne same]
      grind
  · rename_i other
    grind

theorem calls_unlock (s : State) (owner : CallId) (file : Text) : (s.unlock owner file).calls = s.calls := by
  unfold State.unlock
  split <;> rfl

theorem values_unlock (s : State) (owner : CallId) (file : Text) : (s.unlock owner file).values = s.values := by
  unfold State.unlock
  split <;> rfl

theorem managers_unlock (s : State) (owner : CallId) (file : Text) :
    (s.unlock owner file).managers = s.managers := by
  unfold State.unlock
  split <;> rfl

theorem lockInv_unlock (inv : LockInv s) {c owner} {file}
    (station : s.calls c = before) (mover : ¬ s.Past c) (whose : owner = c ∨ s.Past owner)
    (inPlace : ((s.unlock owner file).setCall c call).At c call)
    (held : ∀ f, f ∈ before.held → ¬(c = owner ∧ f = file) → f ∈ call.held)
    (about : ∀ r ∈ call.about, r ∈ before.about)
    (releasing : call.releasing = before.releasing ∨ call.releasing = none) :
    LockInv ((s.unlock owner file).setCall c call) := by
  refine inv.move mover ⟨fun d other => .inl ?_, fun d other _ => ?_, fun d other past f => ?_,
    fun d => ?_⟩ ⟨by rw [setCall_self]; exact inPlace, fun f locked => ?_, fun r member => ?_, fun r found => ?_,
    fun n item member => ?_⟩
  · rw [setCall_of_ne _ _ other, calls_unlock]
  · exact congrFun (values_unlock s owner file) d
  · change (s.unlock owner file).flocks f = some d ↔ _
    rw [flocks_unlock]
    refine ⟨And.left, fun locked => ⟨locked, ?_⟩⟩
    rintro ⟨rfl, _⟩
    exact whose.elim other past
  · change _ → ((s.unlock owner file).values d).closed = true
    rw [values_unlock]
    exact id
  · obtain ⟨locked, kept⟩ := flocks_unlock.mp locked
    rw [setCall_self]
    exact .inr (held f (inv.held_of station mover f locked) kept)
  · rw [setCall_self] at member
    have past : s.Past r := inv.about c r (by rw [station]; exact about r member)
    have other : r ≠ c := fun same => mover (same ▸ past)
    unfold State.Past
    rw [setCall_of_ne _ _ other, calls_unlock]
    exact past
  · rw [setCall_self] at found
    change ((s.unlock owner file).values r).closed = true
    rw [values_unlock]
    rcases releasing with same | none_left
    · exact inv.releasing c r (by rw [station, ← same, found])
    · cases none_left.symm.trans found
  · change item ∈ ((s.unlock owner file).managers n).records.items at member
    rw [managers_unlock] at member
    exact .inl member

theorem lockInv_own (inv : LockInv s) (station : s.calls c = before) (mover : ¬ s.Past c)
    (closed : (s.values c).closed = true → (change (s.values c)).closed = true)
    (inPlace : ((s.setValue c change).setCall c call).At c call) (held : call.held = before.held)
    (about : call.about = []) (releasing : call.releasing = none) :
    LockInv ((s.setValue c change).setCall c call) := by
  refine inv.move mover ⟨fun d other => .inl (setCall_of_ne _ _ other),
    fun d other _ => update_of_ne other .., fun _ _ _ _ => Iff.rfl, fun d before => ?_⟩
    ⟨by rw [setCall_self]; exact inPlace, fun f locked => ?_, fun r member => ?_, fun r found => ?_, fun n item member => .inl member⟩
  · change ((s.setValue c change).values d).closed = true
    by_cases same : d = c
    · subst same
      rw [setValue_self]
      exact closed before
    · rw [setValue_of_ne _ _ same]
      exact before
  · rw [setCall_self, held]
    exact .inr (inv.held_of station mover f locked)
  · rw [setCall_self, about] at member
    cases member
  · rw [setCall_self, releasing] at found
    cases found

theorem lockInv_locks (inv : LockInv s) {resource} {prepare} {identity} {pending} {held}
    (station : s.calls c = .locking m resource prepare (identity :: pending) held)
    (free : s.flocks identity.physical = none) :
    LockInv ({ s with flocks := update s.flocks identity.physical (some c) }.setCall c
      (if pending.isEmpty then .opening m resource prepare (identity.physical :: held)
        else .locking m resource prepare pending (identity.physical :: held))) := by
  have mover : ¬ s.Past c := not_past station rfl
  obtain ⟨unopened, owned, taken⟩ := inv.at_of station
  let flocks := update s.flocks identity.physical (some c)
  have covered (other : ResourceIdentity) (member : other ∈ resource.identities) :
      other ∈ pending ∨ flocks other.physical = some c := by
    by_cases same : other.physical = identity.physical
    · exact .inr (by simp [flocks, same])
    · have claimed : other ∈ pending ∨ s.flocks other.physical = some c := by
        rcases taken other member with queued | locked
        · rcases List.mem_cons.mp queued with rfl | queued
          · exact absurd rfl same
          · exact .inl queued
        · exact .inr locked
      simpa [flocks, same] using claimed
  have kept (f : Text) (locked : flocks f = some c) : f ∈ identity.physical :: held := by
    by_cases same : f = identity.physical
    · exact same ▸ mem_cons_self
    · refine mem_cons_of_mem _ (inv.held_of station mover f ?_)
      simpa [flocks, same] using locked
  refine inv.move mover ⟨fun d other => .inl (setCall_of_ne _ _ other), fun _ _ _ => rfl,
    fun d other _ f => ?_, fun _ => id⟩ ⟨?_, fun f locked => ?_, fun r member => ?_, fun r found => ?_,
    fun n item member => .inl member⟩
  · change flocks f = some d ↔ _
    by_cases same : f = identity.physical
    · simp [flocks, same, free, Ne.symm other]
    · simp [flocks, same]
  · rw [setCall_self]
    split
    · rename_i none_left
      refine ⟨unopened, fun _ other member => (covered other member).resolve_left fun queued => ?_⟩
      rw [List.isEmpty_iff.mp none_left] at queued
      cases queued
    · exact ⟨unopened, owned, covered⟩
  · rw [setCall_self]
    refine .inr ?_
    split <;> exact kept f locked
  · rw [setCall_self] at member
    split at member <;> cases member
  · rw [setCall_self] at found
    split at found <;> cases found

theorem lockInv_release (inv : LockInv s) {c d} {lease} (fresh : s.calls c = .unused)
    (station : s.calls d = .leased lease) : LockInv (s.release c d lease) := by
  have mover : ¬ s.Past c := not_past fresh rfl
  have distinct : d ≠ c := by
    rintro rfl
    cases station.symm.trans fresh
  have unopened : (s.values c).Fresh := inv.at_of fresh
  -- whatever the section does to the record, the call is over or about a record in the table
  have ends {u : State} {call : Call} (calls : u.calls = update s.calls d
        (.leased { lease with released := true })) (values : u.values = s.values)
      (flocks : u.flocks = s.flocks) (managers : u.managers = s.managers)
      (kind : call = .done [] ∨ ∃ r, s.Past r ∧ call = .closeOnce lease.manager lease.key r [] []) :
      LockInv (u.setCall c call) := by
    have past (r : CallId) (before : s.Past r) : (u.setCall c call).Past r := by
      have other : r ≠ c := fun same => mover (same ▸ before)
      by_cases same : r = d
      · refine .inl ⟨{ lease with released := true }, ?_⟩
        rw [setCall_of_ne _ _ other, calls, same, update_self]
      · unfold State.Past
        rw [setCall_of_ne _ _ other, calls, update_of_ne same]
        exact before
    refine inv.move mover ⟨fun e other => ?_, fun e _ _ => ?_, fun e _ _ f => ?_, fun e => ?_⟩
      ⟨?_, fun f locked => ?_, fun r member => ?_, fun r found => ?_, fun n item member => .inl ?_⟩
    · rw [setCall_of_ne _ _ other, calls]
      by_cases same : e = d
      · subst same
        exact .inr ⟨lease, _, station, update_self ..⟩
      · exact .inl (update_of_ne same ..)
    · exact congrFun values e
    · change u.flocks f = some e ↔ _
      rw [flocks]
    · change _ → (u.values e).closed = true
      rw [values]
      exact id
    · rw [setCall_self]
      have unopened : (u.values c).Fresh := by
        rw [values]
        exact unopened
      rcases kind with rfl | ⟨r, _, rfl⟩ <;> exact unopened
    · change u.flocks f = some c at locked
      rw [flocks] at locked
      cases inv.held_of fresh mover f locked
    · rw [setCall_self] at member
      rcases kind with rfl | ⟨r', before, rfl⟩
      · cases member
      · obtain rfl := List.mem_singleton.mp member
        exact past r before
    · rw [setCall_self] at found
      rcases kind with rfl | ⟨r', _, rfl⟩ <;> cases found
    · change item ∈ (u.managers n).records.items at member
      rwa [managers] at member
  unfold State.release
  dsimp only
  split
  · exact ends rfl rfl rfl rfl (.inl rfl)
  rename_i r found
  split
  · exact ends rfl rfl rfl rfl (.inl rfl)
  split
  · exact ends rfl rfl rfl rfl (.inl rfl)
  · exact ends rfl rfl rfl rfl (.inr ⟨r, inv.table _ _ (Data.Dict.mem_of_get? found), rfl⟩)

theorem lockInv_closing (inv : LockInv s) (station : s.calls c = before)
    (calls : t.calls = update s.calls c call) (about : r ∈ before.about)
    (held : before.held = []) (values : ∀ d, d ≠ r → t.values d = s.values d)
    (closed : (s.values r).closed = true → (t.values r).closed = true) (flocks : t.flocks = s.flocks)
    (mover : ¬ s.Past c) (unopened : s.At c before → t.At c call)
    (after : ∀ q ∈ call.about, q ∈ before.about)
    (releasing : ∀ q, call.releasing = some q → q = r ∧ (t.values r).closed = true)
    (table : ∀ n, ∀ item ∈ (t.managers n).records.items,
      item ∈ (s.managers n).records.items ∨ item.2 = r) : LockInv t := by
  have past : s.Past r := inv.about c r (by rw [station]; exact about)
  have other : r ≠ c := fun same => mover (same ▸ past)
  have self : t.calls c = call := by rw [calls, update_self]
  have still (q : CallId) (before : s.Past q) : t.Past q := by
    unfold State.Past
    have other : q ≠ c := fun same => mover (same ▸ before)
    rw [calls, update_of_ne other]
    exact before
  refine inv.move mover ⟨fun d other => .inl ?_, fun d _ unpast => values d ?_,
    fun _ _ _ _ => by rw [flocks], fun d before => ?_⟩ ⟨?_, fun f locked => ?_, fun q member => ?_,
    fun q found => ?_, fun n item member => ?_⟩
  · rw [calls, update_of_ne other]
  · rintro rfl
    exact unpast past
  · by_cases same : d = r
    · exact same ▸ closed (same ▸ before)
    · rw [values d same]
      exact before
  · rw [self]
    exact unopened (inv.at_of station)
  · rw [flocks] at locked
    have claimed := inv.held_of station mover f locked
    rw [held] at claimed
    cases claimed
  · rw [self] at member
    exact still q (inv.about c q (by rw [station]; exact after q member))
  · rw [self] at found
    obtain ⟨rfl, closed⟩ := releasing q found
    exact closed
  · refine (table n item member).imp_right fun same => ?_
    rw [same]
    exact still r past

theorem at_closeNext (unopened : (s.values c).Fresh) : s.At c (.closeNext m rest errors) := by
  cases rest <;> exact unopened

theorem about_closeNext : (Call.closeNext m rest errors).about = rest.map Prod.snd := by
  cases rest <;> rfl

theorem releasing_closeNext : (Call.closeNext m rest errors).releasing = none := by
  cases rest <;> rfl

theorem lockInv_finishClose (inv : LockInv s) {key} {r} {error}
    (station : s.calls c = .finishing m key r error rest errors) :
    LockInv (s.finishClose c m key r error rest errors) := by
  have mover : ¬ s.Past c := not_past station rfl
  have common (u : State) (calls : u.calls = s.calls) (values : u.values = s.values)
      (flocks : u.flocks = s.flocks) (table : ∀ n, ∀ item ∈ (u.managers n).records.items,
        item ∈ (s.managers n).records.items ∨ item.2 = r) :
      LockInv (u.closeNext c m error rest errors) := by
    have next : (u.closeNext c m error rest errors).calls =
        update s.calls c (.closeNext m rest (errors ++ error.toList)) := by
      rw [← calls]
      rfl
    refine lockInv_closing inv station next mem_cons_self rfl (fun d _ => congrFun values d) ?_ flocks
      mover (fun unopened => ?_) (fun q member => ?_) (fun q found => ?_) table
    · change _ → (u.values r).closed = true
      rw [values]
      exact id
    · refine at_closeNext ?_
      change (u.values c).Fresh
      rw [values]
      exact unopened
    · rw [about_closeNext] at member
      exact mem_cons_of_mem _ member
    · rw [releasing_closeNext] at found
      cases found
  unfold State.finishClose
  cases error with
  | none =>
    refine common _ rfl rfl rfl fun n item member => .inl ?_
    by_cases same : n = m
    · subst same
      rw [setManager_self] at member
      exact Data.Dict.mem_erase member
    · rwa [setManager_of_ne _ _ same] at member
  | some =>
    refine common _ rfl rfl rfl fun n item member => ?_
    by_cases same : n = m
    · subst same
      rw [setManager_self] at member
      rcases Data.Dict.mem_set member with before | rfl
      · exact .inl before
      · exact .inr rfl
    · rw [setManager_of_ne _ _ same] at member
      exact .inl member

theorem lockInv_close (inv : LockInv s) (fresh : s.calls c = .unused) (m : ManagerId) :
    LockInv (s.close c m) := by
  have mover : ¬ s.Past c := not_past fresh rfl
  have table (n : ManagerId) : ((s.close c m).managers n).records = (s.managers n).records := by
    change ((s.setManager m fun manager => { manager with closed := true }).managers n).records = _
    exact setManager_field Manager.records (by rfl) n
  have self : (s.close c m).calls c = .closeNext m (s.managers m).records.items [] := setCall_self ..
  refine inv.move mover ⟨fun d other => .inl (setCall_of_ne _ _ other), fun _ _ _ => rfl,
    fun _ _ _ _ => Iff.rfl, fun _ => id⟩ ⟨?_, fun f locked => ?_, fun q member => ?_, fun q found => ?_,
    fun n item member => .inl (table n ▸ member)⟩
  · rw [self]
    exact at_closeNext (inv.at_of fresh)
  · cases inv.held_of fresh mover f locked
  · rw [self, about_closeNext] at member
    obtain ⟨item, held, rfl⟩ := List.mem_map.mp member
    have past : s.Past item.2 := inv.table m item held
    exact past_setCall (s := s.setManager m _) past fun same => mover (same ▸ past)
  · rw [self, releasing_closeNext] at found
    cases found

/-- **Every step keeps the locks in order.** -/
theorem lockInv_step (inv : LockInv s) (next : step cfg s l = some t) : LockInv t := by
  cases step_move next with
  | drifts drift => exact inv.drift drift
  | advances c call drift advance =>
    have inv' := inv.drift drift
    rw [← drift.calls] at advance
    obtain ⟨mover, here⟩ := here_of_advance inv' rfl advance
    exact inv'.move mover (others_setCall _ c call) here
  | enters c m call fresh free drift entry =>
    exact lockInv_enters (inv.drift drift) (by rw [drift.calls]; exact fresh)
      (fun n => (drift.table n).symm) entry
  | fails c m failure station free drift =>
    refine lockInv_fail (inv.drift drift) ?_ m failure
    rw [← drift.calls] at station
    refine not_past_of rfl ?_ ?_ <;> rintro _ same <;> rw [same] at station <;> cases station
  | joins c m resource prepare valuePrepared r label fresh free found joins drift =>
    exact lockInv_lease (inv.drift drift) (drift.not_past (not_past fresh rfl)) m _ r
  | locks c m resource prepare identity pending held station free =>
    exact lockInv_locks inv station free
  | opens c m resource held isNone station =>
    have mover : ¬ s.Past c := not_past station rfl
    refine lockInv_own inv station mover id ?_ rfl rfl rfl
    obtain ⟨_, live, unstarted⟩ := (inv.at_of station).1
    exact ⟨by rw [State.setCall, setValue_self], by rw [State.setCall, setValue_self, live],
      by rw [State.setCall, setValue_self, unstarted]⟩
  | opened c m resource held station =>
    exact lockInv_finishOpen inv (not_past station rfl) m resource false held id
  | prepared c m resource held isNone station =>
    have same : s.setValue c id = s := by simp [State.setValue]
    have opened : LockInv ((s.setValue c id).finishOpen c m resource true held) :=
      lockInv_finishOpen inv (not_past station rfl) m resource true held id
    rwa [same] at opened
  | abandons c m resource held failure reply label raised station =>
    have same : s.setValue c id = s := by simp [State.setValue]
    have undone : LockInv ((s.setValue c id).setCall c (.undoing m held failure)) :=
      lockInv_own inv station (not_past station rfl) id trivial rfl rfl rfl
    rwa [same] at undone
  | rollsBack c m resource held error station =>
    obtain ⟨opened, live, _⟩ := inv.at_of station
    refine lockInv_own inv station (not_past station rfl) id ?_ rfl rfl rfl
    exact ⟨by rw [State.setCall, setValue_self, opened], by rw [State.setCall, setValue_self, live]⟩
  | rolledBack c m resource held error failure station =>
    exact lockInv_own inv station (not_past station rfl) (fun _ => rfl) trivial rfl rfl rfl
  | keeps c m resource held pending reason error station drift =>
    exact lockInv_keepUncertain (inv.drift drift) (drift.not_past (not_past station rfl)) m
      resource held reason error
  | undoes c m file held failure station =>
    refine lockInv_unlock inv station (not_past station rfl) (.inl rfl) trivial
      (fun f member kept => ?_) (fun r member => nomatch member) (.inl rfl)
    exact (List.mem_cons.mp member).resolve_left fun same => kept ⟨rfl, same⟩
  | readied c m key r label station =>
    have mover : ¬ s.Past c := not_past station rfl
    have readied : LockInv (s.setRecord r fun record =>
        { record with
          prepared := true
          error := none
          state := if record.resource.externalOwner then .external else .opened }) :=
      ⟨inv.inPlace, inv.holding, inv.about, inv.releasing, inv.table⟩
    exact lockInv_lease readied mover m key r
  | closesManager c m label fresh => exact lockInv_close inv fresh m
  | releases c d lease fresh station => exact lockInv_release inv fresh station
  | closes c m key r rest errors station =>
    have mover : ¬ s.Past c := not_past station rfl
    have past : s.Past r := inv.about c r (by rw [station]; exact mem_cons_self)
    have other : c ≠ r := fun same => mover (same ▸ past)
    let closing := s.setRecord r fun record => { record with closing := true, closeError := none }
    let started := closing.setValue r fun value => { value with closerStarted := true }
    refine lockInv_closing (t := started.setCall c _) inv station rfl mem_cons_self rfl
      (fun d other => ?_) (fun before => ?_) rfl mover (fun fresh => ?_) (fun q => id) nofun
      (fun n item => .inl)
    · change started.values d = closing.values d
      exact setValue_of_ne closing _ other
    · change (started.values r).closed = true
      rw [setValue_self]
      exact before
    · change (started.values c).Fresh
      rw [setValue_of_ne closing _ other]
      exact fresh
  | closed c m key r rest errors call station goes drift =>
    rename_i u
    have mover : ¬ s.Past c := not_past station rfl
    have past : s.Past r := inv.about c r (by rw [station]; exact mem_cons_self)
    have other : c ≠ r := fun same => mover (same ▸ past)
    have calls : (u.setCall c call).calls = update s.calls c call := by
      rw [State.setCall, drift.calls]
      rfl
    have closed : (u.values r).closed = true := by rw [drift.values, setValue_self]
    refine lockInv_closing inv station calls mem_cons_self rfl (fun d other => ?_)
      (fun _ => closed) drift.flocks mover (fun fresh => ?_) (fun q => ?_) (fun q found => ?_)
      (fun n item member => .inl ?_)
    · change u.values d = s.values d
      rw [drift.values, setValue_of_ne _ _ other]
    · have after : (u.values c).Fresh := by
        rw [drift.values, setValue_of_ne _ _ other]
        exact fresh
      rcases goes with rfl | rfl <;> exact after
    · rcases goes with rfl | rfl <;> exact id
    · rcases goes with rfl | rfl <;> exact ⟨(Option.some.inj found).symm, closed⟩
    · change item ∈ (u.managers n).records.items at member
      rwa [drift.table] at member
  | unlocks c m key r file pending rest errors station =>
    have past : s.Past r := inv.about c r (by rw [station]; exact mem_cons_self)
    refine lockInv_unlock inv station (not_past station rfl) (.inr past) ?_
      (fun f member _ => member) (fun q => id) (.inl rfl)
    change ((s.unlock r file).values c).Fresh
    rw [values_unlock]
    exact inv.at_of station
  | finishes c m key r error rest errors station => exact lockInv_finishClose inv station
  | marked c m record pending reason station drift =>
    rename_i u
    have inv' := inv.drift drift
    rw [← drift.calls] at station
    have mover := not_past station rfl
    refine inv'.move mover ⟨fun d other => .inl (setCall_of_ne _ _ other), fun _ _ _ => rfl,
      fun _ _ _ _ => Iff.rfl, fun _ => id⟩ ⟨?_, fun f locked => ?_, fun q member => ?_,
      fun q found => ?_, fun n item member => .inl ?_⟩
    · rw [setCall_self]
      exact inv'.at_of station
    · cases inv'.held_of station mover f locked
    · rw [setCall_self] at member
      cases member
    · rw [setCall_self] at found
      cases found
    · have table : ((u.setManager m fun manager => { manager with lock := none }).managers n).records =
          (u.managers n).records := setManager_field Manager.records (by rfl) n
      exact table ▸ member

/-! ## The hold -/

namespace State

/-- The value of `c` is live, and somebody else does not own the device. -/
def Occupies (s : State) (c : CallId) (resource : DeviceResource) : Prop :=
  (s.values c).opened = some resource ∧ (s.values c).closed = false ∧ resource.externalOwner = false

/-- `c` has the locks of the resource, and is not about to give them back. -/
def Secured (s : State) (c : CallId) (resource : DeviceResource) : Prop :=
  (∀ identity ∈ resource.identities, s.flocks identity.physical = some c) ∧
    ∀ m held failure, s.calls c ≠ .undoing m held failure

def HeldWhileLive (s : State) : Prop := ∀ c resource, s.Occupies c resource → s.Secured c resource

end State

/-- The preparation of a `None` of a device that nobody else owns does not fail. -/
def KeepsNone (s : State) : Label → Prop
  | .prepares c reply => reply = .returned ∨ ∀ m resource held,
      s.calls c = .preparingValue m resource held true → resource.externalOwner = true
  | _ => True

theorem heldWhileLive_init (files : FileId → Except Text (Data.Dict Text Text)) :
    (State.init files).HeldWhileLive := by
  rintro c resource ⟨opened, _⟩
  cases opened

variable {resource other : DeviceResource} {call : Call} {r : CallId} {file : Text} {m : ManagerId}
  {failure : Failure} {rest : List (Text × CallId)} {errors : List Failure}

theorem State.HeldWhileLive.exclusive (holds : s.HeldWhileLive) {c d}
    (here : s.Occupies c resource) (there : s.Occupies d other) {identity another}
    (mine : identity ∈ resource.identities) (theirs : another ∈ other.identities)
    (same : identity.physical = another.physical) : c = d := by
  have held : s.flocks identity.physical = some c := (holds c resource here).1 identity mine
  have held' : s.flocks another.physical = some d := (holds d other there).1 another theirs
  rw [← same, held] at held'
  exact Option.some.inj held'

variable {c : CallId}

theorem held_setCall (holds : s.HeldWhileLive) (calls : t.calls = update s.calls c call)
    (values : t.values = s.values) (flocks : t.flocks = s.flocks)
    (settled : ∀ resource m held failure, s.Occupies c resource → call ≠ .undoing m held failure) :
    t.HeldWhileLive := by
  intro d resource live
  have live : s.Occupies d resource := by
    unfold State.Occupies at live ⊢
    rwa [values] at live
  obtain ⟨locked, staying⟩ := holds d resource live
  refine ⟨fun identity member => by rw [flocks]; exact locked identity member, fun m held failure => ?_⟩
  rw [calls]
  by_cases same : d = c
  · subst same
    rw [update_self]
    exact settled resource m held failure live
  · rw [update_of_ne same]
    exact staying m held failure

def Call.undoes : Call → Bool
  | .undoing .. => true
  | _ => false

theorem held_moved (holds : s.HeldWhileLive) (calls : t.calls = update s.calls c call)
    (values : t.values = s.values) (flocks : t.flocks = s.flocks) (stays : call.undoes = false) :
    t.HeldWhileLive :=
  held_setCall holds calls values flocks fun _ _ _ _ _ same => by
    subst same
    cases stays

theorem held_drift (holds : s.HeldWhileLive) (drift : Drift s u) : u.HeldWhileLive := by
  unfold State.HeldWhileLive State.Occupies State.Secured
  rw [drift.values, drift.flocks, drift.calls]
  exact holds

theorem held_setValue (holds : s.HeldWhileLive) {change}
    (secured : ∀ resource, (change (s.values r)).opened = some resource →
      (change (s.values r)).closed = false → resource.externalOwner = false → s.Secured r resource) :
    (s.setValue r change).HeldWhileLive := by
  rintro d resource ⟨opened, live, owned⟩
  by_cases same : d = r
  · subst same
    rw [setValue_self] at opened live
    exact secured resource opened live owned
  · rw [setValue_of_ne _ _ same] at opened live
    exact holds d resource ⟨opened, live, owned⟩

theorem held_unlock (holds : s.HeldWhileLive) {owner}
    (vacant : ∀ resource, ¬ s.Occupies owner resource) : (s.unlock owner file).HeldWhileLive := by
  intro d resource live
  have live : s.Occupies d resource := by
    unfold State.Occupies at live ⊢
    rwa [values_unlock] at live
  obtain ⟨locked, staying⟩ := holds d resource live
  refine ⟨fun identity member => flocks_unlock.mpr ⟨locked identity member, ?_⟩, ?_⟩
  · rintro ⟨same, _⟩
    exact vacant resource (same ▸ live)
  · rw [calls_unlock]
    exact staying

theorem not_occupies_of_fresh (fresh : (s.values c).Fresh) (resource : DeviceResource) :
    ¬ s.Occupies c resource := by
  rintro ⟨opened, _⟩
  cases fresh.1.symm.trans opened

theorem opened_of_occupies (live : s.Occupies c resource) (opened : (s.values c).opened = some other) :
    other = resource :=
  Option.some.inj (opened.symm.trans live.1)

theorem fresh_of_undoing {w} (inv : LockInv s) {before call}
    (station : s.calls c = before) (advance : Advance w before call) {held}
    (same : call = .undoing m held failure) : (s.values c).Fresh := by
  have inPlace := inv.at_of station
  cases advance with
  | lockFails | openFails => exact inPlace.1
  | skips m key r rest | awaits m key r rest => cases rest <;> cases same
  | _ => cases same

/-- **A step keeps the hold, unless a `None` fails its preparation.** -/
theorem held_step (inv : LockInv s) (holds : s.HeldWhileLive) (next : step cfg s l = some t)
    (keeps : KeepsNone s l) : t.HeldWhileLive := by
  cases step_move next with
  | drifts drift => exact held_drift holds drift
  | advances c call drift advance =>
    rename_i u
    refine held_setCall (held_drift holds drift) rfl rfl rfl fun resource m held failure live same => ?_
    rw [← drift.calls] at advance
    exact not_occupies_of_fresh (fresh_of_undoing (inv.drift drift) rfl advance same) resource live
  | enters c m call fresh free drift entry =>
    refine held_setCall (held_drift holds drift) rfl rfl rfl fun resource n held failure live same => ?_
    subst same
    cases entry
  | fails c m failure station free drift
  | joins c m resource prepare valuePrepared r label fresh free found joins drift
  | keeps c m resource held pending reason error station drift
  | marked c m record pending reason station drift =>
    exact held_moved (held_drift holds drift) rfl rfl rfl rfl
  | locks c m resource prepare identity pending held station free =>
    intro d other live
    obtain ⟨locked, staying⟩ := holds d other live
    refine ⟨fun another member => ?_, fun n before failure => ?_⟩
    · have locked := locked another member
      have distinct : another.physical ≠ identity.physical := fun same => by
        rw [same, free] at locked
        cases locked
      change update s.flocks identity.physical (some c) another.physical = some d
      rwa [update_of_ne distinct]
    · by_cases same : d = c
      · subst same
        rw [setCall_self]
        split <;> nofun
      · rw [setCall_of_ne _ _ same]
        exact staying n before failure
  | opens c m resource held _ station | opened c m resource held station =>
    obtain ⟨fresh, covered⟩ := inv.at_of station
    have opened : (s.setValue c fun value => { value with opened := some resource }).HeldWhileLive := by
      refine held_setValue holds fun other same live owned => ?_
      cases same
      exact ⟨covered owned, by rw [station]; nofun⟩
    exact held_moved opened rfl rfl rfl rfl
  | prepared => exact held_moved holds rfl rfl rfl rfl
  | abandons c m resource held failure reply label raised station =>
    subst label
    have external : resource.externalOwner = true :=
      (keeps.resolve_left raised) m resource held station
    refine held_setCall holds rfl rfl rfl fun other _ _ _ live _ => ?_
    obtain rfl := opened_of_occupies live (inv.at_of station).1
    cases external.symm.trans live.2.2
  | rollsBack c =>
    have started : (s.setValue c fun value => { value with closerStarted := true }).HeldWhileLive :=
      held_setValue holds fun other opened live owned => holds c other ⟨opened, live, owned⟩
    exact held_moved started rfl rfl rfl rfl
  | rolledBack c =>
    have closed : (s.setValue c fun value => { value with closed := true }).HeldWhileLive :=
      held_setValue holds fun other opened live owned => nomatch live
    refine held_setCall closed rfl rfl rfl fun other _ _ _ live _ => ?_
    have live := live.2.1
    rw [setValue_self] at live
    cases live
  | undoes c m file held failure station =>
    have vacant (resource : DeviceResource) : ¬ s.Occupies c resource := fun live =>
      (holds c resource live).2 m _ failure station
    refine held_setCall (held_unlock holds vacant) rfl rfl rfl fun resource _ _ _ live _ => ?_
    unfold State.Occupies at live
    rw [values_unlock] at live
    exact vacant resource live
  | readied => exact held_moved holds rfl rfl rfl rfl
  | closesManager c m =>
    refine held_setCall holds rfl rfl rfl fun resource n held failure live same => ?_
    cases items : (s.managers m).records.items <;> rw [items] at same <;> cases same
  | releases c d lease =>
    have released := held_moved (t := s.setCall d (.leased { lease with released := true })) holds rfl
      rfl rfl rfl
    unfold State.release
    dsimp only
    split
    · exact held_moved released rfl rfl rfl rfl
    split
    · exact held_moved released rfl rfl rfl rfl
    split <;> exact held_moved released rfl rfl rfl rfl
  | closes c m key r =>
    let closing := s.setRecord r fun record => { record with closing := true, closeError := none }
    have started : (closing.setValue r fun value => { value with closerStarted := true }).HeldWhileLive :=
      held_setValue (s := closing) holds fun other opened live owned => holds r other ⟨opened, live, owned⟩
    exact held_moved started rfl rfl rfl rfl
  | closed c m key r rest errors call station goes drift =>
    have closed : (s.setValue r fun value => { value with closed := true }).HeldWhileLive :=
      held_setValue holds fun other opened live owned => nomatch live
    refine held_setCall (held_drift closed drift) rfl rfl rfl fun _ _ _ _ _ same => ?_
    rcases goes with rfl | rfl <;> cases same
  | unlocks c m key r file pending rest errors station =>
    have gone : (s.values r).closed = true := inv.releasing c r (by rw [station]; rfl)
    have vacant (resource : DeviceResource) : ¬ s.Occupies r resource := fun live =>
      nomatch gone.symm.trans live.2.1
    exact held_moved (held_unlock holds vacant) rfl rfl rfl rfl
  | finishes c m key r error rest =>
    unfold State.finishClose
    cases error with
    | none | some problem =>
      refine held_setCall holds rfl rfl rfl fun resource n held failure live same => ?_
      cases rest <;> cases same

/-- **A step keeps the hold exactly where it does not fail the preparation of a `None`.** -/
theorem held_iff (inv : LockInv s) (holds : s.HeldWhileLive) (next : step cfg s l = some t) :
    t.HeldWhileLive ↔ KeepsNone s l := by
  refine ⟨fun after => ?_, held_step inv holds next⟩
  cases l with
  | prepares c reply =>
    by_cases returned : reply = .returned
    · exact .inl returned
    refine .inr fun m resource held station => ?_
    cases owned : resource.externalOwner with
    | true => rfl
    | false =>
      obtain ⟨opened, live, _⟩ := inv.at_of station
      have undoing : ∃ failure, t = s.setCall c (.undoing m held failure) := by
        simp only [step, station] at next
        cases next
        cases reply with
        | returned => exact absurd rfl returned
        | refused | raised => exact ⟨_, rfl⟩
      obtain ⟨failure, rfl⟩ := undoing
      exact absurd (setCall_self ..) ((after c resource ⟨opened, live, owned⟩).2 m held failure)
  | start c op | lock c works | opens c reply | closes c reply | store c works | proceed c
  | corrupt => trivial

/-! ## Who gives locks back -/

/-- A lock goes in the cleanup of the acquire that took it, or in a close whose closer has
returned. -/
theorem lock_given_back (inv : LockInv s) (next : step cfg s l = some t) (held : s.flocks file = some r) :
    t.flocks file = some r ∨ (∃ m files failure, s.calls r = .undoing m (file :: files) failure) ∨
      ∃ c m key pending rest errors, s.calls c = .unlocking m key r (file :: pending) rest errors ∧
        (s.values r).closed = true := by
  cases step_move next with
  | drifts drift | advances _ _ drift | enters _ _ _ _ _ drift | fails _ _ _ _ _ drift
  | joins _ _ _ _ _ _ _ _ _ _ _ drift | keeps _ _ _ _ _ _ _ _ drift | closed _ _ _ _ _ _ _ _ _ drift
  | marked _ _ _ _ _ _ drift =>
    refine .inl ?_
    rw [← held]
    exact congrFun drift.flocks file
  | locks c m resource prepare identity pending before station free =>
    refine .inl ?_
    have other : file ≠ identity.physical := fun same => by
      rw [same, free] at held
      cases held
    change update s.flocks identity.physical (some c) file = some r
    rwa [update_of_ne other]
  | undoes c m gone files failure station =>
    by_cases same : r = c ∧ file = gone
    · obtain ⟨rfl, rfl⟩ := same
      exact .inr (.inl ⟨m, files, failure, station⟩)
    · exact .inl (flocks_unlock.mpr ⟨held, same⟩)
  | unlocks c m key q gone pending rest errors station =>
    by_cases same : r = q ∧ file = gone
    · obtain ⟨rfl, rfl⟩ := same
      exact .inr (.inr ⟨c, m, key, pending, rest, errors, station, inv.releasing c r (by rw [station]; rfl)⟩)
    · exact .inl (flocks_unlock.mpr ⟨held, same⟩)
  | releases =>
    refine .inl ?_
    rw [← held]
    unfold State.release
    dsimp only
    split
    · rfl
    split
    · rfl
    split <;> rfl
  | finishes c m key q error =>
    refine .inl ?_
    rw [← held]
    cases error <;> rfl
  | opens | opened | prepared | abandons | rollsBack | rolledBack | readied | closesManager | closes =>
    exact .inl held

theorem unlocking_succeeds (next : step cfg s l = some t) {key} {files}
    (station : s.calls c = .unlocking m key r files rest errors) :
    t.calls c = .unlocking m key r files rest errors ∨ (∃ file pending, files = file :: pending ∧
        t.calls c = .unlocking m key r pending rest errors) ∨
      files = [] ∧ t.calls c = .finishing m key r none rest errors := by
  -- a move of another call, or of a call at another station
  have stays {u : State} {d : CallId} {call before : Call} (calls : u.calls c = s.calls c)
      (stands : s.calls d = before) (elsewhere : before ≠ .unlocking m key r files rest errors) :
      (u.setCall d call).calls c = .unlocking m key r files rest errors := by
    have other : c ≠ d := by
      rintro rfl
      exact elsewhere (stands.symm.trans station)
    rw [setCall_of_ne _ _ other, calls, station]
  cases step_move next with
  | drifts drift =>
    rw [drift.calls]
    exact .inl station
  | advances d call drift advance =>
    by_cases same : d = c
    · subst same
      rw [station] at advance
      rw [setCall_self]
      cases advance
      exact .inr (.inr ⟨rfl, rfl⟩)
    · rw [setCall_of_ne _ _ (Ne.symm same), drift.calls]
      exact .inl station
  | fails d n failure before free drift =>
    refine .inl (stays (congrFun drift.calls c) rfl fun same => ?_)
    rw [same] at before
    cases before
  | enters _ _ _ before _ drift | joins _ _ _ _ _ _ _ before _ _ _ drift
  | keeps _ _ _ _ _ _ _ before drift | closed _ _ _ _ _ _ _ before _ drift
  | marked _ _ _ _ _ before drift => exact .inl (stays (congrFun drift.calls c) before nofun)
  | locks _ _ _ _ _ _ _ before | opens _ _ _ _ _ before | opened _ _ _ _ before | prepared _ _ _ _ _ before
  | abandons _ _ _ _ _ _ _ _ before | rollsBack _ _ _ _ _ before | rolledBack _ _ _ _ _ _ before
  | readied _ _ _ _ _ before | closesManager _ _ _ before | closes _ _ _ _ _ _ before =>
    exact .inl (stays rfl before nofun)
  | finishes d n key' q error rest' errors' before =>
    cases error <;> exact .inl (stays rfl before nofun)
  | undoes d n file held failure before =>
    exact .inl (stays (congrFun (calls_unlock s d file) c) before nofun)
  | unlocks d n key' q file pending rest' errors' before =>
    by_cases same : d = c
    · subst same
      rw [station] at before
      cases before
      exact .inr (.inl ⟨file, pending, rfl, setCall_self ..⟩)
    · rw [setCall_of_ne _ _ (Ne.symm same), calls_unlock]
      exact .inl station
  | releases d e lease fresh leased =>
    have released : (s.setCall e (.leased { lease with released := true })).calls c = s.calls c := by
      rw [stays rfl leased nofun, station]
    have ends {u : State} {call : Call} (calls : u.calls c = s.calls c) :
        (u.setCall d call).calls c = .unlocking m key r files rest errors := stays calls fresh nofun
    refine .inl ?_
    unfold State.release
    dsimp only
    split
    · exact ends released
    split
    · exact ends released
    split <;> exact ends released

theorem closeNext_ne_failed : Call.closeNext m rest errors ≠ .failed failure := by
  cases rest <;> nofun

/-- **An acquire that raises leaves a live value, or none of its locks.** -/
theorem raises_unlocked (inv : LockInv s) (next : step cfg s l = some t)
    (raised : t.calls c = .failed failure) (before : ∀ earlier, s.calls c ≠ .failed earlier) :
    (t.values c).Live ∨ ∀ file, t.flocks file ≠ some c := by
  have raises {u : State} {d : CallId} {call : Call} (raised : (u.setCall d call).calls c = .failed failure)
      (unraised : u.calls c ≠ .failed failure) : c = d ∧ call = .failed failure := by
    by_cases same : c = d
    · subst same
      exact ⟨rfl, (setCall_self ..).symm.trans raised⟩
    · rw [setCall_of_ne _ _ same] at raised
      exact absurd raised unraised
  have mover {u : State} {d : CallId} {call : Call} (raised : (u.setCall d call).calls c = .failed failure)
      (calls : u.calls c = s.calls c) : c = d ∧ call = .failed failure :=
    raises raised (calls ▸ before failure)
  cases step_move next with
  | drifts drift =>
    rw [drift.calls] at raised
    exact absurd raised (before failure)
  | advances d call drift advance =>
    have same := (mover raised (congrFun drift.calls c)).2
    generalize s.calls d = earlier at advance
    cases advance with
    | skips | awaits => exact absurd same closeNext_ne_failed
    | _ =>
      cases same
  | enters d m call fresh free drift entry =>
    obtain ⟨_, rfl⟩ := mover raised (congrFun drift.calls c)
    cases entry
  | fails d m failure' station free drift =>
    rename_i u
    obtain ⟨rfl, _⟩ := mover raised (congrFun drift.calls c)
    generalize stands : s.calls c = earlier at station
    have none_held (empty : earlier.held = []) (file : Text) : u.flocks file ≠ some c := fun held => by
      rw [drift.flocks] at held
      have mover : ¬ s.Past c := by
        refine not_past_of stands ?_ ?_ <;> rintro _ rfl <;> cases station
      have claimed := inv.held_of stands mover file held
      rw [empty] at claimed
      cases claimed
    cases station with
    | markingRollback =>
      obtain ⟨opened, live⟩ := inv.at_of stands
      refine .inl ?_
      change (u.values c).Live
      rw [drift.values]
      exact ⟨by rw [opened]; rfl, live⟩
    | unused | preparing | markingPrepare | markingUncertain | undoing => exact .inr (none_held rfl)
  | keeps d m resource held pending reason error station drift =>
    rename_i u
    obtain ⟨rfl, _⟩ := mover raised (congrFun drift.calls c)
    obtain ⟨opened, live⟩ := inv.at_of station
    refine .inl ?_
    change (u.values c).Live
    rw [drift.values]
    exact ⟨by rw [opened]; rfl, live⟩
  | joins _ _ _ _ _ _ _ _ _ _ _ drift | marked _ _ _ _ _ _ drift =>
    cases (mover raised (congrFun drift.calls c)).2
  | closed d m key r rest errors call station goes drift =>
    obtain ⟨_, rfl⟩ := mover raised (congrFun drift.calls c)
    rcases goes with same | same <;> cases same
  | locks =>
    have same := (mover raised rfl).2
    split at same <;> cases same
  | undoes d m file =>
    cases (mover raised (congrFun (calls_unlock s d file) c)).2
  | unlocks d m key r file =>
    cases (mover raised (congrFun (calls_unlock s r file) c)).2
  | opens | opened | prepared | abandons | rollsBack | rolledBack | readied | closes =>
    cases (mover raised rfl).2
  | closesManager => exact absurd (mover raised rfl).2 closeNext_ne_failed
  | finishes d m key r error =>
    cases error <;> exact absurd (mover raised rfl).2 closeNext_ne_failed
  | releases d e lease =>
    have released : (s.setCall e (.leased { lease with released := true })).calls c ≠ .failed failure := by
      by_cases same : c = e
      · subst same
        rw [setCall_self]
        nofun
      · rw [setCall_of_ne _ _ same]
        exact before failure
    exfalso
    unfold State.release at raised
    dsimp only at raised
    split at raised
    · cases (raises raised released).2
    split at raised
    · cases (raises raised released).2
    split at raised <;> cases (raises raised released).2

theorem lockInv_init (files : FileId → Except Text (Data.Dict Text Text)) : LockInv (State.init files) := by
  refine ⟨fun c => ⟨rfl, rfl, rfl⟩, fun file c held => ?_, fun c r member => ?_, fun c r found => ?_,
    fun m item member => ?_⟩
  · cases held
  · cases member
  · cases found
  · cases member

/-! ## Every run -/

/-- **The locks of a live value** are all its own as long as no preparation of a `None` fails, and only
a cleanup or a close gives them back. -/
theorem locks_held_while_live {files : FileId → Except Text (Data.Dict Text Text)}
    (ran : run (step cfg) (State.init files) ls = some t) :
    ((∀ before after u, ls = before ++ after → run (step cfg) (State.init files) before = some u →
        u.HeldWhileLive) ↔ Along (step cfg) KeepsNone (State.init files) ls) ∧
      (Along (step cfg) KeepsNone (State.init files) ls → ∀ c d resource other, t.Occupies c resource →
        t.Occupies d other → ∀ identity ∈ resource.identities, ∀ another ∈ other.identities,
          identity.physical = another.physical → c = d) ∧
      ∀ l u, step cfg t l = some u → (∀ file r, t.flocks file = some r → u.flocks file = some r ∨
          (∃ m files failure, t.calls r = .undoing m (file :: files) failure) ∨
          ∃ c m key pending rest errors, t.calls c = .unlocking m key r (file :: pending) rest errors ∧
            (t.values r).closed = true) ∧
        (∀ c m key r pending rest errors, t.calls c = .unlocking m key r pending rest errors →
          u.calls c = .unlocking m key r pending rest errors ∨
          (∃ file left, pending = file :: left ∧ u.calls c = .unlocking m key r left rest errors) ∨
          pending = [] ∧ u.calls c = .finishing m key r none rest errors) ∧
        ∀ c failure, u.calls c = .failed failure → (∀ earlier, t.calls c ≠ .failed earlier) →
          (u.values c).Live ∨ ∀ file, u.flocks file ≠ some c := by
  have inv : LockInv t := run_invariant (fun _ _ _ inv next => lockInv_step inv next) (lockInv_init files) ran
  have start : LockInv (State.init files) ∧ (State.init files).HeldWhileLive :=
    ⟨lockInv_init files, heldWhileLive_init files⟩
  have step_iff (s : State) (l : Label) (t : State) (both : LockInv s ∧ s.HeldWhileLive)
      (next : step cfg s l = some t) : (LockInv t ∧ t.HeldWhileLive) ↔ KeepsNone s l := by
    rw [← held_iff both.1 both.2 next]
    exact and_iff_right (lockInv_step both.1 next)
  have prefixes := along_iff_prefixes step_iff start ran
  refine ⟨⟨fun holds => ?_, fun keeps before after u split reached => ?_⟩, fun keeps => ?_,
    fun l u next => ⟨fun file r held => lock_given_back inv next held, fun c m key r pending rest errors
      station => unlocking_succeeds next station, fun c failure raised before =>
        raises_unlocked inv next raised before⟩⟩
  · refine prefixes.mp fun before after u split reached => ⟨?_, holds before after u split reached⟩
    exact run_invariant (fun _ _ _ inv next => lockInv_step inv next) (lockInv_init files) reached
  · exact (prefixes.mpr keeps before after u split reached).2
  · intro c d resource other here there identity mine another theirs same
    have holds : t.HeldWhileLive := (prefixes.mpr keeps ls [] t (append_nil ls).symm ran).2
    exact holds.exclusive here there mine theirs same

/-- A camera of the node `n`. -/
def camera : DeviceResource := { identity := ⟨['n'], ['c'], ['0']⟩ }

/-- A preparation and its cleanup fail: the camera stays open and locked, and the other manager's
acquire is refused. -/
theorem locks_held_while_live_uncertain :
    ∃ t, run (step ⟨fun _ => ['n'], fun _ => 0⟩) (State.init fun _ => .ok Data.Dict.empty)
        [.start 0 (.acquire 0 camera true false), .lock 0 true, .opens 0 (.returned false),
          .prepares 0 (.raised []), .closes 0 (.raised []), .store 0 true,
          .start 1 (.acquire 1 camera false false), .lock 1 true, .proceed 1] = some t ∧
      t.Occupies 0 camera ∧ t.calls 1 = .failed (.busy camera.identity false) ∧ t.HeldWhileLive := by
  obtain ⟨t, ran, open_, refused⟩ : ∃ t, run (step ⟨fun _ => ['n'], fun _ => 0⟩)
      (State.init fun _ => .ok Data.Dict.empty)
      [.start 0 (.acquire 0 camera true false), .lock 0 true, .opens 0 (.returned false),
        .prepares 0 (.raised []), .closes 0 (.raised []), .store 0 true,
        .start 1 (.acquire 1 camera false false), .lock 1 true, .proceed 1] = some t ∧
      t.Occupies 0 camera ∧ t.calls 1 = .failed (.busy camera.identity false) :=
    ⟨_, rfl, ⟨rfl, rfl, rfl⟩, rfl⟩
  refine ⟨t, ran, open_, refused, (locks_held_while_live ran).1.mpr ?_ _ [] t (append_nil _).symm ran⟩
  refine ⟨trivial, fun _ first => ⟨trivial, fun _ second => ⟨trivial, fun _ third =>
    ⟨.inr fun m resource held station => ?_, fun _ _ => ⟨trivial, fun _ _ => ⟨trivial, fun _ _ =>
      ⟨trivial, fun _ _ => ⟨trivial, fun _ _ => ⟨trivial, fun _ _ => trivial⟩⟩⟩⟩⟩⟩⟩⟩⟩
  cases first
  cases second
  cases third
  cases station

/-- The opener returned `None`, its preparation failed, and the locks went without a closer. -/
theorem live_value_without_lock :
    ∃ t, run (step ⟨fun _ => ['n'], fun _ => 0⟩) (State.init fun _ => .ok Data.Dict.empty)
        [.start 0 (.acquire 0 camera true false), .lock 0 true, .opens 0 (.returned true),
          .prepares 0 (.raised []), .proceed 0, .proceed 0, .start 1 (.acquire 1 camera false false),
          .lock 1 true, .opens 1 (.returned false)] = some t ∧
      t.Occupies 0 camera ∧ t.Occupies 1 camera ∧ t.flocks camera.identity.physical = some 1 :=
  ⟨_, rfl, ⟨rfl, rfl, rfl⟩, ⟨rfl, rfl, rfl⟩, rfl⟩

end EmbodiRun.Devices.Lifecycle
