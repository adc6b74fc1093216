/-
# Devices.Leases -- a leased value is not closed

The last release of a record takes its count to zero in one section of the manager and marks
the record as closing in the next.  An acquire between the two is given a lease on a value
whose closer is about to run.
-/
import EmbodiRun.Devices.Tables

namespace EmbodiRun.Devices.Lifecycle

open Transition List

variable {cfg : Config} {s t u : State} {l : Label} {ls : List Label}

/-! ## Leases that are out -/

def Call.rest : Call → List (Text × CallId)
  | .closeOnce _ _ _ rest _ | .awaiting _ _ _ rest _ | .closing _ _ _ rest _
  | .markingClose _ _ _ _ _ rest _ | .clearing _ _ _ _ rest _ | .unlocking _ _ _ _ rest _
  | .finishing _ _ _ _ rest _ => rest
  | _ => []

def Call.pending : Call → Option CallId
  | .closeOnce _ _ r _ _ => some r
  | _ => none

/-- The call `d` returned the lease, and nobody has released it. -/
def State.Outstanding (s : State) (d : CallId) (lease : Lease) : Prop :=
  s.calls d = .leased lease ∧ lease.released = false

open State

structure LeaseInv (s : State) : Prop where
  counted : ∀ r, (s.records r).references = (s.records r).leases.length
  outstanding : ∀ d lease, s.Outstanding d lease → lease.token ∈ (s.records lease.value).leases ∧
    s.at? lease.manager lease.key = some lease.value ∧ lease.token < (s.managers lease.manager).nextToken
  distinct : ∀ d e one two, s.Outstanding d one → s.Outstanding e two → one.manager = two.manager →
    one.token = two.token → d = e
  started : ∀ r m key, (s.values r).closerStarted = true → s.at? m key = some r →
    (s.records r).leases = [] ∧ ((s.records r).closing = true ∨ (s.records r).state = .uncertain)
  pending : ∀ c r, (s.calls c).pending = some r → (s.records r).leases = []
  alone : ∀ c, (s.calls c).rest = []
  readying : ∀ c m key r, (s.calls c).readying = some (m, key, r) → (s.values r).closerStarted = false

open LeaseInv

theorem leaseInv_init (files : FileId → Except Text (Data.Dict Text Text)) : LeaseInv (init files) := by
  refine ⟨fun r => rfl, fun d lease out => ?_, fun d e one two out => ?_, fun r m key begun => ?_,
    fun c r pending => ?_, fun c => rfl, fun c m key r readying => ?_⟩
  · cases out.1
  · cases out.1
  · cases begun
  · cases pending
  · cases readying

/-- **The value of a lease that is out has not been closed.** -/
theorem LeaseInv.unclosed (inv : LeaseInv s) {d} {lease} (out : s.Outstanding d lease) :
    (s.values lease.value).closerStarted = false := by
  obtain ⟨member, found, _⟩ := inv.outstanding d lease out
  refine Bool.eq_false_iff.mpr fun begun => ?_
  rw [(inv.started _ _ _ begun found).1] at member
  cases member

theorem LeaseInv.unstarted (inv : LeaseInv s) {m} {key} {r}
    (found : s.at? m key = some r) (notClosing : (s.records r).closing = false)
    (usable : ¬((s.records r).references = 0 ∧ (s.records r).state = .uncertain)) :
    (s.values r).closerStarted = false := by
  refine Bool.eq_false_iff.mpr fun begun => ?_
  obtain ⟨empty, closing | uncertain⟩ := inv.started r m key begun found
  · cases notClosing.symm.trans closing
  · refine usable ⟨?_, uncertain⟩
    rw [inv.counted, empty]
    rfl

theorem LeaseInv.drift (inv : LeaseInv s) (drift : Drift s u) : LeaseInv u := by
  have table (m : ManagerId) (key : Text) : u.at? m key = s.at? m key := by
    unfold at?
    rw [drift.table]
  have out {d : CallId} {lease : Lease} (after : u.Outstanding d lease) : s.Outstanding d lease := by
    unfold State.Outstanding at after
    rwa [drift.calls] at after
  refine ⟨fun r => ?_, fun d lease after => ?_, fun d e one two here there => ?_, fun r m key begun found => ?_,
    fun c r pending => ?_, fun c => ?_, fun c m key r readying => ?_⟩
  · rw [(drift.records r).references, (drift.records r).leases]
    exact inv.counted r
  · rw [(drift.records _).leases, table, drift.nextToken]
    exact inv.outstanding d lease (out after)
  · exact inv.distinct d e one two (out here) (out there)
  · rw [drift.values] at begun
    rw [table] at found
    obtain ⟨empty, kind⟩ := inv.started r m key begun found
    rw [(drift.records r).leases, (drift.records r).closing]
    refine ⟨empty, kind.imp_right fun uncertain => ?_⟩
    exact (drift.records r).state.elim (fun same => same.trans uncertain) id
  · rw [drift.calls] at pending
    rw [(drift.records r).leases]
    exact inv.pending c r pending
  · rw [drift.calls]
    exact inv.alone c
  · rw [drift.calls] at readying
    rw [drift.values]
    exact inv.readying c m key r readying

theorem LeaseInv.setCall (inv : LeaseInv s) {c} {call} (after : ∀ lease, call = .leased lease → lease.released = true)
    (pending : ∀ r, call.pending = some r → (s.records r).leases = []) (alone : call.rest = [])
    (readying : ∀ m key r, call.readying = some (m, key, r) → (s.values r).closerStarted = false) :
    LeaseInv (s.setCall c call) := by
  have out {d : CallId} {lease : Lease} (out : (s.setCall c call).Outstanding d lease) : s.Outstanding d lease := by
    obtain ⟨leased, unreleased⟩ := out
    by_cases same : d = c
    · subst same
      rw [setCall_self] at leased
      cases unreleased.symm.trans (after lease leased)
    · rw [setCall_of_ne _ _ same] at leased
      exact ⟨leased, unreleased⟩
  refine ⟨inv.counted, fun d lease after => inv.outstanding d lease (out after),
    fun d e one two here there => inv.distinct d e one two (out here) (out there), inv.started,
    fun d r waits => ?_, fun d => ?_, fun d m key r readies => ?_⟩
  · by_cases same : d = c
    · subst same
      rw [setCall_self] at waits
      exact pending r waits
    · rw [setCall_of_ne _ _ same] at waits
      exact inv.pending d r waits
  · by_cases same : d = c
    · subst same
      rw [setCall_self]
      exact alone
    · rw [setCall_of_ne _ _ same]
      exact inv.alone d
  · by_cases same : d = c
    · subst same
      rw [setCall_self] at readies
      exact readying m key r readies
    · rw [setCall_of_ne _ _ same] at readies
      exact inv.readying d m key r readies

theorem LeaseInv.setTable (inv : LeaseInv s) {m} {change} (kept : ∀ d lease, s.Outstanding d lease →
      (s.setManager m change).at? lease.manager lease.key = some lease.value)
    (known : ∀ n key r, (s.setManager m change).at? n key = some r → s.at? n key = some r)
    (nextToken : (s.managers m).nextToken ≤ (change (s.managers m)).nextToken) :
    LeaseInv (s.setManager m change) := by
  refine ⟨inv.counted, fun d lease out => ?_, inv.distinct,
    fun r n key begun found => inv.started r n key begun (known n key r found), inv.pending, inv.alone,
    inv.readying⟩
  obtain ⟨member, _, below⟩ := inv.outstanding d lease out
  refine ⟨member, kept d lease out, ?_⟩
  by_cases same : lease.manager = m
  · rw [same] at below ⊢
    rw [setManager_self]
    exact Nat.lt_of_lt_of_le below nextToken
  · rw [setManager_of_ne _ _ same]
    exact below

theorem LeaseInv.setManager (inv : LeaseInv s) {m} {change}
    (table : (change (s.managers m)).records = (s.managers m).records)
    (nextToken : (s.managers m).nextToken ≤ (change (s.managers m)).nextToken) :
    LeaseInv (s.setManager m change) := by
  have same := at_setManager s table
  refine inv.setTable (fun d lease out => ?_) (fun n key r found => ?_) nextToken
  · rw [same]
    exact (inv.outstanding d lease out).2.1
  · rwa [same] at found

theorem LeaseInv.unlock (inv : LeaseInv s) (owner : CallId) (file : Text) : LeaseInv (s.unlock owner file) := by
  unfold State.unlock
  split
  · exact ⟨inv.counted, inv.outstanding, inv.distinct, inv.started, inv.pending, inv.alone, inv.readying⟩
  · exact inv

theorem LeaseInv.setValue (inv : LeaseInv s) {r} {change}
    (started : (change (s.values r)).closerStarted = true → (s.values r).closerStarted = true ∨
      (∀ m key, s.at? m key = some r → (s.records r).leases = [] ∧ (s.records r).closing = true) ∧
        ∀ c m key, (s.calls c).readying ≠ some (m, key, r)) :
    LeaseInv (s.setValue r change) := by
  refine ⟨inv.counted, inv.outstanding, inv.distinct, fun q m key begun found => ?_, inv.pending, inv.alone,
    fun c m key q readying => ?_⟩
  · by_cases same : q = r
    · subst same
      rw [setValue_self] at begun
      rcases started begun with before | ⟨closing, _⟩
      · exact inv.started q m key before found
      · exact (closing m key found).imp_right .inl
    · rw [setValue_of_ne _ _ same] at begun
      exact inv.started q m key begun found
  · have before := inv.readying c m key q readying
    by_cases same : q = r
    · subst same
      rw [setValue_self]
      refine Bool.eq_false_iff.mpr fun begun => ?_
      rcases started begun with early | ⟨_, unready⟩
      · cases before.symm.trans early
      · exact unready c m key readying
    · rwa [setValue_of_ne _ _ same]

theorem LeaseInv.setRecord (inv : LeaseInv s) {r} {change}
    (counted : (change (s.records r)).references = (change (s.records r)).leases.length)
    (outstanding : ∀ d lease, s.Outstanding d lease → lease.value = r → lease.token ∈ (change (s.records r)).leases)
    (started : ∀ m key, (s.values r).closerStarted = true → s.at? m key = some r →
      (change (s.records r)).leases = [] ∧
        ((change (s.records r)).closing = true ∨ (change (s.records r)).state = .uncertain))
    (pending : ∀ c, (s.calls c).pending = some r → (change (s.records r)).leases = []) :
    LeaseInv (s.setRecord r change) := by
  refine ⟨fun q => ?_, fun d lease out => ?_, inv.distinct, fun q m key begun found => ?_,
    fun c q waits => ?_, inv.alone, inv.readying⟩
  · by_cases same : q = r
    · subst same
      rw [setRecord_self]
      exact counted
    · rw [setRecord_of_ne _ _ same]
      exact inv.counted q
  · obtain ⟨member, found, below⟩ := inv.outstanding d lease out
    refine ⟨?_, found, below⟩
    by_cases same : lease.value = r
    · rw [same, setRecord_self]
      exact outstanding d lease out same
    · rwa [setRecord_of_ne _ _ same]
  · by_cases same : q = r
    · subst same
      rw [setRecord_self]
      exact started m key begun found
    · rw [setRecord_of_ne _ _ same]
      exact inv.started q m key begun found
  · by_cases same : q = r
    · subst same
      rw [setRecord_self]
      exact pending c waits
    · rw [setRecord_of_ne _ _ same]
      exact inv.pending c q waits

theorem LeaseInv.addRecord (inv : LeaseInv s) {c} {m} {record}
    (unlisted : ∀ n key, s.at? n key ≠ some c) (absent : s.at? m record.resource.identity.key = none)
    (none_out : record.references = 0 ∧ record.leases = [])
    (started : (s.values c).closerStarted = true → record.state = .uncertain) :
    LeaseInv (s.addRecord c m record) := by
  have added : (s.addRecord c m record).records c = record := Function.update_self ..
  have kept {r : CallId} (other : r ≠ c) : (s.addRecord c m record).records r = s.records r :=
    Function.update_of_ne other ..
  refine ⟨fun r => ?_, fun d lease out => ?_, inv.distinct, fun r n key begun found => ?_,
    fun d r waits => ?_, inv.alone, inv.readying⟩
  · by_cases same : r = c
    · rw [same, added, none_out.1, none_out.2]
      rfl
    · rw [kept same]
      exact inv.counted r
  · obtain ⟨member, found, below⟩ := inv.outstanding d lease out
    have other : lease.value ≠ c := fun same => unlisted _ _ (same ▸ found)
    refine ⟨by rwa [kept other], ?_, ?_⟩
    · rw [at_addRecord, if_neg, found]
      rintro ⟨here, there⟩
      rw [here, there, absent] at found
      cases found
    · have token : ((s.addRecord c m record).managers lease.manager).nextToken =
          (s.managers lease.manager).nextToken := by
        change (({ s with records := Function.update s.records c record }.setManager m fun manager =>
          { manager with records := manager.records.set record.resource.identity.key c }).managers
            lease.manager).nextToken = _
        exact setManager_field Manager.nextToken (by rfl) _
      rw [token]
      exact below
  · by_cases same : r = c
    · subst same
      rw [added]
      exact ⟨none_out.2, .inr (started begun)⟩
    · rw [kept same]
      rw [at_addRecord] at found
      split at found
      · exact absurd (Option.some.inj found).symm same
      · exact inv.started r n key begun found
  · by_cases same : r = c
    · rw [same, added, none_out.2]
    · rw [kept same]
      exact inv.pending d r waits

theorem LeaseInv.lease (inv : LeaseInv s) {c} {m} {key} {r}
    (found : s.at? m key = some r) (unstarted : (s.values r).closerStarted = false)
    (idle : ∀ d, (s.calls d).pending ≠ some r) :
    LeaseInv (s.lease c m key r) := by
  let token := (s.managers m).nextToken
  let given : Lease := { manager := m, key, token, value := r }
  let w := s.setManager m fun manager => { manager with nextToken := token + 1, lock := none }
  let v := w.setRecord r fun record =>
    { record with references := record.references + 1, leases := record.leases ++ [token] }
  have made : s.lease c m key r = v.setCall c (.leased given) := rfl
  have table (n : ManagerId) (other : Text) : w.at? n other = s.at? n other := at_setManager s rfl n other
  have inv' : LeaseInv w := inv.setManager rfl (Nat.le_succ token)
  have inv'' : LeaseInv v := by
    refine inv'.setRecord ?_ (fun d lease out same => ?_) (fun n other begun => ?_) (fun d waits => ?_)
    · have counted := inv.counted r
      change (s.records r).references + 1 = ((s.records r).leases ++ [token]).length
      rw [length_append, counted]
      rfl
    · exact mem_append_left _ (same ▸ (inv'.outstanding d lease out).1)
    · cases unstarted.symm.trans begun
    · exact absurd waits (idle d)
  have out {d : CallId} {lease : Lease} (after : (v.setCall c (.leased given)).Outstanding d lease) :
      (d = c ∧ lease = given) ∨ s.Outstanding d lease := by
    obtain ⟨leased, unreleased⟩ := after
    by_cases same : d = c
    · subst same
      rw [setCall_self] at leased
      exact .inl ⟨rfl, (Call.leased.inj leased).symm⟩
    · rw [setCall_of_ne _ _ same] at leased
      exact .inr ⟨leased, unreleased⟩
  have below {d : CallId} {lease : Lease} (before : s.Outstanding d lease) (here : lease.manager = m) :
      lease.token < token := by
    have below := (inv.outstanding d lease before).2.2
    rwa [here] at below
  have calls {d : CallId} (other : d ≠ c) : (v.setCall c (.leased given)).calls d = s.calls d :=
    setCall_of_ne _ _ other
  rw [made]
  refine ⟨inv''.counted, fun d lease after => ?_, fun d e one two here there manager same => ?_, inv''.started,
    fun d q waits => ?_, fun d => ?_, fun d n other q readies => ?_⟩
  · rcases out after with ⟨_, rfl⟩ | before
    · have leases : (v.records r).leases = (s.records r).leases ++ [token] :=
        congrArg Record.leases (setRecord_self w r _)
      refine ⟨?_, ?_, ?_⟩
      · change token ∈ (v.records r).leases
        rw [leases]
        exact mem_append_right _ mem_cons_self
      · exact (table m key).trans found
      · change token < (w.managers m).nextToken
        rw [setManager_self]
        exact Nat.lt_succ_self token
    · exact inv''.outstanding d lease before
  · rcases out here with ⟨rfl, rfl⟩ | one_before <;> rcases out there with ⟨rfl, rfl⟩ | two_before
    · rfl
    · exact absurd same.symm (Nat.ne_of_lt (below two_before manager.symm))
    · exact absurd same (Nat.ne_of_lt (below one_before manager))
    · exact inv.distinct d e one two one_before two_before manager same
  · by_cases same : d = c
    · subst same
      rw [setCall_self] at waits
      cases waits
    · rw [calls same] at waits
      exact inv''.pending d q waits
  · by_cases same : d = c
    · subst same
      rw [setCall_self]
      rfl
    · rw [calls same]
      exact inv.alone d
  · by_cases same : d = c
    · subst same
      rw [setCall_self] at readies
      cases readies
    · rw [calls same] at readies
      exact inv.readying d n other q readies

theorem LockInv.unpending (locks : LockInv s) {c} (mover : ¬ s.Past c) (d : CallId) :
    (s.calls d).pending ≠ some c := by
  intro waits
  refine mover (locks.about d c ?_)
  generalize s.calls d = call at waits
  cases call with
  | closeOnce => exact List.mem_cons.mpr (.inl (Option.some.inj waits).symm)
  | _ => cases waits

theorem leaseInv_finishOpen (inv : LeaseInv s) {c} {m} {resource}
    (unlisted : ∀ n key, s.at? n key ≠ some c) (absent : s.at? m resource.identity.key = none)
    (unstarted : (s.values c).closerStarted = false) (idle : ∀ d, (s.calls d).pending ≠ some c)
    (prepare : Bool) (held : List Text) : LeaseInv (s.finishOpen c m resource prepare held) := by
  unfold finishOpen
  refine (inv.addRecord unlisted absent ⟨rfl, rfl⟩ fun begun => ?_).lease ?_ unstarted idle
  · cases unstarted.symm.trans begun
  · rw [at_addRecord, if_pos ⟨rfl, rfl⟩]

theorem leaseInv_release (inv : LeaseInv s) (tables : TableInv s) {c d} {lease}
    (station : s.calls d = .leased lease) (unreleased : lease.released = false) :
    LeaseInv (s.release c d lease) := by
  let w := s.setCall d (.leased { lease with released := true })
  have inv' : LeaseInv w := by
    refine inv.setCall (fun other same => ?_) nofun rfl nofun
    obtain rfl := Call.leased.inj same
    rfl
  have ends : LeaseInv (w.setCall c (.done [])) := inv'.setCall nofun nofun rfl nofun
  unfold release
  dsimp only
  split
  · exact ends
  rename_i r found
  split
  · exact ends
  rename_i member
  have member : lease.token ∈ (s.records r).leases := not_not.mp member
  -- the other leases on the record have other tokens
  have other {e : CallId} {another : Lease} (out : w.Outstanding e another) (same : another.value = r) :
      another.token ≠ lease.token := by
    obtain ⟨leased, open_⟩ := out
    have distinct : e ≠ d := by
      rintro rfl
      rw [setCall_self] at leased
      obtain rfl := Call.leased.inj leased
      cases open_
    rw [setCall_of_ne _ _ distinct] at leased
    have here := (inv.outstanding e another ⟨leased, open_⟩).2.1
    rw [same] at here
    have manager := (tables.home another.manager lease.manager another.key lease.key r here found).1
    exact fun token => distinct (inv.distinct e d another lease ⟨leased, open_⟩ ⟨station, unreleased⟩ manager token)
  have counted : (s.records r).references - 1 = ((s.records r).leases.erase lease.token).length := by
    have positive := length_pos_of_mem member
    rw [inv.counted, length_erase_of_mem member]
    omega
  have inv'' : LeaseInv (w.setRecord r fun record =>
      { record with
        references := (s.records r).references - 1
        leases := record.leases.erase lease.token }) := by
    refine inv'.setRecord counted (fun e another out same => ?_) (fun m key begun found => ?_) (fun e waits => ?_)
    · have before := (inv'.outstanding e another out).1
      rw [same] at before
      exact (mem_erase_of_ne (other out same)).mpr before
    · obtain ⟨empty, kind⟩ := inv'.started r m key begun found
      refine ⟨?_, kind⟩
      rw [empty]
      rfl
    · rw [inv'.pending e r waits]
      rfl
  split
  · exact inv''.setCall nofun nofun rfl nofun
  · rename_i last
    refine inv''.setCall nofun (fun q waits => ?_) rfl nofun
    cases waits
    rw [setRecord_self]
    have none_left : (s.records r).references - 1 = 0 := not_not.mp last
    rw [counted] at none_left
    exact List.length_eq_zero_iff.mp (Int.ofNat_eq_zero.mp none_left)

/-! ## One step -/

def JoinsHeld (s : State) : Label → Prop
  | .start _ (.acquire m resource prepare valuePrepared) =>
    ∀ r, (s.managers m).records.get? resource.identity.key = some r →
      s.Joins m resource prepare valuePrepared r → (s.records r).references ≠ 0
  | .prepares c .returned => ∀ m key r, s.calls c = .preparing m key r → (s.records r).references ≠ 0
  | _ => True

theorem LeaseInv.idle_of_held (inv : LeaseInv s) {r} (held : (s.records r).references ≠ 0)
    (d : CallId) : (s.calls d).pending ≠ some r := by
  intro waits
  refine held ?_
  rw [inv.counted, inv.pending d r waits]
  rfl

/-- **A step that gives no lease on a record nobody holds keeps the leases in order.** -/
theorem leaseInv_step (locks : LockInv s) (locked : s.Locked) (tables : TableInv s) (inv : LeaseInv s)
    (next : step cfg s l = some t) (notClose : ∀ c m, l ≠ .start c (.close m)) (joinsHeld : JoinsHeld s l) :
    LeaseInv t := by
  cases step_move next with
  | drifts drift => exact inv.drift drift
  | advances c call drift advance =>
    rename_i u
    have inv' := inv.drift drift
    rw [← drift.calls] at advance
    have alone := inv'.alone c
    generalize station : u.calls c = before at advance alone
    cases advance with
    | skips m key r rest =>
      obtain rfl : rest = [] := alone
      exact inv'.setCall (by rintro _ ⟨⟩) (by rintro _ ⟨⟩) rfl (by rintro _ _ _ ⟨⟩)
    | awaits m key r rest =>
      obtain rfl : rest = [] := alone
      exact inv'.setCall (by rintro _ ⟨⟩) (by rintro _ ⟨⟩) rfl (by rintro _ _ _ ⟨⟩)
    | lockFails | openFails | rollFails | marksRollback | unready | marksPrepare | ends | reports
    | marksUncertain => exact inv'.setCall (by simp) (by rintro _ ⟨⟩) rfl (by rintro _ _ _ ⟨⟩)
    | waits | closerFails | marksClose | closeFails | clears | cleared | clearFails | unlocked =>
      exact inv'.setCall (by simp) (by rintro _ ⟨⟩) alone (by rintro _ _ _ ⟨⟩)
  | enters c m call fresh free drift entry =>
    rename_i u
    have inv' : LeaseInv (u.setManager m fun manager => { manager with lock := some c }) :=
      (inv.drift drift).setManager rfl (Nat.le_refl _)
    cases entry with
    | readies resource r label found notClosing usable =>
      refine inv'.setCall (by simp) (by rintro _ ⟨⟩) rfl fun n key q readies => ?_
      cases readies
      change (u.values r).closerStarted = false
      rw [drift.values]
      exact inv.unstarted found notClosing usable
    | opens | locks | marks => exact inv'.setCall (by simp) (by rintro _ ⟨⟩) rfl (by rintro _ _ _ ⟨⟩)
  | fails c m failure station free drift =>
    unfold fail
    exact ((inv.drift drift).setManager rfl (Nat.le_refl _)).setCall (by simp) (by rintro _ ⟨⟩) rfl (by rintro _ _ _ ⟨⟩)
  | joins c m resource prepare valuePrepared r label fresh free found joins drift =>
    subst label
    have held := joinsHeld r found joins
    refine (inv.drift drift).lease ?_ ?_ fun d => ?_
    · rw [at?, drift.table]
      exact found
    · rw [drift.values]
      exact inv.unstarted found joins.2.1 joins.2.2.2.2.1
    · rw [drift.calls]
      exact inv.idle_of_held held d
  | locks c m resource prepare identity =>
    have taken : LeaseInv { s with flocks := Function.update s.flocks identity.physical (some c) } :=
      ⟨inv.counted, inv.outstanding, inv.distinct, inv.started, inv.pending, inv.alone, inv.readying⟩
    split
    · exact taken.setCall (by simp) (by rintro _ ⟨⟩) rfl (by rintro _ _ _ ⟨⟩)
    · exact taken.setCall (by simp) (by rintro _ ⟨⟩) rfl (by rintro _ _ _ ⟨⟩)
  | opens c m resource =>
    have opened : LeaseInv (s.setValue c fun value => { value with opened := some resource }) :=
      inv.setValue .inl
    exact opened.setCall (by simp) (by rintro _ ⟨⟩) rfl (by rintro _ _ _ ⟨⟩)
  | opened c m resource held station =>
    have mover : ¬ s.Past c := not_past station rfl
    have opened : LeaseInv (s.setValue c fun value => { value with opened := some resource }) :=
      inv.setValue .inl
    refine leaseInv_finishOpen opened (locks.unlisted mover) ?_ ?_ (locks.unpending mover) false held
    · exact tables.absent c m _ (by rw [station]; rfl)
    · rw [setValue_self]
      exact (locks.at_of station).1.2.2
  | prepared c m resource held isNone station =>
    have mover : ¬ s.Past c := not_past station rfl
    refine leaseInv_finishOpen inv (locks.unlisted mover) ?_ ?_ (locks.unpending mover) true held
    · exact tables.absent c m _ (by rw [station]; rfl)
    · exact (locks.at_of station).2.2
  | abandons => exact inv.setCall (by simp) (by rintro _ ⟨⟩) rfl (by rintro _ _ _ ⟨⟩)
  | rollsBack c m resource held error station =>
    have mover : ¬ s.Past c := not_past station rfl
    have started : LeaseInv (s.setValue c fun value => { value with closerStarted := true }) := by
      refine inv.setValue fun _ => .inr ⟨fun n key found => ?_, fun d n key readies => ?_⟩
      · exact absurd found (locks.unlisted mover n key)
      · exact locks.unlisted mover n key (tables.readying d n key c readies).1
    exact started.setCall (by simp) (by rintro _ ⟨⟩) rfl (by rintro _ _ _ ⟨⟩)
  | rolledBack c =>
    have closed : LeaseInv (s.setValue c fun value => { value with closed := true }) := inv.setValue .inl
    exact closed.setCall (by simp) (by rintro _ ⟨⟩) rfl (by rintro _ _ _ ⟨⟩)
  | keeps c m resource held pending reason error station drift =>
    rename_i u
    have mover : ¬ s.Past c := not_past station rfl
    have absent : u.at? m resource.identity.key = none := by
      rw [at?, drift.table]
      exact tables.absent c m _ (by rw [station]; rfl)
    unfold keepUncertain fail
    refine (setManager ?_ rfl (Nat.le_refl _)).setCall (by simp) (by rintro _ ⟨⟩) rfl (by rintro _ _ _ ⟨⟩)
    refine (inv.drift drift).addRecord ?_ absent ⟨rfl, rfl⟩ fun _ => rfl
    exact (locks.drift drift).unlisted (drift.not_past mover)
  | undoes c m file => exact (inv.unlock c file).setCall (by simp) (by rintro _ ⟨⟩) rfl (by rintro _ _ _ ⟨⟩)
  | readied c m key r label station =>
    subst label
    have readying : (s.calls c).readying = some (m, key, r) := by
      rw [station]
      rfl
    have found : s.at? m key = some r := (tables.readying c m key r readying).1
    have unstarted : (s.values r).closerStarted = false := inv.readying c m key r readying
    have readied : LeaseInv (s.setRecord r fun record =>
        { record with
          prepared := true
          error := none
          state := if record.resource.externalOwner then .external else .opened }) := by
      refine inv.setRecord (inv.counted r) (fun d lease out same => ?_) (fun n other begun => ?_)
        fun d => inv.pending d r
      · exact same ▸ (inv.outstanding d lease out).1
      · cases unstarted.symm.trans begun
    exact readied.lease found unstarted (inv.idle_of_held (joinsHeld m key r station))
  | closesManager c m label => exact absurd label (notClose c m)
  | releases c d lease fresh station unreleased =>
    exact leaseInv_release inv tables station unreleased
  | closes c m key r rest errors station free found =>
    have empty : (s.records r).leases = [] := inv.pending c r (by rw [station]; rfl)
    have flagged : LeaseInv (s.setRecord r fun record => { record with closing := true, closeError := none }) := by
      refine inv.setRecord (inv.counted r) (fun d lease out same => ?_) (fun _ _ _ _ => ⟨empty, .inl rfl⟩)
        fun _ _ => empty
      exact same ▸ (inv.outstanding d lease out).1
    let w := s.setRecord r fun record => { record with closing := true, closeError := none }
    have started : LeaseInv (w.setValue r fun value => { value with closerStarted := true }) := by
      refine flagged.setValue fun _ => .inr ⟨fun n other there => ?_, fun d n other readies => ?_⟩
      · rw [setRecord_self]
        exact ⟨empty, rfl⟩
      · -- the acquire that prepares a record keeps the lock of its manager
        have there := (tables.readying d n other r readies).1
        obtain ⟨rfl, _⟩ := tables.home n m other key r there found
        cases free.symm.trans (locked.holds (readying_inside readies))
    have alone := inv.alone c
    rw [station] at alone
    exact started.setCall (by simp) (by rintro _ ⟨⟩) alone (by rintro _ _ _ ⟨⟩)
  | closed c m key r rest errors call station goes drift =>
    have closed : LeaseInv (s.setValue r fun value => { value with closed := true }) := inv.setValue .inl
    have alone := inv.alone c
    rw [station] at alone
    rcases goes with rfl | rfl <;> exact (closed.drift drift).setCall (by simp) (by rintro _ ⟨⟩) alone (by rintro _ _ _ ⟨⟩)
  | unlocks c m key r file pending rest errors station =>
    have alone := inv.alone c
    rw [station] at alone
    exact (inv.unlock r file).setCall (by simp) (by rintro _ ⟨⟩) alone (by rintro _ _ _ ⟨⟩)
  | finishes c m key r error rest errors station free =>
    have alone := inv.alone c
    rw [station] at alone
    obtain rfl : rest = [] := alone
    obtain ⟨found, flagged, begun⟩ := tables.busy c m key r (by rw [station]; rfl)
    have empty : (s.records r).leases = [] := (inv.started r m key begun found).1
    -- no lease is out under the key of the record
    have elsewhere {d : CallId} {lease : Lease} (out : s.Outstanding d lease) : lease.value ≠ r := fun same => by
      have member := (inv.outstanding d lease out).1
      rw [same, empty] at member
      cases member
    cases error with
    | none =>
      let w := s.setManager m fun manager => { manager with records := manager.records.erase key }
      have erased : LeaseInv w := by
        refine inv.setTable (fun d lease out => ?_) (fun n other q there => ?_) (Nat.le_refl _)
        · have there := (inv.outstanding d lease out).2.1
          rw [at_erased, if_neg, there]
          rintro ⟨manager, same⟩
          rw [manager, same, found] at there
          exact elsewhere out (Option.some.inj there).symm
        · rw [at_erased] at there
          split at there
          · cases there
          · exact there
      have closed : LeaseInv (w.setRecord r fun record =>
          { record with closing := false, closeError := none }) := by
        refine erased.setRecord (inv.counted r) (fun d lease out same => absurd same (elsewhere out))
          (fun n other _ there => ?_) fun _ _ => empty
        rw [at_erased] at there
        split at there
        · cases there
        · rename_i away
          exact absurd (tables.home n m other key r there found) away
      exact closed.setCall (by rintro _ ⟨⟩) (by rintro _ ⟨⟩) rfl (by rintro _ _ _ ⟨⟩)
    | some failure =>
      let w := s.setRecord r fun record =>
        { record with
          closing := false
          references := 0
          leases := []
          state := .uncertain
          closeError := some failure }
      have uncertain : LeaseInv w :=
        inv.setRecord rfl (fun d lease out same => absurd same (elsewhere out))
          (fun _ _ _ _ => ⟨rfl, .inr rfl⟩) fun _ _ => rfl
      have listed (n : ManagerId) (other : Text) : (w.setManager m fun manager =>
          { manager with records := manager.records.set key r }).at? n other = w.at? n other := by
        rw [at_listed]
        split
        · rename_i here
          rw [here.1, here.2]
          exact found.symm
        · rfl
      have kept : LeaseInv (w.setManager m fun manager =>
          { manager with records := manager.records.set key r }) := by
        refine uncertain.setTable (fun d lease out => ?_) (fun n other q there => ?_) (Nat.le_refl _)
        · rw [listed]
          exact (inv.outstanding d lease out).2.1
        · rwa [listed] at there
      exact kept.setCall (by rintro _ ⟨⟩) (by rintro _ ⟨⟩) rfl (by rintro _ _ _ ⟨⟩)
  | marked c m record pending reason station drift =>
    exact ((inv.drift drift).setManager rfl (Nat.le_refl _)).setCall (by simp) (by rintro _ ⟨⟩) rfl (by rintro _ _ _ ⟨⟩)

/-! ## Every run -/

/-- **A lease outlives no closer**, as long as acquires join only records that somebody holds. -/
theorem lease_outlives_no_closer {files : FileId → Except Text (Data.Dict Text Text)}
    (ran : run (step cfg) (init files) ls = some t)
    (notClose : ∀ l ∈ ls, ∀ c m, l ≠ .start c (.close m))
    (joinsHeld : Along (step cfg) JoinsHeld (init files) ls) {d : CallId} {lease : Lease}
    (out : t.Outstanding d lease) : (t.values lease.value).closerStarted = false := by
  have keep (s : State) (l : Label) (t : State) (allowed : (∀ c m, l ≠ .start c (.close m)) ∧ JoinsHeld s l)
      (inv : LockInv s ∧ s.Locked ∧ TableInv s ∧ LeaseInv s) (next : step cfg s l = some t) :
      LockInv t ∧ t.Locked ∧ TableInv t ∧ LeaseInv t := by
    obtain ⟨locks, locked, tables, leases⟩ := inv
    exact ⟨lockInv_step locks next, locked_step locked next, tableInv_step locks locked tables next,
      leaseInv_step locks locked tables leases next allowed.1 allowed.2⟩
  have start : LockInv (init files) ∧ (init files).Locked ∧ TableInv (init files) ∧ LeaseInv (init files) :=
    ⟨lockInv_init files, locked_init files, tableInv_init files, leaseInv_init files⟩
  obtain ⟨_, _, _, leases⟩ := run_induction keep (along_and (along_of_mem notClose) joinsHeld) start ran
  exact leases.unclosed out

/-- Two leases on a camera, and the first is released. -/
theorem lease_outlives_no_closer_shared :
    ∃ t, run (step ⟨fun _ => ['n'], fun _ => 0⟩) (init fun _ => .ok Data.Dict.empty)
        [.start 0 (.acquire 0 camera false false), .lock 0 true, .opens 0 (.returned false),
          .start 1 (.acquire 0 camera false false), .start 2 (.release 0)] = some t ∧
      t.Outstanding 1 ⟨0, camera.identity.key, 2, 0, false⟩ ∧ (t.values 0).closerStarted = false := by
  obtain ⟨t, ran, out⟩ : ∃ t, run (step ⟨fun _ => ['n'], fun _ => 0⟩) (init fun _ => .ok Data.Dict.empty)
      [.start 0 (.acquire 0 camera false false), .lock 0 true, .opens 0 (.returned false),
        .start 1 (.acquire 0 camera false false), .start 2 (.release 0)] = some t ∧
      t.Outstanding 1 ⟨0, camera.identity.key, 2, 0, false⟩ := ⟨_, rfl, rfl, rfl⟩
  refine ⟨t, ran, out, lease_outlives_no_closer ran (fun l member c m => ?_) ?_ out⟩
  · simp only [mem_cons, not_mem_nil, or_false] at member
    rcases member with rfl | rfl | rfl | rfl | rfl <;> nofun
  · refine ⟨fun r found => (nomatch found), fun _ first => ⟨trivial, fun _ second => ⟨trivial, fun _ third =>
      ⟨fun r found joins none_left => ?_, fun _ _ => ⟨trivial, fun _ _ => trivial⟩⟩⟩⟩⟩
    cases first
    cases second
    cases third
    cases found
    cases none_left

/-- The last release of a camera has counted down but not begun to close it, and an acquire joins. -/
theorem lease_on_closed_value : ∃ t, run (step ⟨fun _ => ['n'], fun _ => 0⟩) (init fun _ => .ok Data.Dict.empty)
        [.start 0 (.acquire 0 camera false false), .lock 0 true, .opens 0 (.returned false),
          .start 1 (.release 0), .start 2 (.acquire 0 camera false false), .proceed 1] = some t ∧
      t.Outstanding 2 ⟨0, camera.identity.key, 2, 0, false⟩ ∧ (t.values 0).closerStarted = true ∧
      t.calls 1 = .closing 0 camera.identity.key 0 [] [] :=
  ⟨_, rfl, ⟨rfl, rfl⟩, rfl, rfl⟩

end EmbodiRun.Devices.Lifecycle
