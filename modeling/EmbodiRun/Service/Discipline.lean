/-
# Service.Discipline -- what a call in the service may rely on

A call inside `_robot_lock` is the only one that opens, publishes or prepares the robot, and
one inside `_manual_operation_lock` the only one that changes the manual owner.  `Relies` is
what a call at each station counts on, and `Respects` what a section of another call leaves
alone; so what a call relies on stays (`relies_kept`), and `discipline_step` keeps it for
all calls at once.  With it: who uses the arbiter has been handed it, and the manual owner
has the arbiter or is the call that is about to get it.
-/
import EmbodiRun.Service.Sections

namespace EmbodiRun.Service

open Option Function State

variable {α : Type} {cfg : Config} {s t : State α} {l : Label α}

/-! ## What calls rely on -/

/-- `acquire_manual` is inside its lock, and its reservation stands. -/
def Client.Relies (c : CallId) (s : State α) : Client → Prop
  | .acquireManual owner reserved =>
    s.manualLock = some c ∧ (reserved = true → s.manualOwner = some owner)
  | .execute _ | .getControlArbiter => True

def Errand.Relies (c : CallId) (s : State α) : Errand α → Prop
  | .stop | .reset => True
  | .interrupt client => s.robotLock = some c ∧ client.Relies c s
  | .beginTask _ => s.attached = true
  | .acquireManual _ _ | .releaseManual _ | .setDeadman _ | .submitManual _ =>
    s.manualLock = some c ∧ s.attached = true

def Call.Relies (c : CallId) (s : State α) : Call α → Prop
  | .calling (.interrupt client) =>
    s.robotLock = some c ∧ client.Relies c s ∧ s.attached = false ∧ s.arbiter.isSome = true
  | .calling errand | .inArbiter errand _ => errand.Relies c s
  | .entering client => client.Relies c s
  | .opening client => s.robotLock = some c ∧ client.Relies c s ∧ s.arbiter.isSome = false
  | .preparing client => s.robotLock = some c ∧ client.Relies c s ∧ s.arbiter.isSome = true
  | .connecting => s.robotLock = some c ∧ s.arbiter.isSome = false
  | .ensured _ _ | .cancelling _ _ _ => s.manualLock = some c ∧ s.attached = true
  | _ => True

open Call

/-- A section of `c` leaves alone what it has no lock for. -/
structure Respects (c : CallId) (s t : State α) : Prop where
  robotLock : t.robotLock = s.robotLock ∨ s.robotLock = none ∨ s.robotLock = some c
  manualLock : t.manualLock = s.manualLock ∨ s.manualLock = none ∨ s.manualLock = some c
  manualOwner : t.manualOwner = s.manualOwner ∨ s.manualLock = none ∨ s.manualLock = some c
  arbiter : t.arbiter.isSome = s.arbiter.isSome ∨ (t.arbiter.isSome = true ∧ s.robotLock = some c)
  attached : t.attached = s.attached ∨ (t.attached = true ∧ (s.robotLock = none ∨ s.robotLock = some c))

theorem client_relies_kept {c d : CallId} {client : Client} (respects : Respects c s t)
    (other : d ≠ c) (relies : client.Relies d s) : client.Relies d t := by
  cases client with
  | acquireManual =>
    obtain ⟨lock, reservation⟩ := relies
    have manualLock := respects.manualLock
    have manualOwner := respects.manualOwner
    simp only [Client.Relies]
    grind
  | execute | getControlArbiter => trivial

theorem relies_kept {c d : CallId} {call : Call α} (respects : Respects c s t) (other : d ≠ c)
    (relies : call.Relies d s) : call.Relies d t := by
  have client : ∀ client : Client, client.Relies d s → client.Relies d t := fun _ =>
    client_relies_kept respects other
  obtain ⟨robotLock, manualLock, manualOwner, arbiter, attached⟩ := respects
  cases call with
  | calling errand | inArbiter errand =>
    cases errand <;> simp only [Call.Relies, Errand.Relies] at relies ⊢ <;> grind
  | entering | opening | preparing | connecting | ensured | cancelling =>
    simp only [Call.Relies] at relies ⊢
    grind
  | _ => trivial

/-! ## The discipline -/

def Client.reserves : Client → Bool
  | .acquireManual _ reserved => reserved
  | .execute _ | .getControlArbiter => false

/-- The call is inside `_ensure_robot_arbiter`. -/
def Call.client? : Call α → Option Client
  | .entering client | .opening client | .preparing client | .calling (.interrupt client)
  | .inArbiter (.interrupt client) _ => some client
  | _ => none

def Call.reserves (call : Call α) : Bool := call.client?.any Client.reserves

structure Discipline (s : State α) : Prop where
  relies : ∀ c, (s.calls c).Relies c s
  connected : s.attached = true → s.arbiter.isSome = true
  owned : s.manualOwner.isSome = true → s.attached = true ∨ ∃ c, (s.calls c).reserves = true

theorem discipline_init : Discipline (init : State α) := ⟨fun _ => trivial, nofun, nofun⟩

theorem Call.Relies.client {c : CallId} {call : Call α} (relies : call.Relies c s)
    {client : Client} (inside : call.client? = some client) : client.Relies c s := by
  unfold client? at inside
  split at inside <;> simp_all [Call.Relies, Errand.Relies]

theorem Call.Relies.manualLock {c : CallId} {call : Call α} (relies : call.Relies c s)
    (reserves : call.reserves = true) : s.manualLock = some c := by
  simp only [Call.reserves, any_eq_true] at reserves
  obtain ⟨client, inside, holds⟩ := reserves
  have lock := relies.client inside
  cases client with
  | acquireManual => exact lock.1
  | execute | getControlArbiter => cases holds

theorem Discipline.moves (inv : Discipline s) (c : CallId) (call : Call α)
    (calls : t.calls = Function.update s.calls c call) (respects : Respects c s t)
    (relies : call.Relies c t) (connected : t.attached = true → t.arbiter.isSome = true)
    (owned : t.manualOwner.isSome = true → t.attached = true ∨ call.reserves = true ∨
      (s.manualOwner.isSome = true ∧ (s.calls c).reserves = false)) : Discipline t := by
  refine ⟨fun d => ?_, connected, fun owner => ?_⟩
  · rw [calls]
    by_cases same : d = c
    · rw [same, update_self]
      exact relies
    · rw [update_of_ne same]
      exact relies_kept respects same (inv.relies d)
  · rcases owned owner with attached | reserves | ⟨before, idle⟩
    · exact .inl attached
    · exact .inr ⟨c, by rw [calls, update_self, reserves]⟩
    · rcases inv.owned before with attached | ⟨d, reserves⟩
      · refine .inl ?_
        rcases respects.attached with same | ⟨attached', _⟩
        · rw [same, attached]
        · exact attached'
      · refine .inr ⟨d, ?_⟩
        have other : d ≠ c := by
          rintro rfl
          rw [idle] at reserves
          cases reserves
        rw [calls, update_of_ne other, reserves]

/-! ## Every section -/

/-- Where the lock fields and the arbiter stay, a call can move to a station that asks for nothing
more, and give up no reservation. -/
theorem Discipline.step_to (inv : Discipline s) (c : CallId) (call : Call α)
    (relies : call.Relies c (s.setCall c call))
    (idle : (s.calls c).reserves = true → call.reserves = true) :
    Discipline (s.setCall c call) := by
  refine inv.moves c call rfl ⟨.inl rfl, .inl rfl, .inl rfl, .inl rfl, .inl rfl⟩ relies inv.connected fun owner => ?_
  by_cases reserves : (s.calls c).reserves = true
  · exact .inr (.inl (idle reserves))
  · exact .inr (.inr ⟨owner, Bool.eq_false_iff.mpr reserves⟩)

theorem Discipline.attached_of_free (inv : Discipline s) (free : s.manualLock = none)
    (owner : s.manualOwner.isSome = true) : s.attached = true := by
  rcases inv.owned owner with attached | ⟨d, reserves⟩
  · exact attached
  · cases free.symm.trans ((inv.relies d).manualLock reserves)

section

variable {c : CallId} {client : Client} {u : State α}

theorem reserves_of_client {call : Call α} (inside : call.client? = some client) :
    call.reserves = client.reserves := by
  simp [reserves, inside]

theorem discipline_refuse (failure : Failure) (inv : Discipline s) (calls : u.calls = s.calls)
    (respects : Respects c s u) (owner : u.manualOwner = s.manualOwner)
    (connected : u.attached = true → u.arbiter.isSome = true)
    (inside : (s.calls c).client? = some client) (relies : client.Relies c s) :
    Discipline (u.refuse c client failure) := by
  have reserves := reserves_of_client inside
  cases client with
  | execute | getControlArbiter =>
    refine inv.moves c (.failed failure) (by simp only [refuse, setCall, calls])
      ⟨respects.robotLock, respects.manualLock, respects.manualOwner, respects.arbiter,
        respects.attached⟩ trivial connected fun owner' => ?_
    exact .inr (.inr ⟨owner ▸ owner', reserves⟩)
  | acquireManual name reserved =>
    obtain ⟨lock, reservation⟩ := relies
    have gone : ((u.rollback name reserved).manualOwner.isSome = true) →
        reserved = false ∧ u.manualOwner.isSome = true := by
      intro kept
      cases reserved with
      | false => exact ⟨rfl, kept⟩
      | true =>
        have owned : u.manualOwner = some name := owner.trans (reservation rfl)
        simp [rollback, owned] at kept
    have frame : (u.rollback name reserved).calls = u.calls ∧ (u.rollback name reserved).robotLock = u.robotLock ∧
        (u.rollback name reserved).arbiter = u.arbiter ∧
        (u.rollback name reserved).attached = u.attached := by
      unfold rollback
      split <;> exact ⟨rfl, rfl, rfl, rfl⟩
    obtain ⟨sameCalls, sameRobot, sameArbiter, sameAttached⟩ := frame
    refine inv.moves c (.failed failure) (by simp only [refuse, setCall, sameCalls, calls]) ?_
      trivial ?_ fun owner' => ?_
    · exact ⟨sameRobot ▸ respects.robotLock, .inr (.inr lock), .inr (.inr lock),
        sameArbiter ▸ respects.arbiter, sameAttached ▸ respects.attached⟩
    · simp only [refuse, setCall, sameAttached, sameArbiter]
      exact connected
    · obtain ⟨unreserved, before⟩ := gone owner'
      exact .inr (.inr ⟨owner ▸ before, reserves.trans unreserved⟩)

theorem discipline_attach (inv : Discipline s) (calls : u.calls = s.calls)
    (respects : Respects c s u) (lock : s.robotLock = none ∨ s.robotLock = some c)
    (isSome : u.arbiter.isSome = true) (relies : client.Relies c u) :
    Discipline (u.attach c client) := by
  have respects' : Respects c s { u with attached := true } :=
    ⟨respects.robotLock, respects.manualLock, respects.manualOwner, respects.arbiter, .inr ⟨rfl, lock⟩⟩
  cases client with
  | execute cancelEvent =>
    refine inv.moves c (.calling (.beginTask cancelEvent)) (by simp only [State.attach, State.setCall, calls]) ?_ rfl
      (fun _ => isSome) fun _ => .inl rfl
    exact ⟨respects'.1, respects'.2, respects'.3, respects'.4, respects'.5⟩
  | getControlArbiter =>
    refine inv.moves c (.returned) (by simp only [State.attach, State.setCall, calls]) ?_ trivial
      (fun _ => isSome) fun _ => .inl rfl
    exact ⟨respects'.1, respects'.2, respects'.3, respects'.4, respects'.5⟩
  | acquireManual owner reserved =>
    refine inv.moves c (.ensured owner reserved) (by simp only [State.attach, State.setCall, calls]) ?_ ⟨relies.1, rfl⟩
      (fun _ => isSome) fun _ => .inl rfl
    exact ⟨respects'.1, respects'.2, respects'.3, respects'.4, respects'.5⟩

end

@[simp] theorem setEvent_calls (token : Option Arbiter.Token) (s : State α) :
    (s.setEvent token).calls = s.calls := rfl

@[simp] theorem setEvent_isSome (token : Option Arbiter.Token) (s : State α) :
    (s.setEvent token).arbiter.isSome = s.arbiter.isSome := by
  simp [setEvent]

theorem respects_self (c : CallId) (s : State α) : Respects c s s :=
  ⟨.inl rfl, .inl rfl, .inl rfl, .inl rfl, .inl rfl⟩

theorem Discipline.same (inv : Discipline s) (calls : t.calls = s.calls)
    (robotLock : t.robotLock = s.robotLock) (manualLock : t.manualLock = s.manualLock)
    (manualOwner : t.manualOwner = s.manualOwner) (attached : t.attached = s.attached)
    (arbiter : t.arbiter.isSome = s.arbiter.isSome) : Discipline t := by
  refine ⟨fun c => ?_, ?_, ?_⟩
  · have respects : Respects (c + 1) s t :=
      ⟨.inl robotLock, .inl manualLock, .inl manualOwner, .inl arbiter, .inl attached⟩
    rw [calls]
    exact relies_kept respects (Nat.ne_of_lt (Nat.lt_succ_self c)) (inv.relies c)
  · rw [attached, arbiter]
    exact inv.connected
  · rw [manualOwner, attached, calls]
    exact inv.owned

theorem discipline_start {c : CallId} (inv : Discipline s) (fresh : s.calls c = .unused)
    (op : Operation α) : Discipline (s.start c op) := by
  have idle : ∀ call : Call α, (s.calls c).reserves = true → call.reserves = true := by
    intro call reserves
    rw [fresh] at reserves
    cases reserves
  have event : Discipline (s.setEvent s.taskCancel) :=
    inv.same rfl rfl rfl rfl rfl (setEvent_isSome _ s)
  cases op with
  | emergencyStop =>
    simp only [start, emergencyStop]
    split
    · have flagged : Discipline ({ s with estopLatched := true }.setEvent s.taskCancel) :=
        inv.same rfl rfl rfl rfl rfl (setEvent_isSome _ s)
      exact flagged.step_to c _ trivial (idle _)
    · exact event.step_to c _ trivial (idle _)
  | resetEmergencyStop =>
    simp only [start, resetEmergencyStop]
    split <;> exact inv.step_to c _ trivial (idle _)
  | execute =>
    simp only [start, execute]
    split <;> exact inv.step_to c _ trivial (idle _)
  | observe =>
    simp only [start]
    split <;> exact inv.step_to c _ trivial (idle _)
  | getControlArbiter | _ => exact inv.step_to c _ trivial (idle _)

theorem owned_client {c : CallId} {client : Client} {call : Call α}
    (inside : (s.calls c).client? = some client) (same : call.client? = some client)
    (owner : s.manualOwner.isSome = true) : s.attached = true ∨ call.reserves = true ∨
      (s.manualOwner.isSome = true ∧ (s.calls c).reserves = false) := by
  cases holds : client.reserves with
  | true => exact .inr (.inl ((reserves_of_client same).trans holds))
  | false => exact .inr (.inr ⟨owner, (reserves_of_client inside).trans holds⟩)

theorem owned_idle {c : CallId} {call : Call α} (idle : (s.calls c).reserves = false)
    (owner : s.manualOwner.isSome = true) : s.attached = true ∨ call.reserves = true ∨
      (s.manualOwner.isSome = true ∧ (s.calls c).reserves = false) :=
  .inr (.inr ⟨owner, idle⟩)

theorem discipline_enter {c : CallId} {client : Client} (inv : Discipline s)
    (station : s.calls c = .entering client) (free : s.robotLock = none) (adapterPrepared : Bool) :
    Discipline (s.enter c client adapterPrepared) := by
  have inside : (s.calls c).client? = some client := by rw [station]; rfl
  have relies : client.Relies c s := (inv.relies c).client inside
  have locked : Respects c s { s with robotLock := some c } :=
    ⟨.inr (.inl free), .inl rfl, .inl rfl, .inl rfl, .inl rfl⟩
  unfold enter
  split <;> rename_i arbiter
  · split
    · refine inv.moves c (.preparing client) rfl ?_ ⟨rfl, ?_, ?_⟩ inv.connected (owned_client inside rfl)
      · exact ⟨locked.1, locked.2, locked.3, locked.4, locked.5⟩
      · cases client <;> exact relies
      · simp [setCall, arbiter]
    · exact discipline_attach inv rfl (respects_self c s) (.inl free) (by rw [arbiter]; rfl) relies
  · split
    · exact discipline_refuse _ inv rfl (respects_self c s) rfl inv.connected inside relies
    · refine inv.moves c (.opening client) rfl ?_ ⟨rfl, ?_, ?_⟩ inv.connected (owned_client inside rfl)
      · exact ⟨locked.1, locked.2, locked.3, locked.4, locked.5⟩
      · cases client <;> exact relies
      · simp [setCall, arbiter]

theorem discipline_publish {c : CallId} {client : Client} (inv : Discipline s)
    (station : s.calls c = .opening client) : Discipline (s.publish cfg c client) := by
  have inside : (s.calls c).client? = some client := by rw [station]; rfl
  have opening := inv.relies c
  rw [station] at opening
  obtain ⟨lock, relies, none_⟩ := opening
  have detached : s.attached = false := by
    refine Bool.eq_false_iff.mpr fun attached => ?_
    cases none_.symm.trans (inv.connected attached)
  unfold publish
  dsimp only
  split
  · refine inv.moves c (.calling (.interrupt client)) rfl ⟨.inl rfl, .inl rfl, .inl rfl, .inr ⟨rfl, lock⟩, .inl rfl⟩
      ⟨lock, ?_, detached, rfl⟩ (fun _ => rfl) (owned_client inside rfl)
    cases client <;> exact relies
  · split
    · refine inv.moves c (.preparing client) rfl ⟨.inl rfl, .inl rfl, .inl rfl, .inr ⟨rfl, lock⟩, .inl rfl⟩
        ⟨lock, ?_, rfl⟩ (fun _ => rfl) (owned_client inside rfl)
      cases client <;> exact relies
    · refine discipline_attach inv rfl
        ⟨.inr (.inr lock), .inl rfl, .inl rfl, .inr ⟨rfl, lock⟩, .inl rfl⟩ (.inr lock) rfl ?_
      cases client <;> exact relies

theorem discipline_prepare {c : CallId} {client : Client} (inv : Discipline s)
    (station : s.calls c = .preparing client) : Discipline (s.prepare c client) := by
  have preparing := inv.relies c
  rw [station] at preparing
  obtain ⟨lock, relies, isSome⟩ := preparing
  refine discipline_attach inv rfl ⟨.inr (.inr lock), .inl rfl, .inl rfl, .inl rfl, .inl rfl⟩ (.inr lock) isSome ?_
  cases client <;> exact relies

theorem discipline_connect {c : CallId} (inv : Discipline s) (station : s.calls c = .observing)
    (free : s.robotLock = none) : Discipline (s.connect c) := by
  have idle : (s.calls c).reserves = false := by rw [station]; rfl
  unfold connect
  split
  · exact inv.step_to c _ trivial fun reserves => nomatch idle.symm.trans reserves
  · rename_i none_
    exact inv.moves c .connecting rfl ⟨.inr (.inl free), .inl rfl, .inl rfl, .inl rfl, .inl rfl⟩
      ⟨rfl, Bool.eq_false_iff.mpr none_⟩ inv.connected (owned_idle idle)

theorem discipline_publishPassive {c : CallId} (inv : Discipline s)
    (station : s.calls c = .connecting) : Discipline (s.publishPassive c) := by
  have idle : (s.calls c).reserves = false := by rw [station]; rfl
  have connecting := inv.relies c
  rw [station] at connecting
  exact inv.moves c .returned rfl
    ⟨.inr (.inr connecting.1), .inl rfl, .inl rfl, .inr ⟨rfl, connecting.1⟩, .inl rfl⟩ trivial
    (fun _ => rfl) (owned_idle idle)

theorem discipline_requireOwner {c : CallId} {owner : Owner} {errand : Errand α}
    (inv : Discipline s) (idle : (s.calls c).reserves = false) (free : s.manualLock = none)
    (relies : ∀ u : State α, u.manualLock = some c → u.attached = true →
      (calling errand).Relies c u) : Discipline (s.requireOwner c owner errand) := by
  have keep : ∀ call : Call α, (s.calls c).reserves = true → call.reserves = true :=
    fun _ reserves => nomatch idle.symm.trans reserves
  unfold requireOwner
  split
  · exact inv.step_to c _ trivial (keep _)
  split
  · exact inv.step_to c _ trivial (keep _)
  split
  · exact inv.step_to c _ trivial (keep _)
  · rename_i owner _ _
    have owned : s.manualOwner.isSome = true := by
      simpa [isSome_iff_ne_none, isNone_iff_eq_none] using owner
    have attached := inv.attached_of_free free owned
    exact inv.moves c (.calling errand) rfl ⟨.inl rfl, .inr (.inl free), .inl rfl, .inl rfl, .inl rfl⟩
      (relies _ rfl attached) inv.connected (owned_idle idle)

theorem discipline_manual {c} {op} (inv : Discipline s)
    (station : s.calls c = .waiting op) (free : s.manualLock = none)
    (next : s.manual c op = some t) : Discipline t := by
  have idle : (s.calls c).reserves = false := by rw [station]; rfl
  cases op with
  | acquireManual owner =>
    cases next
    split
    · exact inv.step_to c _ trivial fun reserves => nomatch idle.symm.trans reserves
    · refine inv.moves c (.entering (.acquireManual owner s.manualOwner.isNone)) rfl
        ⟨.inl rfl, .inr (.inl free), .inr (.inl free), .inl rfl, .inl rfl⟩
        ⟨rfl, fun _ => rfl⟩ inv.connected fun _ => ?_
      by_cases before : s.manualOwner.isSome = true
      · exact .inl (inv.attached_of_free free before)
      · exact .inr (.inl (by simpa [reserves, client?, Client.reserves] using before))
  | releaseManual | setManualDeadman | submitManualAction =>
    cases next
    exact discipline_requireOwner inv idle free fun u lock attached => ⟨lock, attached⟩
  | _ => cases next

theorem discipline_unlock {c} {call} {owner} (inv : Discipline s)
    (lock : s.manualLock = some c) (attached : s.attached = true) (relies : ∀ u, call.Relies c u) :
    Discipline ({ s with manualOwner := owner, manualLock := none }.setCall c call) :=
  inv.moves c call rfl ⟨.inl rfl, .inr (.inr lock), .inr (.inr lock), .inl rfl, .inl rfl⟩
    (relies _) inv.connected fun _ => .inl attached

theorem rollback_eq (owner : Owner) (reserved : Bool) (s : State α) :
    s.rollback owner reserved = { s with manualOwner := (s.rollback owner reserved).manualOwner } := by
  unfold rollback
  split <;> rfl

theorem resume_ends {c} {errand} {ac} (next : s.resume c errand ac = some t) :
    (∃ value, t = s.succeed c value errand) ∨ ∃ failure, t = s.fail c failure errand := by
  simp only [resume, bind_eq_some_iff] at next
  obtain ⟨a, _, ends⟩ := next
  split at ends <;> first
    | cases ends; done
    | (obtain rfl := Option.some.inj ends; first | exact .inl ⟨_, rfl⟩ | exact .inr ⟨_, rfl⟩)

theorem discipline_resume {c} {errand} {ac} (inv : Discipline s) (station : s.calls c = .inArbiter errand ac)
    (next : s.resume c errand ac = some t) : Discipline t := by
  have relies := inv.relies c
  rw [station] at relies
  have ends := resume_ends next
  cases errand with
  | stop | reset =>
    have idle : ∀ call : Call α, (s.calls c).reserves = true → call.reserves = true :=
      fun _ reserves => by rw [station] at reserves; cases reserves
    rcases ends with ⟨_, rfl⟩ | ⟨_, rfl⟩ <;> exact inv.step_to c _ trivial (idle _)
  | beginTask =>
    have idle : ∀ call : Call α, (s.calls c).reserves = true → call.reserves = true :=
      fun _ reserves => by rw [station] at reserves; cases reserves
    have dropped (token : Option Arbiter.Token) : Discipline { s with taskCancel := token } :=
      inv.same rfl rfl rfl rfl rfl rfl
    rcases ends with ⟨_, rfl⟩ | ⟨failure, rfl⟩
    · exact inv.step_to c _ trivial (idle _)
    · exact (dropped _).step_to c (.leaving (some failure)) trivial (idle _)
  | interrupt client =>
    obtain ⟨lock, relies⟩ := relies
    have inside : (s.calls c).client? = some client := by rw [station]; rfl
    have unlocked : Respects c s { s with robotLock := none } :=
      ⟨.inr (.inr lock), .inl rfl, .inl rfl, .inl rfl, .inl rfl⟩
    rcases ends with ⟨_, rfl⟩ | ⟨_, rfl⟩ <;>
      exact discipline_refuse _ inv rfl unlocked rfl inv.connected inside relies
  | acquireManual =>
    obtain ⟨lock, attached⟩ := relies
    rcases ends with ⟨_, rfl⟩ | ⟨_, rfl⟩
    · exact discipline_unlock inv lock attached fun _ => trivial
    · simp only [fail]
      rw [rollback_eq]
      exact discipline_unlock (s := s) inv lock attached fun _ => trivial
  | releaseManual =>
    obtain ⟨lock, attached⟩ := relies
    rcases ends with ⟨_, rfl⟩ | ⟨_, rfl⟩
    · simp only [succeed]
      rw [rollback_eq]
      exact discipline_unlock (s := s) inv lock attached fun _ => trivial
    · exact discipline_unlock inv lock attached fun _ => trivial
  | setDeadman | submitManual =>
    obtain ⟨lock, attached⟩ := relies
    rcases ends with ⟨_, rfl⟩ | ⟨_, rfl⟩ <;> exact discipline_unlock inv lock attached fun _ => trivial

theorem discipline_proceed {c} (inv : Discipline s) (next : s.proceed cfg c = some t) : Discipline t := by
  have idle (call : Call α) (none_ : (s.calls c).client? = none) :
      (s.calls c).reserves = true → call.reserves = true := by
    intro reserves
    simp [Call.reserves, none_] at reserves
  unfold State.proceed at next
  split at next <;> rename_i station
  · exact discipline_resume inv station next
  · cases next
    have cleared : Discipline { s with estopLatched := false } := inv.same rfl rfl rfl rfl rfl rfl
    exact cleared.step_to c _ trivial (idle _ (by rw [station]; rfl))
  · cases next
    exact inv.step_to c _ trivial (idle _ (by rw [station]; rfl))
  · cases next
    exact inv.step_to c _ trivial (idle _ (by rw [station]; rfl))
  · cases next
    exact discipline_publish inv station
  · cases next
    exact discipline_prepare inv station
  · cases next
    unfold beginTask
    split
    · exact inv.step_to c _ trivial (idle _ (by rw [station]; rfl))
    · have locked : Discipline { s with taskLock := true } := inv.same rfl rfl rfl rfl rfl rfl
      exact locked.step_to c _ trivial (idle _ (by rw [station]; rfl))
  · cases next
    rename_i token
    have stored : Discipline { s with taskCancel := token } := inv.same rfl rfl rfl rfl rfl rfl
    exact stored.step_to c _ trivial (idle _ (by rw [station]; rfl))
  · cases next
    have dropped (token : Option Arbiter.Token) : Discipline { s with taskCancel := token } :=
      inv.same rfl rfl rfl rfl rfl rfl
    exact (dropped _).step_to c _ trivial (idle _ (by rw [station]; rfl))
  · cases next
    rename_i failure
    have unlocked : Discipline { s with taskLock := false } := inv.same rfl rfl rfl rfl rfl rfl
    cases failure <;> exact unlocked.step_to c _ trivial (idle _ (by rw [station]; rfl))
  · split at next
    · rename_i free
      exact discipline_manual inv station (Option.isNone_iff_eq_none.mp free) next
    · cases next
  · cases next
    have ensured := inv.relies c
    rw [station] at ensured
    unfold readTask
    split <;> exact inv.step_to c _ ensured (idle _ (by rw [station]; rfl))
  · cases next
    rename_i token
    have cancelling := inv.relies c
    rw [station] at cancelling
    have event : Discipline (s.setEvent (some token)) :=
      inv.same rfl rfl rfl rfl rfl (setEvent_isSome _ s)
    exact event.step_to c _ cancelling (idle _ (by rw [station]; rfl))
  · split at next
    · rename_i free
      cases next
      exact discipline_connect inv station (Option.isNone_iff_eq_none.mp free)
    · cases next
  · cases next
    exact discipline_publishPassive inv station
  · cases next

theorem discipline_fails {c : CallId} {failure : Failure} (inv : Discipline s)
    (next : s.fails c failure = some t) : Discipline t := by
  have relies := inv.relies c
  unfold fails at next
  split at next <;> rename_i station <;> try obtain rfl := Option.some.inj next
  · have inside := congrArg client? station
    exact discipline_refuse _ inv rfl (respects_self c s) rfl inv.connected inside (relies.client inside)
  · have inside := congrArg client? station
    rw [station] at relies
    exact discipline_refuse _ inv rfl ⟨.inr (.inr relies.1), .inl rfl, .inl rfl, .inl rfl, .inl rfl⟩
      rfl inv.connected inside relies.2.1
  · have inside := congrArg client? station
    rw [station] at relies
    exact discipline_refuse _ inv rfl ⟨.inr (.inr relies.1), .inl rfl, .inl rfl, .inl rfl, .inl rfl⟩
      rfl inv.connected inside relies.2.1
  · have dropped (token : Option Arbiter.Token) : Discipline { s with taskCancel := token } :=
      inv.same rfl rfl rfl rfl rfl rfl
    refine (dropped _).step_to c _ trivial fun reserves => ?_
    simp only [station] at reserves
    cases reserves
  · have idle : (s.calls c).reserves = false := by rw [station]; rfl
    rw [station] at relies
    exact inv.moves c (.failed failure) rfl
      ⟨.inr (.inr relies.1), .inl rfl, .inl rfl, .inl rfl, .inl rfl⟩ trivial inv.connected
      (owned_idle idle)
  · cases next

/-- **Every move keeps the discipline.** -/
theorem discipline_step (inv : Discipline s) (next : step cfg s l = some t) : Discipline t := by
  cases l with simp only [step] at next
  | start c op =>
    split at next
    · rename_i fresh
      cases next
      exact discipline_start inv fresh op
    · cases next
  | call c ac clock =>
    split at next
    · rename_i errand station
      simp only [bind_eq_some_iff, map_eq_some_iff] at next
      obtain ⟨a, arbiter, b, _, rfl⟩ := next
      have relies := inv.relies c
      rw [station] at relies
      have kept : Discipline { s with arbiter := some b } :=
        inv.same rfl rfl rfl rfl rfl (by rw [arbiter]; rfl)
      refine kept.step_to c _ ?_ fun reserves => ?_
      · cases errand with
        | interrupt client =>
          refine ⟨relies.1, ?_⟩
          have inner := relies.2.1
          cases client <;> exact inner
        | _ => exact relies
      · simp only [station] at reserves
        cases errand <;> exact reserves
    · cases next
  | enter c adapterPrepared =>
    split at next
    · rename_i station
      split at next
      · rename_i free
        cases next
        exact discipline_enter inv station (Option.isNone_iff_eq_none.mp free) adapterPrepared
      · cases next
    · cases next
  | proceed => exact discipline_proceed inv next
  | fails => exact discipline_fails inv next
  | arbiter | use =>
    simp only [bind_eq_some_iff] at next
    obtain ⟨a, arbiter, next⟩ := next
    split at next
    · obtain ⟨b, _, rfl⟩ := Option.map_eq_some_iff.mp next
      exact inv.same rfl rfl rfl rfl rfl (by rw [arbiter]; rfl)
    · cases next
  | hand =>
    simp only [bind_eq_some_iff] at next
    obtain ⟨a, arbiter, next⟩ := next
    split at next <;> cases next
    exact inv.same rfl rfl rfl rfl rfl rfl
  | drop =>
    split at next <;> cases next
    exact inv.same rfl rfl rfl rfl rfl rfl

end EmbodiRun.Service
