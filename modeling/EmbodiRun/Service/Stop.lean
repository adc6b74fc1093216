/-
# Service.Stop -- an emergency stop from the button to the robot

The stop of the service is its flag until there is an arbiter and the arbiter's latch from
then on; `_ensure_robot_arbiter` carries one over into the other, and
`_observe_robot_read_only` does not.
-/
import EmbodiRun.Service.Discipline
import EmbodiRun.Arbiter.InPort

namespace EmbodiRun.Service

open Function
open Transition Option
open Arbiter (TicketId Token)

variable {α : Type} {cfg : Config} {s t : State α} {l : Label α}

/-! ## What a move does to the arbiter -/

/-- A call between the publication of a stopped robot and the arbiter's emergency stop. -/
def State.Interrupting (s : State α) (c : CallId) : Prop :=
  ∃ client, s.calls c = .calling (.interrupt client)

open State

def Call.stopping : Call α → Bool
  | .inArbiter .stop _ | .stopSnapshot => true
  | _ => false

structure Quiet (s t : State α) (l : Label α) : Prop where
  arbiter : ∃ token, t.arbiter = (s.setEvent token).arbiter
  inPort : t.inPort = s.inPort
  handed : t.handed = s.handed
  attached : t.attached = s.attached ∨ (t.attached = true ∧ s.arbiter.isSome = true)
  flag : s.estopLatched = true → t.estopLatched = true ∨ ∃ c, l = .proceed c ∧ s.calls c = .clearing
  interrupting : ∀ d, s.Interrupting d → t.Interrupting d
  stopping : ∀ d, (t.calls d).stopping = true → (s.calls d).stopping = true ∨
    (s.arbiter = none ∧ t.estopLatched = true)

structure Publishes (s t : State α) (l : Label α) : Prop where
  before : s.arbiter = none
  after : t.arbiter = some .init
  inPort : t.inPort = s.inPort
  handed : t.handed = s.handed
  carried : s.estopLatched = true → (∃ d, t.Interrupting d) ∨ ∃ c, l = .proceed c ∧ s.calls c = .connecting
  stopping : ∀ d, (t.calls d).stopping = true → (s.calls d).stopping = true

/-- The arbiter moves by `al`. -/
structure Runs (cfg : Config) (s t : State α) (l : Label α) (a b : Arbiter.State α)
    (al : Arbiter.Label α) : Prop where
  before : s.arbiter = some a
  after : t.arbiter = some b
  next : Arbiter.step cfg.arbiter a al = some b
  allowed : ∀ reply, al = .executeReplies reply → ∀ k ∈ s.inPort, a.worker = .executing k → ranOut reply = true
  inPort : t.inPort = s.enqueued a al
  handed : t.handed = s.handed
  attached : t.attached = s.attached
  isOpen : ∀ ac hold, al ≠ .start ac (.close hold)
  submits : (∃ ac args clock, al = .start ac (.submit args clock)) → s.attached = true
  interrupting : ∀ d, s.Interrupting d → t.Interrupting d ∨ ∃ ac, al = .start ac .emergencyStop
  stopping : ∀ d, (t.calls d).stopping = true → (s.calls d).stopping = true ∨ ∃ ac, al = .start ac .emergencyStop
  resets : ∀ ac, al = .proceed ac → l = .arbiter al

/-- The bus reaches or drops `k`. -/
structure Leaves (s t : State α) (k : TicketId) : Prop where
  arbiter : t.arbiter = s.arbiter
  queued : k ∈ s.inPort
  inPort : t.inPort = s.inPort.erase k
  handed : t.handed = s.handed ∨ ∃ a, s.arbiter = some a ∧ a.heap.cancelled k = false
  attached : t.attached = s.attached
  flag : t.estopLatched = s.estopLatched
  calls : t.calls = s.calls

inductive ArbiterMove (cfg : Config) (s t : State α) (l : Label α) : Prop
  | quiet (facts : Quiet s t l)
  | publishes (facts : Publishes s t l)
  | runs (a b : Arbiter.State α) (al : Arbiter.Label α) (facts : Runs cfg s t l a b al)
  | leaves (k : TicketId) (facts : Leaves s t k)

/-! ## Sections that leave the arbiter alone -/

structure SameRobot (s t : State α) : Prop where
  arbiter : t.arbiter = s.arbiter
  estopLatched : t.estopLatched = s.estopLatched
  inPort : t.inPort = s.inPort
  handed : t.handed = s.handed
  attached : t.attached = s.attached

/-- The call `c` goes on to a station that is no emergency stop, or stays in its own. -/
def Goes (c : CallId) (s t : State α) : Prop :=
  ∃ call : Call α, t.calls = update s.calls c call ∧ (call.stopping = true → (s.calls c).stopping = true)
variable {c : CallId} {u : State α}

theorem goes_to (call : Call α) (calls : t.calls = update s.calls c call)
    (other : call.stopping = false) : Goes c s t :=
  ⟨call, calls, fun stopping => nomatch other.symm.trans stopping⟩

theorem Goes.interrupting (goes : Goes c s t) (idle : ¬ s.Interrupting c) :
    ∀ d, s.Interrupting d → t.Interrupting d := by
  rintro d ⟨client, station⟩
  obtain ⟨call, calls, _⟩ := goes
  have other : d ≠ c := by
    rintro rfl
    exact idle ⟨client, station⟩
  exact ⟨client, by rw [calls, update_of_ne other, station]⟩

theorem Goes.stopping (goes : Goes c s t) : ∀ d, (t.calls d).stopping = true → (s.calls d).stopping = true := by
  intro d stopping
  obtain ⟨call, calls, own⟩ := goes
  rw [calls] at stopping
  by_cases same : d = c
  · subst same
    rw [update_self] at stopping
    exact own stopping
  · rwa [update_of_ne same] at stopping

theorem setEvent_none (s : State α) : s.setEvent none = s := by
  rcases s with ⟨_, _ | _, _⟩ <;> rfl

theorem quiet_of (token : Option Token) (base : u = s.setEvent token) (same : SameRobot u t)
    (goes : Goes c s t) (idle : ¬ s.Interrupting c) : Quiet s t l := by
  subst base
  obtain ⟨arbiter, flag, inPort, handed, attached⟩ := same
  exact ⟨⟨token, arbiter⟩, inPort, handed, .inl attached, fun latched => .inl (flag.trans latched),
    goes.interrupting idle, fun d stopping => .inl (goes.stopping d stopping)⟩

theorem quiet_same (same : SameRobot s t) (goes : Goes c s t) (idle : ¬ s.Interrupting c) : Quiet s t l :=
  quiet_of none (setEvent_none s).symm same goes idle

theorem quiet_move (call : Call α) (other : call.stopping = false) (idle : ¬ s.Interrupting c) :
    Quiet s (s.setCall c call) l :=
  quiet_same ⟨rfl, rfl, rfl, rfl, rfl⟩ (goes_to call rfl other) idle

theorem rollback_sameRobot (owner : Owner) (reserved : Bool) (s : State α) :
    SameRobot s (s.rollback owner reserved) ∧ (s.rollback owner reserved).calls = s.calls := by
  rw [rollback_eq]
  exact ⟨⟨rfl, rfl, rfl, rfl, rfl⟩, rfl⟩

theorem refuse_sameRobot (c : CallId) (client : Client) (failure : Failure) (s : State α) :
    SameRobot s (s.refuse c client failure) ∧ Goes c s (s.refuse c client failure) := by
  cases client with
  | execute | getControlArbiter => exact ⟨⟨rfl, rfl, rfl, rfl, rfl⟩, goes_to _ rfl rfl⟩
  | acquireManual owner reserved =>
    obtain ⟨⟨arbiter, flag, inPort, handed, attached⟩, calls⟩ := rollback_sameRobot owner reserved s
    refine ⟨⟨arbiter, flag, inPort, handed, attached⟩, goes_to (.failed failure) ?_ rfl⟩
    simp only [refuse, setCall, calls]

theorem Goes.same (goes : Goes c u t) (calls : u.calls = s.calls) : Goes c s t := by
  obtain ⟨call, moved, own⟩ := goes
  exact ⟨call, calls ▸ moved, calls ▸ own⟩

theorem attach_goes (client : Client) (calls : u.calls = s.calls) : Goes c s (u.attach c client) := by
  have goes : Goes c u (u.attach c client) := by
    cases client <;> exact goes_to _ rfl rfl
  exact goes.same calls

theorem quiet_attach (client : Client) (same : SameRobot s u) (calls : u.calls = s.calls)
    (published : s.arbiter.isSome = true) (idle : ¬ s.Interrupting c) :
    Quiet s (u.attach c client) l := by
  obtain ⟨arbiter, flag, inPort, handed, _⟩ := same
  have frame : (u.attach c client).arbiter = s.arbiter ∧
      (u.attach c client).inPort = s.inPort ∧ (u.attach c client).handed = s.handed ∧
      (u.attach c client).attached = true ∧ (u.attach c client).estopLatched = s.estopLatched := by
    cases client <;> exact ⟨arbiter, inPort, handed, rfl, flag⟩
  obtain ⟨arbiter, inPort, handed, attached, flag⟩ := frame
  have goes : Goes c s (u.attach c client) := attach_goes client calls
  exact ⟨⟨none, by rw [setEvent_none, arbiter]⟩, inPort, handed, .inr ⟨attached, published⟩,
    fun latched => .inl (flag.trans latched), goes.interrupting idle,
    fun d stopping => .inl (goes.stopping d stopping)⟩

theorem SameRobot.trans (first : SameRobot s t) (second : SameRobot t u) : SameRobot s u :=
  ⟨second.1.trans first.1, second.2.trans first.2, second.3.trans first.3, second.4.trans first.4,
    second.5.trans first.5⟩

theorem quiet_refuse (client : Client) (failure : Failure) (same : SameRobot s u)
    (calls : u.calls = s.calls) (idle : ¬ s.Interrupting c) :
    Quiet s (u.refuse c client failure) l := by
  obtain ⟨refused, goes⟩ := refuse_sameRobot c client failure u
  exact quiet_same (same.trans refused) (goes.same calls) idle

theorem sameRobot_self (s : State α) : SameRobot s s := ⟨rfl, rfl, rfl, rfl, rfl⟩

theorem idle_of {call} (station : s.calls c = call)
    (other : ∀ client, call ≠ .calling (.interrupt client)) : ¬ s.Interrupting c :=
  fun ⟨client, interrupting⟩ => other client (station.symm.trans interrupting)

theorem quiet_start (fresh : s.calls c = .unused) (op : Operation α) : Quiet s (s.start c op) l := by
  have idle : ¬ s.Interrupting c := idle_of fresh nofun
  have move (call : Call α) (other : call.stopping = false) : Quiet s (s.setCall c call) l :=
    quiet_move call other idle
  cases op with
  | emergencyStop =>
    simp only [start, emergencyStop]
    split
    · rename_i none_
      refine ⟨⟨s.taskCancel, rfl⟩, rfl, rfl, .inl rfl, fun _ => .inl rfl, ?_, fun _ _ => .inr ⟨none_, rfl⟩⟩
      rintro d ⟨client, station⟩
      have other : d ≠ c := by
        rintro rfl
        exact idle ⟨client, station⟩
      exact ⟨client, (update_of_ne other _ _).trans station⟩
    · exact quiet_of s.taskCancel rfl ⟨rfl, rfl, rfl, rfl, rfl⟩ (goes_to _ rfl rfl) idle
  | resetEmergencyStop =>
    simp only [start, resetEmergencyStop]
    split <;> exact move _ rfl
  | execute =>
    simp only [start, execute]
    split <;> exact move _ rfl
  | observe =>
    simp only [start]
    split <;> exact move _ rfl
  | getControlArbiter | _ => exact move _ rfl
variable {client : Client} {ac : Arbiter.CallId} {a b : Arbiter.State α}

theorem quiet_enter (station : s.calls c = .entering client) (adapterPrepared : Bool) :
    Quiet s (s.enter c client adapterPrepared) l := by
  have idle : ¬ s.Interrupting c := idle_of station nofun
  unfold enter
  split <;> rename_i arbiter
  · split
    · exact quiet_same ⟨rfl, rfl, rfl, rfl, rfl⟩ (goes_to _ rfl rfl) idle
    · exact quiet_attach client (sameRobot_self s) rfl (by rw [arbiter]; rfl) idle
  · split
    · exact quiet_refuse client _ (sameRobot_self s) rfl idle
    · exact quiet_same ⟨rfl, rfl, rfl, rfl, rfl⟩ (goes_to _ rfl rfl) idle

theorem quiet_requireOwner (owner : Owner) (errand : Errand α) (idle : ¬ s.Interrupting c) :
    Quiet s (s.requireOwner c owner errand) l := by
  unfold requireOwner
  split
  · exact quiet_move _ rfl idle
  split
  · exact quiet_move _ rfl idle
  split
  · exact quiet_move _ rfl idle
  · exact quiet_same ⟨rfl, rfl, rfl, rfl, rfl⟩ (goes_to _ rfl rfl) idle

theorem quiet_manual {op} (station : s.calls c = .waiting op) (next : s.manual c op = some t) : Quiet s t l := by
  have idle : ¬ s.Interrupting c := idle_of station nofun
  cases op with
  | acquireManual =>
    cases next
    split
    · exact quiet_move _ rfl idle
    · exact quiet_same ⟨rfl, rfl, rfl, rfl, rfl⟩ (goes_to _ rfl rfl) idle
  | releaseManual owner | setManualDeadman owner | submitManualAction owner =>
    cases next
    exact quiet_requireOwner owner _ idle
  | _ => cases next

theorem quiet_resume {errand} (station : s.calls c = .inArbiter errand ac)
    (next : s.resume c errand ac = some t) : Quiet s t l := by
  have idle : ¬ s.Interrupting c := idle_of station nofun
  have unlocked (u : State α) (same : SameRobot s u) (calls : u.calls = s.calls) (call : Call α)
      (other : call.stopping = false) :
      Quiet s ({ u with manualLock := none }.setCall c call) l := by
    obtain ⟨arbiter, flag, inPort, handed, attached⟩ := same
    refine quiet_same ⟨arbiter, flag, inPort, handed, attached⟩ (goes_to call ?_ other) idle
    simp only [setCall, calls]
  have ends := resume_ends next
  cases errand with
  | stop =>
    rcases ends with ⟨_, rfl⟩ | ⟨_, rfl⟩
    · exact quiet_same ⟨rfl, rfl, rfl, rfl, rfl⟩ ⟨.stopSnapshot, rfl, fun _ => by rw [station]; rfl⟩
        idle
    · exact quiet_move _ rfl idle
  | reset => rcases ends with ⟨_, rfl⟩ | ⟨_, rfl⟩ <;> exact quiet_move _ rfl idle
  | beginTask =>
    rcases ends with ⟨_, rfl⟩ | ⟨failure, rfl⟩
    · exact quiet_move _ rfl idle
    · exact quiet_same ⟨rfl, rfl, rfl, rfl, rfl⟩ (goes_to (.leaving (some failure)) rfl rfl) idle
  | interrupt client =>
    rcases ends with ⟨_, rfl⟩ | ⟨_, rfl⟩ <;> exact quiet_refuse client _ (u := { s with robotLock := none })
        ⟨rfl, rfl, rfl, rfl, rfl⟩ rfl idle
  | acquireManual owner reserved =>
    rcases ends with ⟨_, rfl⟩ | ⟨_, rfl⟩
    · exact unlocked s (sameRobot_self s) rfl _ rfl
    · have same := rollback_sameRobot owner reserved s
      exact unlocked _ same.1 same.2 _ rfl
  | releaseManual owner =>
    rcases ends with ⟨_, rfl⟩ | ⟨_, rfl⟩
    · have same := rollback_sameRobot owner true s
      exact unlocked _ same.1 same.2 _ rfl
    · exact unlocked s (sameRobot_self s) rfl _ rfl
  | setDeadman | submitManual =>
    rcases ends with ⟨_, rfl⟩ | ⟨_, rfl⟩ <;> exact unlocked s (sameRobot_self s) rfl _ rfl

theorem quiet_fails {failure} (next : s.fails c failure = some t) : Quiet s t l := by
  unfold fails at next
  split at next <;> rename_i station <;> try obtain rfl := Option.some.inj next
  · exact quiet_refuse _ _ (sameRobot_self s) rfl (idle_of station nofun)
  · exact quiet_refuse _ _ (u := { s with robotLock := none }) ⟨rfl, rfl, rfl, rfl, rfl⟩ rfl (idle_of station nofun)
  · exact quiet_refuse _ _ (u := { s with robotLock := none }) ⟨rfl, rfl, rfl, rfl, rfl⟩ rfl (idle_of station nofun)
  · exact quiet_same ⟨rfl, rfl, rfl, rfl, rfl⟩ (goes_to (.leaving (some failure)) rfl rfl) (idle_of station nofun)
  · exact quiet_same ⟨rfl, rfl, rfl, rfl, rfl⟩ (goes_to (.failed failure) rfl rfl) (idle_of station nofun)
  · cases next

/-! ## Sections that publish an arbiter, and the arbiter itself -/

theorem publish_publishes (none_ : s.arbiter = none) (station : s.calls c = .opening client) :
    Publishes s (s.publish cfg c client) l := by
  unfold publish
  dsimp only
  split
  · have goes : Goes c s ({ s with
        arbiter := some .init
        prepared := !cfg.externalOwner || cfg.preparedOnConnect }.setCall c
          (.calling (.interrupt client))) := goes_to _ rfl rfl
    exact ⟨none_, rfl, rfl, rfl, fun _ => .inl ⟨c, client, update_self ..⟩, goes.stopping⟩
  · rename_i unlatched
    have never (P : Prop) (latched : s.estopLatched = true) : P := absurd latched unlatched
    split
    · have goes : Goes c s ({ s with
          arbiter := some .init
          prepared := !cfg.externalOwner || cfg.preparedOnConnect }.setCall c
            (.preparing client)) := goes_to _ rfl rfl
      exact ⟨none_, rfl, rfl, rfl, never _, goes.stopping⟩
    · have goes : Goes c s (attach c client { s with
          arbiter := some .init
          prepared := !cfg.externalOwner || cfg.preparedOnConnect
          robotLock := none }) := attach_goes client rfl
      refine ⟨none_, ?_, ?_, ?_, never _, goes.stopping⟩ <;> cases client <;> rfl

theorem publishPassive_publishes (none_ : s.arbiter = none) (station : s.calls c = .connecting) :
    Publishes s (s.publishPassive c) (.proceed c) := by
  have goes : Goes c s (s.publishPassive c) := goes_to _ rfl rfl
  exact ⟨none_, rfl, rfl, rfl, fun _ => .inr ⟨c, rfl, station⟩, goes.stopping⟩

theorem proceed_move (inv : Discipline s) (next : s.proceed cfg c = some t) : ArbiterMove cfg s t (.proceed c) := by
  have relies := inv.relies c
  unfold proceed at next
  split at next <;> rename_i station
  · exact .quiet (quiet_resume station next)
  · cases next
    have goes : Goes c s (s.clearFlag c) := goes_to _ rfl rfl
    exact .quiet ⟨⟨none, by rw [setEvent_none]; rfl⟩, rfl, rfl, .inl rfl,
      fun _ => .inr ⟨c, rfl, station⟩, goes.interrupting (idle_of station nofun),
      fun d stopping => .inl (goes.stopping d stopping)⟩
  · cases next
    exact .quiet (quiet_move _ rfl (idle_of station nofun))
  · cases next
    exact .quiet (quiet_move _ rfl (idle_of station nofun))
  · cases next
    rw [station] at relies
    exact .publishes (publish_publishes (by simpa using relies.2.2) station)
  · cases next
    rename_i client
    rw [station] at relies
    exact .quiet (quiet_attach client (u := { s with prepared := true, robotLock := none })
      ⟨rfl, rfl, rfl, rfl, rfl⟩ rfl relies.2.2 (idle_of station nofun))
  · cases next
    have idle : ¬ s.Interrupting c := idle_of station nofun
    unfold beginTask
    split
    · exact .quiet (quiet_move _ rfl idle)
    · exact .quiet (quiet_same ⟨rfl, rfl, rfl, rfl, rfl⟩ (goes_to _ rfl rfl) idle)
  · cases next
    rename_i token
    exact .quiet (quiet_same ⟨rfl, rfl, rfl, rfl, rfl⟩ (goes_to (.running token) rfl rfl) (idle_of station nofun))
  · cases next
    exact .quiet (quiet_same ⟨rfl, rfl, rfl, rfl, rfl⟩ (goes_to (.leaving none) rfl rfl) (idle_of station nofun))
  · cases next
    rename_i failure
    have idle : ¬ s.Interrupting c := idle_of station nofun
    cases failure <;> exact .quiet (quiet_same ⟨rfl, rfl, rfl, rfl, rfl⟩ (goes_to _ rfl rfl) idle)
  · split at next
    · exact .quiet (quiet_manual station next)
    · cases next
  · cases next
    unfold readTask
    split <;> exact .quiet (quiet_move _ rfl (idle_of station nofun))
  · cases next
    rename_i owner reserved token
    exact .quiet (quiet_of (some token) rfl ⟨rfl, rfl, rfl, rfl, rfl⟩
      (goes_to (.calling (.acquireManual owner reserved)) rfl rfl) (idle_of station nofun))
  · split at next <;> cases next
    have idle : ¬ s.Interrupting c := idle_of station nofun
    unfold connect
    split
    · exact .quiet (quiet_move _ rfl idle)
    · exact .quiet (quiet_same ⟨rfl, rfl, rfl, rfl, rfl⟩ (goes_to _ rfl rfl) idle)
  · cases next
    rw [station] at relies
    exact .publishes (publishPassive_publishes (by simpa using relies.2) station)
  · cases next

theorem call_move {clock} (inv : Discipline s) (next : step cfg s (.call c ac clock) = some t) :
    ArbiterMove cfg s t (.call c ac clock) := by
  simp only [step] at next
  split at next
  · rename_i errand station
    simp only [bind_eq_some_iff, map_eq_some_iff] at next
    obtain ⟨a, arbiter, b, next, rfl⟩ := next
    have relies := inv.relies c
    rw [station] at relies
    refine .runs a b (.start ac (errand.operation clock))
      ⟨arbiter, rfl, next, fun _ replies => (by cases replies), rfl, rfl, rfl, ?_, ?_, ?_, ?_,
        fun _ proceeds => by cases proceeds⟩
    · cases errand <;> exact fun _ _ closes => by cases closes
    · rintro ⟨_, _, _, submits⟩
      cases errand with
      | submitManual => exact relies.2
      | _ => cases submits
    · rintro d ⟨client, interrupting⟩
      by_cases same : d = c
      · subst same
        cases station.symm.trans interrupting
        exact .inr ⟨ac, rfl⟩
      · exact .inl ⟨client, (update_of_ne same _ _).trans interrupting⟩
    · intro d stopping
      by_cases same : d = c
      · subst same
        simp only [setCall, update_self] at stopping
        cases errand with
        | stop => exact .inr ⟨ac, rfl⟩
        | _ => cases stopping
      · simp only [setCall, update_of_ne same] at stopping
        exact .inl stopping
  · cases next

/-- **What a move of the service does to its arbiter.** -/
theorem arbiter_move (inv : Discipline s) (next : step cfg s l = some t) : ArbiterMove cfg s t l := by
  cases l with simp only [step] at next
  | start c op =>
    split at next <;> cases next
    exact .quiet (quiet_start ‹_› op)
  | call => exact call_move inv next
  | enter c adapterPrepared =>
    split at next
    · split at next <;> cases next
      exact .quiet (quiet_enter ‹_› adapterPrepared)
    · cases next
  | proceed => exact proceed_move inv next
  | fails => exact .quiet (quiet_fails next)
  | arbiter al =>
    simp only [bind_eq_some_iff] at next
    obtain ⟨a, arbiter, next⟩ := next
    split at next
    · rename_i allowed
      obtain ⟨b, moved, rfl⟩ := Option.map_eq_some_iff.mp next
      have noStart : ∀ ac op, al ≠ .start ac op := by
        rintro ac op rfl
        cases allowed
      refine .runs a b al ⟨arbiter, rfl, moved, ?_, rfl, rfl, rfl, fun ac _ => noStart ac _,
        fun submits => absurd submits.choose_spec.choose_spec.choose_spec (noStart _ _), fun _ => .inl, fun _ => .inl,
        fun _ _ => rfl⟩
      rintro reply rfl k inPort executing
      simpa [portAllows, executing, inPort] using allowed
    · cases next
  | use ac op =>
    simp only [bind_eq_some_iff] at next
    obtain ⟨a, arbiter, next⟩ := next
    split at next
    · rename_i attached
      simp only [Bool.and_eq_true, Bool.not_eq_true'] at attached
      obtain ⟨b, moved, rfl⟩ := Option.map_eq_some_iff.mp next
      refine .runs a b (.start ac op) ⟨arbiter, rfl, moved,
        fun _ replies => (by cases replies), rfl, rfl, rfl, ?_, fun _ => attached.1, fun _ => .inl,
        fun _ => .inl, fun _ proceeds => by cases proceeds⟩
      intro _ hold same
      cases same
      cases attached.2
    · cases next
  | hand k =>
    simp only [bind_eq_some_iff] at next
    obtain ⟨a, arbiter, next⟩ := next
    split at next
    · rename_i queued
      cases next
      refine .leaves k ⟨rfl, queued, rfl, ?_, rfl, rfl, rfl⟩
      cases cancelled : a.heap.cancelled k with
      | true => exact .inl rfl
      | false => exact .inr ⟨a, arbiter, cancelled⟩
    · cases next
  | drop k =>
    split at next <;> cases next
    exact .leaves k ⟨rfl, ‹_›, rfl, .inl rfl, rfl, rfl, rfl⟩

/-! ## The stop in force -/

/-- The stop of the service: its flag, then the arbiter's latch, and on the way from one to the
other the call that carries it over. -/
def State.Stopped (s : State α) : Prop :=
  match s.arbiter with
  | none => s.estopLatched = true
  | some a => a.authority = .estopLatched ∨ ∃ c, s.Interrupting c

/-- `reset_emergency_stop` succeeds: it clears the flag, or the arbiter commits its reset. -/
def ResetSucceeds (s : State α) (l : Label α) : Prop :=
  (∃ c, l = .proceed c ∧ s.calls c = .clearing) ∨ ∃ a ac, s.arbiter = some a ∧ l = .arbiter (.proceed ac) ∧
      Arbiter.CommitsReset a (.proceed ac) ac

/-- No passive observation publishes its robot while the flag is up, and no reset succeeds while
an emergency stop that has latched is still on its way to its caller. -/
def StopCarried (s : State α) (l : Label α) : Prop :=
  (∀ c, l = .proceed c → s.calls c = .connecting → s.estopLatched = false) ∧
    (ResetSucceeds s l → ∀ c, (s.calls c).stopping = false)

/-- What holds of every reachable service: its arbiter is a reachable open one, that nobody has
used before it was handed out, and the commands on the bus are guarded. -/
structure Inv (cfg : Config) (s : State α) : Prop where
  discipline : Discipline s
  reached : ∀ a, s.arbiter = some a → Reachable (Arbiter.step cfg.arbiter) .init a ∧ a.closed = false
  detached : s.attached = false → s.inPort = [] ∧ ∀ a, s.arbiter = some a → a.Idle
  guarded : ∀ a, s.arbiter = some a → ∀ k ∈ s.inPort, a.Guards k

theorem inv_init : Inv cfg (init : State α) :=
  have none_ (P : Arbiter.State α → Prop) : ∀ a, (init : State α).arbiter = some a → P a :=
    fun _ arbiter => nomatch arbiter
  ⟨discipline_init, none_ _, fun _ => ⟨rfl, none_ _⟩, none_ _⟩

theorem Quiet.cases (cfg : Config) (quiet : Quiet s t l) {b} (after : t.arbiter = some b) :
    ∃ a, s.arbiter = some a ∧ b.authority = a.authority ∧
      (b = a ∨ ∃ e, Arbiter.step cfg.arbiter a (.setEvent e) = some b) := by
  obtain ⟨token, arbiter⟩ := quiet.arbiter
  rw [after] at arbiter
  obtain ⟨a, before, rfl⟩ := Option.map_eq_some_iff.mp arbiter.symm
  refine ⟨a, before, rfl, ?_⟩
  cases token with
  | none => exact .inl rfl
  | some e => exact .inr ⟨e, rfl⟩

theorem inv_quiet (inv : Inv cfg s) (disciplined : Discipline t) (quiet : Quiet s t l) : Inv cfg t := by
  have detached (apart : t.attached = false) : s.attached = false := by
    rcases quiet.attached with same | ⟨attached, _⟩
    · exact same ▸ apart
    · cases attached.symm.trans apart
  refine ⟨disciplined, fun b after => ?_, fun apart => ⟨?_, fun b after => ?_⟩, fun b after k queued => ?_⟩
  · obtain ⟨a, before, _, rfl | ⟨e, moved⟩⟩ := quiet.cases cfg after
    · exact inv.reached b before
    · have reached := inv.reached a before
      exact ⟨reached.1.tail moved, Arbiter.stays_open moved reached.2 fun _ _ closes => nomatch closes⟩
  · rw [quiet.inPort]
    exact (inv.detached (detached apart)).1
  · obtain ⟨a, before, _, rfl | ⟨e, moved⟩⟩ := quiet.cases cfg after
    · exact (inv.detached (detached apart)).2 b before
    · exact Arbiter.idle_step ((inv.detached (detached apart)).2 a before) moved fun _ _ _ submits => nomatch submits
  · rw [quiet.inPort] at queued
    obtain ⟨a, before, _, rfl | ⟨e, moved⟩⟩ := quiet.cases cfg after
    · exact inv.guarded b before k queued
    · have reached := inv.reached a before
      exact Arbiter.guards_step (inv.guarded a before k queued) reached.2 reached.1 moved
        fun _ replies => nomatch replies

theorem inv_publishes (inv : Inv cfg s) (disciplined : Discipline t) (publishes : Publishes s t l) : Inv cfg t := by
  have apart : s.attached = false := Bool.eq_false_iff.mpr fun attached => by
    have connected := inv.discipline.connected attached
    rw [publishes.before] at connected
    cases connected
  have nothing : t.inPort = [] := publishes.inPort.trans (inv.detached apart).1
  have only (b : Arbiter.State α) (after : t.arbiter = some b) : b = .init :=
    Option.some.inj (after.symm.trans publishes.after)
  refine ⟨disciplined, fun b after => ?_, fun _ => ⟨nothing, fun b after => ?_⟩, fun b after k queued => ?_⟩
  · rw [only b after]
    exact ⟨.refl _, rfl⟩
  · rw [only b after]
    exact Arbiter.idle_init
  · rw [nothing] at queued
    cases queued

theorem inv_runs {al} (inv : Inv cfg s) (disciplined : Discipline t) (runs : Runs cfg s t l a b al) : Inv cfg t := by
  obtain ⟨reached, isOpen⟩ := inv.reached a runs.before
  have only (b' : Arbiter.State α) (after : t.arbiter = some b') : b' = b :=
    Option.some.inj (after.symm.trans runs.after)
  refine ⟨disciplined, fun b' after => ?_, fun apart => ⟨?_, fun b' after => ?_⟩, fun b' after k queued => ?_⟩
  · obtain rfl := only b' after
    exact ⟨reached.tail runs.next, Arbiter.stays_open runs.next isOpen runs.isOpen⟩
  · obtain ⟨empty, idle⟩ := inv.detached (runs.attached ▸ apart)
    rw [runs.inPort]
    unfold enqueued
    split
    · rename_i k _ station
      have idle := (idle a runs.before).worker
      rw [station] at idle
      cases idle
    · exact empty
  · obtain rfl := only b' after
    have apart := runs.attached ▸ apart
    refine Arbiter.idle_step ((inv.detached apart).2 a runs.before) runs.next ?_
    intro ac args clock submits
    cases apart.symm.trans (runs.submits ⟨ac, args, clock, submits⟩)
  · obtain rfl := only b' after
    rw [runs.inPort] at queued
    have old (queued : k ∈ s.inPort) : b'.Guards k := by
      refine Arbiter.guards_step (inv.guarded a runs.before k queued) isOpen reached runs.next ?_
      intro reply replies executing
      have out := runs.allowed reply replies k queued executing
      cases reply with
      | raised text result => exact ⟨text, result, rfl⟩
      | _ => cases out
    unfold enqueued at queued
    split at queued
    · rename_i j station
      rcases List.mem_append.mp queued with queued | fresh
      · exact old queued
      · obtain rfl := List.mem_singleton.mp fresh
        have next := runs.next
        simp only [Arbiter.step, station] at next
        cases next
        exact .inr (.inl rfl)
    · exact old queued

theorem inv_leaves {k} (inv : Inv cfg s) (disciplined : Discipline t) (leaves : Leaves s t k) : Inv cfg t := by
  obtain ⟨arbiter, _, inPort, _, attached, _, _⟩ := leaves
  refine ⟨disciplined, fun a after => inv.reached a (arbiter ▸ after), fun apart => ?_, fun a after j queued => ?_⟩
  · obtain ⟨empty, idle⟩ := inv.detached (attached ▸ apart)
    exact ⟨by rw [inPort, empty]; rfl, fun a after => idle a (arbiter ▸ after)⟩
  · rw [inPort] at queued
    exact inv.guarded a (arbiter ▸ after) j (List.mem_of_mem_erase queued)

theorem inv_step (inv : Inv cfg s) (next : step cfg s l = some t) : Inv cfg t := by
  have disciplined := discipline_step inv.discipline next
  cases arbiter_move inv.discipline next with
  | quiet facts => exact inv_quiet inv disciplined facts
  | publishes facts => exact inv_publishes inv disciplined facts
  | runs a b al facts => exact inv_runs inv disciplined facts
  | leaves k facts => exact inv_leaves inv disciplined facts

/-! ## The stop stays in force -/

theorem stop_latches (isOpen : a.closed = false)
    (next : Arbiter.step cfg.arbiter a (.start ac .emergencyStop) = some b) :
    b.authority = .estopLatched := by
  simp only [Arbiter.step] at next
  split at next <;> cases next
  exact Arbiter.emergencyStop_latches ac isOpen

theorem stopped_step (inv : Inv cfg s) (next : step cfg s l = some t) (stopped : s.Stopped)
    (carried : ∀ c, l = .proceed c → s.calls c = .connecting → s.estopLatched = false)
    (unreset : ¬ ResetSucceeds s l) : t.Stopped := by
  cases arbiter_move inv.discipline next with
  | quiet quiet =>
    cases after : t.arbiter with
    | none =>
      obtain ⟨token, arbiter⟩ := quiet.arbiter
      have before : s.arbiter = none := by
        rw [after] at arbiter
        exact Option.map_eq_none_iff.mp arbiter.symm
      simp only [State.Stopped, before, after] at stopped ⊢
      exact (quiet.flag stopped).resolve_right fun cleared => unreset (.inl cleared)
    | some =>
      obtain ⟨a, before, authority, _⟩ := quiet.cases cfg after
      simp only [State.Stopped, before, after] at stopped ⊢
      rcases stopped with latched | ⟨c, interrupting⟩
      · exact .inl (authority.trans latched)
      · exact .inr ⟨c, quiet.interrupting c interrupting⟩
  | publishes publishes =>
    simp only [State.Stopped, publishes.before, publishes.after] at stopped ⊢
    rcases publishes.carried stopped with interrupting | ⟨c, proceeds, connecting⟩
    · exact .inr interrupting
    · cases stopped.symm.trans (carried c proceeds connecting)
  | runs a b al runs =>
    obtain ⟨_, isOpen⟩ := inv.reached a runs.before
    simp only [State.Stopped, runs.before, runs.after] at stopped ⊢
    rcases stopped with latched | ⟨c, interrupting⟩
    · refine .inl (not_not.mp fun left => unreset (.inr ?_))
      obtain ⟨ac, commits⟩ := Arbiter.latch_left runs.next latched left
      obtain rfl := commits.1
      exact ⟨a, ac, runs.before, runs.resets ac rfl, commits⟩
    · rcases runs.interrupting c interrupting with still | ⟨ac, rfl⟩
      · exact .inr ⟨c, still⟩
      · exact .inl (stop_latches isOpen runs.next)
  | leaves k leaves =>
    simp only [State.Stopped, leaves.arbiter, leaves.flag, State.Interrupting, leaves.calls]
    exact stopped

theorem stopped_hands_nothing (inv : Inv cfg s) (next : step cfg s l = some t)
    (stopped : s.Stopped) : t.handed = s.handed := by
  cases arbiter_move inv.discipline next with
  | quiet quiet => exact quiet.handed
  | publishes publishes => exact publishes.handed
  | runs a b al runs => exact runs.handed
  | leaves k leaves =>
    rcases leaves.handed with same | ⟨a, before, uncancelled⟩
    · exact same
    · exfalso
      simp only [State.Stopped, before] at stopped
      rcases stopped with latched | ⟨c, client, interrupting⟩
      · have reached := (inv.reached a before).1
        have cancelled := Arbiter.guards_cancelled (inv.guarded a before k leaves.queued)
          (Arbiter.latchInv_reachable reached) (Arbiter.holdsActive_reachable reached) latched
        cases uncancelled.symm.trans cancelled
      · have relies := inv.discipline.relies c
        rw [interrupting] at relies
        have queued := leaves.queued
        rw [(inv.detached relies.2.2.1).1] at queued
        cases queued

structure CarriedInv (cfg : Config) (s : State α) : Prop where
  inv : Inv cfg s
  stopping : ∀ c, (s.calls c).stopping = true → s.Stopped

theorem stop_begins (inv : Inv cfg s) (next : step cfg s l = some t)
    (stopping : (t.calls c).stopping = true) : (s.calls c).stopping = true ∨ t.Stopped := by
  cases arbiter_move inv.discipline next with
  | quiet quiet =>
    refine (quiet.stopping c stopping).imp_right fun both => ?_
    obtain ⟨before, flag⟩ := both
    obtain ⟨_, arbiter⟩ := quiet.arbiter
    have after : t.arbiter = none := by
      rw [arbiter, setEvent, before]
      rfl
    simpa only [State.Stopped, after] using flag
  | publishes publishes => exact .inl (publishes.stopping c stopping)
  | runs a b al runs =>
    refine (runs.stopping c stopping).imp_right fun ran => ?_
    obtain ⟨ac, same⟩ := ran
    subst same
    simp only [State.Stopped, runs.after]
    exact .inl (stop_latches (inv.reached a runs.before).2 runs.next)
  | leaves k leaves => exact .inl (leaves.calls ▸ stopping)

theorem carriedInv_step (inv : CarriedInv cfg s) (next : step cfg s l = some t)
    (carried : StopCarried s l) : CarriedInv cfg t := by
  refine ⟨inv_step inv.inv next, fun c stopping => ?_⟩
  rcases stop_begins inv.inv next stopping with before | stopped
  · refine stopped_step inv.inv next (inv.stopping c before) carried.1 fun resets => ?_
    cases before.symm.trans (carried.2 resets c)
  · exact stopped

/-- **An emergency stop is not lost**, where nothing is published under the flag and no reset succeeds
inside a stop. -/
theorem stop_stays {before after : List (Label α)} {c : CallId} {u v w : State α}
    (ran : run (step cfg) init before = some u) (stops : u.calls c = .stopSnapshot)
    (returns : step cfg u (.proceed c) = some v) (goesOn : run (step cfg) v after = some w)
    (carried : Along (step cfg) StopCarried init (before ++ .proceed c :: after))
    (unreset : Along (step cfg) (fun s l => ¬ ResetSucceeds s l) v after) :
    w.handed = v.handed := by
  obtain ⟨first, rest⟩ := (along_append ran).mp carried
  have atStop : CarriedInv cfg u :=
    run_induction (fun s l t carried inv next => carriedInv_step inv next carried) first
      ⟨inv_init, fun _ stopping => nomatch stopping⟩ ran
  have stopped : u.Stopped := atStop.stopping c (by rw [stops]; rfl)
  have noReset : ¬ ResetSucceeds u (.proceed c) := by
    rintro (⟨d, same, clearing⟩ | ⟨_, _, _, same, _⟩) <;> cases same
    cases stops.symm.trans clearing
  have returned : Inv cfg v ∧ v.Stopped ∧ v.handed = v.handed :=
    ⟨inv_step atStop.inv returns, stopped_step atStop.inv returns stopped rest.1.1 noReset, rfl⟩
  have kept : Inv cfg w ∧ w.Stopped ∧ w.handed = v.handed := by
    refine run_induction (I := fun s => Inv cfg s ∧ s.Stopped ∧ s.handed = v.handed) ?_
      (along_and (rest.2 v returns) unreset) returned goesOn
    rintro s l t ⟨carried, unreset⟩ ⟨inv, stopped, same⟩ next
    exact ⟨inv_step inv next, stopped_step inv next stopped carried.1 unreset,
      (stopped_hands_nothing inv next stopped).trans same⟩
  exact kept.2.2

def Config.two : Config where
  arbiter := .two

open Config

/-- A stop before there is a robot refuses the connection that comes after it. -/
theorem stop_stays_unconnected : ∃ s t : State Unit,
    run (step two) init [.start 0 .emergencyStop, .proceed 0] = some s ∧
      run (step two) s [.start 1 .getControlArbiter, .enter 1 true] = some t ∧
      t.calls 1 = .failed (.rejected "service is closed or emergency stop is latched") ∧
      t.handed = s.handed := by
  have started (u : State Unit) : StopCarried u (.start 1 .getControlArbiter) :=
    ⟨nofun, fun resets => by rcases resets with ⟨_, same, _⟩ | ⟨_, _, _, same, _⟩ <;> cases same⟩
  have entered (u : State Unit) : StopCarried u (.enter 1 true) :=
    ⟨nofun, fun resets => by rcases resets with ⟨_, same, _⟩ | ⟨_, _, _, same, _⟩ <;> cases same⟩
  refine ⟨_, _, rfl, rfl, rfl, ?_⟩
  refine @stop_stays Unit two [.start 0 .emergencyStop]
    [.start 1 .getControlArbiter, .enter 1 true] 0 _ _ _ rfl rfl rfl rfl ?_ ?_
  · refine ⟨⟨nofun, ?_⟩, fun u first => ⟨⟨?_, ?_⟩, fun v _ => ⟨started v, fun w _ =>
      ⟨entered w, fun _ _ => trivial⟩⟩⟩⟩
    · rintro (⟨_, same, _⟩ | ⟨_, _, _, same, _⟩) <;> cases same
    · cases first
      rintro c same connecting
      cases same
      cases connecting
    · cases first
      rintro (⟨c, same, clearing⟩ | ⟨_, _, _, same, _⟩) <;> cases same
      cases clearing
  · refine ⟨?_, fun u _ => ⟨?_, fun _ _ => trivial⟩⟩ <;> (rintro (⟨_, same, _⟩ | ⟨_, _, _, same, _⟩) <;> cases same)

/-- After a stop an observation publishes the robot; and after a reset that succeeded inside the stop. -/
theorem stop_lost_by_observation : (∃ u v w : State Unit, run (step two) init [.start 0 .emergencyStop] = some u ∧
      u.calls 0 = .stopSnapshot ∧ step two u (.proceed 0) = some v ∧
      run (step two) v [.start 1 (.observe true), .proceed 1, .proceed 1, .start 2 .getControlArbiter, .enter 2 true,
          .proceed 2, .use 0 (.submit { action := (), source := .agent, wait := false } 0),
          .arbiter (.take 0), .arbiter .execute, .hand 0] = some w ∧
      w.estopLatched = true ∧ v.handed = [] ∧ w.handed = [0]) ∧
    ∃ u v w : State Unit, run (step two) init
        [.start 0 .getControlArbiter, .enter 0 true, .proceed 0, .start 1 .emergencyStop, .call 1 0 0,
          .start 2 .resetEmergencyStop, .call 2 1 0, .arbiter (.stopReplies 1 (.returned none)),
          .arbiter (.proceed 1), .arbiter (.stopReplies 0 (.returned none)), .arbiter (.proceed 0),
          .proceed 1] = some u ∧
      u.calls 1 = .stopSnapshot ∧ step two u (.proceed 1) = some v ∧
      run (step two) v [.use 2 (.setDeadman true 0),
          .use 3 (.submit { action := (), source := .manual, wait := false } 0),
          .arbiter (.take 0), .arbiter .execute, .hand 0] = some w ∧
      v.handed = [] ∧ w.handed = [0] :=
  ⟨⟨_, _, _, rfl, rfl, rfl, rfl, rfl, rfl, rfl⟩, ⟨_, _, _, rfl, rfl, rfl, rfl, rfl, rfl⟩⟩

end EmbodiRun.Service
