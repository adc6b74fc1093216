/-
# Arbiter.Takeover -- who owns the robot, and what may be pending meanwhile
-/
import EmbodiRun.Arbiter.Latch

namespace EmbodiRun.Arbiter

open Io Transition State Config

variable {α : Type} {cfg : Config} {s t : State α} {l : Label α}

/-- The commit of the release `r`: its hold is confirmed and no latch is in force. -/
def CommitsRelease (s : State α) (l : Label α) (r : CallId) : Prop :=
  l = .proceed r ∧ s.calls r = .held .releaseManual none ∧ s.authority ≠ .estopLatched
variable {r : CallId} {k k' : Control} {act : Act}

theorem release_commits (commits : CommitsRelease s l r) (next : step cfg s l = some t) :
    t.control = { s.control with authority := .model } := by
  obtain ⟨rfl, station, unlatched⟩ := commits
  simp only [step, proceed, station] at next
  cases next
  simp [State.commitHold, State.authorityAfterHold, Holder.nextAuthority, unlatched, State.control,
    State.setCall]

theorem reset_commits (commits : CommitsReset s l r) (next : step cfg s l = some t) : t.control =
      { s.control with authority := .manual, deadmanActive := false, manualHeartbeat := none } := by
  obtain ⟨rfl, station, isOpen⟩ := commits
  simp only [step, proceed, station] at next
  cases next
  simp [State.commitReset, State.requireOpen, isOpen, State.control, State.setCall]

/-! ## Authority and pending work, over acts -/

theorem Control.Step.model_from (moved : Control.Step k act k') (isModel : k'.authority = .model) :
    k.authority = .model ∨ act = .commitModel := by
  cases moved with
  | commitModel => exact .inr rfl
  | takeover | latch | reset => cases isModel
  | _ => exact .inl isModel

theorem Control.Step.slot (moved : Control.Step k act k') :
    k'.manualPending = k.manualPending ∨ k'.manualPending = none ∨
      ∃ t clock, act = .stage t clock ∧ k'.manualPending = some t := by
  cases moved with
  | stage t clock => exact .inr (.inr ⟨t, clock, rfl, rfl⟩)
  | takeover | disarm | clear | latch | shut | drainManual => exact .inr (.inl rfl)
  | _ => exact .inl rfl

structure Control.Coherent (k : Control) : Prop where
  queue : k.modelQueue ≠ [] → k.authority = .model
  slot : k.manualPending ≠ none → k.authority = .manual ∧ k.deadmanActive = true ∧ k.manualHeartbeat ≠ none
  deadman : k.deadmanActive = true → k.authority = .manual

theorem Control.Step.coherent (moved : Control.Step k act k') (coherent : k.Coherent)
    (unreleased : act ≠ .commitModel) (unreset : act ≠ .reset) : k'.Coherent := by
  obtain ⟨queue, slot, deadman⟩ := coherent
  cases moved with
  | stay => exact ⟨queue, slot, deadman⟩
  | enqueue t isModel | drainModel t rest isModel => exact ⟨fun _ => isModel, slot, deadman⟩
  | stage t clock isManual armed =>
    exact ⟨queue, fun _ => ⟨isManual, armed, Option.some_ne_none _⟩, deadman⟩
  | takeover | latch | shut => constructor <;> simp [Control.quiet]
  | arm clock isManual =>
    exact ⟨queue, fun pending => ⟨isManual, rfl, Option.some_ne_none _⟩, fun _ => isManual⟩
  | disarm => exact ⟨queue, fun pending => absurd rfl pending, by simp⟩
  | commitModel => exact absurd rfl unreleased
  | clear => exact ⟨fun pending => absurd rfl pending, fun pending => absurd rfl pending, deadman⟩
  | clearQueue => exact ⟨fun pending => absurd rfl pending, slot, deadman⟩
  | reset => exact absurd rfl unreset
  | drainManual => exact ⟨queue, fun pending => absurd rfl pending, deadman⟩

/-! ## Exclusive takeover -/

/-- MANUAL is granted: by the first section of an accepted `acquire_manual`, or by the commit of a
reset. -/
def Grants (s : State α) (l : Label α) : Prop :=
  ∃ c, CommitsReset s l c ∨ (l = .start c .acquireManual ∧ s.closed = false ∧ s.authority ≠ .estopLatched)

def Call.releases : Call → Bool
  | .holding .releaseManual | .held .releaseManual none => true
  | _ => false

theorem Call.Moves.releases_before {generation : Nat} {before after : Call}
    (edge : before.Moves generation after) (releases : after.releases = true) :
    before = .unused ∨ before.releases = true := by
  cases edge <;> simp_all [Call.releases]
  · rename_i holder failure
    cases holder <;> cases failure <;> simp_all
  · rename_i holder
    rcases holder.next_cases with ⟨_, ends⟩ | ⟨_, _, _, ends⟩ <;> simp [ends] at releases

theorem model_set (next : step cfg s l = some t) (before : s.authority ≠ .model)
    (isModel : t.authority = .model) : ∃ r, CommitsRelease s l r := by
  obtain ⟨act, moved, cause⟩ := control_step next
  obtain rfl := (moved.model_from isModel).resolve_left before
  obtain ⟨c, proceeds, station⟩ := cause
  generalize t.control = k at moved
  cases moved with
  | commitModel unlatched => exact ⟨c, proceeds, station, unlatched⟩

def SlotInv (s : State α) : Prop :=
  ∀ k, s.manualPending = some k → ∃ b, s.heap.tickets[k]? = some b ∧
    b.envelope.source = .manual ∧ b.envelope.taskCancel = none

theorem slotInv_step (inv : SlotInv s) (next : step cfg s l = some t) : SlotInv t := by
  intro k pending
  obtain ⟨act, moved, cause⟩ := control_step next
  rcases moved.slot with same | none_ | ⟨k', clock, rfl, staged⟩
  · obtain ⟨b, found, isManual, tokenless⟩ := inv k (same.symm.trans pending)
    obtain ⟨a, there, legal, _⟩ := (heap_later next).tickets k b found
    exact ⟨a, there, by rw [legal.envelope, isManual], by rw [legal.envelope, tokenless]⟩
  · cases none_.symm.trans pending
  · obtain rfl := Option.some.inj (staged.symm.trans pending)
    obtain ⟨envelope, admitted, isManual, rfl, heap, _⟩ := cause
    refine ⟨{ envelope := envelope }, ?_, isManual, admitted.manual isManual⟩
    rw [heap, Heap.push_ticket, if_pos (by simp)]

theorem slotInv_reachable (reached : Reachable (step cfg) init s) : SlotInv s :=
  reachable_induction (fun _ _ _ => slotInv_step) reached (by intro k pending; cases pending)

theorem unmodel_runs_manual {k : TicketId} (inv : SlotInv s) (authority : s.authority ≠ .model)
    (marks : MarksRunning s l k) : s.heap.source? k = some .manual := by
  obtain ⟨drained, popped⟩ := picks_popped marks.1
  rcases popped.source with ⟨_, isModel, _⟩ | ⟨_, _, pending, _⟩
  · exact absurd isModel authority
  · obtain ⟨b, found, isManual, _⟩ := inv k pending
    simp [Heap.source?, found, isManual]

theorem grant_manual (grants : Grants s l) (next : step cfg s l = some t) : t.authority = .manual := by
  obtain ⟨c, commits | ⟨rfl, isOpen, unlatched⟩⟩ := grants
  · exact congrArg Control.authority (reset_commits commits next)
  · simp only [step] at next
    split at next <;> cases next
    simp only [start, acquireManual, requireOpen, isOpen, Bool.false_eq_true, if_false, unlatched]
    split <;> rfl

theorem grant_releases (grants : Grants s l) (next : step cfg s l = some t)
    (releases : (s.calls r).releases = true ∨ (t.calls r).releases = true) : t.calls r = s.calls r := by
  rcases call_step next r with same | ⟨mover, edge⟩
  · exact same
  exfalso
  obtain ⟨c, ⟨rfl, station, _⟩ | ⟨rfl, _⟩⟩ := grants <;> cases mover
  · rw [station] at releases edge
    rcases releases with before | after
    · cases before
    · rcases edge.releases_before after with fresh | before
      · cases fresh
      · cases before
  · simp only [step] at next
    split at next
    · rename_i fresh
      cases next
      rw [fresh.1] at releases
      rcases releases with before | after
      · cases before
      · simp only [start, acquireManual, requireOpen] at after
        grind [raise, Call.releases]
    · cases next

structure Exclusive (t v : State α) : Prop where
  authority : v.authority ≠ .model
  slot : SlotInv v
  begun : ∀ r, t.calls r ≠ .unused → v.calls r ≠ .unused
  spent : ∀ r, t.calls r ≠ .unused → (v.calls r).releases = false

theorem exclusive_step {v w : State α} (later : ∀ r, CommitsRelease v l r → t.calls r ≠ .unused)
    (excl : Exclusive t v) (next : step cfg v l = some w) : Exclusive t w where
  authority isModel := by
    obtain ⟨r, commits⟩ := model_set next excl.authority isModel
    have releases := excl.spent r (later r commits)
    simp [commits.2.1, Call.releases] at releases
  slot := slotInv_step excl.slot next
  begun r used := used_stays next r (excl.begun r used)
  spent r used := by
    rcases call_step next r with same | ⟨_, edge⟩
    · exact same ▸ excl.spent r used
    · refine Bool.eq_false_iff.mpr fun releases => ?_
      rcases edge.releases_before releases with fresh | before
      · exact excl.begun r used fresh
      · simp [excl.spent r used] at before

theorem releases_commits (cfg : Config) (granted : t.authority = .manual) (releases : (t.calls r).releases = true) :
    ∃ after u, run (step cfg) t after = some u ∧ u.authority = .model ∧
      Along (step cfg) (fun v l => ∀ c, CommitsRelease v l c → c = r) t after := by
  have commit (v : State α) (granted : v.authority = .manual) (station : v.calls r = .held .releaseManual none) :
      ∃ u, step cfg v (.proceed r) = some u ∧ u.authority = .model := by
    refine ⟨_, by simp only [step, proceed, station]; rfl, ?_⟩
    simp [commitHold, authorityAfterHold, Holder.nextAuthority, granted]
  have only (v : State α) (c : CallId) : CommitsRelease v (.proceed r) c → c = r := by
    rintro ⟨same, _⟩
    exact (Label.proceed.inj same).symm
  have stations : t.calls r = .holding .releaseManual ∨ t.calls r = .held .releaseManual none := by
    unfold Call.releases at releases
    split at releases <;> simp_all
  rcases stations with station | station
  · have replies : step cfg t (.stopReplies r (.returned none)) = some (t.setCall r (.held .releaseManual none)) := by
      simp [step, stopReplies, station, StopReply.failure]
    obtain ⟨u, commits, isModel⟩ := commit (t.setCall r (.held .releaseManual none)) granted (by simp)
    refine ⟨[.stopReplies r (.returned none), .proceed r], u,
      run_cons_eq_some.mpr ⟨_, replies, run_cons_eq_some.mpr ⟨u, commits, rfl⟩⟩, isModel, ?_⟩
    refine ⟨fun c commits => ?_, fun v _ => ⟨only v, fun _ _ => trivial⟩⟩
    cases commits.1
  · obtain ⟨u, commits, isModel⟩ := commit t granted station
    exact ⟨[.proceed r], u, run_cons_eq_some.mpr ⟨u, commits, rfl⟩, isModel, only t, fun _ _ => trivial⟩

/-- **Exclusive takeover** from a grant of MANUAL, exactly when no release is in progress there. -/
theorem takeover_exclusive_iff (reached : Reachable (step cfg) init s) (grants : Grants s l)
    (next : step cfg s l = some t) :
    (∀ after u, run (step cfg) t after = some u →
      Along (step cfg) (fun v l => ∀ r, CommitsRelease v l r → t.calls r ≠ .unused) t after →
      u.authority ≠ .model ∧
      (∀ l k, MarksRunning u l k → u.heap.source? k = some .manual) ∧
      (Along (step cfg) (fun v l => ¬ Latches v l) t after → u.authority = .manual)) ↔
    ∀ r, (s.calls r).releases = false := by
  have granted := grant_manual grants next
  constructor
  · intro stays r
    refine Bool.eq_false_iff.mpr fun releases => ?_
    have here := grant_releases grants next (.inl releases)
    obtain ⟨after, u, ran, isModel, only⟩ := releases_commits cfg granted (here ▸ releases)
    refine (stays after u ran (along_mono (fun v l commits c isCommit => ?_) only)).1 isModel
    rw [commits c isCommit, here]
    intro unused
    simp [unused, Call.releases] at releases
  · intro alone after u ran later
    have spent (r : CallId) : (t.calls r).releases = false := by
      refine Bool.eq_false_iff.mpr fun releases => ?_
      rw [grant_releases grants next (.inr releases), alone r] at releases
      cases releases
    have excl : Exclusive t t :=
      ⟨by simp [granted], slotInv_reachable (reached.tail next), fun _ => id, fun r _ => spent r⟩
    have kept := run_induction (fun _ _ _ => exclusive_step) later excl ran
    refine ⟨kept.authority, fun l k marks => unmodel_runs_manual kept.slot kept.authority marks, ?_⟩
    intro unlatched
    have stays : Exclusive t u ∧ u.authority = .manual := by
      refine run_induction (I := fun v => Exclusive t v ∧ v.authority = .manual)
        ?_ (along_and later unlatched) ⟨excl, granted⟩ ran
      rintro v l w ⟨begun, quiet⟩ ⟨excl, isManual⟩ next
      have excl := exclusive_step begun excl next
      refine ⟨excl, ?_⟩
      cases authority : w.authority with
      | manual => rfl
      | model => exact absurd authority excl.authority
      | estopLatched => exact absurd (latch_set next (by simp [isManual]) authority) quiet
    exact stays.2

/-- A takeover of a fresh arbiter is exclusive. -/
theorem takeover_exclusive_at_start : ∃ t : State Unit, step two init (.start 0 .acquireManual) = some t ∧
      ∀ after u, run (step two) t after = some u →
        Along (step two) (fun v l => ∀ r, CommitsRelease v l r → t.calls r ≠ .unused)
          t after → u.authority ≠ .model := by
  obtain ⟨t, next⟩ : ∃ t : State Unit, step two init (.start 0 .acquireManual) = some t := ⟨_, rfl⟩
  have stays := (takeover_exclusive_iff (.refl _) ⟨0, .inr ⟨rfl, rfl, by decide⟩⟩ next).mpr
    fun _ => rfl
  exact ⟨t, next, fun after u ran later => (stays after u ran later).1⟩

/-- The takeover of call 2 joins the hold of the release of call 1, and a model command then runs. -/
theorem takeover_overridden_by_release : ∃ s : State Unit, run (step two) init
      [.start 0 .acquireManual, .stopReplies 0 (.returned none), .proceed 0,
        .start 1 .releaseManual, .start 2 .acquireManual, .stopReplies 1 (.returned none),
        .proceed 1, .proceed 2,
        .start 3 (.submit { action := (), source := .model, wait := false } 0), .take 0] = some s ∧
      s.calls 2 = .returned .none ∧ s.authority = .model ∧
      s.heap.source? 0 = some .model ∧ s.heap.status? 0 = some .running :=
  ⟨_, rfl, rfl, rfl, rfl, rfl⟩

/-! ## Coherence -/

def CommitsClean (s : State α) (l : Label α) : Prop :=
  (∀ r, CommitsRelease s l r → s.deadmanActive = false) ∧
    ∀ r, CommitsReset s l r → s.modelQueue = [] ∧ s.manualPending = none

theorem coherent_step_iff (coherent : s.control.Coherent) (next : step cfg s l = some t) :
    t.control.Coherent ↔ CommitsClean s l := by
  by_cases release : ∃ r, CommitsRelease s l r
  · obtain ⟨r, release⟩ := release
    have noReset : ∀ r, ¬ CommitsReset s l r := by
      rintro r' ⟨same, station, _⟩
      obtain ⟨rfl, station', _⟩ := release
      obtain rfl := Label.proceed.inj same
      cases station'.symm.trans station
    rw [release_commits release next]
    constructor
    · intro kept
      refine ⟨fun _ _ => Bool.eq_false_iff.mpr fun armed => ?_, fun r' reset => absurd reset (noReset r')⟩
      cases kept.deadman armed
    · rintro ⟨released, _⟩
      have released : s.control.deadmanActive = false := released r release
      refine ⟨fun _ => rfl, fun pending => ?_, fun armed => ?_⟩
      · cases released.symm.trans (coherent.slot pending).2.1
      · cases released.symm.trans armed
  by_cases reset : ∃ r, CommitsReset s l r
  · obtain ⟨r, reset⟩ := reset
    rw [reset_commits reset next]
    constructor
    · intro kept
      refine ⟨fun r' commits => absurd ⟨r', commits⟩ release, fun _ _ => ⟨?_, ?_⟩⟩
      · by_contra pending
        cases kept.queue pending
      · by_contra pending
        cases (kept.slot pending).2.1
    · rintro ⟨_, clean⟩
      obtain ⟨queue, slot⟩ := clean r reset
      exact ⟨fun pending => absurd queue pending, fun pending => absurd slot pending, by simp⟩
  · obtain ⟨act, moved, cause⟩ := control_step next
    refine ⟨fun _ => ⟨fun r commits => absurd ⟨r, commits⟩ release,
      fun r commits => absurd ⟨r, commits⟩ reset⟩, fun _ => moved.coherent coherent ?_ ?_⟩
    · rintro rfl
      obtain ⟨c, proceeds, station⟩ := cause
      generalize t.control = k at moved
      cases moved with
      | commitModel unlatched => exact release ⟨c, proceeds, station, unlatched⟩
    · rintro rfl
      obtain ⟨c, proceeds, station, isOpen⟩ := cause
      exact reset ⟨c, proceeds, station, isOpen⟩

theorem coherent_init : (init : State α).control.Coherent :=
  ⟨fun pending => absurd rfl pending, fun pending => absurd rfl pending, by simp [State.control, State.init]⟩

/-- **Coherence of authority and pending work** is that releases commit with the deadman released and
resets with nothing pending. -/
theorem coherent_iff {ls : List (Label α)} (ran : run (step cfg) init ls = some s) :
    (∀ before after u, ls = before ++ after → run (step cfg) init before = some u → u.control.Coherent) ↔
    Along (step cfg) CommitsClean init ls :=
  along_iff_prefixes (fun _ _ _ coherent next => coherent_step_iff coherent next) coherent_init ran

/-- A takeover alone keeps the arbiter coherent. -/
theorem coherent_after_takeover : ∃ s : State Unit,
    run (step two) init [.start 0 .acquireManual] = some s ∧ s.control.Coherent := by
  obtain ⟨s, ran⟩ : ∃ s : State Unit, run (step two) init [.start 0 .acquireManual] = some s := ⟨_, rfl⟩
  refine ⟨s, ran, (coherent_iff ran).mpr ⟨⟨?_, ?_⟩, fun _ _ => trivial⟩ _ [] s (by simp) ran⟩
  · intro r commits
    cases commits.1
  · intro r commits
    cases commits.1

/-- MODEL is committed over a staged manual command, and MANUAL over a queued model command. -/
theorem pending_work_stranded : (∃ s : State Unit, run (step two) init
        [.start 0 .acquireManual, .stopReplies 0 (.returned none), .proceed 0,
          .start 1 .releaseManual, .start 2 (.setDeadman true 0),
          .start 3 (.submit { action := (), source := .manual, wait := false } 0),
          .stopReplies 1 (.returned none), .proceed 1] = some s ∧
        s.authority = .model ∧ s.deadmanActive = true ∧ s.manualPending = some 0) ∧
    ∃ s : State Unit, run (step two) init [.start 0 .emergencyStop, .stopReplies 0 (.returned none), .proceed 0,
          .start 1 .resetEmergencyStop, .start 2 .resetEmergencyStop,
          .stopReplies 2 (.returned none), .proceed 2,
          .start 3 .releaseManual, .stopReplies 3 (.returned none), .proceed 3,
          .start 4 (.submit { action := (), source := .model, wait := false } 0),
          .stopReplies 1 (.returned none), .proceed 1] = some s ∧
        s.authority = .manual ∧ s.modelQueue = [0] :=
  ⟨⟨_, rfl, rfl, rfl, rfl⟩, _, rfl, rfl, rfl⟩

end EmbodiRun.Arbiter
