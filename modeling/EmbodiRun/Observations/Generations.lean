/-
# Observations.Generations -- what a snapshot's generation says about what is in it

`publish_once` reads the generation first, compares it after the last source has answered, and
takes the generation it publishes under with the snapshot's identity.  A result left over
from an earlier publication cannot get in: whatever a worker still has to deliver is either
pending in this publication or recorded as timed out, and a late result is thrown away.
-/
import EmbodiRun.Observations.Producer

namespace EmbodiRun.Observations.Producer

open Function
open Transition List

universe u

variable {σ : Type u} {cfg : Config} {s t : State σ} {l : Label σ} {ls : List (Label σ)}

/-! ## What is gathered -/

/-- Everything in the body began under the generation `g` or a later one. -/
structure Body.Since (body : Body σ) (g : Nat) : Prop where
  state : ∀ reading, body.state = some reading → g ≤ reading.begun
  cameras : ∀ frame ∈ body.cameras, g ≤ frame.begun

structure Turn.Fresh (turn : Turn σ) : Prop where
  state : ∀ reading, turn.state = some reading → turn.generation ≤ reading.begun
  results : ∀ i result, turn.results i = some result → turn.generation ≤ result.begun

def Publisher.Fresh : Publisher σ → Prop
  | .idle | .started _ => True
  | .reading generation begun => generation ≤ begun
  | .collecting turn _ _ | .polling turn _ | .collected turn => turn.Fresh
  | .checked generation body => body.Since generation
  | .allocated snapshot => snapshot.body.Since snapshot.generation

def Publisher.generation? : Publisher σ → Option Nat
  | .started generation | .reading generation _ => some generation
  | .collecting turn _ _ | .polling turn _ | .collected turn => some turn.generation
  | .idle | .checked _ _ | .allocated _ => none

def Publisher.pending : Publisher σ → List (SourceId × Nat)
  | .collecting turn _ _ | .polling turn _ => turn.pending
  | _ => []

def Publisher.requested : Publisher σ → List (SourceId × Nat)
  | .polling turn ahead => turn.pending ++ ahead
  | publisher => publisher.pending

def Phase.token : Phase → Option Nat
  | .idle => none
  | .scheduled _ token | .taken _ token | .capturing _ token _ => some token
  | .completed result => some result.token

def Phase.begun : Phase → Option Nat
  | .capturing _ _ begun => some begun
  | .completed result => some result.begun
  | _ => none

/-- What a worker has still to deliver is recorded as late or is pending; what was requested began
since the generation read first. -/
def Traced (reported : Finset (SourceId × Nat)) (publisher : Publisher σ) (i : SourceId) (phase : Phase) : Prop :=
  ∀ token, phase.token = some token → ((i, token) ∈ reported ∨ (i, token) ∈ publisher.pending) ∧
      ((i, token) ∈ publisher.requested → ∀ g begun, publisher.generation? = some g →
        phase.begun = some begun → g ≤ begun)

structure Sound (s : State σ) : Prop where
  stands : ∀ g, s.publisher.generation? = some g → g ≤ s.store.generation
  fresh : s.publisher.Fresh
  traced : ∀ i w, s.workers i = some w → Traced s.reportedTimeouts s.publisher i w.phase
  published : ∀ snapshot ∈ s.published, snapshot.body.Since snapshot.generation

open Sound

theorem since_frames {sources : List SourceId} {results : SourceId → Option SourceResult} {g : Nat}
    (fresh : ∀ i result, results i = some result → g ≤ result.begun) :
    ∀ frame ∈ frames sources results, g ≤ frame.begun := by
  have one : ∀ (before : List Frame) (i : SourceId), (∀ frame ∈ before, g ≤ frame.begun) →
      ∀ frame ∈ addFrames before (results i), g ≤ frame.begun := by
    intro before i all frame member
    unfold addFrames at member
    split at member
    · rename_i token begun names found
      split at member
      · exact all frame member
      · rcases List.mem_append.mp member with old | new
        · exact all frame old
        · obtain ⟨name, _, rfl⟩ := List.mem_map.mp new
          exact fresh i _ found
    · exact all frame member
  have all : ∀ (rest : List SourceId) (before : List Frame), (∀ frame ∈ before, g ≤ frame.begun) →
      ∀ frame ∈ rest.foldl (fun frames i => addFrames frames (results i)) before, g ≤ frame.begun := by
    intro rest
    induction rest with
    | nil => exact fun _ before => before
    | cons i rest ih => exact fun before old => ih _ (one before i old)
  exact all sources [] (by simp)

/-! ## The steps that leave the publication alone -/

theorem Sound.setWorker {i : SourceId} {w w' : Worker} (sound : Sound s) (found : s.workers i = some w)
    (token : ∀ k, w'.phase.token = some k → w.phase.token = some k)
    (begun : ∀ b, w'.phase.begun = some b → w.phase.begun = some b ∨ b = s.store.generation) :
    Sound (s.setWorker i w') where
  stands := sound.stands
  fresh := sound.fresh
  published := sound.published
  traced := by
    intro j other present
    change update s.workers i (some w') j = some other at present
    by_cases same : j = i
    · subst same
      rw [update_self] at present
      cases present
      intro k outstanding
      obtain ⟨recorded, since⟩ := sound.traced j w found k (token k outstanding)
      refine ⟨recorded, fun pending g b reads began => ?_⟩
      rcases begun b began with before | rfl
      · exact since pending g b reads before
      · exact sound.stands g reads
    · rw [update_of_ne same] at present
      exact sound.traced j other present

theorem Sound.setReconnect {c} {stage} (sound : Sound s) : Sound (s.setReconnect c stage) :=
  ⟨sound.stands, sound.fresh, sound.traced, sound.published⟩

theorem Sound.invalidate {i} {w} (sound : Sound s)
    (found : s.workers i = some w) : Sound (s.setWorker i w.invalidate) := by
  refine sound.setWorker found ?_ ?_ <;> intro k outstanding <;>
    cases phase : w.phase <;> simp_all [Worker.invalidate, Phase.token, Phase.begun]

/-! ## The steps of the publication -/

theorem Sound.publisher {publisher : Publisher σ} {reported : Finset (SourceId × Nat)}
    (sound : Sound s) (stands : ∀ g, publisher.generation? = some g → g ≤ s.store.generation)
    (fresh : publisher.Fresh)
    (recorded : s.reportedTimeouts ⊆ reported)
    (before : ∀ entry ∈ publisher.requested,
      entry ∈ s.publisher.requested ∧ publisher.generation? = s.publisher.generation?)
    (after : ∀ entry ∈ s.publisher.pending, entry ∈ reported ∨ entry ∈ publisher.pending) :
    Sound { s with publisher, reportedTimeouts := reported } where
  stands := stands
  fresh := fresh
  published := sound.published
  traced := by
    intro i w found k outstanding
    obtain ⟨known, since⟩ := sound.traced i w found k outstanding
    refine ⟨known.elim (fun late => .inl (recorded late)) (after _), fun pending g b reads => ?_⟩
    obtain ⟨old, same⟩ := before _ pending
    exact since old g b (same ▸ reads)

theorem Sound.visits {i} {w'} {publisher} {reported} (sound : Sound s)
    (stands : publisher.generation? = s.publisher.generation?) (fresh : publisher.Fresh)
    (recorded : ∀ entry ∈ s.reportedTimeouts, entry.1 ≠ i → entry ∈ reported)
    (before : ∀ entry ∈ publisher.requested, entry.1 ≠ i → entry ∈ s.publisher.requested)
    (after : ∀ entry ∈ s.publisher.pending, entry.1 ≠ i → entry ∈ publisher.pending)
    (one : Traced reported publisher i w'.phase) :
    Sound { s.setWorker i w' with publisher, reportedTimeouts := reported } where
  stands g reads := sound.stands g (stands ▸ reads)
  fresh := fresh
  published := sound.published
  traced := by
    intro j other present
    change update s.workers i (some w') j = some other at present
    by_cases same : j = i
    · subst same
      rw [update_self] at present
      cases present
      exact one
    · rw [update_of_ne same] at present
      intro k outstanding
      obtain ⟨known, since⟩ := sound.traced j other present k outstanding
      refine ⟨known.imp (fun late => recorded _ late same) (fun old => after _ old same), ?_⟩
      exact fun pending g b reads => since (before _ pending same) g b (stands ▸ reads)

theorem traced_idle {reported : Finset (SourceId × Nat)} {publisher : Publisher σ} {i : SourceId} :
    Traced reported publisher i .idle := nofun

theorem takeCompleted_some {w w' : Worker} {result : SourceResult} (takes : w.takeCompleted = (some result, w')) :
    w.phase = .completed result ∧ w'.phase = .idle := by
  unfold Worker.takeCompleted at takes
  split at takes
  · rename_i held
    obtain ⟨same, rfl⟩ := Prod.mk.inj takes
    cases same
    exact ⟨held, rfl⟩
  · exact absurd (Prod.mk.inj takes).1 nofun

theorem request_some {w w' : Worker} {token : Nat} (requests : w.request = (some token, w')) :
    w'.phase = .scheduled w.generation token := by
  unfold Worker.request at requests
  split at requests
  · obtain ⟨same, rfl⟩ := Prod.mk.inj requests
    cases same
    rfl
  · exact absurd (Prod.mk.inj requests).1 nofun

theorem mem_requested {publisher : Publisher σ} {entry : SourceId × Nat}
    (member : entry ∈ publisher.pending) : entry ∈ publisher.requested := by
  cases publisher <;> first | exact member | exact mem_append_left _ member

/-- A result that was requested in this publication, or is not recorded as late, was captured in
this publication. -/
theorem Sound.since_completed {i : SourceId} {w : Worker} {result : SourceResult} {g : Nat}
    (sound : Sound s) (found : s.workers i = some w) (held : w.phase = .completed result)
    (inTime : (i, result.token) ∉ s.reportedTimeouts ∨ (i, result.token) ∈ s.publisher.requested)
    (reads : s.publisher.generation? = some g) : g ≤ result.begun := by
  obtain ⟨known, since⟩ := sound.traced i w found result.token (by rw [held]; rfl)
  have requested : (i, result.token) ∈ s.publisher.requested :=
    inTime.elim (fun fresh => mem_requested (known.resolve_left fresh)) id
  exact since requested g result.begun reads (by rw [held]; rfl)

theorem Turn.Fresh.gains {turn : Turn σ} {i : SourceId} {result : SourceResult}
    {pending : List (SourceId × Nat)} (fresh : turn.Fresh) (since : turn.generation ≤ result.begun) :
    Turn.Fresh { turn with results := update turn.results i (some result), pending } where
  state := fresh.state
  results := by
    intro j other found
    change update turn.results i (some result) j = some other at found
    by_cases same : j = i
    · subst same
      rw [update_self] at found
      cases found
      exact since
    · rw [update_of_ne same] at found
      exact fresh.results j other found

theorem Sound.collect {turn : Turn σ} {i : SourceId} {rest : List SourceId} {visit : Visit}
    {w : Worker} (sound : Sound s) (stage : s.publisher = .collecting turn (i :: rest) visit)
    (found : s.workers i = some w) : Sound (s.collect turn i rest visit w) := by
  have fresh : turn.Fresh := by
    have := sound.fresh
    rwa [stage] at this
  have reads : s.publisher.generation? = some turn.generation := by rw [stage]; rfl
  have requested (entry) : entry ∈ s.publisher.requested ↔ entry ∈ turn.pending := by rw [stage]; rfl
  have pending (entry) : entry ∈ s.publisher.pending ↔ entry ∈ turn.pending := by rw [stage]; rfl
  -- the publication goes on to another visit of the same source, or to the next source
  have moves (sources : List SourceId) (visit : Visit) (reported : Finset (SourceId × Nat))
      (recorded : s.reportedTimeouts ⊆ reported) :
      Sound { s with publisher := .collecting turn sources visit, reportedTimeouts := reported } :=
    sound.publisher (fun g same => sound.stands g (reads.trans same)) fresh recorded
      (fun entry member => ⟨(requested entry).mpr member, reads.symm⟩)
      (fun entry member => .inr ((pending entry).mp member))
  unfold State.collect
  cases visit
  case take | takeAgain =>
    dsimp only
    split
    · rename_i result w' taken
      obtain ⟨held, idle⟩ := takeCompleted_some taken
      split
      · refine sound.visits reads.symm fresh ?_ ?_ ?_ (idle ▸ traced_idle)
        · exact fun entry member other =>
            Finset.mem_erase.mpr ⟨fun same => other (congrArg Prod.fst same), member⟩
        · exact fun entry member _ => (requested entry).mpr member
        · exact fun entry member _ => (pending entry).mp member
      · rename_i inTime
        refine sound.visits reads.symm (fresh.gains (sound.since_completed found held (.inl inTime) reads)) ?_ ?_ ?_
          (idle ▸ traced_idle)
        · exact fun entry member _ => member
        · exact fun entry member _ => (requested entry).mpr member
        · exact fun entry member _ => (pending entry).mp member
    · exact moves (i :: rest) _ _ (Finset.Subset.refl _)
  case request | requestAgain =>
    dsimp only
    split
    · rename_i token w' scheduled
      refine sound.visits reads.symm ⟨fresh.state, fresh.results⟩ (fun entry member _ => member) ?_ ?_ ?_
      · intro entry member other
        rcases List.mem_append.mp member with old | new
        · exact (requested entry).mpr old
        · exact absurd (congrArg Prod.fst (List.mem_singleton.mp new)) other
      · exact fun entry member _ => mem_append_left _ ((pending entry).mp member)
      · rw [request_some scheduled]
        intro k outstanding
        cases outstanding
        exact ⟨.inr (mem_append_right _ (mem_singleton_self _)), fun _ g b _ began =>
          absurd began (by rintro ⟨⟩)⟩
    · exact moves (i :: rest) _ _ (Finset.Subset.refl _)
  case active => exact moves rest .take _ (Finset.subset_insert _ _)

theorem Sound.poll {turn : Turn σ} {i : SourceId} {token : Nat} {ahead : List (SourceId × Nat)}
    {w : Worker} (sound : Sound s) (stage : s.publisher = .polling turn ((i, token) :: ahead))
    (found : s.workers i = some w) : Sound (s.poll turn i token ahead w) := by
  have fresh : turn.Fresh := by
    have := sound.fresh
    rwa [stage] at this
  have reads : s.publisher.generation? = some turn.generation := by rw [stage]; rfl
  have pending (entry) : entry ∈ s.publisher.pending ↔ entry ∈ turn.pending := by rw [stage]; rfl
  have requested (entry) (member : entry ∈ turn.pending ++ ahead) : entry ∈ s.publisher.requested := by
    rw [stage]
    exact List.mem_append.mpr ((List.mem_append.mp member).imp_right (mem_cons_of_mem _))
  have polled : (i, token) ∈ s.publisher.requested := by
    rw [stage]
    exact mem_append_right _ mem_cons_self
  unfold State.poll
  split
  · exact sound.publisher (fun g same => sound.stands g (reads.trans same)) fresh
      (Finset.Subset.refl _) (fun entry member => ⟨requested entry member, reads.symm⟩)
      (fun entry member => .inr ((pending entry).mp member))
  · rename_i result w' taken
    obtain ⟨held, idle⟩ := takeCompleted_some taken
    split
    · exact sound.visits reads.symm fresh (fun entry member _ => member)
        (fun entry member _ => requested entry member)
        (fun entry member _ => (pending entry).mp member) (idle ▸ traced_idle)
    · rename_i current
      have own : result.token = token := not_not.mp current
      have since := sound.since_completed found held (.inr (own ▸ polled)) reads
      refine sound.visits reads.symm (fresh.gains since) ?_ ?_ ?_ (idle ▸ traced_idle)
      · exact fun entry member other =>
          Finset.mem_erase.mpr ⟨fun same => other (congrArg Prod.fst same), member⟩
      · intro entry member _
        refine requested entry (List.mem_append.mpr ?_)
        exact (List.mem_append.mp member).imp_left mem_of_mem_erase
      · exact fun entry member other => (mem_erase_of_ne
          fun same => other (congrArg Prod.fst same)).mpr ((pending entry).mp member)

theorem Sound.passes {turn : Turn σ} {timeUp : Bool} (sound : Sound s)
    (stage : s.publisher = .polling turn []) : Sound (s.passes turn timeUp) := by
  have fresh : turn.Fresh := by
    have := sound.fresh
    rwa [stage] at this
  have reads : s.publisher.generation? = some turn.generation := by rw [stage]; rfl
  have pending (entry) : entry ∈ s.publisher.pending ↔ entry ∈ turn.pending := by rw [stage]; rfl
  have stands : ∀ g, some turn.generation = some g → g ≤ s.store.generation :=
    fun g same => sound.stands g (reads.trans same)
  unfold State.passes
  split
  · rename_i none
    refine sound.publisher stands fresh (Finset.Subset.refl _) nofun fun entry member => ?_
    rw [pending, none] at member
    cases member
  split
  · exact sound.publisher stands ⟨fresh.state, fresh.results⟩ Finset.subset_union_left nofun
      fun entry member => .inl (Finset.mem_union_right _ (List.mem_toFinset.mpr ((pending entry).mp member)))
  · refine sound.publisher stands fresh (Finset.Subset.refl _) (fun entry member => ?_)
      (fun entry member => .inr ((pending entry).mp member))
    have member : entry ∈ turn.pending := (List.mem_append.mp member).elim id id
    exact ⟨mem_requested ((pending entry).mpr member), reads.symm⟩

/-! ## Every step -/

def GenerationStands (s : State σ) (l : Label σ) : Prop :=
  ∀ generation body, l = .allocate → s.publisher = .checked generation body → s.store.generation = generation

theorem Sound.goes {publisher : Publisher σ} (sound : Sound s)
    (stands : ∀ g, publisher.generation? = some g → g ≤ s.store.generation)
    (fresh : publisher.Fresh) (none : publisher.requested = []) (before : s.publisher.pending = []) :
    Sound { s with publisher } := by
  refine sound.publisher stands fresh (Finset.Subset.refl _) (fun entry member => ?_) fun entry member => ?_
  · rw [none] at member
    cases member
  · rw [before] at member
    cases member

theorem Sound.setStore {store : Store (Body σ)} (sound : Sound s)
    (later : s.store.generation ≤ store.generation) : Sound { s with store } where
  stands g reads := (sound.stands g reads).trans later
  fresh := sound.fresh
  traced := sound.traced
  published := sound.published

theorem sound_init {hasReader} : Sound ({ hasReader } : State σ) :=
  ⟨nofun, trivial, nofun, nofun⟩

/-- **The publication**: what is gathered began under the generation read first, and goes out
under that generation if it stands when the identity is taken. -/
theorem sound_step (sound : Sound s) (inside : GenerationStands s l) (next : step cfg s l = some t) : Sound t := by
  cases l with simp only [step] at next
  | publishOnce =>
    split at next
    · rename_i stage
      cases next
      refine sound.goes (fun g reads => ?_) trivial rfl (by rw [stage]; rfl)
      cases reads
      exact le_rfl
    · cases next
  | readBegins =>
    split at next
    · rename_i generation stage
      have reads : s.publisher.generation? = some generation := by rw [stage]; rfl
      split at next <;> cases next
      · exact sound.goes (fun g same => sound.stands g (reads.trans same))
          (sound.stands generation reads) rfl (by rw [stage]; rfl)
      · exact sound.goes (fun g same => sound.stands g (reads.trans same)) ⟨nofun, nofun⟩ rfl (by rw [stage]; rfl)
    · cases next
  | readReplies reply =>
    split at next
    · rename_i generation begun stage
      cases next
      have reads : s.publisher.generation? = some generation := by rw [stage]; rfl
      have fresh := sound.fresh
      rw [stage] at fresh
      refine sound.goes (fun g same => sound.stands g (reads.trans same)) ⟨?_, nofun⟩ rfl (by rw [stage]; rfl)
      intro reading state
      cases reply with
      | raised | nothing => cases state
      | state =>
        cases state
        exact fresh
    · cases next
  | clockFails =>
    split at next
    · rename_i stage
      cases next
      exact sound.goes nofun trivial rfl (by rw [stage]; rfl)
    · rename_i stage
      cases next
      exact sound.goes nofun trivial rfl (by rw [stage]; rfl)
    · rename_i stage
      cases next
      exact sound.goes nofun trivial rfl (by rw [stage]; rfl)
    · cases next
  | collect =>
    split at next
    · rename_i turn visit stage
      cases next
      have fresh := sound.fresh
      rw [stage] at fresh
      have reads : s.publisher.generation? = some turn.generation := by rw [stage]; rfl
      refine sound.publisher (fun g same => sound.stands g (reads.trans same)) fresh
        (Finset.Subset.refl _) (fun entry member => ⟨?_, reads.symm⟩) (fun entry member => .inr ?_)
      · rw [stage]
        exact (List.mem_append.mp member).elim id id
      · rwa [stage] at member
    · rename_i turn i rest visit stage
      obtain ⟨w, found, rfl⟩ := Option.map_eq_some_iff.mp next
      exact sound.collect stage found
    · cases next
  | poll =>
    split at next
    · rename_i turn i token ahead stage
      obtain ⟨w, found, rfl⟩ := Option.map_eq_some_iff.mp next
      exact sound.poll stage found
    · cases next
  | passes timeUp =>
    split at next
    · rename_i turn stage
      cases next
      exact sound.passes stage
    · cases next
  | check =>
    split at next
    · rename_i turn stage
      have fresh := sound.fresh
      rw [stage] at fresh
      split at next <;> cases next
      · exact sound.goes nofun trivial rfl (by rw [stage]; rfl)
      · exact sound.goes nofun ⟨fresh.state, since_frames fresh.results⟩ rfl (by rw [stage]; rfl)
    · cases next
  | allocate =>
    split at next
    · rename_i generation body stage
      have fresh := sound.fresh
      rw [stage] at fresh
      unfold Store.nextObservationId at next
      by_cases closed : s.store.closed = true
      · rw [if_pos closed] at next
        cases next
        exact sound.goes nofun trivial rfl (by rw [stage]; rfl)
      · rw [if_neg closed] at next
        cases next
        have stands := inside generation body rfl stage
        have goes (snapshot : Snapshot (Body σ)) (current : snapshot.generation = s.store.generation)
            (same : snapshot.body = body) : Sound { s with publisher := .allocated snapshot } := by
          refine sound.goes nofun ?_ rfl (by rw [stage]; rfl)
          change snapshot.body.Since snapshot.generation
          rw [current, stands, same]
          exact fresh
        exact (goes _ rfl rfl).setStore le_rfl
    · cases next
  | publish =>
    split at next
    · rename_i snapshot stage
      have fresh := sound.fresh
      rw [stage] at fresh
      have ends : Sound { s with publisher := .idle } :=
        sound.goes nofun trivial rfl (by rw [stage]; rfl)
      split at next <;> cases next
      · exact ends
      · have published := Store.published_of_publish ‹_›
        have moved := ends.setStore published.generation.ge
        refine ⟨moved.stands, moved.fresh, moved.traced, fun other member => ?_⟩
        rcases List.mem_append.mp member with old | new
        · exact sound.published other old
        · obtain rfl := List.mem_singleton.mp new
          exact fresh
    · cases next
  | addCameraSource i =>
    split at next
    · rename_i stage
      split at next <;> cases next
      · exact sound
      · refine ⟨sound.stands, sound.fresh, fun j w found => ?_, sound.published⟩
        change update s.workers i (some {}) j = some w at found
        by_cases same : j = i
        · subst same
          rw [update_self] at found
          cases found
          exact traced_idle
        · rw [update_of_ne same] at found
          exact sound.traced j w found
    · cases next
  | take i =>
    obtain ⟨w', taken, rfl⟩ := Option.map_eq_some_iff.mp next
    obtain ⟨w, found, taken⟩ := Option.bind_eq_some_iff.mp taken
    unfold Worker.take at taken
    split at taken
    · rename_i generation token phase
      cases taken
      exact sound.setWorker found (fun k same => by rw [phase]; exact same) nofun
    · cases taken
  | captureBegins i =>
    obtain ⟨w', taken, rfl⟩ := Option.map_eq_some_iff.mp next
    obtain ⟨w, found, taken⟩ := Option.bind_eq_some_iff.mp taken
    unfold Worker.capture at taken
    split at taken
    · rename_i generation token phase
      cases taken
      exact sound.setWorker found (fun k same => by rw [phase]; exact same)
        (fun b same => .inr (Option.some.inj same).symm)
    · cases taken
  | captureEnds i value =>
    obtain ⟨w', taken, rfl⟩ := Option.map_eq_some_iff.mp next
    obtain ⟨w, found, taken⟩ := Option.bind_eq_some_iff.mp taken
    unfold Worker.complete at taken
    split at taken
    · rename_i generation token begun phase
      cases taken
      refine sound.setWorker found (fun k same => ?_) (fun b same => .inl ?_)
      · rw [phase]
        dsimp only at same
        split at same
        · exact same
        · cases same
      · rw [phase]
        dsimp only at same
        split at same
        · exact same
        · cases same
    · cases taken
  | reconnect =>
    split at next <;> cases next
    unfold State.reconnect
    split
    · exact sound.setReconnect
    split
    · exact sound.setReconnect
    split <;> exact sound.setReconnect
  | invalidate =>
    split at next
    · split at next
      · cases next
        exact sound.setReconnect
      split at next
      · cases next
        exact sound.setReconnect
      · obtain ⟨w, found, rfl⟩ := Option.map_eq_some_iff.mp next
        exact (sound.invalidate found).setReconnect
    · obtain ⟨w, found, rfl⟩ := Option.map_eq_some_iff.mp next
      exact (sound.invalidate found).setReconnect
    · cases next
  | begins =>
    split at next
    · unfold Store.beginGeneration at next
      by_cases closed : s.store.closed = true
      · rw [if_pos closed] at next
        cases next
        exact sound.setReconnect
      · rw [if_neg closed] at next
        cases next
        exact sound.setReconnect.setStore (Nat.le_succ _)
    · cases next

/-- **Generations never mix** while none begins between the check and the identity it takes. -/
theorem generations_apart {hasReader : Bool} (ran : run (step cfg) ({ hasReader } : State σ) ls = some s)
    (inside : Along (step cfg) GenerationStands { hasReader } ls) :
    ∀ snapshot ∈ s.published, snapshot.body.Since snapshot.generation :=
  (run_induction (fun _ _ _ stands sound next => sound_step sound stands next) inside sound_init ran).published

/-! ## A reconnect before the check, and after it -/

def camerasOnly : Config := ⟨['s'], 4, by decide⟩

def capturesOnce : List (Label Unit) :=
  [.publishOnce, .readBegins, .collect, .collect, .take ['c'],
    .captureBegins ['c'], .captureEnds ['c'] (.ok [['f']]), .collect, .poll, .passes false]

def reconnects (c : CallId) : List (Label Unit) :=
  [.reconnect c none, .invalidate c, .invalidate c, .begins c]

theorem generations_apart_published : ∃ t, run (step camerasOnly) ({ hasReader := false } : State Unit)
        ([.addCameraSource ['c']] ++ reconnects 0 ++ capturesOnce ++ [.check] ++ [.allocate, .publish]) = some t ∧
      t.published.map Snapshot.generation = [1] ∧
      ∀ snapshot ∈ t.published, snapshot.body.Since snapshot.generation := by
  let adds : List (Label Unit) := [.addCameraSource ['c']]
  let check : List (Label Unit) := [.check]
  let ends : List (Label Unit) := [.allocate, .publish]
  obtain ⟨t, ran, published⟩ : ∃ t, run (step camerasOnly) ({ hasReader := false } : State Unit)
      (adds ++ reconnects 0 ++ capturesOnce ++ check ++ ends) = some t ∧
        t.published.map Snapshot.generation = [1] := ⟨_, rfl, rfl⟩
  refine ⟨t, ran, published, generations_apart ran ?_⟩
  obtain ⟨u, checked, stage⟩ : ∃ u, run (step camerasOnly) ({ hasReader := false } : State Unit)
      (adds ++ reconnects 0 ++ capturesOnce ++ check) = some u ∧
        u.publisher = .checked u.store.generation ⟨none, [⟨['f'], 1⟩]⟩ := ⟨_, rfl, rfl⟩
  refine (along_append checked).mpr ⟨?_, fun generation body _ held => ?_, fun _ _ => ?_⟩
  · exact along_mono (fun _ l other _ _ same => absurd same other)
      (along_of_mem (P := fun l => l ≠ .allocate) (by simp [adds, check, reconnects, capturesOnce]))
  · exact (Publisher.checked.inj (stage.symm.trans held)).1
  · exact ⟨nofun, fun _ _ => trivial⟩

/-- **A reconnect after the check**: the older frame is published under the generation it began. -/
theorem reconnect_after_check : ∃ t snapshot, run (step camerasOnly) ({ hasReader := false } : State Unit)
        ([.addCameraSource ['c']] ++ capturesOnce ++ [.check] ++ reconnects 0 ++ [.allocate, .publish]) = some t ∧
      snapshot ∈ t.published ∧ snapshot.generation = 1 ∧
      snapshot.body.cameras = [⟨['f'], 0⟩] ∧ ¬ snapshot.body.Since snapshot.generation := by
  refine ⟨_, _, rfl, mem_singleton_self _, rfl, rfl, fun since => ?_⟩
  exact absurd (since.cameras ⟨['f'], 0⟩ (mem_singleton_self _)) (by decide)

end EmbodiRun.Observations.Producer
