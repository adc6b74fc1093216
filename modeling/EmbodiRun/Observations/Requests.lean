/-
# Observations.Requests -- every capture that is published was asked for by its publication

A worker numbers its jobs, holds one result at most and drops one that an `invalidate` overtook;
`publish_once` remembers every job whose wait expired, and throws its late result away.  A record
beside the machine counts the publications and notes who asked for which job, which jobs were
reported as timed out, and which an `invalidate` found with a worker.

* `captures_answered`: **a result in a snapshot answers a request of that publication, was never
  reported as timed out and never invalidated; and no source has two captures in flight**.
-/
import EmbodiRun.Observations.Generations
import EmbodiRun.Transition.History

namespace EmbodiRun.Observations.Producer

open Function
open Transition List Option Finset

universe u

variable {σ : Type u} {cfg : Config} {s t : State σ} {l : Label σ}

/-! ## The record -/

/-- A snapshot, with the publication that made it and the results its cameras are made of. -/
structure Entry (σ : Type u) where
  publication : Nat
  sources : List SourceId
  results : SourceId → Option SourceResult
  snapshot : Snapshot (Body σ)

structure Trace (σ : Type u) where
  /-- How many calls of `publish_once` have begun. -/
  publication : Nat := 0
  /-- Which publication requested which job. -/
  requests : List (Nat × SourceId × Nat) := []
  /-- What was ever in `_reported_timeouts`. -/
  expired : Finset (SourceId × Nat) := ∅
  /-- The jobs a worker had, or held the result of, when it was invalidated. -/
  invalidated : List (SourceId × Nat) := []
  /-- Captures that have begun and not ended. -/
  inFlight : SourceId → Nat := fun _ => 0
  /-- What the last check found gathered. -/
  sources : List SourceId := []
  gathered : SourceId → Option SourceResult := fun _ => none
  entries : List (Entry σ) := []

/-- The job that the section of `_collect_source_results` requests. -/
def State.issued (s : State σ) : Option (SourceId × Nat) :=
  match s.publisher with
  | .collecting _ (i :: _) .request | .collecting _ (i :: _) .requestAgain =>
    ((s.workers i).bind fun w => w.request.1).map fun token => (i, token)
  | _ => none

/-- The source whose worker the section of `reconnect` invalidates. -/
def State.invalidates (s : State σ) (c : CallId) : Option SourceId :=
  match s.reconnects c with
  | .invalidating size index => if s.sources.length ≠ size then none else s.sources[index]?
  | .one i => some i
  | _ => none

def State.outstanding (s : State σ) (i : SourceId) : Option (SourceId × Nat) :=
  ((s.workers i).bind fun w => w.phase.token).map fun token => (i, token)

def note (s : State σ) (l : Label σ) (t : State σ) (h : Trace σ) : Trace σ :=
  match l with
  | .publishOnce => { h with publication := h.publication + 1 }
  | .collect => { h with
      requests := h.requests ++ s.issued.toList.map fun job => (h.publication, job)
      expired := h.expired ∪ t.reportedTimeouts }
  | .passes _ => { h with expired := h.expired ∪ t.reportedTimeouts }
  | .check => match s.publisher with
      | .collected turn => { h with sources := s.sources, gathered := turn.results }
      | _ => h
  | .publish => match s.publisher with
      | .allocated snapshot =>
        if t.published.length = s.published.length then h
        else { h with entries := h.entries ++ [⟨h.publication, h.sources, h.gathered, snapshot⟩] }
      | _ => h
  | .captureBegins i => { h with inFlight := update h.inFlight i (h.inFlight i + 1) }
  | .captureEnds i _ => { h with inFlight := update h.inFlight i (h.inFlight i - 1) }
  | .invalidate c =>
    { h with invalidated := h.invalidated ++ ((s.invalidates c).bind s.outstanding).toList }
  | _ => h

structure Answered (s : State σ) (h : Trace σ) : Prop where
  /-- Every snapshot has its entry, and its cameras are made of the results in it. -/
  entered : s.published = h.entries.map Entry.snapshot
  cameras : ∀ e ∈ h.entries, e.snapshot.body.cameras = frames e.sources e.results
  /-- Each of these answers a request of the publication that made the snapshot. -/
  own : ∀ e ∈ h.entries, ∀ i result, e.results i = some result → (e.publication, i, result.token) ∈ h.requests
  once : (h.requests.map Prod.snd).Nodup
  unexpired : ∀ e ∈ h.entries, ∀ i result, e.results i = some result → (i, result.token) ∉ h.expired
  valid : ∀ e ∈ h.entries, ∀ i result, e.results i = some result → (i, result.token) ∉ h.invalidated
  single : ∀ i, h.inFlight i ≤ 1

/-! ## What every section keeps -/

def Phase.generation? : Phase → Option Nat
  | .scheduled generation _ | .taken generation _ | .capturing generation _ _ => some generation
  | .idle | .completed _ => none

open Phase

/-- The calls of `_capture` a worker is in. -/
def Phase.calls : Phase → Nat
  | .capturing _ _ _ => 1
  | _ => 0

def Publisher.gathered (checked : SourceId → Option SourceResult) : Publisher σ → SourceId → Option SourceResult
  | .collecting turn _ _ | .polling turn _ | .collected turn => turn.results
  | .checked _ _ | .allocated _ => checked
  | .idle | .started _ | .reading _ _ => fun _ => none

def Publisher.body : Publisher σ → Option (Body σ)
  | .checked _ body => some body
  | .allocated snapshot => some snapshot.body
  | _ => none

/-- The sources that `_collect_source_results` has not left yet. -/
def Publisher.unvisited : Publisher σ → List SourceId
  | .collecting _ sources _ => sources
  | _ => []

/-- A worker: its last job is the one it has, and one that was invalidated is of an earlier
generation. -/
structure Tended (invalidated : List (SourceId × Nat)) (i : SourceId) (w : Worker) : Prop where
  last : ∀ k, w.phase.token = some k → k = w.nextToken
  older : ∀ g, w.phase.generation? = some g → g ≤ w.generation
  lost : ∀ k, w.phase.token = some k → (i, k) ∈ invalidated →
    ∃ g, w.phase.generation? = some g ∧ g < w.generation

structure Delivered (s : State σ) (h : Trace σ) (p : Nat) (i : SourceId) (k : Nat) : Prop where
  requested : (p, i, k) ∈ h.requests
  unexpired : (i, k) ∉ h.expired
  valid : (i, k) ∉ h.invalidated
  settled : (i, k) ∉ s.publisher.pending
  taken : ∀ w, s.workers i = some w → w.phase.token ≠ some k

def State.numbered (s : State σ) (job : SourceId × Nat) : Prop :=
  ∃ w, s.workers job.1 = some w ∧ job.2 ≤ w.nextToken

structure Jobs (s : State σ) (h : Trace σ) : Prop where
  owned : ∀ i w, s.workers i = some w → i ∈ s.sources
  sources : s.sources.Nodup
  positive : ∀ p i k, (p, i, k) ∈ h.requests → 0 < k
  requests : ∀ p i k, (p, i, k) ∈ h.requests → s.numbered (i, k)
  expired : ∀ job ∈ h.expired, s.numbered job
  invalidated : ∀ job ∈ h.invalidated, s.numbered job
  once : (h.requests.map Prod.snd).Nodup
  reported : s.reportedTimeouts ⊆ h.expired
  workers : ∀ i w, s.workers i = some w → Tended h.invalidated i w
  flying : ∀ i, h.inFlight i = ((s.workers i).map fun w => w.phase.calls).getD 0

structure Clean (s : State σ) (h : Trace σ) : Prop where
  jobs : Jobs s h
  known : ∀ i w k, s.workers i = some w → w.phase.token = some k →
    (i, k) ∈ s.reportedTimeouts ∨ (i, k) ∈ s.publisher.pending
  requested : ∀ job ∈ s.publisher.requested, (h.publication, job) ∈ h.requests ∧ job ∉ h.expired
  pending : s.publisher.pending.Nodup
  unvisited : s.publisher.unvisited.Nodup
  later : ∀ job ∈ s.publisher.pending, job.1 ∉ s.publisher.unvisited
  gathered : ∀ i result, s.publisher.gathered h.gathered i = some result →
    Delivered s h h.publication i result.token
  body : ∀ body, s.publisher.body = some body → body.cameras = frames h.sources h.gathered
  entered : s.published = h.entries.map Entry.snapshot
  cameras : ∀ e ∈ h.entries, e.snapshot.body.cameras = frames e.sources e.results
  delivered : ∀ e ∈ h.entries, ∀ i result, e.results i = some result →
    Delivered s h e.publication i result.token

theorem clean_init {hasReader} : Clean ({ hasReader } : State σ) {} where
  jobs := ⟨nofun, nodup_nil, nofun, nofun, nofun, nofun, nodup_nil, Finset.Subset.refl _, nofun, fun _ => rfl⟩
  known := nofun
  requested := nofun
  pending := nodup_nil
  unvisited := nodup_nil
  later := nofun
  gathered := nofun
  body := nofun
  entered := rfl
  cameras := nofun
  delivered := nofun
variable {h : Trace σ}

theorem flying_le (clean : Clean s h) (i : SourceId) : h.inFlight i ≤ 1 := by
  rw [clean.jobs.flying i]
  cases s.workers i with
  | none => exact Nat.zero_le _
  | some w => cases phase : w.phase <;> simp [phase, calls]

theorem answered_of_clean (clean : Clean s h) : Answered s h where
  entered := clean.entered
  cameras := clean.cameras
  own e member i result found := (clean.delivered e member i result found).requested
  once := clean.jobs.once
  unexpired e member i result found := (clean.delivered e member i result found).unexpired
  valid e member i result found := (clean.delivered e member i result found).valid
  single := flying_le clean

/-! ## Workers -/

def State.has (s : State σ) (job : SourceId × Nat) : Prop :=
  ∃ w, s.workers job.1 = some w ∧ w.phase.token = some job.2

theorem State.has.numbered {job} (has : s.has job) (jobs : Jobs s h) : s.numbered job := by
  obtain ⟨w, found, token⟩ := has
  exact ⟨w, found, ((jobs.workers _ w found).last _ token).le⟩

section

variable {h : Trace σ} {i : SourceId} {w w' : Worker} {inFlight : SourceId → Nat}
  {invalidated : List (SourceId × Nat)} {requests : List (Nat × SourceId × Nat)}

theorem workers_setWorker {j} {other} (present : (s.setWorker i w').workers j = some other) :
    j = i ∧ other = w' ∨ j ≠ i ∧ s.workers j = some other := by
  change update s.workers i (some w') j = some other at present
  by_cases same : j = i
  · subst same
    rw [update_self] at present
    exact .inl ⟨rfl, (Option.some.inj present).symm⟩
  · rw [update_of_ne same] at present
    exact .inr ⟨same, present⟩

theorem numbered_setWorker {job} (found : s.workers i = some w)
    (grows : w.nextToken ≤ w'.nextToken) (numbered : s.numbered job) : (s.setWorker i w').numbered job := by
  obtain ⟨other, at', bound⟩ := numbered
  by_cases same : job.1 = i
  · rw [same, found] at at'
    cases at'
    refine ⟨w', ?_, bound.trans grows⟩
    rw [same]
    exact update_self ..
  · exact ⟨other, (update_of_ne same ..).trans at', bound⟩

theorem Jobs.setWorker (jobs : Jobs s h) (found : s.workers i = some w) (grows : w.nextToken ≤ w'.nextToken)
    (issues : ∀ p j k, (p, j, k) ∈ requests → (p, j, k) ∈ h.requests ∨
      0 < k ∧ (s.setWorker i w').numbered (j, k))
    (once : (requests.map Prod.snd).Nodup)
    (loses : ∀ job ∈ invalidated, job ∈ h.invalidated ∨ job.1 = i ∧ s.has job)
    (tended : Tended invalidated i w')
    (flies : inFlight = update h.inFlight i w'.phase.calls) :
    Jobs (s.setWorker i w') { h with inFlight, invalidated, requests } where
  owned j other present := by
    rcases workers_setWorker present with ⟨rfl, _⟩ | ⟨_, old⟩
    · exact jobs.owned j w found
    · exact jobs.owned j other old
  sources := jobs.sources
  positive p j k member := (issues p j k member).elim (jobs.positive p j k) And.left
  requests p j k member :=
    (issues p j k member).elim (fun old => numbered_setWorker found grows (jobs.requests p j k old)) And.right
  expired job member := numbered_setWorker found grows (jobs.expired job member)
  invalidated job member := numbered_setWorker found grows <|
    (loses job member).elim (jobs.invalidated job) fun has => has.2.numbered jobs
  once := once
  reported := jobs.reported
  workers j other present := by
    rcases workers_setWorker present with ⟨rfl, rfl⟩ | ⟨apart, old⟩
    · exact tended
    · have before' := jobs.workers j other old
      refine ⟨before'.last, before'.older, fun k token member => before'.lost k token ?_⟩
      exact (loses (j, k) member).resolve_right fun other => apart other.1
  flying j := by
    dsimp only [State.setWorker]
    rw [flies]
    by_cases same : j = i
    · subst same
      rw [update_self, update_self]
      rfl
    · rw [update_of_ne same, update_of_ne same]
      exact jobs.flying j

theorem has_setWorker {job} (found : s.workers i = some w)
    (token : ∀ k, w'.phase.token = some k → w.phase.token = some k) (has : (s.setWorker i w').has job) :
    s.has job := by
  obtain ⟨other, present, held⟩ := has
  rcases workers_setWorker present with ⟨same, rfl⟩ | ⟨_, old⟩
  · exact ⟨w, same ▸ found, token _ held⟩
  · exact ⟨other, old, held⟩

theorem Clean.setWorker (clean : Clean s h) (found : s.workers i = some w)
    (token : ∀ k, w'.phase.token = some k → w.phase.token = some k)
    (loses : ∀ job ∈ invalidated, job ∈ h.invalidated ∨ job.1 = i ∧ s.has job)
    (jobs : Jobs (s.setWorker i w') { h with inFlight, invalidated }) :
    Clean (s.setWorker i w') { h with inFlight, invalidated } := by
  have delivered (p : Nat) (j : SourceId) (k : Nat) (before : Delivered s h p j k) :
      Delivered (s.setWorker i w') { h with inFlight, invalidated } p j k := by
    refine ⟨before.requested, before.unexpired, fun member => ?_, before.settled, fun other present held => ?_⟩
    · rcases loses (j, k) member with old | ⟨_, v, at', held⟩
      · exact before.valid old
      · exact before.taken v at' held
    · obtain ⟨v, at', held⟩ : s.has (j, k) := has_setWorker found token ⟨other, present, held⟩
      exact before.taken v at' held
  refine ⟨jobs, fun j other k present held => ?_, clean.requested, clean.pending, clean.unvisited, clean.later,
    fun j result gathered => delivered _ j _ (clean.gathered j result gathered), clean.body, clean.entered,
    clean.cameras, fun e member j result gathered =>
      delivered _ j _ (clean.delivered e member j result gathered)⟩
  obtain ⟨v, at', held⟩ : s.has (j, k) := has_setWorker found token ⟨other, present, held⟩
  exact clean.known j v k at' held

theorem Clean.drops (clean : Clean s h) (found : s.workers i = some w)
    (token : ∀ k, w'.phase.token = some k → w.phase.token = some k) (next : w'.nextToken = w.nextToken)
    (generation : w'.generation = w.generation)
    (older : ∀ g, w'.phase.generation? = some g → w.phase.generation? = some g)
    (kept : ∀ k, w'.phase.token = some k → w'.phase.generation? = w.phase.generation? ∨ (i, k) ∉ h.invalidated)
    (flies : inFlight = update h.inFlight i w'.phase.calls) :
    Clean (s.setWorker i w') { h with inFlight } := by
  have before := clean.jobs.workers i w found
  refine clean.setWorker found token (fun job member => .inl member)
    (clean.jobs.setWorker found next.ge (fun p j k member => .inl member) clean.jobs.once
      (fun job member => .inl member) ⟨fun k held => ?_, fun g at' => ?_, fun k held member => ?_⟩ flies)
  · rw [next]
    exact before.last k (token k held)
  · rw [generation]
    exact before.older g (older g at')
  · rw [generation]
    have same := (kept k held).resolve_right (not_not_intro member)
    rw [same]
    exact before.lost k (token k held) member

theorem Clean.takes {result} (clean : Clean s h) (found : s.workers i = some w)
    (taken : w.takeCompleted = (some result, w')) : Clean (s.setWorker i w') h := by
  unfold Worker.takeCompleted at taken
  split at taken
  · rename_i held
    obtain ⟨_, rfl⟩ := Prod.mk.inj taken
    have still : h.inFlight i = 0 := by
      rw [clean.jobs.flying i, found]
      simp [held, calls]
    exact clean.drops found nofun rfl rfl nofun nofun (Function.update_eq_self_iff.mpr still.symm).symm
  · exact absurd (Prod.mk.inj taken).1 nofun

theorem Clean.invalidate (clean : Clean s h) (found : s.workers i = some w) : Clean (s.setWorker i w.invalidate)
      { h with invalidated := h.invalidated ++ (s.outstanding i).toList } := by
  have before := clean.jobs.workers i w found
  have token (k : Nat) (held : w.invalidate.phase.token = some k) : w.phase.token = some k := by
    cases phase : w.phase <;> simp_all [Worker.invalidate, token]
  have generation (g : Nat) : w.invalidate.phase.generation? = some g ↔ w.phase.generation? = some g := by
    cases phase : w.phase <;> simp [phase, Worker.invalidate, generation?]
  have loses : ∀ job ∈ h.invalidated ++ (s.outstanding i).toList,
      job ∈ h.invalidated ∨ job.1 = i ∧ s.has job := by
    intro job member
    refine (List.mem_append.mp member).imp_right fun lost => ?_
    obtain ⟨k, held, rfl⟩ := Option.map_eq_some_iff.mp (Option.mem_toList.mp lost)
    rw [found] at held
    exact ⟨rfl, w, found, held⟩
  have jobs : Jobs (s.setWorker i w.invalidate)
      { h with invalidated := h.invalidated ++ (s.outstanding i).toList } := by
    refine clean.jobs.setWorker found le_rfl (fun p j k member => .inl member)
      clean.jobs.once loses ⟨fun k held => before.last k (token k held), fun g at' => ?_, fun k held _ => ?_⟩ ?_
    · exact (before.older g ((generation g).mp at')).trans (Nat.le_succ _)
    · have held' := token k held
      cases phase : w.phase with
      | idle =>
        rw [phase] at held'
        cases held'
      | completed =>
        simp only [Worker.invalidate, phase] at held
        cases held
      | scheduled g | taken g | capturing g =>
        have at' : w.phase.generation? = some g := by
          rw [phase]
          rfl
        exact ⟨g, (generation g).mpr at', Nat.lt_succ_of_le (before.older g at')⟩
    · refine (Function.update_eq_self_iff.mpr ?_).symm
      rw [clean.jobs.flying i, found]
      cases phase : w.phase <;> simp [phase, Worker.invalidate, calls]
  exact clean.setWorker found token loses jobs

end

/-! ## The publication -/

section

variable {h : Trace σ} {publisher : Publisher σ} {reported expired : Finset (SourceId × Nat)}
  {publication : Nat} {sources : List SourceId} {gathered : SourceId → Option SourceResult}

variable {i : SourceId} {turn : Turn σ}

theorem Delivered.moves {p} {k} (clean : Clean s h) (delivered : Delivered s h p i k)
    (late : ∀ job ∈ expired, job ∈ h.expired ∨ job ∈ s.publisher.pending ∨ job.2 = 0 ∨ s.has job)
    (fewer : ∀ job ∈ publisher.pending, job ∈ s.publisher.pending) :
    Delivered { s with publisher, reportedTimeouts := reported }
      { h with expired, publication, sources, gathered } p i k := by
  refine ⟨delivered.requested, fun member => ?_, delivered.valid,
    fun member => delivered.settled (fewer _ member), delivered.taken⟩
  rcases late (i, k) member with old | pending | zero | ⟨w, found, held⟩
  · exact delivered.unexpired old
  · exact delivered.settled pending
  · exact (clean.jobs.positive p i k delivered.requested).ne' zero
  · exact delivered.taken w found held

theorem Clean.moves (clean : Clean s h) (reports : reported ⊆ expired)
    (late : ∀ job ∈ expired, job ∈ h.expired ∨ job ∈ s.publisher.pending ∨
      job.2 = 0 ∧ s.numbered job ∨ s.has job)
    (known : ∀ job, s.has job → job ∈ s.reportedTimeouts ∨ job ∈ s.publisher.pending →
      job ∈ reported ∨ job ∈ publisher.pending)
    (requested : ∀ job ∈ publisher.requested, (publication, job) ∈ h.requests ∧ job ∉ expired)
    (fewer : ∀ job ∈ publisher.pending, job ∈ s.publisher.pending) (pending : publisher.pending.Nodup)
    (unvisited : publisher.unvisited.Nodup) (later : ∀ job ∈ publisher.pending, job.1 ∉ publisher.unvisited)
    (keeps : ∀ i result, publisher.gathered gathered i = some result →
      Delivered { s with publisher, reportedTimeouts := reported }
        { h with expired, publication, sources, gathered } publication i result.token)
    (body : ∀ body, publisher.body = some body → body.cameras = frames sources gathered) :
    Clean { s with publisher, reportedTimeouts := reported }
      { h with expired, publication, sources, gathered } where
  jobs := { clean.jobs with
    reported := reports
    expired := fun job member => by
      rcases late job member with before | waits | zero | has
      · exact clean.jobs.expired job before
      · exact clean.jobs.requests _ _ _ (clean.requested job (mem_requested waits)).1
      · exact zero.2
      · exact has.numbered clean.jobs }
  known i w k found held := known (i, k) ⟨w, found, held⟩ (clean.known i w k found held)
  requested := requested
  pending := pending
  unvisited := unvisited
  later := later
  gathered := keeps
  body := body
  entered := clean.entered
  cameras := clean.cameras
  delivered e member i result found := (clean.delivered e member i result found).moves clean
    (fun job member => (late job member).imp_right fun rest =>
      rest.imp_right fun rest => rest.imp_left And.left) fewer

theorem Clean.goes (clean : Clean s h) (before : s.publisher.pending = []) (none' : publisher.requested = [])
    (unvisited : publisher.unvisited.Nodup)
    (keeps : ∀ i result, publisher.gathered gathered i = some result →
      publication = h.publication ∧ s.publisher.gathered h.gathered i = some result)
    (body : ∀ body, publisher.body = some body → body.cameras = frames sources gathered) :
    Clean { s with publisher } { h with publication, sources, gathered } := by
  have still : publisher.pending = [] :=
    List.eq_nil_iff_forall_not_mem.mpr fun job member =>
      absurd (mem_requested member) (none' ▸ not_mem_nil)
  have fewer : ∀ job ∈ publisher.pending, job ∈ s.publisher.pending := by
    rw [still]
    nofun
  refine clean.moves clean.jobs.reported (fun job member => .inl member) (fun job _ known => ?_) ?_ fewer ?_
    unvisited ?_ (fun i result found => ?_) body
  · exact known.imp_right fun member => by
      rw [before] at member
      cases member
  · rw [none']
    nofun
  · rw [still]
    exact nodup_nil
  · rw [still]
    nofun
  · obtain ⟨same, held⟩ := keeps i result found
    rw [same]
    exact (clean.gathered i result held).moves clean (fun job member => .inl member) fewer

theorem Clean.revisits {here next} {visit again} (clean : Clean s h)
    (stage : s.publisher = .collecting turn here visit) (suffix : next <:+ here)
    (reports : reported ⊆ expired)
    (late : ∀ job ∈ expired, job ∈ h.expired ∨ job.2 = 0 ∧ s.numbered job ∨ s.has job)
    (unexpired : ∀ job ∈ turn.pending, job ∉ expired)
    (known : ∀ job, s.has job → job ∈ s.reportedTimeouts → job ∈ reported) :
    Clean { s with publisher := .collecting turn next again, reportedTimeouts := reported }
      { h with expired } := by
  have late' : ∀ job ∈ expired, job ∈ h.expired ∨ job ∈ s.publisher.pending ∨
      job.2 = 0 ∧ s.numbered job ∨ s.has job := fun job member => (late job member).imp_right .inr
  have same : s.publisher.pending = turn.pending := by
    rw [stage]
    rfl
  have left : s.publisher.unvisited = here := by
    rw [stage]
    rfl
  have fewer : ∀ job ∈ turn.pending, job ∈ s.publisher.pending := fun job member => same ▸ member
  refine clean.moves reports late' (fun job has before => ?_) (fun job member => ⟨?_, unexpired job member⟩)
    fewer ?_ ?_ (fun job member left' => ?_) (fun j result found => ?_) nofun
  · refine before.imp (known job has) fun member => ?_
    rw [same] at member
    exact member
  · exact (clean.requested job (mem_requested (fewer job member))).1
  · have before := clean.pending
    rw [same] at before
    exact before
  · exact (left ▸ clean.unvisited).sublist suffix.sublist
  · exact clean.later job (fewer job member) (left ▸ suffix.subset left')
  · have held : s.publisher.gathered h.gathered j = some result := by
      rw [stage]
      exact found
    exact (clean.gathered j result held).moves clean (fun job member => (late' job member).imp_right fun rest =>
        rest.imp_right fun rest => rest.imp_left And.left) fewer

variable {rest : List SourceId} {visit : Visit} {w w' : Worker} {token : Nat}

theorem Clean.requests (clean : Clean s h) (stage : s.publisher = .collecting turn (i :: rest) visit)
    (found : s.workers i = some w) (requests : w.request = (some token, w')) :
    Clean { s.setWorker i w' with
        publisher := .collecting { turn with pending := turn.pending ++ [(i, token)] } rest .take }
      { h with requests := h.requests ++ [(h.publication, i, token)] } := by
  have same : s.publisher.pending = turn.pending := by
    rw [stage]
    rfl
  have left : s.publisher.unvisited = i :: rest := by
    rw [stage]
    rfl
  obtain ⟨idle, issued, next, generation, phase⟩ : w.phase = .idle ∧ token = w.nextToken + 1 ∧
      w'.nextToken = token ∧ w'.generation = w.generation ∧ w'.phase = .scheduled w.generation token := by
    unfold Worker.request at requests
    split at requests
    · rename_i idle
      obtain ⟨same, rfl⟩ := Prod.mk.inj requests
      cases same
      exact ⟨idle, rfl, rfl, rfl, rfl⟩
    · exact absurd (Prod.mk.inj requests).1 nofun
  -- no job has this number yet
  have fresh : ¬s.numbered (i, token) := by
    rintro ⟨other, at', bound⟩
    obtain rfl := Option.some.inj (found.symm.trans at')
    rw [issued] at bound
    exact Nat.not_succ_le_self _ bound
  have numbered : (s.setWorker i w').numbered (i, token) := ⟨w', update_self .., next.ge⟩
  have unrequested : (i, token) ∉ h.requests.map Prod.snd := by
    intro member
    obtain ⟨⟨p, j, k⟩, requested, equal⟩ := List.mem_map.mp member
    obtain ⟨rfl, rfl⟩ := Prod.mk.inj equal
    exact fresh (clean.jobs.requests p _ _ requested)
  have tended : Tended h.invalidated i w' := by
    refine ⟨fun k held => ?_, fun g at' => ?_, fun k held member => ?_⟩
    · rw [phase] at held
      exact (Option.some.inj held).symm.trans next.symm
    · rw [phase] at at'
      exact generation ▸ (Option.some.inj at').symm.le
    · rw [phase] at held
      cases held
      exact absurd (clean.jobs.invalidated _ member) fresh
  have still : h.inFlight = update h.inFlight i w'.phase.calls := by
    refine (Function.update_eq_self_iff.mpr ?_).symm
    rw [clean.jobs.flying i, found, phase]
    simp [idle, calls]
  have jobs : Jobs (s.setWorker i w') { h with requests := h.requests ++ [(h.publication, i, token)] } := by
    refine clean.jobs.setWorker found (next ▸ issued ▸ Nat.le_succ _) (fun p j k member => ?_) ?_
      (fun job member => .inl member) tended still
    · refine (List.mem_append.mp member).imp_right fun new => ?_
      obtain ⟨-, rfl, rfl⟩ := Prod.mk.injEq _ _ _ _ ▸ List.mem_singleton.mp new
      exact ⟨issued ▸ Nat.succ_pos _, numbered⟩
    · rw [map_append]
      exact List.nodup_append_comm.mp (List.nodup_cons.mpr ⟨unrequested, clean.jobs.once⟩)
  have delivered (p : Nat) (j : SourceId) (k : Nat) (before : Delivered s h p j k) :
      Delivered { s.setWorker i w' with
        publisher := .collecting { turn with pending := turn.pending ++ [(i, token)] } rest .take }
        { h with requests := h.requests ++ [(h.publication, i, token)] } p j k := by
    refine ⟨mem_append_left _ before.requested, before.unexpired, before.valid, fun member => ?_,
      fun other present held => ?_⟩
    · rcases List.mem_append.mp member with old | new
      · exact before.settled (same ▸ old)
      · exact fresh (List.mem_singleton.mp new ▸ clean.jobs.requests p j k before.requested)
    · rcases workers_setWorker present with ⟨rfl, rfl⟩ | ⟨_, old⟩
      · rw [phase] at held
        cases held
        exact fresh (clean.jobs.requests p _ _ before.requested)
      · exact before.taken other old held
  have unvisited : (i :: rest).Nodup := left ▸ clean.unvisited
  refine ⟨{ jobs with }, fun j other k present held => ?_, fun job member => ?_, ?_, unvisited.of_cons,
    fun job member => ?_, fun j result found =>
      delivered _ j _ (clean.gathered j result ?_), nofun, clean.entered,
    clean.cameras, fun e member j result gathered =>
      delivered _ j _ (clean.delivered e member j result gathered)⟩
  · rcases workers_setWorker present with ⟨rfl, rfl⟩ | ⟨_, old⟩
    · rw [phase] at held
      cases held
      exact .inr (List.mem_append_right _ (List.mem_singleton_self _))
    · exact (clean.known j other k old held).imp_right fun member => mem_append_left _ (same ▸ member)
  · rcases List.mem_append.mp member with old | new
    · have before := clean.requested job (mem_requested (same ▸ old))
      exact ⟨mem_append_left _ before.1, before.2⟩
    · obtain rfl := List.mem_singleton.mp new
      exact ⟨List.mem_append_right _ (List.mem_singleton_self _),
        fun expired => fresh (clean.jobs.expired _ expired)⟩
  · refine List.nodup_append_comm.mp (List.nodup_cons.mpr ⟨fun member => ?_, same ▸ clean.pending⟩)
    exact fresh (clean.jobs.requests _ _ _ (clean.requested _ (mem_requested (same ▸ member))).1)
  · rcases List.mem_append.mp member with old | new
    · exact fun behind => clean.later job (same ▸ old) (left ▸ mem_cons_of_mem _ behind)
    · obtain rfl := List.mem_singleton.mp new
      exact (List.nodup_cons.mp unvisited).1
  · rw [stage]
    exact found

theorem has_takes {result} {job}
    (taken : w.takeCompleted = (some result, w')) (has : (s.setWorker i w').has job) :
    s.has job ∧ job.1 ≠ i := by
  obtain ⟨other, present, held⟩ := has
  rcases workers_setWorker present with ⟨_, rfl⟩ | ⟨apart, old⟩
  · rw [(takeCompleted_some taken).2] at held
    cases held
  · exact ⟨⟨other, old, held⟩, apart⟩

theorem Clean.collect {w} (clean : Clean s h)
    (stage : s.publisher = .collecting turn (i :: rest) visit) (found : s.workers i = some w) :
    Clean (s.collect turn i rest visit w) (note s .collect (s.collect turn i rest visit w) h) := by
  have same : s.publisher.pending = turn.pending := by
    rw [stage]
    rfl
  have apart : ∀ job ∈ turn.pending, job.1 ≠ i := fun job member equal => by
    have behind := clean.later job (same ▸ member)
    rw [stage] at behind
    exact behind (equal ▸ mem_cons_self)
  have unexpired : ∀ job ∈ turn.pending, job ∉ h.expired := fun job member =>
    (clean.requested job (mem_requested (same ▸ member))).2
  -- a section that requests nothing, and records nothing that was not recorded before
  have quiet {u : State σ} (unissued : s.issued = none) (reports : u.reportedTimeouts ⊆ h.expired) :
      note s .collect u h = h := by
    simp only [note, unissued, toList_none, map_nil, append_nil, Finset.union_eq_left.mpr reports]
  have stays (again : Visit) (unissued : s.issued = none) :
      let u : State σ := { s with publisher := .collecting turn (i :: rest) again }
      Clean u (note s .collect u h) := by
    intro u
    rw [quiet (u := u) unissued clean.jobs.reported]
    exact clean.revisits stage (suffix_refl _) clean.jobs.reported (fun job member => .inl member)
      unexpired fun job _ member => member
  have silent (other : visit ≠ .request ∧ visit ≠ .requestAgain) : s.issued = none := by
    unfold State.issued
    rw [stage]
    cases visit <;> first | rfl | exact absurd rfl other.1 | exact absurd rfl other.2
  cases visit
  case take | takeAgain =>
    have unissued := silent ⟨(by simp), (by simp)⟩
    dsimp only [State.collect]
    split
    · rename_i result w' taken
      have held := (takeCompleted_some taken).1
      split
      · have reports := (erase_subset (i, result.token) _).trans clean.jobs.reported
        rw [quiet unissued reports]
        refine (clean.takes found taken).revisits stage (suffix_refl _) reports
          (fun job member => .inl member) unexpired fun job has member => ?_
        exact Finset.mem_erase.mpr ⟨fun equal => (has_takes taken has).2 (congrArg Prod.fst equal), member⟩
      · rename_i unreported
        -- a source that is not visited yet has nothing pending
        have known := clean.known i w result.token found (by rw [held]; rfl)
        exact absurd rfl (apart _ (same ▸ known.resolve_left unreported))
    · exact stays _ unissued
  case request | requestAgain =>
    have issued : s.issued = w.request.1.map fun token => (i, token) := by
      simp only [State.issued, stage, found, bind_some]
    dsimp only [State.collect]
    split
    · rename_i token w' requests
      rw [requests] at issued
      have after := clean.requests stage found requests
      simp only [note, issued, map_some, toList_some, List.map_cons, List.map_nil]
      have unchanged : h.expired ∪ s.reportedTimeouts = h.expired :=
        Finset.union_eq_left.mpr clean.jobs.reported
      change Clean _ { h with requests := _, expired := h.expired ∪ s.reportedTimeouts }
      rw [unchanged]
      exact after
    · rename_i refused
      rw [refused] at issued
      exact stays _ issued
  case active =>
    have unissued := silent ⟨(by simp), (by simp)⟩
    simp only [State.collect, note, unissued, toList_none, map_nil, append_nil]
    have last := (clean.jobs.workers i w found).last
    have named : w.activeToken.getD 0 = 0 ∨ s.has (i, w.activeToken.getD 0) := by
      cases phase : w.phase with
      | idle | completed => exact .inl (by simp [Worker.activeToken, phase])
      | scheduled => exact .inr ⟨w, found, by simp [Worker.activeToken, phase, token]⟩
      | taken g token | capturing g token =>
        refine .inr ⟨w, found, ?_⟩
        rw [phase] at last
        simp [Worker.activeToken, phase, Phase.token, last token rfl]
    refine clean.revisits stage (suffix_cons _ _) subset_union_right (fun job member => ?_)
      (fun job member => ?_) fun job _ member => mem_insert_of_mem member
    · rcases Finset.mem_union.mp member with old | new
      · exact .inl old
      · rcases Finset.mem_insert.mp new with rfl | old
        · refine .inr (named.imp (fun zero => ⟨zero, w, found, ?_⟩) id)
          change w.activeToken.getD 0 = 0 at zero
          change w.activeToken.getD 0 ≤ w.nextToken
          rw [zero]
          exact Nat.zero_le _
        · exact .inl (clean.jobs.reported old)
    · intro late
      rcases Finset.mem_union.mp late with old | new
      · exact unexpired job member old
      · rcases Finset.mem_insert.mp new with rfl | old
        · exact apart _ member rfl
        · exact unexpired job member (clean.jobs.reported old)

theorem Clean.polls {turn after} {here ahead} (polled : SourceId × Nat)
    (clean : Clean s h) (stage : s.publisher = .polling turn here) (sub : ahead ⊆ turn.pending ++ here)
    (reports : reported ⊆ h.expired)
    (known : ∀ job, s.has job → job ∈ s.reportedTimeouts ∨ job ∈ turn.pending →
      job ∈ reported ∨ job ∈ after.pending)
    (fewer : after.pending.Sublist turn.pending)
    (results : ∀ j result, after.results j = some result → turn.results j = some result ∨
      (j, result.token) = polled ∧ polled ∈ here ∧ polled ∉ h.invalidated ∧ polled ∉ after.pending ∧
        ¬s.has polled) :
    Clean { s with publisher := .polling after ahead, reportedTimeouts := reported } h := by
  have same : s.publisher.pending = turn.pending := by
    rw [stage]
    rfl
  have asked : s.publisher.requested = turn.pending ++ here := by
    rw [stage]
    rfl
  have before := clean.pending
  rw [same] at before
  have fewer' : ∀ job ∈ after.pending, job ∈ s.publisher.pending := fun job member => by
    rw [same]
    exact fewer.subset member
  refine clean.moves reports (fun job member => .inl member) (fun job has either => ?_)
    (fun job member => clean.requested job ?_) fewer' (before.sublist fewer) nodup_nil
    (fun job _ => not_mem_nil) (fun j result found => ?_) nofun
  · rw [same] at either
    exact known job has either
  · rw [asked]
    rcases List.mem_append.mp member with pending | rest
    · exact mem_append_left _ (fewer.subset pending)
    · exact sub rest
  · rcases results j result found with old | ⟨rfl, here', valid, settled, left⟩
    · have held : s.publisher.gathered h.gathered j = some result := by
        rw [stage]
        exact old
      exact (clean.gathered j result held).moves clean (fun job member => .inl member) fewer'
    · have requested := clean.requested (j, result.token) (asked ▸ mem_append_right _ here')
      exact ⟨requested.1, requested.2, valid, settled, fun w found held => left ⟨w, found, held⟩⟩

theorem Clean.poll {ahead} {w} (clean : Clean s h)
    (stage : s.publisher = .polling turn ((i, token) :: ahead)) (found : s.workers i = some w) :
    Clean (s.poll turn i token ahead w) h := by
  have sub : ahead ⊆ turn.pending ++ (i, token) :: ahead := fun job member =>
    mem_append_right _ (mem_cons_of_mem _ member)
  have same : s.publisher.pending = turn.pending := by
    rw [stage]
    rfl
  have before := clean.pending
  rw [same] at before
  unfold State.poll
  split
  · exact clean.polls (i, token) stage sub clean.jobs.reported (fun job _ either => either)
      (List.Sublist.refl _) (fun j result held => .inl held)
  · rename_i result w' taken
    have held := (takeCompleted_some taken).1
    have after := clean.takes found taken
    split
    · exact after.polls (i, token) stage sub clean.jobs.reported (fun job _ either => either)
        (List.Sublist.refl _) (fun j result held => .inl held)
    · rename_i current
      obtain rfl : result.token = token := not_not.mp current
      have valid : (i, result.token) ∉ h.invalidated := by
        intro lost
        obtain ⟨g, at', _⟩ := (clean.jobs.workers i w found).lost result.token (by rw [held]; rfl) lost
        rw [held] at at'
        cases at'
      refine after.polls (i, result.token) stage sub ((erase_subset _ _).trans clean.jobs.reported)
        (fun job has either => ?_) erase_sublist (fun j other held => ?_)
      · have apart : job ≠ (i, result.token) := fun equal => (has_takes taken has).2 (congrArg Prod.fst equal)
        exact either.imp (fun member => Finset.mem_erase.mpr ⟨apart, member⟩)
          fun member => (mem_erase_of_ne apart).mpr member
      · dsimp only at held
        by_cases here : j = i
        · subst here
          rw [update_self] at held
          cases held
          exact .inr ⟨rfl, mem_cons_self, valid, before.not_mem_erase, fun has => (has_takes taken has).2 rfl⟩
        · rw [update_of_ne here] at held
          exact .inl held

theorem Clean.passes {timeUp} (clean : Clean s h) (stage : s.publisher = .polling turn []) :
    Clean (s.passes turn timeUp) { h with expired := h.expired ∪ (s.passes turn timeUp).reportedTimeouts } := by
  have same : s.publisher.pending = turn.pending := by
    rw [stage]
    rfl
  have unchanged : h.expired ∪ s.reportedTimeouts = h.expired := Finset.union_eq_left.mpr clean.jobs.reported
  have gathered (j : SourceId) (result : SourceResult) (held : turn.results j = some result) :
      s.publisher.gathered h.gathered j = some result := by
    rw [stage]
    exact held
  unfold State.passes
  split
  · rename_i empty
    change Clean _ { h with expired := h.expired ∪ s.reportedTimeouts }
    rw [unchanged]
    exact clean.goes (same.trans empty) rfl nodup_nil (fun j result held => ⟨rfl, gathered j result held⟩) nofun
  split
  · have late : ∀ job ∈ h.expired ∪ (s.reportedTimeouts ∪ turn.pending.toFinset),
        job ∈ h.expired ∨ job ∈ s.publisher.pending := by
      intro job member
      rw [← union_assoc, unchanged] at member
      exact (Finset.mem_union.mp member).imp_right fun pending => same ▸ List.mem_toFinset.mp pending
    refine clean.moves subset_union_right (fun job member => (late job member).imp_right .inl)
      (fun job _ either => .inl ?_) nofun nofun nodup_nil nodup_nil nofun
      (fun j result held => ?_) nofun
    · refine Finset.mem_union.mpr (either.imp_right fun pending => List.mem_toFinset.mpr ?_)
      rw [same] at pending
      exact pending
    · exact (clean.gathered j result (gathered j result held)).moves clean
        (fun job member => (late job member).imp_right .inl) nofun
  · change Clean _ { h with expired := h.expired ∪ s.reportedTimeouts }
    rw [unchanged]
    exact clean.polls ([], 0) stage (fun job member => mem_append_left _ member)
      clean.jobs.reported (fun job _ either => either) (List.Sublist.refl _) fun j result held => .inl held

end

/-! ## Every step -/

section

variable {h : Trace σ}

theorem Clean.setStore {store} (clean : Clean s h) : Clean { s with store } h :=
  { clean with
    jobs := { clean.jobs with }
    gathered := fun i result found => { clean.gathered i result found with }
    delivered := fun e member i result found => { clean.delivered e member i result found with } }

theorem Clean.setReconnect {c} {stage} (clean : Clean s h) : Clean (s.setReconnect c stage) h :=
  { clean with
    jobs := { clean.jobs with }
    gathered := fun i result found => { clean.gathered i result found with }
    delivered := fun e member i result found => { clean.delivered e member i result found with } }

theorem Clean.creates {i} (clean : Clean s h) (new : i ∉ s.sources) :
    Clean { s.setWorker i {} with sources := s.sources ++ [i] } h := by
  have absent : s.workers i = none :=
    Option.eq_none_iff_forall_ne_some.mpr fun w found => new (clean.jobs.owned i w found)
  have numbered (job : SourceId × Nat) (before : s.numbered job) :
      State.numbered { s.setWorker i {} with sources := s.sources ++ [i] } job := by
    obtain ⟨w, found, bound⟩ := before
    have apart : job.1 ≠ i := fun equal => by
      rw [equal, absent] at found
      cases found
    exact ⟨w, (update_of_ne apart ..).trans found, bound⟩
  have delivered (p : Nat) (j : SourceId) (k : Nat) (before : Delivered s h p j k) :
      Delivered { s.setWorker i {} with sources := s.sources ++ [i] } h p j k := by
    refine { before with taken := fun w found held => ?_ }
    rcases workers_setWorker found with ⟨_, rfl⟩ | ⟨_, old⟩
    · cases held
    · exact before.taken w old held
  have jobs := clean.jobs
  refine { clean with
    jobs := { jobs with
      owned := fun j w found => ?_
      sources := List.nodup_append_comm.mp (List.nodup_cons.mpr ⟨new, jobs.sources⟩)
      requests := fun p j k member => numbered _ (jobs.requests p j k member)
      expired := fun job member => numbered _ (jobs.expired job member)
      invalidated := fun job member => numbered _ (jobs.invalidated job member)
      workers := fun j w found => ?_
      flying := fun j => ?_ }
    known := fun j w k found held => ?_
    gathered := fun j result found => delivered _ j _ (clean.gathered j result found)
    delivered := fun e member j result found => delivered _ j _ (clean.delivered e member j result found) }
  · rcases workers_setWorker found with ⟨rfl, _⟩ | ⟨_, old⟩
    · exact List.mem_append_right _ (List.mem_singleton_self _)
    · exact mem_append_left _ (jobs.owned j w old)
  · rcases workers_setWorker found with ⟨_, rfl⟩ | ⟨_, old⟩
    · exact ⟨nofun, nofun, nofun⟩
    · exact jobs.workers j w old
  · change h.inFlight j = ((update s.workers i (some {}) j).map fun w => w.phase.calls).getD 0
    by_cases same : j = i
    · subst same
      rw [update_self, jobs.flying, absent]
      rfl
    · rw [update_of_ne same]
      exact jobs.flying j
  · rcases workers_setWorker found with ⟨_, rfl⟩ | ⟨_, old⟩
    · cases held
    · exact clean.known j w k old held

/-- **A section of the producer**: whatever it gathers answers a request of the publication under
way, and whatever was gathered is never given up. -/
theorem clean_step (clean : Clean s h) (next : step cfg s l = some t) : Clean t (note s l t h) := by
  cases l with
  | publishOnce =>
    simp only [step] at next
    split at next
    · rename_i stage
      cases next
      exact clean.goes (by rw [stage]; rfl) rfl nodup_nil (by rintro _ _ ⟨⟩) (by rintro _ ⟨⟩)
    · cases next
  | readBegins =>
    simp only [step] at next
    split at next
    · rename_i stage
      split at next <;> cases next
      · exact clean.goes (by rw [stage]; rfl) rfl nodup_nil (by rintro _ _ ⟨⟩) (by rintro _ ⟨⟩)
      · exact clean.goes (by rw [stage]; rfl) rfl clean.jobs.sources (by rintro _ _ ⟨⟩) (by rintro _ ⟨⟩)
    · cases next
  | readReplies reply =>
    simp only [step] at next
    split at next
    · rename_i stage
      cases next
      exact clean.goes (by rw [stage]; rfl) rfl clean.jobs.sources (by rintro _ _ ⟨⟩) (by rintro _ ⟨⟩)
    · cases next
  | clockFails =>
    simp only [step] at next
    split at next
    · rename_i stage
      cases next
      exact clean.goes (by rw [stage]; rfl) rfl nodup_nil (by rintro _ _ ⟨⟩) (by rintro _ ⟨⟩)
    · rename_i stage
      cases next
      exact clean.goes (by rw [stage]; rfl) rfl nodup_nil (by rintro _ _ ⟨⟩) (by rintro _ ⟨⟩)
    · rename_i stage
      cases next
      exact clean.goes (by rw [stage]; rfl) rfl nodup_nil (by rintro _ _ ⟨⟩) (by rintro _ ⟨⟩)
    · cases next
  | collect =>
    simp only [step] at next
    split at next
    · rename_i turn visit stage
      cases next
      have unissued : s.issued = none := by
        unfold State.issued
        rw [stage]
      simp only [note, unissued, toList_none, map_nil, append_nil, Finset.union_eq_left.mpr clean.jobs.reported]
      have pending : s.publisher.pending = turn.pending := by
        rw [stage]
        rfl
      have same (job : SourceId × Nat) : job ∈ s.publisher.pending ↔ job ∈ turn.pending := by rw [pending]
      have nodup := clean.pending
      rw [pending] at nodup
      refine clean.moves clean.jobs.reported (fun job member => .inl member)
        (fun job _ either => either.imp_right (same job).mp) (fun job member => clean.requested job ?_)
        (fun job => (same job).mpr) nodup nodup_nil (fun job _ => not_mem_nil)
        (fun j result found => ?_) (by rintro _ ⟨⟩)
      · exact mem_requested ((same job).mpr ((List.mem_append.mp member).elim id id))
      · have held : s.publisher.gathered h.gathered j = some result := by
          rw [stage]
          exact found
        exact (clean.gathered j result held).moves clean (fun job member => .inl member)
          fun job => (same job).mpr
    · rename_i turn i rest visit stage
      obtain ⟨w, found, rfl⟩ := Option.map_eq_some_iff.mp next
      exact clean.collect stage found
    · cases next
  | poll =>
    simp only [step] at next
    split at next
    · rename_i turn i token ahead stage
      obtain ⟨w, found, rfl⟩ := Option.map_eq_some_iff.mp next
      exact clean.poll stage found
    · cases next
  | passes timeUp =>
    simp only [step] at next
    split at next
    · rename_i turn stage
      cases next
      exact clean.passes stage
    · cases next
  | check =>
    simp only [step] at next
    split at next
    · rename_i turn stage
      have before : s.publisher.pending = [] := by
        rw [stage]
        rfl
      simp only [note, stage]
      split at next <;> cases next
      · exact clean.goes before rfl nodup_nil (by rintro _ _ ⟨⟩) (by rintro _ ⟨⟩)
      · refine clean.goes before rfl nodup_nil (fun j result found => ⟨rfl, ?_⟩) fun body held => ?_
        · rw [stage]
          exact found
        · cases held
          rfl
    · cases next
  | allocate =>
    simp only [step] at next
    split at next
    · rename_i generation body stage
      have before : s.publisher.pending = [] := by
        rw [stage]
        rfl
      have made := clean.body body (by rw [stage]; rfl)
      split at next <;> cases next
      · exact clean.goes before rfl nodup_nil (by rintro _ _ ⟨⟩) (by rintro _ ⟨⟩)
      · have goes (snapshot : Snapshot (Body σ)) (same : snapshot.body = body) :
            Clean { s with publisher := .allocated snapshot } h := by
          refine clean.goes before rfl nodup_nil (fun j result found => ⟨rfl, ?_⟩) fun other held => ?_
          · rw [stage]
            exact found
          · cases held
            rw [same]
            exact made
        exact (goes _ rfl).setStore
    · cases next
  | publish =>
    simp only [step] at next
    split at next
    · rename_i snapshot stage
      have before : s.publisher.pending = [] := by
        rw [stage]
        rfl
      have ends : Clean { s with publisher := .idle } h :=
        clean.goes before rfl nodup_nil (by rintro _ _ ⟨⟩) (by rintro _ ⟨⟩)
      have made := clean.body snapshot.body (by rw [stage]; rfl)
      simp only [note, stage]
      split at next <;> cases next
      · rw [if_pos rfl]
        exact ends
      · rename_i store accepted
        rw [if_neg (by simp)]
        have gathered (j : SourceId) (result : SourceResult) (found : h.gathered j = some result) :
            Delivered { s with publisher := .idle } h h.publication j result.token := by
          have held : s.publisher.gathered h.gathered j = some result := by
            rw [stage]
            exact found
          exact (clean.gathered j result held).moves clean (fun job member => .inl member) (by rintro _ ⟨⟩)
        have moved : Clean { s with store, publisher := .idle } h := ends.setStore
        refine { moved with
          jobs := { moved.jobs with }
          gathered := (by rintro _ _ ⟨⟩)
          body := (by rintro _ ⟨⟩)
          entered := ?_
          cameras := fun e member => ?_
          delivered := fun e member j result found => ?_ }
        · rw [map_append]
          exact congrArg (· ++ [snapshot]) clean.entered
        · rcases List.mem_append.mp member with old | new
          · exact clean.cameras e old
          · obtain rfl := List.mem_singleton.mp new
            exact made
        · rcases List.mem_append.mp member with old | new
          · exact { ends.delivered e old j result found with }
          · obtain rfl := List.mem_singleton.mp new
            exact { gathered j result found with }
    · cases next
  | addCameraSource i =>
    simp only [step] at next
    split at next
    · split at next <;> cases next
      · exact clean
      · rename_i new
        exact clean.creates new
    · cases next
  | take i =>
    obtain ⟨w', taken, rfl⟩ := Option.map_eq_some_iff.mp next
    obtain ⟨w, found, taken⟩ := Option.bind_eq_some_iff.mp taken
    unfold Worker.take at taken
    split at taken
    · rename_i generation token phase
      cases taken
      have still : h.inFlight i = 0 := by
        rw [clean.jobs.flying i, found]
        simp [phase, calls]
      refine clean.drops found (fun k held => ?_) rfl rfl (fun g at' => ?_) (fun k _ => .inl ?_)
        (Function.update_eq_self_iff.mpr still.symm).symm
      · rw [phase]
        exact held
      · rw [phase]
        exact at'
      · rw [phase]
        rfl
    · cases taken
  | captureBegins i =>
    obtain ⟨w', taken, rfl⟩ := Option.map_eq_some_iff.mp next
    obtain ⟨w, found, taken⟩ := Option.bind_eq_some_iff.mp taken
    unfold Worker.capture at taken
    split at taken
    · rename_i generation token phase
      cases taken
      have still : h.inFlight i = 0 := by
        rw [clean.jobs.flying i, found]
        simp [phase, calls]
      refine clean.drops found (fun k held => ?_) rfl rfl (fun g at' => ?_) (fun k _ => .inl ?_) ?_
      · rw [phase]
        exact held
      · rw [phase]
        exact at'
      · rw [phase]
        rfl
      · rw [still]
        rfl
    · cases taken
  | captureEnds i value =>
    obtain ⟨w', taken, rfl⟩ := Option.map_eq_some_iff.mp next
    obtain ⟨w, found, taken⟩ := Option.bind_eq_some_iff.mp taken
    unfold Worker.complete at taken
    split at taken
    · rename_i generation token begun phase
      cases taken
      have flies : h.inFlight i = 1 := by
        rw [clean.jobs.flying i, found]
        simp [phase, calls]
      have lost := (clean.jobs.workers i w found).lost
      rw [phase] at lost
      refine clean.drops found (fun k held => ?_) rfl rfl (fun g at' => ?_) (fun k held => .inr ?_) ?_
      · rw [phase]
        dsimp only at held
        split at held
        · exact held
        · cases held
      · dsimp only at at'
        split at at' <;> cases at'
      · dsimp only at held
        split at held
        · rename_i current
          intro member
          obtain ⟨g, at', behind⟩ := lost k held member
          cases at'
          exact behind.ne current
        · cases held
      · rw [flies]
        dsimp only
        split <;> rfl
    · cases taken
  | reconnect =>
    simp only [step] at next
    split at next <;> cases next
    unfold State.reconnect
    split
    · exact clean.setReconnect
    split
    · exact clean.setReconnect
    split <;> exact clean.setReconnect
  | invalidate c =>
    have none' (absent : s.invalidates c = none) : note s (.invalidate c) t h = h := by
      simp only [note, absent, bind_none, toList_none, append_nil]
    simp only [step] at next
    split at next
    · rename_i size index stage
      split at next
      · rename_i grown
        rw [none' (by simp only [State.invalidates, stage, if_pos grown])]
        cases next
        exact clean.setReconnect
      rename_i same
      split at next
      · rename_i absent
        rw [none' (by simp only [State.invalidates, stage, if_neg same, absent])]
        cases next
        exact clean.setReconnect
      · rename_i i present
        obtain ⟨w, found, rfl⟩ := Option.map_eq_some_iff.mp next
        simp only [note, State.invalidates, stage, if_neg same, present, bind_some]
        exact (clean.invalidate found).setReconnect
    · rename_i i stage
      obtain ⟨w, found, rfl⟩ := Option.map_eq_some_iff.mp next
      simp only [note, State.invalidates, stage, bind_some]
      exact (clean.invalidate found).setReconnect
    · cases next
  | begins =>
    simp only [step] at next
    split at next
    · split at next <;> cases next
      · exact clean.setReconnect
      · exact clean.setReconnect.setStore
    · cases next

end

/-- **Late captures are never reused**: a snapshot's results answer requests of its publication, none
of them given up, and no source has two captures in flight. -/
theorem captures_answered {hasReader : Bool} {ls : List (Label σ)} {h : Trace σ}
    (ran : run (noted (step cfg) note) ({ hasReader }, {}) ls = some (s, h)) : Answered s h := by
  have keep (a : State σ × Trace σ) (l : Label σ) (b : State σ × Trace σ) (clean : Clean a.1 a.2)
      (next : noted (step cfg) note a l = some b) : Clean b.1 b.2 := by
    obtain ⟨moved, recorded⟩ := noted_eq_some.mp next
    rw [recorded]
    exact clean_step clean moved
  exact answered_of_clean (run_invariant keep clean_init ran)

/-- A capture that was late for its publication is thrown away by the next one, which asks again. -/
def lateThenFresh : List (Label Unit) :=
  [.publishOnce, .readBegins, .collect, .collect, .collect, .poll, .passes true, .take ['c'],
    .captureBegins ['c'], .captureEnds ['c'] (.ok [['f']]), .check, .allocate, .publish,
    .publishOnce, .readBegins, .collect, .collect, .collect, .take ['c'], .captureBegins ['c'],
    .captureEnds ['c'] (.ok [['f']]), .poll, .passes false, .check, .allocate, .publish]

theorem captures_answered_late : ∃ s h,
    run (noted (step camerasOnly) note) (({ hasReader := false } : State Unit), {})
        (.addCameraSource ['c'] :: lateThenFresh) = some (s, h) ∧
      Answered s h ∧ h.expired = {(['c'], 1)} ∧ h.requests = [(1, ['c'], 1), (2, ['c'], 2)] ∧
      s.published.map (fun snapshot => snapshot.body.cameras) = [[], [⟨['f'], 0⟩]] := by
  have facts : (run (noted (step camerasOnly) note) (({ hasReader := false } : State Unit), {})
        (.addCameraSource ['c'] :: lateThenFresh)).map (fun t =>
      decide (t.2.expired = {(['c'], 1)} ∧ t.2.requests = [(1, ['c'], 1), (2, ['c'], 2)] ∧
        t.1.published.map (fun snapshot => snapshot.body.cameras) = [[], [⟨['f'], 0⟩]])) = some true := by
    decide +kernel
  obtain ⟨⟨s, h⟩, ran, facts⟩ := Option.map_eq_some_iff.mp facts
  exact ⟨s, h, ran, captures_answered ran, of_decide_eq_true facts⟩

end EmbodiRun.Observations.Producer
