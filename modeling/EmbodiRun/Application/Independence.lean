/-
# Application.Independence -- whether the requests of one owner depend on the jobs of others

A request is looked for under its owner, and where the owner has none, by its `request_id`
alone.  So a job of another owner under the same `request_id` is found, and refused, before the
owner's first submission.

Capacity is left aside: no submission of the owner finds the table full.
-/
import EmbodiRun.Application.Execute
import EmbodiRun.Transition.Beside

namespace EmbodiRun.Application

open Data Devices Transition Dict State

def Label.of (o : Owner) : Label → Bool
  | .check c _ | .select c | .submit c _ | .answer c => c.owner = o
  | .task key _ _ => key.owner = o
  | .observe _ => true

/-- A request of the owner that finds no job of its own finds none of another owner either. -/
def Unclaimed (o : Owner) (s : State) : Label → Prop
  | .check c call => c.owner = o → call.request.admitted →
      s.jobs.get? (o.key call.requestId) = none → ∀ item ∈ s.jobs.items, item.1.requestId ≠ call.requestId
  | _ => True

def Roomy (cfg : Config) (o : Owner) (s : State) : Label → Prop
  | .submit c _ => c.owner = o → ∀ call selected, s.calls c = .submitting call selected →
      s.jobs.get? (o.key call.requestId) = none → s.jobs.items.length < cfg.maxJobs
  | .task key _ _ => key.owner = o → s.jobs.get? key = none → s.jobs.items.length < cfg.maxJobs
  | _ => True

/-- `u` is `s` without the jobs and calls of all others. -/
structure Related (o : Owner) (s u : State) : Prop where
  own : ∀ key : JobKey, key.owner = o → u.jobs.get? key = s.jobs.get? key
  only : ∀ key : JobKey, key.owner ≠ o → u.jobs.get? key = none
  fewer : u.jobs.items.length ≤ s.jobs.items.length
  view : u.view = s.view
  calls : ∀ c : CallId, c.owner = o → u.calls c = s.calls c
  answered : ∀ (c : CallId) (call : Call), c.owner = o → s.calls c = .answering call →
    (s.jobs.get? (o.key call.requestId)).isSome

def Agree (o : Owner) (s u : State) : Prop := ∀ c : CallId, c.owner = o → s.calls c = u.calls c

variable {cfg : Config} {o : Owner} {s t u v : State} {c : CallId} {l : Label}

theorem key_owner (o : Owner) (requestId : Text) : (o.key requestId).owner = o := rfl

theorem length_set_of_absent {κ α : Type} [DecidableEq κ] {d : Dict κ α} {k : κ} {x : α}
    (absent : d.get? k = none) : (d.set k x).items.length = d.items.length + 1 := by
  simp [Dict.set, absent]

theorem length_le_set {κ α : Type} [DecidableEq κ] (d : Dict κ α) (k : κ) (x : α) :
    d.items.length ≤ (d.set k x).items.length := by
  unfold Dict.set
  split <;> simp

/-! ## The sections of the owner -/

namespace Related

variable (related : Related o s u)

include related
variable {phase : Phase} {requestId : Text} {call : Call}

theorem put (answers : ∀ call, phase = .answering call → (s.jobs.get? (o.key call.requestId)).isSome) :
    Related o (s.put c phase) (u.put c phase) where
  own := related.own
  only := related.only
  fewer := related.fewer
  view := related.view
  calls d other := by
    by_cases same : d = c
    · simp [State.put, same]
    · simpa [State.put, same] using related.calls d other
  answered d call other answering := by
    by_cases same : d = c
    · exact answers call (by simpa [State.put, same] using answering)
    · exact related.answered d call other (by simpa [State.put, same] using answering)

variable {key : JobKey} {job : Job}

theorem accepted (mine : key.owner = o) (absent : s.jobs.get? key = none) :
    Related o { s with jobs := s.jobs.set key job } { u with jobs := u.jobs.set key job } where
  own k here := by
    by_cases same : k = key
    · rw [same, get?_set_self, get?_set_self]
    · rw [get?_set_of_ne same, get?_set_of_ne same, related.own k here]
  only k other := by
    have apart : k ≠ key := by
      rintro rfl
      exact other mine
    rw [get?_set_of_ne apart, related.only k other]
  fewer := by
    rw [length_set_of_absent absent, length_set_of_absent ((related.own key mine).trans absent)]
    exact Nat.succ_le_succ related.fewer
  view := related.view
  calls := related.calls
  answered d call other answering := by
    have present := related.answered d call other answering
    by_cases same : o.key call.requestId = key
    · rw [same, absent] at present
      cases present
    · rwa [get?_set_of_ne same]

theorem accept (mine : key.owner = o) (absent : s.jobs.get? key = none) (room : s.jobs.items.length < cfg.maxJobs) :
    ∃ t v, s.accept cfg key job = some t ∧ u.accept cfg key job = some v ∧ Related o t v ∧
      (t.jobs.get? key).isSome := by
  refine ⟨_, _, if_pos room, if_pos (related.fewer.trans_lt room), related.accepted mine absent, ?_⟩
  rw [get?_set_self]
  rfl

theorem none_claimed (absent : s.jobs.get? (o.key requestId) = none) :
    ∀ item ∈ u.jobs.items, item.1.requestId ≠ requestId := by
  rintro item member rfl
  have present : (u.jobs.get? item.1).isSome := isSome_get?.mpr (List.mem_map_of_mem member)
  by_cases mine : item.1.owner = o
  · have named : item.1 = o.key item.1.requestId := by rw [← mine]; rfl
    rw [related.own _ mine, named, absent] at present
    cases present
  · rw [related.only _ mine] at present
    cases present

omit related in
theorem ownedRow_of_absent {jobs : Dict JobKey Job} (absent : jobs.get? (o.key requestId) = none)
    (free : ∀ item ∈ jobs.items, item.1.requestId ≠ requestId) :
    ownedRow jobs (o.key requestId) = .error .notFound := by
  unfold ownedRow
  rw [absent]
  refine if_neg fun claimed => ?_
  obtain ⟨item, member, same⟩ := List.any_eq_true.mp claimed
  exact free item member (of_decide_eq_true same)

theorem ownedRow_eq
    (free : s.jobs.get? (o.key requestId) = none → ∀ item ∈ s.jobs.items, item.1.requestId ≠ requestId) :
    ownedRow u.jobs (o.key requestId) = ownedRow s.jobs (o.key requestId) := by
  have same := related.own _ (key_owner o requestId)
  cases found : s.jobs.get? (o.key requestId) with
  | some =>
    unfold ownedRow
    rw [same, found]
  | none =>
    rw [ownedRow_of_absent (same.trans found) (related.none_claimed found), ownedRow_of_absent found (free found)]

theorem check (mine : c.owner = o) (unclaimed : Unclaimed o s (.check c call)) :
    Related o (s.put c (s.check c call)) (u.put c (u.check c call)) := by
  have same : u.check c call = s.check c call := by
    unfold State.check
    split
    · rfl
    · rename_i admitted
      rw [mine, related.ownedRow_eq (unclaimed mine (by simpa using admitted))]
  rw [same]
  refine related.put fun other answering => ?_
  unfold State.check at answering
  split at answering
  · cases answering
  split at answering
  · rename_i job found
    split at answering
    · obtain rfl := Phase.answering.inj answering
      unfold ownedRow at found
      rw [mine] at found
      split at found
      · rename_i present
        rw [present]
        rfl
      · split at found <;> cases found
    · cases answering
  · cases answering
  · cases answering

theorem submit {selected : Option Text} {runId : Text} (mine : c.owner = o)
    (room : s.jobs.get? (o.key call.requestId) = none → s.jobs.items.length < cfg.maxJobs) :
    Related o (s.submit cfg c call selected runId) (u.submit cfg c call selected runId) := by
  unfold State.submit
  rw [mine, related.own _ (key_owner o call.requestId)]
  cases submitted call.request selected with
  | none => exact related.put nofun
  | some =>
    cases found : s.jobs.get? (o.key call.requestId) with
    | some =>
      refine related.put fun other answering => ?_
      split at answering
      · obtain rfl := Phase.answering.inj answering
        rw [found]
        rfl
      · cases answering
    | none =>
      obtain ⟨t, v, first, second, after, present⟩ :=
        related.accept (key_owner o call.requestId) found (room found)
      dsimp only
      rw [first, second]
      exact after.put fun other answering => Phase.answering.inj answering ▸ present

theorem answer (mine : c.owner = o) (answering : s.calls c = .answering call) :
    Related o (s.put c (s.answer c call)) (u.put c (u.answer c call)) := by
  have present := related.answered c call mine answering
  have same : u.answer c call = s.answer c call := by
    unfold State.answer
    rw [mine, related.ownedRow_eq fun absent => by rw [absent] at present; cases present]
  rw [same]
  refine related.put fun other again => ?_
  unfold State.answer at again
  split at again <;> cases again

theorem task (mine : key.owner = o) (room : s.jobs.get? key = none → s.jobs.items.length < cfg.maxJobs) :
    Related o (s.task cfg key job) (u.task cfg key job) := by
  unfold State.task
  rw [related.own key mine]
  cases found : s.jobs.get? key with
  | some => exact related
  | none =>
    obtain ⟨t, v, first, second, after, _⟩ := related.accept mine found (room found)
    dsimp only
    rw [first, second]
    exact after

/-! ## The sections of another -/

theorem put_other (other : c.owner ≠ o) : Related o (s.put c phase) u where
  own := related.own
  only := related.only
  fewer := related.fewer
  view := related.view
  calls d mine := by
    have apart : d ≠ c := fun same => other (same ▸ mine)
    simpa [State.put, apart] using related.calls d mine
  answered d call mine answering := by
    have apart : d ≠ c := fun same => other (same ▸ mine)
    exact related.answered d call mine (by simpa [State.put, apart] using answering)

theorem accepted_other (other : key.owner ≠ o) (accepted : s.accept cfg key job = some t) : Related o t u := by
  unfold State.accept at accepted
  split at accepted <;> cases accepted
  have apart {k : JobKey} (mine : k.owner = o) : k ≠ key := fun same => other (same ▸ mine)
  exact
    { own := fun k mine => (related.own k mine).trans (Dict.get?_set_of_ne (apart mine)).symm
      only := related.only
      fewer := related.fewer.trans (length_le_set _ _ _)
      view := related.view
      calls := related.calls
      answered := fun d call mine answering => by
        rw [get?_set_of_ne (apart (key_owner o call.requestId))]
        exact related.answered d call mine answering }

end Related

/-- **A step of another** leaves the owner's run as it is. -/
theorem related_other (related : Related o s u) (other : l.of o = false) (next : step cfg s l = some t) :
    Related o t u := by
  cases l with
  | observe => cases other
  | check c | select c | answer c =>
    have apart : c.owner ≠ o := of_decide_eq_false other
    simp only [step] at next
    split at next <;> cases next
    exact related.put_other apart
  | submit c runId =>
    have apart : c.owner ≠ o := of_decide_eq_false other
    simp only [step] at next
    split at next
    · rename_i call selected _
      cases next
      have elsewhere : (c.owner.key call.requestId).owner ≠ o := apart
      unfold submit
      split
      · exact related.put_other apart
      · split
        · exact related.put_other apart
        · split
          · rename_i accepted
            exact (related.accepted_other elsewhere accepted).put_other apart
          · exact related.put_other apart
    · cases next
  | task key payload runId =>
    have apart : key.owner ≠ o := of_decide_eq_false other
    cases next
    unfold task
    split
    · exact related
    · cases accepted : s.accept cfg key ⟨runId, .task payload⟩ with
      | none => exact related
      | some => exact related.accepted_other apart accepted

/-- **A step of the owner** is the same step in its own run. -/
theorem related_own (related : Related o s u) (room : Roomy cfg o s l) (unclaimed : Unclaimed o s l)
    (mine : l.of o = true) (next : step cfg s l = some t) :
    ∃ v, step cfg u l = some v ∧ Related o t v := by
  cases l with
  | observe view =>
    cases next
    exact ⟨_, rfl, { related with view := rfl }⟩
  | check c =>
    have here : c.owner = o := of_decide_eq_true mine
    simp only [step] at next ⊢
    rw [related.calls c here]
    split at next <;> cases next
    exact ⟨_, rfl, related.check here unclaimed⟩
  | select c =>
    have here : c.owner = o := of_decide_eq_true mine
    simp only [step] at next ⊢
    rw [related.calls c here]
    split at next
    · rename_i call _
      cases next
      have same : u.select cfg call = s.select cfg call := by rw [select, select, related.view]
      refine ⟨_, rfl, ?_⟩
      rw [same]
      refine related.put fun other answering => ?_
      unfold select at answering
      split at answering
      · cases answering
      · split at answering <;> cases answering
    · cases next
  | submit c runId =>
    have here : c.owner = o := of_decide_eq_true mine
    simp only [step] at next ⊢
    rw [related.calls c here]
    split at next
    · rename_i call selected standing
      cases next
      exact ⟨_, rfl, related.submit here (room here call selected standing)⟩
    · cases next
  | answer c =>
    have here : c.owner = o := of_decide_eq_true mine
    simp only [step] at next ⊢
    rw [related.calls c here]
    split at next
    · rename_i call answering
      cases next
      exact ⟨_, rfl, related.answer here answering⟩
    · cases next
  | task key =>
    have here : key.owner = o := of_decide_eq_true mine
    cases next
    exact ⟨_, rfl, related.task here (room here)⟩

theorem unclaimed_of_agree (related : Related o s u) (next : step cfg s l = some t)
    (other : step cfg u l = some v) (agree : Agree o t v) : Unclaimed o s l := by
  cases l with
  | check c call =>
    intro mine admitted absent item member same
    have phase := agree c mine
    simp only [step] at next other
    split at next
    · split at other
      · cases next
        cases other
        have claimed : ownedRow s.jobs (o.key call.requestId) = .error .ownership := by
          unfold ownedRow
          rw [absent]
          exact if_pos (List.any_eq_true.mpr ⟨item, member, decide_eq_true same⟩)
        have free := Related.ownedRow_of_absent
          ((related.own _ (key_owner o call.requestId)).trans absent) (related.none_claimed absent)
        simp [put, check, mine, admitted, claimed, free] at phase
      · cases other
    · cases next
  | _ => trivial

/-- **Requests of different owners** go as alone exactly if none meets only another's job under its id. -/
theorem owners_independent {ls : List Label} (ran : run (step cfg) {} ls = some s)
    (room : Along (step cfg) (Roomy cfg o) {} ls) :
    (∀ before after t, ls = before ++ after → run (step cfg) {} before = some t →
      ∃ u, run (step cfg) {} (before.filter (Label.of o)) = some u ∧ Agree o t u) ↔
        Along (step cfg) (Unclaimed o) {} ls := by
  refine along_iff_alone (R := Related o) (fun s u related c mine => (related.calls c mine).symm)
    (fun s u l t _ _ related other next => related_other related other next)
    (fun s u l t room unclaimed related mine next => related_own related room unclaimed mine next)
    (fun s u l t v _ related _ next other agree => unclaimed_of_agree related next other agree)
    (fun s l other => ?_) room ?_ ran
  · cases l with
    | check => exact fun mine => absurd mine (of_decide_eq_false other)
    | _ => trivial
  · exact ⟨fun _ _ => rfl, fun _ _ => rfl, le_rfl, rfl, fun _ _ => rfl, fun _ _ _ answering => by cases answering⟩

/-! ## A request that is taken -/

def twoJobs : Config := ⟨false, false, 2⟩

def bobAsks : List Label := [.check ⟨bob, 0⟩ plainCall, .select ⟨bob, 0⟩, .submit ⟨bob, 0⟩ ['x']]

def aliceFirst : List Label := Label.check ⟨alice, 0⟩ plainCall :: bobAsks

theorem owners_independent_first : ∃ s, run (step twoJobs) {} aliceFirst = some s ∧
      ∀ before after t, aliceFirst = before ++ after → run (step twoJobs) {} before = some t →
        ∃ u, run (step twoJobs) {} (before.filter (Label.of alice)) = some u ∧ Agree alice t u := by
  obtain ⟨s, ran⟩ : ∃ s, run (step twoJobs) {} aliceFirst = some s := ⟨_, rfl⟩
  have others : ∀ l ∈ bobAsks, l.of alice = false := by decide
  refine ⟨s, ran, (owners_independent ran ⟨trivial, fun t _ => ?_⟩).mpr ⟨fun _ _ _ => nofun, fun t _ => ?_⟩⟩
  · refine along_mono (fun s l other => ?_) (along_of_mem (P := fun l => l.of alice = false) others)
    cases l with
    | submit | task => exact fun mine => absurd mine (of_decide_eq_false other)
    | _ => trivial
  · refine along_mono (fun s l other => ?_) (along_of_mem (P := fun l => l.of alice = false) others)
    cases l with
    | check => exact fun mine => absurd mine (of_decide_eq_false other)
    | _ => trivial

/-- **A request ID that is taken**: after Bob's, Alice's request is refused; alone, it goes on. -/
theorem request_id_taken : (∃ s, run (step twoJobs) {} (bobAsks ++ [Label.check ⟨alice, 0⟩ plainCall]) = some s ∧
      s.jobs.items.length < twoJobs.maxJobs ∧
      s.calls ⟨alice, 0⟩ = .refused plainCall .ownership) ∧
    ∃ s, run (step twoJobs) {} ((bobAsks ++ [Label.check ⟨alice, 0⟩ plainCall]).filter (Label.of alice)) = some s ∧
      s.calls ⟨alice, 0⟩ = .selecting plainCall :=
  ⟨⟨_, rfl, by decide, rfl⟩, _, rfl, rfl⟩

end EmbodiRun.Application
