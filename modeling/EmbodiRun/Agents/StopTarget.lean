/-
# Agents.StopTarget -- the request that `cancel` and `stop` address

A round clears the target where it begins, sets it before it submits, and clears it again where it
ends with a status that leaves nothing open.  `cancel` and `stop` read it from other threads.

* `addressed_iff`: **the target is kept through a run exactly if every round begins settled**.
-/
import EmbodiRun.Transition.Machine

namespace EmbodiRun.Agents.StopTarget

open Function
open Transition

inductive Outcome where
  /-- Nothing yet. -/
  | submitted
  /-- Its round ended with a status. -/
  | reported (status : String)
  /-- Its round raised. -/
  | raised
  /-- A `cancel` or a `stop` was answered that it is finished. -/
  | ended

/-- The statuses that `run_round` keeps its target for. -/
def unfinished : List String := ["pending", "unknown", "uncertain"]

def Outcome.Open : Outcome → Prop
  | submitted | raised => True
  | reported status => status ∈ unfinished
  | ended => False

inductive Stage where
  | preparing
  /-- `request_started` was called. -/
  | started (id : String)
  /-- `execute` was called. -/
  | submitted (id : String)

inductive Point where
  | idle
  | looping (stage : Stage)
  /-- The loop has returned to `run_round`. -/
  | returned (stage : Stage) (status : String)

structure State where
  /-- `_active_request_id`. -/
  active : Option String := none
  point : Point := .idle
  outcome : String → Option Outcome := fun _ => none
  /-- The requests that a `cancel` or a `stop` was sent for. -/
  asked : List String := []

inductive Label where
  /-- `run_round`. -/
  | begin
  /-- `_set_active_request`, with an id that is new. -/
  | start (id : String)
  | submit
  /-- The loop returns a result. -/
  | returns (status : String)
  /-- An exception escapes the loop, or the recorder. -/
  | raises
  /-- `run_round` returns. -/
  | finish
  /-- `cancel` or `stop` reads the target. -/
  | ask
  /-- The answer to it; `finished` says that the request is finished. -/
  | answered (id : String) (finished : Bool)

def State.learn (s : State) (stage : Stage) (o : Outcome) : String → Option Outcome :=
  match stage with
  | .submitted id => update s.outcome id (some o)
  | _ => s.outcome

/-- `none` where the label is not enabled. -/
def step (s : State) : Label → Option State
  | .begin => match s.point with
      | .idle => some { s with active := none, point := .looping .preparing }
      | _ => none
  | .start id => match s.point with
      | .looping .preparing =>
        if s.outcome id = none then some { s with active := some id, point := .looping (.started id) }
        else none
      | _ => none
  | .submit => match s.point with
      | .looping (.started id) => some { s with
          point := .looping (.submitted id)
          outcome := update s.outcome id (some .submitted) }
      | _ => none
  | .returns status => match s.point with
      | .looping stage => some { s with
          point := .returned stage status, outcome := s.learn stage (.reported status) }
      | _ => none
  | .raises => match s.point with
      | .looping stage | .returned stage _ => some { s with
          point := .idle, outcome := s.learn stage .raised }
      | .idle => none
  | .finish => match s.point with
      | .returned _ status => some { s with
          point := .idle, active := if status ∈ unfinished then s.active else none }
      | _ => none
  | .ask => match s.active with
      | some id => some { s with asked := id :: s.asked }
      | none => some s
  | .answered id finished =>
    if id ∉ s.asked then none
    else if finished ∧ s.outcome id ≠ none then some { s with
      asked := s.asked.erase id
      outcome := update s.outcome id (some .ended) }
    else some { s with asked := s.asked.erase id }

def IsOpen (outcome : String → Option Outcome) (id : String) : Prop := ∃ o, outcome id = some o ∧ o.Open

def Addressed (s : State) : Prop :=
  (∃ id, IsOpen s.outcome id) → ∃ id, s.active = some id ∧ IsOpen s.outcome id

def Settled (s : State) (l : Label) : Prop := l = .begin → ∀ id, ¬IsOpen s.outcome id

/-! ## The invariant -/

def At (active : Option String) (outcome : String → Option Outcome) : Point → Prop
  | .idle => True
  | .looping .preparing | .returned .preparing _ => active = none
  | .looping (.started id) | .returned (.started id) _ => active = some id ∧ outcome id = none
  | .looping (.submitted id) => active = some id
  | .returned (.submitted id) status => active = some id ∧ (status ∉ unfinished → ¬IsOpen outcome id)

structure Inv (s : State) : Prop where
  target : ∀ id, IsOpen s.outcome id → s.active = some id
  at_ : At s.active s.outcome s.point

variable {s t : State} {l : Label} {ls : List Label}

theorem Inv.addressed (inv : Inv s) : Addressed s :=
  fun ⟨id, open_⟩ => ⟨id, inv.target id open_, open_⟩

theorem init_inv : Inv {} where
  target id open_ := by
    obtain ⟨o, known, -⟩ := open_
    cases known
  at_ := trivial

variable {outcome : String → Option Outcome} {id : String} {stage : Stage} {status : String}

theorem target_update {o} {active}
    (target : ∀ id', IsOpen outcome id' → active = some id') (here : active = some id) (id' : String)
    (open_ : IsOpen (update outcome id o) id') : active = some id' := by
  by_cases same : id' = id
  · rw [same]
    exact here
  · rw [IsOpen, update_of_ne same] at open_
    exact target id' open_

theorem closed_update {id id'} (open_ : IsOpen (update outcome id (some .ended)) id') : IsOpen outcome id' := by
  by_cases same : id' = id
  · rw [IsOpen, same, update_self] at open_
    obtain ⟨o, ended, open_⟩ := open_
    cases ended
    exact open_.elim
  · rwa [IsOpen, update_of_ne same] at open_

theorem begin_inv (settled : ∀ id, ¬IsOpen s.outcome id) :
    Inv { s with active := none, point := .looping .preparing } :=
  ⟨fun id open_ => (settled id open_).elim, rfl⟩

theorem start_inv (inv : Inv s) (point : s.point = .looping .preparing) (new : s.outcome id = none) :
    Inv { s with active := some id, point := .looping (.started id) } where
  target id' open_ := by
    have here := inv.at_
    rw [point] at here
    cases (here : s.active = none).symm.trans (inv.target id' open_)
  at_ := ⟨rfl, new⟩

theorem submit_inv (inv : Inv s) (point : s.point = .looping (.started id)) : Inv { s with
      point := .looping (.submitted id)
      outcome := update s.outcome id (some .submitted) } := by
  have here := inv.at_
  rw [point] at here
  exact ⟨target_update inv.target here.1, here.1⟩

theorem returns_inv (inv : Inv s) (point : s.point = .looping stage) :
    Inv { s with point := .returned stage status, outcome := s.learn stage (.reported status) } := by
  have here := inv.at_
  rw [point] at here
  cases stage with
  | preparing | started => exact ⟨inv.target, here⟩
  | submitted id =>
    refine ⟨target_update inv.target here, here, fun terminal open_ => ?_⟩
    obtain ⟨o, known, open_⟩ := open_
    cases (update_self id _ s.outcome).symm.trans known
    exact terminal open_

theorem raises_inv (inv : Inv s)
    (point : s.point = .looping stage ∨ ∃ status, s.point = .returned stage status) :
    Inv { s with point := .idle, outcome := s.learn stage .raised } := by
  have here := inv.at_
  refine ⟨?_, trivial⟩
  cases stage with
  | preparing | started => exact inv.target
  | submitted =>
    obtain point | ⟨status, point⟩ := point <;> rw [point] at here
    · exact target_update inv.target here
    · exact target_update inv.target here.1

theorem finish_inv (inv : Inv s) (point : s.point = .returned stage status) :
    Inv { s with point := .idle, active := if status ∈ unfinished then s.active else none } := by
  refine ⟨fun id open_ => ?_, trivial⟩
  have target := inv.target id open_
  split
  case isTrue => exact target
  case isFalse terminal =>
      have here := inv.at_
      rw [point] at here
      cases stage with
      | preparing => cases (here : s.active = none).symm.trans target
      | started =>
        cases here.1.symm.trans target
        obtain ⟨o, known, -⟩ := open_
        cases here.2.symm.trans known
      | submitted =>
        cases here.1.symm.trans target
        exact (here.2 terminal open_).elim

theorem answered_inv (inv : Inv s) (known : s.outcome id ≠ none) : Inv { s with
      asked := s.asked.erase id
      outcome := update s.outcome id (some .ended) } where
  target id' open_ := inv.target id' (closed_update open_)
  at_ := by
    have here := inv.at_
    have elsewhere : ∀ id', s.outcome id' = none → update s.outcome id (some .ended) id' = none := by
      intro id' none_
      have other : id' ≠ id := by
        rintro rfl
        exact known none_
      rw [update_of_ne other]
      exact none_
    show At s.active (update s.outcome id (some .ended)) s.point
    generalize s.point = point at here ⊢
    match point, here with
    | .idle, _ => trivial
    | .looping .preparing, here => exact here
    | .returned .preparing _, here => exact here
    | .looping (.started _), here => exact ⟨here.1, elsewhere _ here.2⟩
    | .returned (.started _) _, here => exact ⟨here.1, elsewhere _ here.2⟩
    | .looping (.submitted _), here => exact here
    | .returned (.submitted _) _, here =>
      exact ⟨here.1, fun terminal open_ => here.2 terminal (closed_update open_)⟩

theorem step_inv (inv : Inv s) (settled : Settled s l) (next : step s l = some t) : Inv t := by
  cases l with simp only [step] at next
  | begin =>
    split at next <;> cases next
    exact begin_inv (settled rfl)
  | start =>
    split at next
    case h_1 point =>
        split at next <;> cases next
        case isTrue new => exact start_inv inv point new
    case h_2 => cases next
  | submit =>
    split at next <;> cases next
    case h_1 id point => exact submit_inv inv point
  | returns =>
    split at next <;> cases next
    case h_1 stage point => exact returns_inv inv point
  | raises =>
    split at next <;> cases next
    case h_1 stage point => exact raises_inv inv (.inl point)
    case h_2 stage status point => exact raises_inv inv (.inr ⟨status, point⟩)
  | finish =>
    split at next <;> cases next
    case h_1 stage status point => exact finish_inv inv point
  | ask => split at next <;> cases next <;> exact ⟨inv.target, inv.at_⟩
  | answered id terminal =>
    split at next
    · cases next
    · split at next
      · rename_i ended
        cases next
        exact answered_inv inv ended.2
      · cases next
        exact ⟨inv.target, inv.at_⟩

theorem step_sharp (next : step s l = some t) (addressed : Addressed t) : Settled s l := by
  rintro rfl id open_
  simp only [step] at next
  split at next <;> cases next
  obtain ⟨id', target, -⟩ := addressed ⟨id, open_⟩
  cases target

/-- The target is an open request, where one is, exactly if no round begins while a request is open. -/
theorem addressed_iff (ran : run step {} ls = some s) :
    (∀ before after u, ls = before ++ after → run step {} before = some u → Addressed u) ↔
      Along step Settled {} ls :=
  along_iff_prefixes_of (fun _ inv => inv.addressed) (fun _ _ _ settled inv next => step_inv inv settled next)
    (fun _ _ _ _ next => step_sharp next) init_inv ran

def twoRounds : List Label :=
  [.begin, .start "a", .submit, .ask, .returns "completed", .answered "a" true, .finish, .begin]

theorem addressed_iff_twoRounds : ∃ s, run step {} twoRounds = some s ∧
    ((∀ before after u, twoRounds = before ++ after → run step {} before = some u → Addressed u) ↔
      Along step Settled {} twoRounds) :=
  ⟨_, rfl, addressed_iff (s := _) rfl⟩

def pendingThenBegin : List Label := [.begin, .start "a", .submit, .returns "pending", .finish, .begin]

/-- The pending request has no target any more. -/
theorem target_lost : ∃ s, run step {} pendingThenBegin = some s ∧ IsOpen s.outcome "a" ∧ s.active = none :=
  ⟨_, rfl, ⟨.reported "pending", rfl, .head _⟩, rfl⟩

end EmbodiRun.Agents.StopTarget
