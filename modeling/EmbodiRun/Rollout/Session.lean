/-
# Rollout.Session -- `StreamSession` over a transport that may do anything

Senders and receivers share a session ID, and each route has one sender.  The transport may
drop, duplicate, reorder, delay and cross-deliver what was packed, and mix in messages of
other sessions and values that are no complete envelopes.  `unpack` checks schema, session,
route and sequence, moves its counter, and hands the payload out.

* `stream_contiguous_iff`: **the payloads handed out are a prefix of those packed and a call
  that raises changes nothing, exactly where no envelope that is next in turn lacks its
  payload**.
-/
import EmbodiRun.Devices.Identity
import EmbodiRun.Transition.Machine

namespace EmbodiRun.Rollout

open Function
open Devices Transition List

universe u v

/-- `"embodirun.rollout.v1"`. -/
def schema : Text :=
  ['e', 'm', 'b', 'o', 'd', 'i', 'r', 'u', 'n', '.', 'r', 'o', 'l', 'l', 'o', 'u', 't', '.', 'v', '1']

/-- What stands under `"sequence"`; `other` is a value whose type is not `int`. -/
inductive Sequence where
  | int (n : Int)
  | other
  deriving DecidableEq

/-- A `dict` as the checks see it: a field is `none` where the key is missing. -/
structure Envelope (ρ : Type u) (π : Type v) where
  schema : Option Text := none
  session : Option Text := none
  route : Option ρ := none
  sequence : Option Sequence := none
  payload : Option π := none

/-- Any value a transport hands to `unpack`. -/
inductive Message (ρ : Type u) (π : Type v) where
  | envelope (envelope : Envelope ρ π)
  /-- The value is no `dict`. -/
  | other

/-- Both counters are `0` for a route that was never seen. -/
structure StreamSession (ρ : Type u) where
  sessionId : Text
  sent : ρ → Nat := fun _ => 0
  received : ρ → Nat := fun _ => 0

open StreamSession

inductive UnpackError where
  /-- `StreamError`: "foreign session, schema or route". -/
  | foreign
  /-- `StreamError`: "expected sequence …". -/
  | sequence
  /-- `KeyError`. -/
  | payload

namespace StreamSession

variable {ρ : Type u} {π : Type v} [DecidableEq ρ]

def pack (session : StreamSession ρ) (route : ρ) (payload : π) : StreamSession ρ × Envelope ρ π :=
  ({ session with sent := update session.sent route (session.sent route + 1) },
    ⟨some schema, some session.sessionId, some route, some (.int (session.sent route)), some payload⟩)

def unpack (session : StreamSession ρ) (route : ρ) : Message ρ π → StreamSession ρ × Except UnpackError π
  | .other => (session, .error .foreign)
  | .envelope e =>
    if e.schema ≠ some schema ∨ e.session ≠ some session.sessionId ∨ e.route ≠ some route then
      (session, .error .foreign)
    else if e.sequence ≠ some (.int (session.received route)) then (session, .error .sequence)
    else
      ({ session with received := update session.received route (session.received route + 1) }, match e.payload with
        | some payload => .ok payload
        | none => .error .payload)

end StreamSession

/-! ## Senders, receivers and what was packed -/

structure State (ι κ : Type) (ρ : Type u) (π : Type v) where
  senders : ι → StreamSession ρ
  receivers : κ → StreamSession ρ
  /-- Every envelope there ever was. -/
  envelopes : List (Envelope ρ π) := []
  /-- The payloads packed for a route, oldest first. -/
  packed : ρ → List π := fun _ => []
  /-- The payloads a receiver handed out for a route, oldest first. -/
  returned : κ → ρ → List π := fun _ _ => []

inductive Label (ι κ : Type) (ρ : Type u) (π : Type v) where
  | pack (i : ι) (route : ρ) (payload : π)
  | unpack (j : κ) (route : ρ) (message : Message ρ π)

section

variable {ι κ : Type} {ρ : Type u} {π : Type v} [DecidableEq ι] [DecidableEq κ] [DecidableEq ρ]

/-- Some field is missing, the schema is another one, or the sequence is no `int`. -/
def Envelope.incomplete (e : Envelope ρ π) : Prop :=
  e.schema ≠ some Rollout.schema ∨ e.session = none ∨ e.route = none ∨
    (e.sequence = none ∨ e.sequence = some .other) ∨ e.payload = none

/-- What the transport may deliver: what was packed in this session, a message of another session,
or a value that is no complete envelope. -/
def Deliverable (sessionId : Text) (s : State ι κ ρ π) : Message ρ π → Prop
  | .envelope e => e ∈ s.envelopes ∨ (∃ id, e.session = some id ∧ id ≠ sessionId) ∨ e.incomplete
  | .other => True

def init (sessionId : Text) : State ι κ ρ π :=
  { senders := fun _ => { sessionId }, receivers := fun _ => { sessionId } }

/-- `owner route` is the one sender of the route. -/
def step (owner : ρ → ι) (s : State ι κ ρ π) : Label ι κ ρ π → Option (State ι κ ρ π)
  | .pack i route payload =>
    if owner route = i then
      let packed := (s.senders i).pack route payload
      some { s with
        senders := update s.senders i packed.1
        envelopes := packed.2 :: s.envelopes
        packed := update s.packed route (s.packed route ++ [payload]) }
    else none
  | .unpack j route message =>
    let result := (s.receivers j).unpack route message
    some { s with
      receivers := update s.receivers j result.1
      returned := match result.2 with
        | .ok payload =>
          update s.returned j (update (s.returned j) route (s.returned j route ++ [payload]))
        | .error _ => s.returned }

def Delivers (sessionId : Text) (s : State ι κ ρ π) : Label ι κ ρ π → Prop
  | .pack .. => True
  | .unpack _ _ message => Deliverable sessionId s message

/-! ## The two properties, and the condition -/

/-- What every receiver handed out for a route is a prefix of what was packed for it. -/
def Contiguous (s : State ι κ ρ π) : Prop := ∀ j route, s.returned j route <+: s.packed route

/-- A call of `unpack` that raises leaves the session as it is. -/
def Intact (s : State ι κ ρ π) : Label ι κ ρ π → Prop
  | .pack .. => True
  | .unpack j route message => ∀ error, ((s.receivers j).unpack route message).2 = .error error →
      ((s.receivers j).unpack route message).1 = s.receivers j

def Whole (s : State ι κ ρ π) : Label ι κ ρ π → Prop
  | .pack .. => True
  | .unpack j route message => ∀ e, message = .envelope e → e.schema = some schema →
      e.session = some (s.receivers j).sessionId → e.route = some route →
      e.sequence = some (.int ((s.receivers j).received route)) → e.payload ≠ none

structure Tracks (sessionId : Text) (owner : ρ → ι) (s : State ι κ ρ π) : Prop where
  receivers : ∀ j, (s.receivers j).sessionId = sessionId
  sent : ∀ route, (s.senders (owner route)).sent route = (s.packed route).length
  received : ∀ j route, (s.receivers j).received route = (s.returned j route).length
  /-- An envelope has the payload that was packed under its number. -/
  numbered : ∀ e ∈ s.envelopes, ∀ route, e.route = some route → ∀ n : Nat,
    e.sequence = some (.int n) → (s.packed route)[n]? = e.payload ∧ n < (s.packed route).length
  contiguous : Contiguous s

variable {sessionId : Text} {owner : ρ → ι} {s t : State ι κ ρ π} {l : Label ι κ ρ π}

omit [DecidableEq ι] [DecidableEq κ] [DecidableEq ρ] in
theorem tracks_init : Tracks sessionId owner (init sessionId : State ι κ ρ π) :=
  ⟨fun _ => rfl, fun _ => rfl, fun _ _ => rfl, nofun, fun _ _ => prefix_rfl⟩

omit [DecidableEq ι] [DecidableEq κ] in
theorem intact_iff_whole : Intact s l ↔ Whole s l := by
  cases l with
  | pack => exact Iff.rfl
  | unpack j route message =>
    cases message with
    | other => exact ⟨fun _ _ same => (by cases same), fun _ _ _ => rfl⟩
    | envelope e =>
      simp only [Intact, Whole, unpack]
      by_cases own : e.schema ≠ some schema ∨ e.session ≠ some (s.receivers j).sessionId ∨ e.route ≠ some route
      · rw [if_pos own]
        refine ⟨fun _ f same ofSchema ofSession ofRoute => ?_, fun _ _ _ => rfl⟩
        obtain rfl := Message.envelope.inj same
        rcases own with other | other | other
        · exact absurd ofSchema other
        · exact absurd ofSession other
        · exact absurd ofRoute other
      rw [if_neg own]
      by_cases turn : e.sequence ≠ some (.int ((s.receivers j).received route))
      · rw [if_pos turn]
        refine ⟨fun _ f same _ _ _ number => ?_, fun _ _ _ => rfl⟩
        obtain rfl := Message.envelope.inj same
        exact absurd number turn
      rw [if_neg turn]
      simp only [not_or, not_not] at own turn
      constructor
      · intro intact f same _ _ _ _ missing
        obtain rfl := Message.envelope.inj same
        have unmoved := intact .payload (by rw [missing])
        have counter := congrFun (congrArg received unmoved) route
        dsimp only at counter
        rw [update_self] at counter
        omega
      · intro whole error raised
        have present := whole e rfl own.1 own.2.1 own.2.2 turn
        cases found : e.payload with
        | none => exact absurd found present
        | some =>
          rw [found] at raised
          cases raised

theorem tracks_pack {i} {route} {payload} (tracks : Tracks sessionId owner s)
    (next : step owner s (.pack i route payload) = some t) : Tracks sessionId owner t := by
  have ⟨receivers, sent, received, numbered, contiguous⟩ := tracks
  simp only [step] at next
  split at next
  · rename_i same
    subst same
    cases next
    -- The payloads of a route only grow at the end.
    have grows (r : ρ) : s.packed r <+: update s.packed route (s.packed route ++ [payload]) r := by
      by_cases here : r = route
      · subst here
        rw [update_self]
        exact prefix_append _ _
      · rw [update_of_ne here]
    refine ⟨receivers, fun r => ?_, received, fun e member r ofRoute n number => ?_,
      fun j r => (contiguous j r).trans (grows r)⟩
    · dsimp only
      by_cases here : r = route
      · subst here
        simp [pack, sent]
      · rw [update_of_ne here]
        by_cases owned : owner r = owner route
        · rw [owned, update_self]
          simp only [pack, update_of_ne here]
          rw [← owned]
          exact sent r
        · rw [update_of_ne owned]
          exact sent r
    · rcases List.mem_cons.mp member with rfl | before
      · cases ofRoute
        have number := Sequence.int.inj (Option.some.inj number)
        have last : n = (s.packed route).length := by
          rw [sent] at number
          omega
        subst last
        dsimp only
        rw [update_self]
        simp [pack]
      · obtain ⟨found, bound⟩ := numbered e before r ofRoute n number
        obtain ⟨rest, split⟩ := grows r
        dsimp only
        rw [← split]
        exact ⟨by rw [getElem?_append_left bound]; exact found, by rw [length_append]; omega⟩
  · cases next

theorem tracks_unpack {j} {route} {message}
    (tracks : Tracks sessionId owner s) (delivers : Deliverable sessionId s message)
    (whole : Whole s (Label.unpack j route message : Label ι κ ρ π))
    (next : step owner s (.unpack j route message) = some t) : Tracks sessionId owner t := by
  have ⟨receivers, sent, received, numbered, contiguous⟩ := tracks
  have refused {error : UnpackError}
      (result : (s.receivers j).unpack route message = (s.receivers j, .error error)) : t = s := by
    simp only [step, result] at next
    rw [update_eq_self] at next
    exact (Option.some.inj next).symm
  cases message with
  | other =>
    rw [refused rfl]
    exact tracks
  | envelope e =>
    by_cases own : e.schema ≠ some schema ∨ e.session ≠ some (s.receivers j).sessionId ∨ e.route ≠ some route
    · rw [refused (by simp only [unpack]; rw [if_pos own])]
      exact tracks
    by_cases turn : e.sequence ≠ some (.int ((s.receivers j).received route))
    · rw [refused (by simp only [unpack]; rw [if_neg own, if_pos turn])]
      exact tracks
    have result : (s.receivers j).unpack route (.envelope e) = ({ s.receivers j with
            received := update (s.receivers j).received route ((s.receivers j).received route + 1) },
          match e.payload with
          | some payload => .ok payload
          | none => .error .payload) := by
      simp only [unpack]
      rw [if_neg own, if_neg turn]
    simp only [not_or, not_not] at own turn
    obtain ⟨payload, present⟩ := Option.ne_none_iff_exists'.mp (whole e rfl own.1 own.2.1 own.2.2 turn)
    -- A complete envelope of the session is one that was packed.
    have member : e ∈ s.envelopes := by
      rcases delivers with packed | ⟨id, ofSession, other⟩ | missing
      · exact packed
      · rw [own.2.1, receivers] at ofSession
        exact absurd (Option.some.inj ofSession).symm other
      · rcases missing with missing | missing | missing | (missing | missing) | missing
        · exact absurd own.1 missing
        · rw [own.2.1] at missing; cases missing
        · rw [own.2.2] at missing; cases missing
        · rw [turn] at missing; cases missing
        · rw [turn] at missing; cases missing
        · rw [present] at missing; cases missing
    obtain ⟨found, bound⟩ := numbered e member route own.2.2 _ turn
    rw [present, received] at found
    rw [received] at bound
    simp only [step, result, present] at next
    cases next
    refine ⟨fun k => ?_, sent, fun k r => ?_, numbered, fun k r => ?_⟩
    · dsimp only
      by_cases same : k = j
      · subst same
        rw [update_self]
        exact receivers k
      · rw [update_of_ne same]
        exact receivers k
    · dsimp only
      by_cases same : k = j
      · subst same
        rw [update_self, update_self]
        dsimp only
        by_cases here : r = route
        · subst here
          rw [update_self, update_self, received]
          simp
        · rw [update_of_ne here, update_of_ne here]
          exact received k r
      · rw [update_of_ne same, update_of_ne same]
        exact received k r
    · dsimp only
      by_cases same : k = j
      · subst same
        rw [update_self]
        by_cases here : r = route
        · subst here
          rw [update_self]
          -- The payload handed out is the one after those handed out before.
          obtain ⟨rest, split⟩ := contiguous k r
          rw [← split] at found ⊢
          rw [getElem?_append_right le_rfl, Nat.sub_self] at found
          cases rest with
          | nil => cases found
          | cons head rest =>
            cases found
            exact ⟨rest, by simp⟩
        · rw [update_of_ne here]
          exact contiguous k r
      · rw [update_of_ne same]
        exact contiguous k r

theorem tracks_step (tracks : Tracks sessionId owner s) (delivers : Delivers sessionId s l)
    (whole : Whole s l) (next : step owner s l = some t) : Tracks sessionId owner t := by
  cases l with
  | pack => exact tracks_pack tracks next
  | unpack => exact tracks_unpack tracks delivers whole next

/-- **Streams never skip or repeat**, exactly when no envelope that is next in turn lacks its payload. -/
theorem stream_contiguous_iff {ls : List (Label ι κ ρ π)}
    (delivered : Along (step owner) (Delivers sessionId) (init sessionId) ls)
    (ran : run (step owner) (init sessionId) ls = some s) :
    ((∀ before after u, ls = before ++ after → run (step owner) (init sessionId) before = some u → Contiguous u) ∧
      Along (step owner) Intact (init sessionId) ls) ↔
      Along (step owner) Whole (init sessionId) ls := by
  constructor
  · rintro ⟨_, intact⟩
    exact along_mono (fun _ _ => intact_iff_whole.mp) intact
  · intro whole
    refine ⟨fun before after u split reached => ?_, along_mono (fun _ _ => intact_iff_whole.mpr) whole⟩
    subst split
    have both := along_and ((along_append reached).mp delivered).1 ((along_append reached).mp whole).1
    exact (run_induction (fun _ _ _ met tracks next => tracks_step tracks met.1 met.2 next) both
      tracks_init reached).contiguous

end

/-! ## An envelope without a payload -/

/-- The second envelope arrives after a value that has the number of the first and no payload. -/
def skipping : List (Label Unit Unit Nat Nat) :=
  [.pack () 1 7, .pack () 1 8, .unpack () 1 (.envelope ⟨some schema, some ['s'], some 1, some (.int 0), none⟩),
    .unpack () 1 (.envelope ⟨some schema, some ['s'], some 1, some (.int 1), some 8⟩)]

theorem delivers_skipping : Along (step fun _ => ()) (Delivers ['s']) (init ['s']) skipping := by
  refine ⟨trivial, fun t first => ?_⟩
  cases first
  refine ⟨trivial, fun t second => ?_⟩
  cases second
  refine ⟨.inr (.inr (.inr (.inr (.inr (.inr rfl))))), fun t third => ?_⟩
  cases third
  exact ⟨.inl mem_cons_self, fun t _ => trivial⟩

theorem stream_contiguous_skipping : ∃ s, run (step fun _ => ()) (init ['s']) skipping = some s ∧
    (((∀ before after u, skipping = before ++ after →
        run (step fun _ => ()) (init ['s']) before = some u → Contiguous u) ∧
      Along (step fun _ => ()) Intact (init ['s']) skipping) ↔
      Along (step fun _ => ()) Whole (init ['s']) skipping) := by
  have ran : run (step fun _ => ()) (init ['s']) skipping = some _ := rfl
  exact ⟨_, ran, stream_contiguous_iff delivers_skipping ran⟩

/-- The first payload is lost: the incomplete value used its number up. -/
theorem payload_skipped : Along (step fun _ => ()) (Delivers ['s']) (init ['s']) skipping ∧
    ∃ s, run (step fun _ => ()) (init ['s']) skipping = some s ∧
      s.packed 1 = [7, 8] ∧ s.returned () 1 = [8] ∧ ¬Contiguous s := by
  refine ⟨delivers_skipping, _, rfl, rfl, rfl, fun contiguous => ?_⟩
  have start : [8] <+: [7, 8] := contiguous () 1
  exact absurd start (by decide)

end EmbodiRun.Rollout
