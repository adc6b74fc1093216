/-
# Observations.Hub -- camera views of a shared snapshot

`SharedSensorHub` gives every source's frames internal names, and `frames_for` resolves pairs of a
source and a public name.  A request for the first of several frames of a source is answered with
all that are left of them, and uses them up.

* `framesFor_iff`: **every requested frame is there once exactly where, of a source with several
  frames, the first is asked for last and no requested name is ambiguous**.
-/
import EmbodiRun.Data.Except
import EmbodiRun.Data.Folds
import EmbodiRun.Http.Routes
import EmbodiRun.Observations.Store

namespace EmbodiRun.Observations.Hub

open Data Devices List Option Prod Dict Store

universe u

/-! ## The source -/

/-- `CameraFrame`; `body` is everything beside its name. -/
structure CameraFrame (β : Type u) where
  name : Text
  body : β
  deriving DecidableEq

open CameraFrame

/-- The cameras of a snapshot and its `metadata["source_frames"]`: `none` for what is no mapping,
and for an entry that is neither a tuple nor a list. -/
structure View (β : Type u) where
  cameras : List (CameraFrame β)
  sourceFrames : Option (Dict Text (Option (List Text)))

inductive Fault where
  /-- `SharedSensorError("shared snapshot contains duplicate frame …")`. -/
  | duplicateFrame (name : Text)
  /-- `SharedSensorError("multi-frame camera sources require an explicit frame-name mapping")`. -/
  | multiFrame
  /-- `SharedSensorError("snapshot … has no frame mapping for source … as …")`. -/
  | noMapping (observationId sourceId runtimeName : Text)
  /-- `ValueError("camera frame name must not be empty")`. -/
  | emptyName
  deriving DecidableEq

variable {β : Type u}

/-- `replace(frame, name=name)`. -/
def renamed (frame : CameraFrame β) (name : Text) : Except Fault (CameraFrame β) :=
  if Http.blank name then .error .emptyName else .ok { frame with name }

/-- `isDigit` is what `str.isdigit` asks of each character. -/
def publicFrameName (isDigit : Char → Bool) (lead name : Text) : Text :=
  if lead = [] ∨ ¬lead <+: name then name
  else
    let rest := name.drop lead.length
    let index := rest.takeWhile fun c => c ≠ ':'
    match rest.dropWhile fun c => c ≠ ':' with
    | [] => rest
    | _ :: publicName => if index ≠ [] ∧ index.all isDigit then publicName else rest

/-- `resolved`, with the name that each frame has in the snapshot, and `used`. -/
structure Progress (β : Type u) where
  resolved : List (Text × CameraFrame β) := []
  used : List Text := []

open Progress

def Progress.add (p : Progress β) (actualName : Text) (frame : CameraFrame β) : Progress β :=
  { resolved := p.resolved ++ [(actualName, frame)], used := p.used ++ [actualName] }

/-- `by_name`. -/
def index (cameras : List (CameraFrame β)) : Except Fault (Dict Text (CameraFrame β)) :=
  cameras.foldlM (fun byName frame =>
      if (byName.get? frame.name).isSome then .error (.duplicateFrame frame.name)
      else .ok (byName.set frame.name frame)) .empty

/-- The loop over `zip(actual_names, public_names)`. -/
def expand (byName : Dict Text (CameraFrame β)) : List (Text × Text) → Progress β → Except Fault (Progress β)
  | [], p => .ok p
  | (actualName, publicName) :: rest, p =>
    match byName.get? actualName with
    | none => expand byName rest p
    | some frame =>
      if actualName ∈ p.used then expand byName rest p
      else
        match renamed frame publicName with
        | .ok frame => expand byName rest (p.add actualName frame)
        | .error fault => .error fault

/-- `actual_name`, where the request does not name the first of several frames. -/
def exactName (actualNames publicNames : List Text) (runtimeName : Text) : Option Text :=
  match publicNames.idxOf? runtimeName with
  | some i => actualNames[i]?
  | none => if actualNames.length = 1 then actualNames.head? else none

/-- The body of the loop over `requested`. -/
def resolve (byName : Dict Text (CameraFrame β)) (observationId : Text)
    (actualNames publicNames : List Text) (sourceId runtimeName : Text) (p : Progress β) :
    Except Fault (Progress β) :=
  if 1 < actualNames.length ∧ publicNames.head? = some runtimeName then
    expand byName (actualNames.zip publicNames) p
  else
    let found := (exactName actualNames publicNames runtimeName).bind fun actualName =>
      if actualName ∈ p.used then none else (byName.get? actualName).map fun frame => (actualName, frame)
    match found with
    | some (actualName, frame) =>
      if frame.name ≠ runtimeName then (renamed frame runtimeName).map (p.add actualName)
      else .ok (p.add actualName frame)
    | none =>
      let legacy := if actualNames = [] ∧ runtimeName ∉ p.used then byName.get? runtimeName else none
      match legacy with
      | some frame => .ok (p.add runtimeName frame)
      | none =>
        if 1 < actualNames.length then .error .multiFrame
        else .error (.noMapping observationId sourceId runtimeName)

variable (isDigit : Char → Bool) (sourcePrefixes : Dict Text Text) (snapshot : Snapshot (View β))

def actualNames (sourceId : Text) : List Text :=
  match snapshot.body.sourceFrames with
  | some frames => ((frames.get? sourceId).bind id).getD []
  | none => []

def publicName (sourceId : Text) : Text → Text :=
  publicFrameName isDigit ((sourcePrefixes.get? sourceId).getD [])

def publicNames (sourceId : Text) : List Text :=
  (actualNames snapshot sourceId).map (publicName isDigit sourcePrefixes sourceId)

def resolveAll (byName : Dict Text (CameraFrame β)) (requested : List (Text × Text))
    (p : Progress β) : Except Fault (Progress β) :=
  requested.foldlM (fun p request =>
      resolve byName snapshot.observationId (actualNames snapshot request.1)
        (publicNames isDigit sourcePrefixes snapshot request.1) request.1 request.2 p) p

/-- `frames_for`, with the name that each frame has in the snapshot. -/
def resolution (requested : List (Text × Text)) : Except Fault (List (Text × CameraFrame β)) :=
  if requested = [] then .ok []
  else do
    let byName ← index snapshot.body.cameras
    let p ← resolveAll isDigit sourcePrefixes snapshot byName requested {}
    return p.resolved

def framesFor (requested : List (Text × Text)) : Except Fault (List (CameraFrame β)) :=
  (resolution isDigit sourcePrefixes snapshot requested).map (List.map snd)

/-! ## Snapshots and requests -/

/-- A shared snapshot: no name occurs twice in it, what it lists as a source's frames is in it,
no frame is listed for two sources, and every public name can be given to a frame. -/
structure Shared : Prop where
  unique : (snapshot.body.cameras.map name).Nodup
  distinct : ∀ i, (actualNames snapshot i).Nodup
  apart : ∀ i j a, a ∈ actualNames snapshot i → a ∈ actualNames snapshot j → i = j
  held : ∀ i, ∀ a ∈ actualNames snapshot i, a ∈ snapshot.body.cameras.map name
  named : ∀ i, ∀ n ∈ publicNames isDigit sourcePrefixes snapshot i, Http.blank n = false

/-- The entries are distinct, and each names a public frame that its source published. -/
structure Valid (requested : List (Text × Text)) : Prop where
  distinct : requested.Nodup
  published : ∀ request ∈ requested, request.2 ∈ publicNames isDigit sourcePrefixes snapshot request.1

def Leads (request : Text × Text) : Prop :=
  1 < (actualNames snapshot request.1).length ∧
    (publicNames isDigit sourcePrefixes snapshot request.1).head? = some request.2

instance (request : Text × Text) : Decidable (Leads isDigit sourcePrefixes snapshot request) :=
  inferInstanceAs (Decidable (_ ∧ _))

def delivers (request : Text × Text) (entry : Text × CameraFrame β) : Bool :=
  entry.1 ∈ actualNames snapshot request.1 ∧ entry.2.name = request.2

/-- `frames_for` succeeds, everything it returns is a frame of the snapshot, and every requested
frame is there under its name, once. -/
def Answered (requested : List (Text × Text)) : Prop :=
  ∃ entries, resolution isDigit sourcePrefixes snapshot requested = .ok entries ∧
    framesFor isDigit sourcePrefixes snapshot requested = .ok (entries.map snd) ∧
    (∀ entry ∈ entries, ∃ frame ∈ snapshot.body.cameras,
      frame.name = entry.1 ∧ entry.2 = { frame with name := entry.2.name }) ∧
    ∀ request ∈ requested, entries.countP (delivers snapshot request) = 1

variable {isDigit sourcePrefixes snapshot} {requested : List (Text × Text)} {i n : Text}
  {byName : Dict Text (CameraFrame β)} {p : Progress β}

/-! ## One request -/

theorem index_from {cameras : List (CameraFrame β)} (before : Dict Text (CameraFrame β))
    (fresh : ∀ frame ∈ cameras, before.get? frame.name = none)
    (unique : (cameras.map name).Nodup) :
    ∃ after, cameras.foldlM (fun byName frame =>
          if (byName.get? frame.name).isSome then .error (.duplicateFrame frame.name)
          else .ok (byName.set frame.name frame)) before = (.ok after : Except Fault _) ∧
      ∀ name frame, after.get? name = some frame ↔
        before.get? name = some frame ∨ frame ∈ cameras ∧ frame.name = name := by
  induction cameras generalizing before with
  | nil =>
    refine ⟨before, rfl, fun name frame => ?_⟩
    simp
  | cons first rest ih =>
    obtain ⟨apart, unique⟩ := List.nodup_cons.mp unique
    have absent := fresh first mem_cons_self
    obtain ⟨after, ran, found⟩ := ih (before.set first.name first) (fun frame member => by
        have other : frame.name ≠ first.name := fun same => apart (same ▸ mem_map_of_mem member)
        rw [get?_set_of_ne other]
        exact fresh frame (mem_cons_of_mem _ member)) unique
    refine ⟨after, ?_, fun name frame => ?_⟩
    · rw [foldlM_cons, absent]
      exact ran
    · rw [found, mem_cons]
      by_cases mine : name = first.name
      · subst mine
        rw [get?_set_self, absent]
        constructor
        · rintro (⟨⟨⟩⟩ | ⟨member, same⟩)
          · exact .inr ⟨.inl rfl, rfl⟩
          · exact .inr ⟨.inr member, same⟩
        · rintro (⟨⟨⟩⟩ | ⟨rfl | member, same⟩)
          · exact .inl rfl
          · exact .inr ⟨member, same⟩
      · rw [get?_set_of_ne mine]
        constructor
        · rintro (old | ⟨member, same⟩)
          · exact .inl old
          · exact .inr ⟨.inr member, same⟩
        · rintro (old | ⟨rfl | member, same⟩)
          · exact .inl old
          · exact absurd same.symm mine
          · exact .inr ⟨member, same⟩

def Indexes (snapshot : Snapshot (View β)) (byName : Dict Text (CameraFrame β)) : Prop :=
  ∀ name frame, byName.get? name = some frame ↔ frame ∈ snapshot.body.cameras ∧ frame.name = name

theorem index_ok (unique : (snapshot.body.cameras.map name).Nodup) :
    ∃ byName, index snapshot.body.cameras = .ok byName ∧ Indexes snapshot byName := by
  obtain ⟨byName, ran, found⟩ := index_from .empty (fun _ _ => rfl) unique
  exact ⟨byName, ran, fun name frame => (found name frame).trans (or_iff_right nofun)⟩

def Renamed (byName : Dict Text (CameraFrame β)) (publicName : Text) (entry : Text × CameraFrame β) : Prop :=
  ∃ frame, byName.get? entry.1 = some frame ∧ entry.2 = { frame with name := publicName }

theorem expand_ok (byName : Dict Text (CameraFrame β)) {pairs : List (Text × Text)} (p : Progress β)
    (distinct : (pairs.map fst).Nodup)
    (held : ∀ pair ∈ pairs, ∃ frame, byName.get? pair.1 = some frame)
    (named : ∀ pair ∈ pairs, Http.blank pair.2 = false) :
    ∃ more, expand byName pairs p = .ok { resolved := p.resolved ++ more, used := p.used ++ more.map fst } ∧
      more.map fst = (pairs.map fst).filter (fun a => a ∉ p.used) ∧
      ∀ entry ∈ more, ∃ pair ∈ pairs, pair.1 = entry.1 ∧ Renamed byName pair.2 entry := by
  induction pairs generalizing p with
  | nil => exact ⟨[], by simp [expand], rfl, nofun⟩
  | cons pair rest ih =>
    obtain ⟨apart, distinct⟩ := List.nodup_cons.mp distinct
    obtain ⟨frame, found⟩ := held pair mem_cons_self
    have held := fun other member => held other (mem_cons_of_mem _ member)
    have visible : Http.blank pair.2 = false := named pair mem_cons_self
    have named := fun other member => named other (mem_cons_of_mem _ member)
    by_cases used : pair.1 ∈ p.used
    · obtain ⟨more, ran, names, entries⟩ := ih p distinct held named
      refine ⟨more, ?_, ?_, fun entry member => ?_⟩
      · rw [expand, found]
        exact (if_pos used).trans ran
      · rw [map_cons, filter_cons_of_neg (by simpa using used)]
        exact names
      · obtain ⟨other, there, facts⟩ := entries entry member
        exact ⟨other, mem_cons_of_mem _ there, facts⟩
    · let given : CameraFrame β := { frame with name := pair.2 }
      obtain ⟨more, ran, names, entries⟩ := ih (p.add pair.1 given) distinct held named
      have called : renamed frame pair.2 = .ok given := if_neg (Bool.eq_false_iff.mp visible)
      refine ⟨(pair.1, given) :: more, ?_, ?_, fun entry member => ?_⟩
      · rw [expand, found]
        refine (if_neg used).trans ?_
        rw [called]
        refine ran.trans ?_
        simp [add]
      · rw [map_cons, map_cons, filter_cons_of_pos (by simpa using used), names]
        congr 1
        refine filter_congr fun a member => ?_
        have other : a ≠ pair.1 := fun same => apart (same ▸ member)
        simp [add, other]
      · rcases List.mem_cons.mp member with rfl | later
        · exact ⟨pair, mem_cons_self, rfl, frame, found, rfl⟩
        · obtain ⟨other, there, facts⟩ := entries entry later
          exact ⟨other, mem_cons_of_mem _ there, facts⟩

theorem publicNames_eq (i : Text) : publicNames isDigit sourcePrefixes snapshot i =
    (actualNames snapshot i).map (publicName isDigit sourcePrefixes i) := rfl

theorem exactName_some (published : n ∈ publicNames isDigit sourcePrefixes snapshot i) :
    ∃ a ∈ actualNames snapshot i, publicName isDigit sourcePrefixes i a = n ∧
      exactName (actualNames snapshot i) (publicNames isDigit sourcePrefixes snapshot i) n = some a := by
  obtain ⟨k, found⟩ := Option.isSome_iff_exists.mp (isSome_idxOf?.mpr published)
  obtain ⟨inside, here, -⟩ := idxOf?_eq_some_iff.mp found
  rw [publicNames_eq, length_map] at inside
  have same : publicName isDigit sourcePrefixes i ((actualNames snapshot i)[k]) = n := by
    simpa [publicNames_eq] using here
  refine ⟨(actualNames snapshot i)[k], getElem_mem inside, same, ?_⟩
  rw [exactName, found]
  exact getElem?_eq_getElem inside

/-- What requests for `taken` added: public names of frames of their sources, each requested or expanded. -/
structure Resolved (isDigit : Char → Bool) (sourcePrefixes : Dict Text Text)
    (snapshot : Snapshot (View β)) (byName : Dict Text (CameraFrame β)) (taken : List (Text × Text))
    (p : Progress β) : Prop where
  used : p.used = p.resolved.map fst
  once : p.used.Nodup
  entries : ∀ entry ∈ p.resolved, ∃ i, entry.1 ∈ actualNames snapshot i ∧
    Renamed byName (publicName isDigit sourcePrefixes i entry.1) entry
  uses : ∀ i, ∀ a ∈ actualNames snapshot i, a ∈ p.used ↔
    ∃ n, (i, n) ∈ taken ∧ (Leads isDigit sourcePrefixes snapshot (i, n) ∨
      exactName (actualNames snapshot i) (publicNames isDigit sourcePrefixes snapshot i) n = some a)

theorem resolved_init : Resolved isDigit sourcePrefixes snapshot byName [] {} :=
  ⟨rfl, .nil, nofun, fun _ _ _ => iff_of_false nofun fun ⟨_, there, _⟩ => not_mem_nil there⟩

abbrev answer (isDigit : Char → Bool) (sourcePrefixes : Dict Text Text) (snapshot : Snapshot (View β))
    (byName : Dict Text (CameraFrame β)) (p : Progress β) (request : Text × Text) :
    Except Fault (Progress β) :=
  resolve byName snapshot.observationId (actualNames snapshot request.1)
    (publicNames isDigit sourcePrefixes snapshot request.1) request.1 request.2 p

variable {taken : List (Text × Text)}

theorem answer_leads (shared : Shared isDigit sourcePrefixes snapshot)
    (indexes : Indexes snapshot byName) (resolved : Resolved isDigit sourcePrefixes snapshot byName taken p)
    (leads : Leads isDigit sourcePrefixes snapshot (i, n)) :
    ∃ q, answer isDigit sourcePrefixes snapshot byName p (i, n) = .ok q ∧
      Resolved isDigit sourcePrefixes snapshot byName (taken ++ [(i, n)]) q := by
  have zipped : (actualNames snapshot i).zip (publicNames isDigit sourcePrefixes snapshot i) =
      (actualNames snapshot i).map fun a => (a, publicName isDigit sourcePrefixes i a) := by
    rw [publicNames_eq, ← map_prod_left_eq_zip]
  have firsts : ((actualNames snapshot i).zip
      (publicNames isDigit sourcePrefixes snapshot i)).map fst = actualNames snapshot i := by
    rw [zipped, List.map_map]
    exact map_id _
  have pair {pair : Text × Text} (member : pair ∈ (actualNames snapshot i).zip
      (publicNames isDigit sourcePrefixes snapshot i)) : pair.1 ∈ actualNames snapshot i ∧
        pair.2 = publicName isDigit sourcePrefixes i pair.1 := by
    rw [zipped] at member
    obtain ⟨a, there, rfl⟩ := List.mem_map.mp member
    exact ⟨there, rfl⟩
  obtain ⟨more, ran, names, entries⟩ := expand_ok byName p (firsts.symm ▸ shared.distinct i) (fun q member => by
      obtain ⟨frame, there, same⟩ := List.mem_map.mp (shared.held i q.1 (pair member).1)
      exact ⟨frame, (indexes _ _).mpr ⟨there, same⟩⟩)
    (fun q member => (pair member).2 ▸ shared.named i _ (mem_map_of_mem (pair member).1))
  rw [firsts] at names
  refine ⟨_, (if_pos leads).trans ran, ?_⟩
  have added (a : Text) : a ∈ more.map fst ↔ a ∈ actualNames snapshot i ∧ a ∉ p.used := by
    rw [names, mem_filter, decide_eq_true_iff]
  refine ⟨by rw [map_append, resolved.used], ?_, ?_, ?_⟩
  · refine List.nodup_append.mpr ⟨resolved.once, names ▸ (shared.distinct i).filter _, ?_⟩
    intro a old b new same
    exact ((added b).mp new).2 (same ▸ old)
  · intro entry member
    rcases List.mem_append.mp member with old | new
    · exact resolved.entries entry old
    · obtain ⟨q, there, same, frame⟩ := entries entry new
      obtain ⟨owned, shown⟩ := pair there
      rw [shown, same] at frame
      exact ⟨i, same ▸ owned, frame⟩
  · intro j a owned
    rw [mem_append, added]
    constructor
    · rintro (before | ⟨mine, _⟩)
      · obtain ⟨m, before, how⟩ := (resolved.uses j a owned).mp before
        exact ⟨m, mem_append_left _ before, how⟩
      · obtain rfl := shared.apart i j a mine owned
        exact ⟨n, mem_append_right _ mem_cons_self, .inl leads⟩
    · rintro ⟨m, member, how⟩
      rcases List.mem_append.mp member with old | new
      · exact .inl ((resolved.uses j a owned).mpr ⟨m, old, how⟩)
      · obtain ⟨rfl, rfl⟩ := Prod.mk.inj (List.mem_singleton.mp new)
        by_cases before : a ∈ p.used
        · exact .inl before
        · exact .inr ⟨owned, before⟩

theorem answer_exact (shared : Shared isDigit sourcePrefixes snapshot)
    (indexes : Indexes snapshot byName) (resolved : Resolved isDigit sourcePrefixes snapshot byName taken p)
    (published : n ∈ publicNames isDigit sourcePrefixes snapshot i)
    (single : ¬Leads isDigit sourcePrefixes snapshot (i, n)) :
    ∃ a ∈ actualNames snapshot i, publicName isDigit sourcePrefixes i a = n ∧
      (a ∉ p.used → ∃ q, answer isDigit sourcePrefixes snapshot byName p (i, n) = .ok q ∧
        Resolved isDigit sourcePrefixes snapshot byName (taken ++ [(i, n)]) q) ∧
      (a ∈ p.used → ∀ q, answer isDigit sourcePrefixes snapshot byName p (i, n) ≠ .ok q) := by
  obtain ⟨a, owned, shown, exact⟩ := exactName_some published
  obtain ⟨frame, there, same⟩ := List.mem_map.mp (shared.held i a owned)
  have found : byName.get? a = some frame := (indexes _ _).mpr ⟨there, same⟩
  have some_ : actualNames snapshot i ≠ [] := ne_nil_of_mem owned
  refine ⟨a, owned, shown, fun unused => ?_, fun used q => ?_⟩
  · let given : CameraFrame β := { frame with name := n }
    have ran : answer isDigit sourcePrefixes snapshot byName p (i, n) = .ok (p.add a given) := by
      refine (if_neg single).trans ?_
      simp only [exact, bind_some, if_neg unused, found, map_some]
      split
      · have called : renamed frame n = .ok given :=
          if_neg (Bool.eq_false_iff.mp (shared.named i n published))
        rw [called]
        rfl
      · rename_i already
        have name : frame.name = n := not_not.mp already
        have mine : frame = given := by
          change frame = { frame with name := n }
          rw [← name]
        rw [mine]
    refine ⟨_, ran, ?_, ?_, fun entry member => ?_, fun j b mine => ?_⟩
    · simp [add, resolved.used]
    · exact List.nodup_append.mpr ⟨resolved.once, nodup_singleton a, fun b old c new same =>
        unused (List.mem_singleton.mp new ▸ same ▸ old)⟩
    · rcases List.mem_append.mp member with old | new
      · exact resolved.entries entry old
      · obtain rfl := List.mem_singleton.mp new
        exact ⟨i, owned, frame, found, by rw [shown]⟩
    · rw [add, mem_append, mem_singleton]
      constructor
      · rintro (old | rfl)
        · obtain ⟨m, before, how⟩ := (resolved.uses j b mine).mp old
          exact ⟨m, mem_append_left _ before, how⟩
        · obtain rfl := shared.apart i j b owned mine
          exact ⟨n, mem_append_right _ mem_cons_self, .inr exact⟩
      · rintro ⟨m, member, how⟩
        rcases List.mem_append.mp member with old | new
        · exact .inl ((resolved.uses j b mine).mpr ⟨m, old, how⟩)
        · obtain ⟨rfl, rfl⟩ := Prod.mk.inj (List.mem_singleton.mp new)
          rcases how with leads | other
          · exact absurd leads single
          · exact .inr (Option.some.inj (other.symm.trans exact))
  · have ran : answer isDigit sourcePrefixes snapshot byName p (i, n) =
        if 1 < (actualNames snapshot i).length then .error .multiFrame
        else .error (.noMapping snapshot.observationId i n) := by
      refine (if_neg single).trans ?_
      simp only [exact, bind_some, if_pos used, some_, false_and, if_false]
    rw [ran]
    split <;> exact (by simp)

theorem used_iff (resolved : Resolved isDigit sourcePrefixes snapshot byName taken p)
    (valid : Valid isDigit sourcePrefixes snapshot (taken ++ [(i, n)])) {a}
    (owned : a ∈ actualNames snapshot i) (shown : publicName isDigit sourcePrefixes i a = n) :
    a ∈ p.used ↔ ∃ m, (i, m) ∈ taken ∧ Leads isDigit sourcePrefixes snapshot (i, m) := by
  rw [resolved.uses i a owned]
  constructor
  · rintro ⟨m, before, leads | exact⟩
    · exact ⟨m, before, leads⟩
    · have published := valid.published (i, m) (mem_append_left _ before)
      obtain ⟨b, _, mine, other⟩ := exactName_some published
      obtain rfl := Option.some.inj (exact.symm.trans other)
      have twice := (List.nodup_append.mp valid.distinct).2.2 (i, m) before (i, n) mem_cons_self
      exact absurd (congrArg (Prod.mk i) (mine.symm.trans shown)) twice
  · rintro ⟨m, before, leads⟩
    exact ⟨m, before, .inl leads⟩

/-- What asks for the first of several frames of a source comes after what asks for the others. -/
def InTurn (isDigit : Char → Bool) (sourcePrefixes : Dict Text Text) (snapshot : Snapshot (View β))
    (first second : Text × Text) : Prop :=
  first.1 = second.1 → ¬Leads isDigit sourcePrefixes snapshot first

theorem answer_iff (shared : Shared isDigit sourcePrefixes snapshot)
    (indexes : Indexes snapshot byName) (resolved : Resolved isDigit sourcePrefixes snapshot byName taken p)
    {request} (valid : Valid isDigit sourcePrefixes snapshot (taken ++ [request])) :
    ((∀ first ∈ taken, InTurn isDigit sourcePrefixes snapshot first request) →
      ∃ q, answer isDigit sourcePrefixes snapshot byName p request = .ok q) ∧
    ∀ q, answer isDigit sourcePrefixes snapshot byName p request = .ok q →
      (∀ first ∈ taken, InTurn isDigit sourcePrefixes snapshot first request) ∧
      Resolved isDigit sourcePrefixes snapshot byName (taken ++ [request]) q := by
  obtain ⟨i, n⟩ := request
  have published := valid.published (i, n) (mem_append_right _ mem_cons_self)
  by_cases leads : Leads isDigit sourcePrefixes snapshot (i, n)
  · obtain ⟨q, ran, after⟩ := answer_leads shared indexes resolved leads
    refine ⟨fun _ => ⟨q, ran⟩, fun other same => ?_⟩
    obtain rfl := Except.ok.inj (ran.symm.trans same)
    refine ⟨?_, after⟩
    rintro ⟨j, m⟩ before rfl too
    obtain rfl : m = n := Option.some.inj (too.2.symm.trans leads.2)
    exact (List.nodup_append.mp valid.distinct).2.2 _ before _ mem_cons_self rfl
  · obtain ⟨a, owned, shown, free, spent⟩ := answer_exact shared indexes resolved published leads
    have used := used_iff resolved valid owned shown
    have unused (inTurn : ∀ first ∈ taken, InTurn isDigit sourcePrefixes snapshot first (i, n)) :
        a ∉ p.used := fun here => by
      obtain ⟨m, before, too⟩ := used.mp here
      exact inTurn (i, m) before rfl too
    refine ⟨fun inTurn => ?_, fun q ran => ?_⟩
    · obtain ⟨q, ran, _⟩ := free (unused inTurn)
      exact ⟨q, ran⟩
    · have here : a ∉ p.used := fun here => spent here q ran
      obtain ⟨other, same, after⟩ := free here
      obtain rfl := Except.ok.inj (same.symm.trans ran)
      refine ⟨?_, after⟩
      rintro ⟨j, m⟩ before rfl too
      exact here (used.mpr ⟨m, before, too⟩)

/-! ## A list of requests -/

theorem loop_iff (taken : List (Text × Text)) (shared : Shared isDigit sourcePrefixes snapshot)
    (indexes : Indexes snapshot byName) {rest}
    (valid : Valid isDigit sourcePrefixes snapshot (taken ++ rest))
    (resolved : Resolved isDigit sourcePrefixes snapshot byName taken p) :
    ((∀ first ∈ taken, ∀ second ∈ rest, InTurn isDigit sourcePrefixes snapshot first second) →
      rest.Pairwise (InTurn isDigit sourcePrefixes snapshot) →
      ∃ q, resolveAll isDigit sourcePrefixes snapshot byName rest p = .ok q) ∧
    ∀ q, resolveAll isDigit sourcePrefixes snapshot byName rest p = .ok q →
      (∀ first ∈ taken, ∀ second ∈ rest, InTurn isDigit sourcePrefixes snapshot first second) ∧
      rest.Pairwise (InTurn isDigit sourcePrefixes snapshot) ∧
      Resolved isDigit sourcePrefixes snapshot byName (taken ++ rest) q := by
  induction rest generalizing taken p with
  | nil =>
    refine ⟨fun _ _ => ⟨p, rfl⟩, fun q ran => ⟨nofun, .nil, ?_⟩⟩
    obtain rfl := Except.ok.inj ran
    rwa [append_nil]
  | cons request rest ih =>
    rw [append_cons] at valid ⊢
    have first : Valid isDigit sourcePrefixes snapshot (taken ++ [request]) :=
      ⟨(List.nodup_append.mp valid.distinct).1, fun r member =>
        valid.published r (mem_append_left _ member)⟩
    obtain ⟨answers, answered⟩ := answer_iff shared indexes resolved first
    constructor
    · intro earlier pairs
      obtain ⟨mine, later⟩ := List.pairwise_cons.mp pairs
      obtain ⟨q, ran⟩ := answers fun r before => earlier r before request mem_cons_self
      obtain ⟨final, rest⟩ := (ih _ valid (answered q ran).2).1 (fun r before other after => by
        rcases List.mem_append.mp before with old | new
        · exact earlier r old other (mem_cons_of_mem _ after)
        · exact List.mem_singleton.mp new ▸ mine other after) later
      refine ⟨final, ?_⟩
      rw [resolveAll, foldlM_cons]
      exact (congrArg (· >>= _) ran).trans rest
    · intro final ran
      rw [resolveAll, foldlM_cons] at ran
      obtain ⟨q, head, tail⟩ := bind_ok ran
      obtain ⟨before, now⟩ := answered q head
      obtain ⟨later, pairs, whole⟩ := (ih _ valid now).2 final tail
      refine ⟨fun r member other after => ?_, ?_, whole⟩
      · rcases List.mem_cons.mp after with rfl | behind
        · exact before r member
        · exact later r (mem_append_left _ member) other behind
      · exact List.pairwise_cons.mpr ⟨fun other behind =>
          later request (mem_append_right _ mem_cons_self) other behind, pairs⟩

/-- How often a requested frame is returned: as often as a used frame of its source has that
public name. -/
theorem countP_delivers (shared : Shared isDigit sourcePrefixes snapshot)
    (resolved : Resolved isDigit sourcePrefixes snapshot byName taken p) :
    p.resolved.countP (delivers snapshot (i, n)) = (actualNames snapshot i).countP
        (fun a => a ∈ p.used ∧ publicName isDigit sourcePrefixes i a = n) := by
  let mine (a : Text) : Bool := a ∈ actualNames snapshot i ∧ publicName isDigit sourcePrefixes i a = n
  have names : p.resolved.countP (delivers snapshot (i, n)) = p.used.countP mine := by
    rw [resolved.used, countP_map]
    refine countP_congr fun entry member => ?_
    obtain ⟨j, owned, frame, _, given⟩ := resolved.entries entry member
    simp only [delivers, mine, Function.comp_apply, decide_eq_true_iff, given]
    refine and_congr_right fun here => ?_
    obtain rfl := shared.apart i j entry.1 here owned
    exact Iff.rfl
  rw [names, countP_eq_length_filter, countP_eq_length_filter]
  refine List.Perm.length_eq <| (perm_ext_iff_of_nodup (resolved.once.filter _)
    ((shared.distinct i).filter _)).mpr fun a => ?_
  simp only [mem_filter, mine, decide_eq_true_iff]
  exact and_left_comm

theorem countP_of_leads (shared : Shared isDigit sourcePrefixes snapshot)
    (resolved : Resolved isDigit sourcePrefixes snapshot byName requested p) {m}
    (asked : (i, m) ∈ requested) (leads : Leads isDigit sourcePrefixes snapshot (i, m)) :
    p.resolved.countP (delivers snapshot (i, n)) = (publicNames isDigit sourcePrefixes snapshot i).count n := by
  rw [countP_delivers shared resolved, publicNames_eq, count_eq_countP, countP_map]
  refine countP_congr fun a owned => ?_
  have used : a ∈ p.used := (resolved.uses i a owned).mpr ⟨m, asked, .inl leads⟩
  simp [used]

theorem countP_of_exact (shared : Shared isDigit sourcePrefixes snapshot)
    (resolved : Resolved isDigit sourcePrefixes snapshot byName requested p)
    (valid : Valid isDigit sourcePrefixes snapshot requested) (asked : (i, n) ∈ requested)
    (single : ∀ m, (i, m) ∈ requested → ¬Leads isDigit sourcePrefixes snapshot (i, m)) :
    p.resolved.countP (delivers snapshot (i, n)) = 1 := by
  obtain ⟨a, owned, shown, exact⟩ := exactName_some (valid.published _ asked)
  have used : a ∈ p.used := (resolved.uses i a owned).mpr ⟨n, asked, .inr exact⟩
  have only : ∀ b ∈ actualNames snapshot i, b ∈ p.used ∧ publicName isDigit sourcePrefixes i b = n ↔ b = a := by
    intro b here
    constructor
    · rintro ⟨taken, mine⟩
      obtain ⟨m, before, leads | other⟩ := (resolved.uses i b here).mp taken
      · exact absurd leads (single m before)
      · obtain ⟨c, _, name, again⟩ := exactName_some (valid.published _ before)
        obtain rfl := Option.some.inj (other.symm.trans again)
        obtain rfl : m = n := name.symm.trans mine
        exact Option.some.inj (other.symm.trans exact)
    · rintro rfl
      exact ⟨used, shown⟩
  have same : (actualNames snapshot i).countP (fun b => b ∈ p.used ∧ publicName isDigit sourcePrefixes i b = n) =
      (actualNames snapshot i).count a := by
    rw [count_eq_countP]
    refine countP_congr fun b here => ?_
    rw [decide_eq_true_iff, only b here, beq_iff_eq]
  rw [countP_delivers shared resolved, same]
  exact count_eq_one_of_mem (shared.distinct i) owned

/-- **Valid requests are answered, each frame once**, exactly where no two names meet one frame. -/
theorem framesFor_iff (shared : Shared isDigit sourcePrefixes snapshot)
    (valid : Valid isDigit sourcePrefixes snapshot requested) :
    Answered isDigit sourcePrefixes snapshot requested ↔ requested.Pairwise (InTurn isDigit sourcePrefixes snapshot) ∧
      ∀ first ∈ requested, Leads isDigit sourcePrefixes snapshot first → ∀ other ∈ requested, other.1 = first.1 →
          (publicNames isDigit sourcePrefixes snapshot first.1).count other.2 = 1 := by
  by_cases empty : requested = []
  · subst empty
    exact iff_of_true ⟨[], rfl, rfl, nofun, nofun⟩ ⟨.nil, nofun⟩
  obtain ⟨byName, indexed, indexes⟩ := index_ok shared.unique
  have opened : resolution isDigit sourcePrefixes snapshot requested =
      (resolveAll isDigit sourcePrefixes snapshot byName requested {}).map resolved := by
    rw [resolution, if_neg empty, indexed]
    rfl
  obtain ⟨answers, answered⟩ := loop_iff [] shared indexes valid resolved_init
  have counts {q : Progress β} (resolved : Resolved isDigit sourcePrefixes snapshot byName requested q)
      (unique : ∀ first ∈ requested, Leads isDigit sourcePrefixes snapshot first →
        ∀ other ∈ requested, other.1 = first.1 →
          (publicNames isDigit sourcePrefixes snapshot first.1).count other.2 = 1) :
      ∀ request ∈ requested, q.resolved.countP (delivers snapshot request) = 1 := by
    rintro ⟨i, n⟩ asked
    by_cases some_ : ∃ m, (i, m) ∈ requested ∧ Leads isDigit sourcePrefixes snapshot (i, m)
    · obtain ⟨m, before, leads⟩ := some_
      rw [countP_of_leads shared resolved before leads]
      exact unique (i, m) before leads (i, n) asked rfl
    · exact countP_of_exact shared resolved valid asked fun m before leads => some_ ⟨m, before, leads⟩
  constructor
  · rintro ⟨entries, ran, _, _, once⟩
    rw [opened] at ran
    cases loop : resolveAll isDigit sourcePrefixes snapshot byName requested {} with
    | error =>
      rw [loop] at ran
      cases ran
    | ok q =>
      rw [loop] at ran
      obtain rfl := Except.ok.inj ran
      obtain ⟨_, inTurn, resolved⟩ := answered q loop
      refine ⟨inTurn, ?_⟩
      rintro ⟨i, m⟩ before leads ⟨j, n⟩ asked rfl
      exact (countP_of_leads shared resolved before leads).symm.trans (once _ asked)
  · rintro ⟨inTurn, unique⟩
    obtain ⟨q, loop⟩ := answers nofun inTurn
    obtain ⟨_, _, resolved⟩ := answered q loop
    have ran : resolution isDigit sourcePrefixes snapshot requested = .ok q.resolved := by
      rw [opened, loop]
      rfl
    refine ⟨q.resolved, ran, by rw [framesFor, ran]; rfl, fun entry member => ?_, counts resolved unique⟩
    obtain ⟨_, _, frame, found, given⟩ := resolved.entries entry member
    obtain ⟨there, same⟩ := (indexes _ _).mp found
    exact ⟨frame, there, same, by rw [given]⟩

/-! ## The hub's snapshots -/

/-- The prefix of the source that is attached after `k` others. -/
def sourcePrefix (k : Nat) (sourceId : Text) : Text :=
  "shared:".toList ++ decimal k ++ [':'] ++ sourceId ++ [':']

def capture (lead : Text) (frames : List (CameraFrame β)) : List (CameraFrame β) :=
  frames.zipIdx.map fun entry =>
    { entry.1 with name := lead ++ (decimal entry.2 ++ ':' :: entry.1.name) }

/-- What `publish_once` does with the frames of one source: frames without a name of their own are
left out, and so are those of a source that has none. -/
def addSource (gathered : List (CameraFrame β) × Dict Text (Option (List Text)))
    (source : Text × List (CameraFrame β)) :
    List (CameraFrame β) × Dict Text (Option (List Text)) :=
  let names := source.2.map name
  if source.2 = [] ∨ ¬names.Nodup ∨ ∃ name ∈ names, name ∈ gathered.1.map CameraFrame.name then gathered
  else (gathered.1 ++ source.2, gathered.2.set source.1 (some names))

/-- The cameras and `source_frames` of a snapshot, from what the sources captured. -/
def gather (captured : List (Text × List (CameraFrame β))) : View β :=
  let gathered := captured.foldl addSource ([], .empty)
  { cameras := gathered.1, sourceFrames := some gathered.2 }

theorem publicFrameName_capture (digits : ∀ c : Char, c.isDigit → isDigit c) {lead}
    (some_ : lead ≠ []) (k : Nat) (name : Text) :
    publicFrameName isDigit lead (lead ++ (decimal k ++ ':' :: name)) = name := by
  have digit : ∀ c ∈ decimal k, c.isDigit := fun c member =>
    Nat.isDigit_of_mem_toDigits (by decide) (by decide) member
  have separate : ∀ c ∈ decimal k, decide (c ≠ ':') = true := by
    intro c member
    refine decide_eq_true ?_
    rintro rfl
    exact absurd (digit ':' member) (by decide)
  have index : (decimal k ++ ':' :: name).takeWhile (fun c => c ≠ ':') = decimal k := by
    rw [takeWhile_append_of_pos separate, takeWhile_cons_of_neg (by decide), append_nil]
  have rest : (decimal k ++ ':' :: name).dropWhile (fun c => c ≠ ':') = ':' :: name := by
    rw [dropWhile_append_of_pos separate, dropWhile_cons_of_neg (by decide)]
  have starts : ¬(lead = [] ∨ ¬lead <+: lead ++ (decimal k ++ ':' :: name)) := by
    rintro (none | fails)
    · exact some_ none
    · exact fails (prefix_append ..)
  have numbered : decimal k ≠ [] ∧ (decimal k).all isDigit := by
    refine ⟨Nat.toDigits_ne_nil, List.all_eq_true.mpr fun c member => digits c (digit c member)⟩
  rw [publicFrameName, if_neg starts]
  simp only [drop_left, index, rest]
  exact if_pos numbered

theorem publicNames_capture (digits : ∀ c : Char, c.isDigit → isDigit c) {lead}
    (some_ : lead ≠ []) (frames : List (CameraFrame β)) :
    ((capture lead frames).map name).map (publicFrameName isDigit lead) = frames.map name := by
  have named : publicFrameName isDigit lead ∘ name ∘ (fun entry : CameraFrame β × Nat =>
      ({ entry.1 with name := lead ++ (decimal entry.2 ++ ':' :: entry.1.name) } : CameraFrame β)) =
      name ∘ fst := by
    funext entry
    exact publicFrameName_capture digits some_ entry.2 entry.1.name
  rw [List.map_map, capture, List.map_map, Function.comp_assoc, named, ← List.map_map, List.zipIdx_map_fst]

/-- What has been gathered from `done`. -/
structure Gathered (done : List (Text × List (CameraFrame β)))
    (g : List (CameraFrame β) × Dict Text (Option (List Text))) : Prop where
  unique : (g.1.map name).Nodup
  listed : ∀ i entry, g.2.get? i = some entry → ∃ frames, (i, frames) ∈ done ∧
    entry = some (frames.map name) ∧ (frames.map name).Nodup ∧
    ∀ a ∈ frames.map name, a ∈ g.1.map name
  apart : ∀ i j names others, g.2.get? i = some (some names) → g.2.get? j = some (some others) →
    ∀ a ∈ names, a ∈ others → i = j

theorem gathered_addSource {done} {g} (gathered : Gathered done g)
    (source : Text × List (CameraFrame β)) : Gathered (done ++ [source]) (addSource g source) := by
  have wider {g' : List (CameraFrame β) × Dict Text (Option (List Text))}
      (grown : ∀ a ∈ g.1.map name, a ∈ g'.1.map name)
      {i : Text} {entry : Option (List Text)} (found : g.2.get? i = some entry) :
      ∃ frames, (i, frames) ∈ done ++ [source] ∧ entry = some (frames.map name) ∧ (frames.map name).Nodup ∧
        ∀ a ∈ frames.map name, a ∈ g'.1.map name := by
    obtain ⟨frames, member, same, distinct, held⟩ := gathered.listed i entry found
    exact ⟨frames, mem_append_left _ member, same, distinct, fun a here => grown a (held a here)⟩
  unfold addSource
  dsimp only
  split
  · exact ⟨gathered.unique, fun i entry => wider fun _ => id, gathered.apart⟩
  · rename_i fine
    simp only [not_or, not_not, not_exists, not_and] at fine
    obtain ⟨_, distinct, fresh⟩ := fine
    have left : ∀ a ∈ g.1.map name, a ∈ (g.1 ++ source.2).map name := fun a here => by
      rw [map_append]
      exact mem_append_left _ here
    -- A frame that was gathered before has another name than those of this source.
    have strange {j : Text} {others : List Text} (found : g.2.get? j = some (some others)) {a : Text}
        (here : a ∈ others) : a ∉ source.2.map name := fun mine => by
      obtain ⟨frames, _, same, _, held⟩ := gathered.listed j _ found
      obtain rfl := Option.some.inj same
      exact fresh a mine (held a here)
    refine ⟨?_, fun i entry found => ?_, fun i j names others first second a mine yours => ?_⟩
    · rw [map_append]
      exact List.nodup_append.mpr ⟨gathered.unique, distinct, fun a old b new same =>
        fresh b new (same ▸ old)⟩
    · by_cases mine_ : i = source.1
      · subst mine_
        rw [get?_set_self] at found
        obtain rfl := Option.some.inj found
        refine ⟨source.2, mem_append_right _ mem_cons_self, rfl, distinct, fun a here => ?_⟩
        rw [map_append]
        exact mem_append_right _ here
      · rw [get?_set_of_ne mine_] at found
        exact wider left found
    · by_cases one : i = source.1
      · by_cases two : j = source.1
        · rw [one, two]
        · rw [one, get?_set_self] at first
          rw [get?_set_of_ne two] at second
          obtain rfl := Option.some.inj (Option.some.inj first)
          exact absurd mine (strange second yours)
      · by_cases two : j = source.1
        · rw [get?_set_of_ne one] at first
          rw [two, get?_set_self] at second
          obtain rfl := Option.some.inj (Option.some.inj second)
          exact absurd yours (strange first mine)
        · rw [get?_set_of_ne one] at first
          rw [get?_set_of_ne two] at second
          exact gathered.apart i j names others first second a mine yours

/-- **What the producer gathers from the hub's sources is a shared snapshot**, and the public names
of a source in it are the names its frames were captured under. -/
theorem gather_shared (digits : ∀ c : Char, c.isDigit → isDigit c)
    (captured : List (Text × List (CameraFrame β))) (place : Text → Nat)
    (attached : ∀ source ∈ captured, sourcePrefixes.get? source.1 = some (sourcePrefix (place source.1) source.1))
    (named : ∀ source ∈ captured, ∀ frame ∈ source.2, Http.blank frame.name = false)
    (body : snapshot.body = gather (captured.map fun source =>
      (source.1, capture (sourcePrefix (place source.1) source.1) source.2))) :
    Shared isDigit sourcePrefixes snapshot ∧
    ∀ i, publicNames isDigit sourcePrefixes snapshot i = [] ∨ ∃ frames, (i, frames) ∈ captured ∧
      publicNames isDigit sourcePrefixes snapshot i = frames.map name := by
  let inside := captured.map fun source =>
    (source.1, capture (sourcePrefix (place source.1) source.1) source.2)
  have gathered : Gathered inside (inside.foldl addSource ([], .empty)) :=
    foldl_rule (fun done source g _ old => gathered_addSource old source)
      ⟨.nil, fun _ _ => nofun, fun _ _ _ _ => nofun⟩
  obtain ⟨g, result⟩ : ∃ g, g = inside.foldl addSource ([], .empty) := ⟨_, rfl⟩
  rw [← result] at gathered
  have cameras : snapshot.body.cameras = g.1 := by rw [body, gather, result]
  have actual (i : Text) : actualNames snapshot i = ((g.2.get? i).bind id).getD [] := by
    rw [actualNames, body, gather, result]
  -- A source with frames is listed with those that it captured.
  have entry {i a : Text} (owned : a ∈ actualNames snapshot i) :
      ∃ frames, (i, frames) ∈ inside ∧ actualNames snapshot i = frames.map name ∧
        g.2.get? i = some (some (actualNames snapshot i)) := by
    cases found : g.2.get? i with
    | none =>
      rw [actual, found] at owned
      cases owned
    | some =>
      obtain ⟨frames, member, rfl, _⟩ := gathered.listed i _ found
      have same : actualNames snapshot i = frames.map name := by
        rw [actual, found]
        exact getD_some
      exact ⟨frames, member, same, congrArg (some ∘ some) same.symm⟩
  have shown (i : Text) : publicNames isDigit sourcePrefixes snapshot i = [] ∨ ∃ frames, (i, frames) ∈ captured ∧
        publicNames isDigit sourcePrefixes snapshot i = frames.map name := by
    cases empty : actualNames snapshot i with
    | nil => exact .inl (by rw [publicNames_eq, empty]; rfl)
    | cons a =>
      have owned : a ∈ actualNames snapshot i := by
        rw [empty]
        exact mem_cons_self
      obtain ⟨frames, member, same, _⟩ := entry owned
      obtain ⟨source, there, made⟩ := List.mem_map.mp member
      obtain ⟨rfl, rfl⟩ := Prod.mk.inj made
      refine .inr ⟨source.2, there, ?_⟩
      have lead : sourcePrefix (place source.1) source.1 ≠ [] :=
        append_ne_nil_of_right_ne_nil _ (cons_ne_nil ':' [])
      rw [publicNames_eq, same]
      unfold publicName
      rw [attached source there, getD_some, publicNames_capture digits lead]
  refine ⟨⟨?_, fun i => ?_, fun i j a mine yours => ?_, fun i a owned => ?_, fun i n published => ?_⟩, shown⟩
  · rw [cameras]
    exact gathered.unique
  · cases found : g.2.get? i with
    | none =>
      rw [actual, found]
      exact .nil
    | some =>
      obtain ⟨frames, _, rfl, distinct, _⟩ := gathered.listed i _ found
      rw [actual, found]
      exact distinct
  · obtain ⟨_, _, _, first⟩ := entry mine
    obtain ⟨_, _, _, second⟩ := entry yours
    exact gathered.apart i j _ _ first second a mine yours
  · obtain ⟨_, _, _, found⟩ := entry owned
    obtain ⟨frames, _, same, _, held⟩ := gathered.listed i _ found
    rw [Option.some.inj same] at owned
    rw [cameras]
    exact held a owned
  · rcases shown i with none | ⟨frames, member, same⟩
    · rw [none] at published
      cases published
    · rw [same] at published
      obtain ⟨frame, there, rfl⟩ := List.mem_map.mp published
      exact named _ member frame there

/-! ## Two streams of one camera -/

def twoStreams : List (Text × List (CameraFrame Nat)) :=
  [("cam".toList, [⟨"rgb".toList, 0⟩, ⟨"depth".toList, 1⟩])]

def attachedOnce : Dict Text Text := .ofItems [("cam".toList, sourcePrefix 0 "cam".toList)]

def pictured : Snapshot (View Nat) where
  observationId := "o".toList
  serviceInstanceId := "s".toList
  generation := 0
  sequence := 1
  body := gather (twoStreams.map fun source =>
    (source.1, capture (sourcePrefix 0 source.1) source.2))

theorem pictured_shared : Shared Char.isDigit attachedOnce pictured :=
  (gather_shared (fun _ => id) twoStreams (fun _ => 0) (by decide +kernel) (by decide +kernel) rfl).1

def rgb : Text × Text := ("cam".toList, "rgb".toList)

def depth : Text × Text := ("cam".toList, "depth".toList)

/-- The second stream is asked for first: both are returned, each once. -/
theorem framesFor_iff_reversed : Answered Char.isDigit attachedOnce pictured [depth, rgb] := by
  have valid : Valid Char.isDigit attachedOnce pictured [depth, rgb] :=
    ⟨by decide, by decide +kernel⟩
  have inTurn : [depth, rgb].Pairwise (InTurn Char.isDigit attachedOnce pictured) := by
    have single : ¬Leads Char.isDigit attachedOnce pictured depth := by decide +kernel
    exact .cons (fun _ _ _ => single) (pairwise_singleton _ rgb)
  exact (framesFor_iff pictured_shared valid).mpr ⟨inTurn, by decide +kernel⟩

/-- The first stream is asked for first, and the request for the second is refused. -/
theorem first_then_second : ¬∀ (snapshot : Snapshot (View Nat)) (requested : List (Text × Text)),
    Shared Char.isDigit attachedOnce snapshot → Valid Char.isDigit attachedOnce snapshot requested →
    Answered Char.isDigit attachedOnce snapshot requested := by
  intro always
  have valid : Valid Char.isDigit attachedOnce pictured [rgb, depth] :=
    ⟨by decide, by decide +kernel⟩
  obtain ⟨entries, ran, _⟩ := always pictured _ pictured_shared valid
  have refused : resolution Char.isDigit attachedOnce pictured [rgb, depth] = .error .multiFrame := by
    decide +kernel
  rw [refused] at ran
  cases ran

end EmbodiRun.Observations.Hub
