/-
# Observations.Window -- what `ObservationStore` retains, under any order of its sections

The retired identifiers are forgotten after a bound, so what keeps an identifier from coming back
is its sequence: the window of a generation is never empty after its first publication.

* `store_window`: **it holds after any sections, `get` returns what is retained, and an identifier
  that came from `next_observation_id` is published once and, once retired, never returned**.
-/
import EmbodiRun.Http.Routes
import EmbodiRun.Observations.Store
import EmbodiRun.Transition.Machine

namespace EmbodiRun.Observations

open Data Devices Transition List

universe u

variable {β : Type u} {cfg : Config}

/-! ## The source -/

inductive GetError where
  /-- `ValueError("observation_id must not be empty")`. -/
  | emptyId
  /-- `ObservationExpiredError(…, "observation expired from bounded retention")`. -/
  | expired (observationId : Text)
  /-- `ObservationUnavailableError(…, "observation ID is unknown or belongs to another generation")`. -/
  | unavailable (observationId : Text)

def Store.get (s : Store β) (observationId : Text) : Except GetError (Snapshot β) :=
  if Http.blank observationId then .error .emptyId
  else
    match s.byId.get? observationId with
    | some snapshot => .ok snapshot
    | none =>
      if observationId ∈ s.retiredIds then .error (.expired observationId)
      else .error (.unavailable observationId)

open Store

namespace Window

/-- `handed` and `published` are read by no section: what `next_observation_id` returned and what
`publish` accepted, oldest first. -/
structure State (β : Type u) where
  store : Store β := {}
  handed : List (Text × Nat × Nat) := []
  published : List (Snapshot β) := []

inductive Label (β : Type u) where
  | nextObservationId
  | publish (snapshot : Snapshot β)
  | beginGeneration
  | get (observationId : Text)
  | close

def step (cfg : Config) (s : State β) : Label β → Option (State β)
  | .nextObservationId =>
    match s.store.nextObservationId cfg with
    | .ok (triple, store) => some { s with store, handed := s.handed ++ [triple] }
    | .error _ => some s
  | .publish snapshot =>
    match s.store.publish cfg snapshot with
    | .ok store => some { s with store, published := s.published ++ [snapshot] }
    | .error _ => some s
  | .beginGeneration =>
    match s.store.beginGeneration cfg with
    | .ok store => some { s with store }
    | .error _ => some s
  | .get _ => some s
  | .close => some { s with store := s.store.close }

/-! ## What a section does -/

inductive Move (cfg : Config) (s : State β) : Label β → State β → Prop where
  | raises (l : Label β) : Move cfg s l s
  | hands (live : s.store.closed = false) : Move cfg s .nextObservationId
        { s with
          store := { s.store with nextSequence := s.store.nextSequence + 1 }
          handed := s.handed ++ [(observationId cfg s.store.generation (s.store.nextSequence + 1),
            s.store.generation, s.store.nextSequence + 1)] }
  | publishes (x : Snapshot β) (store : Store β) (accepted : s.store.publish cfg x = .ok store) :
      Move cfg s (.publish x) { s with store, published := s.published ++ [x] }
  | begins (store : Store β) (begun : s.store.beginGeneration cfg = .ok store) :
      Move cfg s .beginGeneration { s with store }
  | closes : Move cfg s .close { s with store := s.store.close }

variable {s t : State β} {l : Label β} {ls : List (Label β)} {store : Store β} {x : Snapshot β}

theorem step_move (next : step cfg s l = some t) : Move cfg s l t := by
  cases l with simp only [step] at next
  | nextObservationId =>
    split at next
    · rename_i triple store handed
      cases next
      unfold nextObservationId at handed
      split at handed
      · cases handed
      · rename_i live
        cases handed
        exact .hands (Bool.eq_false_iff.mpr live)
    · cases next
      exact .raises _
  | publish x =>
    split at next
    · rename_i store accepted
      cases next
      exact .publishes x store accepted
    · cases next
      exact .raises _
  | beginGeneration =>
    split at next
    · rename_i store begun
      cases next
      exact .begins store begun
    · cases next
      exact .raises _
  | get =>
    cases next
    exact .raises _
  | close =>
    cases next
    exact .closes

/-! ## The window -/

/-- The index holds the window, which is bounded, in order, of one generation, and ends with the latest. -/
structure Windowed (cfg : Config) (store : Store β) : Prop where
  indexed : ∀ id y, store.byId.get? id = some y ↔ y ∈ store.retained ∧ y.observationId = id
  bounded : store.retained.length ≤ cfg.maxRetained
  increasing : store.retained.Pairwise fun a b => a.sequence < b.sequence
  current : ∀ y ∈ store.retained, y.generation = store.generation
  latest : store.latest = store.retained.getLast?

def kept (cfg : Config) (store : Store β) : List (Snapshot β) :=
  if store.retained.length = cfg.maxRetained then store.retained.tail else store.retained

theorem pushed_retained (bounded : store.retained.length ≤ cfg.maxRetained) :
    pushed cfg.maxRetained store.retained x = kept cfg store ++ [x] := by
  have positive := cfg.positive
  unfold pushed kept
  split
  · rename_i full
    have one : store.retained.length + 1 - cfg.maxRetained = 1 := by omega
    have nonempty : store.retained ≠ [] := by
      intro empty
      rw [empty, length_nil] at full
      omega
    rw [one, drop_one, tail_append_of_ne_nil nonempty]
  · have none : store.retained.length + 1 - cfg.maxRetained = 0 := by omega
    rw [none, drop_zero]

theorem kept_sublist : (kept cfg store).Sublist store.retained := by
  unfold kept
  split
  · exact tail_sublist _
  · exact .refl _

theorem Windowed.distinct (windowed : Windowed cfg store) :
    store.retained.Pairwise fun a b => a.observationId ≠ b.observationId := by
  refine windowed.increasing.imp_of_mem fun {a b} here there before same => ?_
  have first := (windowed.indexed _ a).mpr ⟨here, rfl⟩
  have second := (windowed.indexed _ b).mpr ⟨there, same.symm⟩
  obtain rfl := Option.some.inj (first.symm.trans second)
  exact Nat.lt_irrefl _ before

theorem Windowed.sequence_le (windowed : Windowed cfg store) (member : x ∈ store.retained)
    {last} (found : store.retained.getLast? = some last) : x.sequence ≤ last.sequence := by
  obtain ⟨before, window⟩ := getLast?_eq_some_iff.mp found
  have increasing := windowed.increasing
  rw [window, pairwise_append] at increasing
  rw [window, mem_append, mem_singleton] at member
  rcases member with earlier | rfl
  · exact (increasing.2.2 x earlier last mem_cons_self).le
  · exact Nat.le_refl _

theorem indexed_retire (windowed : Windowed cfg store) (id : Text) (y : Snapshot β) :
    (store.retire cfg).byId.get? id = some y ↔ y ∈ kept cfg store ∧ y.observationId = id := by
  unfold retire kept
  have indexed := windowed.indexed id y
  have distinct := windowed.distinct
  split
  · rename_i first rest window
    rw [window] at indexed distinct
    split
    · have apart := (List.pairwise_cons.mp distinct).1
      rw [window, tail_cons]
      by_cases evicted : id = first.observationId
      · subst evicted
        rw [Dict.get?_erase_self]
        refine iff_of_false (by simp) ?_
        rintro ⟨member, same⟩
        exact apart y member same.symm
      · rw [Dict.get?_erase_of_ne evicted, indexed, mem_cons]
        constructor
        · rintro ⟨rfl | member, same⟩
          · exact absurd same.symm evicted
          · exact ⟨member, same⟩
        · rintro ⟨member, same⟩
          exact ⟨.inr member, same⟩
    · rw [window]
      exact indexed
  · rename_i window
    have room : ¬store.retained.length = cfg.maxRetained := by
      have positive := cfg.positive
      rw [window, length_nil]
      omega
    rw [if_neg room]
    exact indexed

structure Writes (cfg : Config) (store : Store β) (x : Snapshot β) (after : Store β) : Prop where
  live : store.closed = false
  unclosed : after.closed = false
  current : x.generation = store.generation
  unused : store.byId.get? x.observationId = none
  increases : ∀ last, store.retained.getLast? = some last → last.sequence < x.sequence
  retained : after.retained = pushed cfg.maxRetained store.retained x
  byId : after.byId = (store.retire cfg).byId.set x.observationId x
  latest : after.latest = some x
  generation : after.generation = store.generation
variable {after : Store β}

theorem writes_of_publish (accepted : store.publish cfg x = .ok after) : Writes cfg store x after := by
  have published := published_of_publish accepted
  have unclosed := published.closed.trans published.live
  obtain ⟨byId, retiredIds, retired⟩ := retire_eq cfg store
  unfold publish at accepted
  split at accepted
  · cases accepted
  split at accepted
  · cases accepted
  split at accepted
  · cases accepted
  split at accepted
  · cases accepted
  rename_i unused
  split at accepted
  · cases accepted
  obtain rfl := Except.ok.inj accepted
  have window : (store.retire cfg).retained = store.retained := by rw [retired]
  exact ⟨published.live, unclosed, published.current,
    Option.not_isSome_iff_eq_none.mp fun found => unused (.inl found), published.increases,
    congrArg (pushed cfg.maxRetained · x) window, rfl, published.latest, published.generation⟩

theorem windowed_publish (windowed : Windowed cfg store) (writes : Writes cfg store x after) :
    Windowed cfg after := by
  have window := writes.retained.trans (pushed_retained windowed.bounded)
  have unused : ∀ y ∈ kept cfg store, y.observationId ≠ x.observationId := by
    intro y member same
    have found := (windowed.indexed _ y).mpr ⟨kept_sublist.subset member, same⟩
    rw [writes.unused] at found
    cases found
  refine ⟨fun id y => ?_, ?_, ?_, ?_, ?_⟩
  · rw [writes.byId, window, mem_append, mem_singleton]
    by_cases mine : id = x.observationId
    · subst mine
      rw [Dict.get?_set_self]
      constructor
      · rintro ⟨⟩
        exact ⟨.inr rfl, rfl⟩
      · rintro ⟨member | rfl, same⟩
        · exact absurd same (unused y member)
        · rfl
    · rw [Dict.get?_set_of_ne mine, indexed_retire windowed]
      constructor
      · rintro ⟨member, same⟩
        exact ⟨.inl member, same⟩
      · rintro ⟨member | rfl, same⟩
        · exact ⟨member, same⟩
        · exact absurd same.symm mine
  · have bounded := windowed.bounded
    have positive := cfg.positive
    rw [writes.retained, pushed, length_drop, length_append, length_singleton]
    omega
  · rw [window, pairwise_append]
    refine ⟨windowed.increasing.sublist kept_sublist, pairwise_singleton _ _, ?_⟩
    intro a member b last
    obtain rfl := List.mem_singleton.mp last
    have member := kept_sublist.subset member
    obtain ⟨last, found⟩ : ∃ last, store.retained.getLast? = some last :=
      ⟨_, getLast?_eq_some_getLast (ne_nil_of_mem member)⟩
    exact Nat.lt_of_le_of_lt (windowed.sequence_le member found) (writes.increases last found)
  · intro y member
    rw [window, mem_append, mem_singleton] at member
    rw [writes.generation]
    rcases member with old | rfl
    · exact windowed.current y (kept_sublist.subset old)
    · exact writes.current
  · rw [writes.latest, window, getLast?_concat]

theorem windowed_empty (index : store.byId = .empty) (window : store.retained = [])
    (latest : store.latest = none) : Windowed cfg store := by
  refine ⟨fun id y => ?_, ?_, ?_, ?_, ?_⟩
  · rw [index, window]
    exact iff_of_false nofun fun both => not_mem_nil both.1
  · rw [window]
    exact Nat.zero_le _
  · rw [window]
    exact .nil
  · rw [window]
    exact nofun
  · rw [latest, window]
    rfl

theorem begun_eq (begun : store.beginGeneration cfg = .ok after) :
    store.closed = false ∧ ∃ retiredIds, after = { store with
      retiredIds, retained := [], byId := .empty, latest := none, generation := store.generation + 1 } := by
  unfold beginGeneration at begun
  split at begun
  · cases begun
  · rename_i live
    obtain rfl := Except.ok.inj begun
    exact ⟨Bool.eq_false_iff.mpr live, _, rfl⟩

theorem windowed_step (windowed : Windowed cfg s.store) (next : step cfg s l = some t) : Windowed cfg t.store := by
  cases step_move next with
  | raises => exact windowed
  | hands => exact ⟨windowed.1, windowed.2, windowed.3, windowed.4, windowed.5⟩
  | publishes x store accepted => exact windowed_publish windowed (writes_of_publish accepted)
  | begins store begun =>
    obtain ⟨_, _, rfl⟩ := begun_eq begun
    exact windowed_empty rfl rfl rfl
  | closes =>
    dsimp only
    unfold close
    split
    · exact windowed
    · exact windowed_empty rfl rfl rfl

theorem get_retained (windowed : Windowed cfg store) {id} (found : store.get id = .ok x) :
    x ∈ store.retained ∧ x.observationId = id := by
  unfold Store.get at found
  split at found
  · cases found
  split at found
  · rename_i y held
    obtain rfl := Except.ok.inj found
    exact (windowed.indexed id y).mp held
  · split at found <;> cases found

/-! ## Identifiers of `next_observation_id` -/

theorem decimal_inj {m n} (same : decimal m = decimal n) : m = n := by
  have read := congrArg (Nat.ofDigitChars 10 · 0) same
  rwa [decimal, decimal, Nat.ofDigitChars_ten_toDigits, Nat.ofDigitChars_ten_toDigits] at read

theorem takeWhile_decimal (n : Nat) (rest : Text) :
    (decimal n ++ ':' :: rest).takeWhile Char.isDigit = decimal n := by
  have digits : ∀ c ∈ decimal n, c.isDigit := fun c member =>
    Nat.isDigit_of_mem_toDigits (by decide) (by decide) member
  rw [takeWhile_append_of_pos digits, takeWhile_cons_of_neg (by decide), append_nil]

theorem observationId_inj {g h m n} (same : observationId cfg g m = observationId cfg h n) : g = h ∧ m = n := by
  simp only [observationId, append_assoc, append_cancel_left_eq, cons_append, nil_append] at same
  have tail := (List.cons.inj (List.cons.inj same).2).2
  have generations := congrArg (takeWhile Char.isDigit) tail
  rw [takeWhile_decimal, takeWhile_decimal] at generations
  obtain rfl := decimal_inj generations
  have sequences := (List.cons.inj (List.cons.inj (append_cancel_left tail)).2).2
  exact ⟨rfl, decimal_inj sequences⟩

/-- Every published snapshot carries what `next_observation_id` returned. -/
def Issued (s : State β) (l : Label β) : Prop :=
  ∀ x, l = .publish x → (x.observationId, x.generation, x.sequence) ∈ s.handed

/-- What was published in this generation is not above the window, and no identifier was published
twice. -/
structure Spent (cfg : Config) (s : State β) : Prop where
  handed : ∀ triple ∈ s.handed, triple.1 = observationId cfg triple.2.1 triple.2.2
  named : ∀ x ∈ s.published, x.observationId = observationId cfg x.generation x.sequence
  older : ∀ x ∈ s.published, x.generation ≤ s.store.generation
  under : s.store.closed = false → ∀ x ∈ s.published, x.generation = s.store.generation →
    ∃ last, s.store.retained.getLast? = some last ∧ x.sequence ≤ last.sequence
  once : s.published.Pairwise fun a b => a.observationId ≠ b.observationId

theorem spent_init : Spent cfg ({} : State β) := ⟨nofun, nofun, nofun, fun _ => nofun, .nil⟩

theorem spent_step (issued : Issued s l) (spent : Spent cfg s) (next : step cfg s l = some t) : Spent cfg t := by
  cases step_move next with
  | raises => exact spent
  | hands =>
    refine ⟨fun triple member => ?_, spent.named, spent.older, spent.under, spent.once⟩
    rcases List.mem_append.mp member with old | new
    · exact spent.handed triple old
    · obtain rfl := List.mem_singleton.mp new
      rfl
  | publishes x store accepted =>
    have published := published_of_publish accepted
    have named : x.observationId = observationId cfg x.generation x.sequence :=
      spent.handed _ (issued x rfl)
    refine ⟨spent.handed, fun y member => ?_, fun y member => ?_, fun _ y member current => ?_, ?_⟩
    · rcases List.mem_append.mp member with old | new
      · exact spent.named y old
      · obtain rfl := List.mem_singleton.mp new
        exact named
    · rw [published.generation]
      rcases List.mem_append.mp member with old | new
      · exact spent.older y old
      · obtain rfl := List.mem_singleton.mp new
        exact published.current.le
    · refine ⟨x, published.last, ?_⟩
      rcases List.mem_append.mp member with old | new
      · rw [published.generation] at current
        obtain ⟨last, found, below⟩ := spent.under published.live y old current
        exact below.trans (published.increases last found).le
      · obtain rfl := List.mem_singleton.mp new
        exact Nat.le_refl _
    · refine List.pairwise_append.mpr ⟨spent.once, pairwise_singleton _ _, ?_⟩
      intro y old x' new same
      obtain rfl := List.mem_singleton.mp new
      rw [spent.named y old, named] at same
      obtain ⟨generation, sequence⟩ := observationId_inj same
      obtain ⟨last, found, below⟩ :=
        spent.under published.live y old (generation.trans published.current)
      have above := published.increases last found
      omega
  | begins store begun =>
    obtain ⟨_, _, rfl⟩ := begun_eq begun
    refine ⟨spent.handed, spent.named, fun x member => (spent.older x member).trans (Nat.le_succ _),
      fun _ x member current => ?_, spent.once⟩
    have older := spent.older x member
    dsimp only at current
    omega
  | closes =>
    cases shut : s.store.closed with
    | true =>
      have same : s.store.close = s.store := if_pos shut
      rw [same]
      exact spent
    | false =>
      have closed : s.store.close = { s.store with
          closed := true, subscriptions := ∅, retained := [], byId := .empty, latest := none } :=
        if_neg (Bool.eq_false_iff.mp shut)
      rw [closed]
      exact ⟨spent.handed, spent.named, spent.older, nofun, spent.once⟩

/-! ## Runs -/

def Follows (s t : State β) : Prop :=
  ∃ fresh, t.published = s.published ++ fresh ∧ ∀ y ∈ t.store.retained, y ∈ s.store.retained ∨ y ∈ fresh

theorem follows_refl (s : State β) : Follows s s :=
  ⟨[], (append_nil _).symm, fun _ member => .inl member⟩

theorem Follows.trans {u} (first : Follows s t) (second : Follows t u) : Follows s u := by
  obtain ⟨fresh, published, kept⟩ := first
  obtain ⟨later, grown, still⟩ := second
  refine ⟨fresh ++ later, by rw [grown, published, append_assoc], fun y member => ?_⟩
  rcases still y member with old | new
  · exact (kept y old).imp_right (mem_append_left _)
  · exact .inr (mem_append_right _ new)

theorem follows_of_store {store} {handed} (kept : ∀ y ∈ store.retained, y ∈ s.store.retained) :
    Follows s { store, handed, published := s.published } :=
  ⟨[], (append_nil _).symm, fun y member => .inl (kept y member)⟩

theorem follows_step (s : State β) (l : Label β) (t : State β) (next : step cfg s l = some t) : Follows s t := by
  cases step_move next with
  | raises => exact follows_refl s
  | hands => exact follows_of_store fun _ => id
  | publishes x store accepted =>
    refine ⟨[x], rfl, fun y member => ?_⟩
    have window := (writes_of_publish accepted).retained
    dsimp only at member
    rw [window] at member
    rcases List.mem_append.mp (mem_of_mem_drop member) with old | new
    · exact .inl old
    · exact .inr new
  | begins store begun =>
    obtain ⟨_, _, rfl⟩ := begun_eq begun
    exact follows_of_store nofun
  | closes =>
    refine follows_of_store fun y member => ?_
    unfold close at member
    split at member
    · exact member
    · cases member

/-- **The window after any sections** has no identifier twice, where identifiers come from
`next_observation_id`. -/
theorem store_window (ran : run (step cfg) ({} : State β) ls = some s) : Windowed cfg s.store ∧
    (∀ id x, s.store.get id = .ok x → x ∈ s.store.retained ∧ x.observationId = id) ∧
    (Along (step cfg) Issued {} ls → s.published.Pairwise (fun a b => a.observationId ≠ b.observationId) ∧
      ∀ before after u, ls = before ++ after → run (step cfg) {} before = some u →
        ∀ x ∈ u.published, (∀ y ∈ u.store.retained, y.observationId ≠ x.observationId) →
          ∀ y, s.store.get x.observationId ≠ .ok y) := by
  have windowed : Windowed cfg s.store :=
    run_invariant (fun _ _ _ => windowed_step) (windowed_empty rfl rfl rfl) ran
  refine ⟨windowed, fun id x => get_retained windowed, fun issued => ?_⟩
  have once := (run_induction (fun _ _ _ => spent_step) issued spent_init ran).once
  refine ⟨once, fun before after u split reached x published retired y found => ?_⟩
  subst split
  obtain ⟨v, first, rest⟩ := run_append.mp ran
  obtain rfl := Option.some.inj (reached.symm.trans first)
  obtain ⟨fresh, grown, kept⟩ := run_relates follows_refl Follows.trans follows_step rest
  obtain ⟨retained, same⟩ := get_retained windowed found
  rcases kept y retained with old | new
  · exact retired y old same
  · rw [grown, pairwise_append] at once
    exact once.2.2 x published y new same.symm

def single : Config := ⟨['s'], 1, Nat.one_pos⟩

def named (n : Nat) : Snapshot Unit := ⟨observationId single 0 n, ['s'], 0, n, ()⟩

/-- Two observations, the first of which is evicted, and an attempt to publish it again. -/
def evicts : List (Label Unit) :=
  [.nextObservationId, .publish (named 1), .nextObservationId, .publish (named 2), .publish (named 1),
    .get (named 1).observationId]

theorem store_window_evicts : ∃ s, run (step single) ({} : State Unit) evicts = some s ∧
    s.published = [named 1, named 2] ∧ ∀ y, s.store.get (named 1).observationId ≠ .ok y := by
  have facts : (run (step single) ({} : State Unit) evicts).map (fun s => s.published) =
      some [named 1, named 2] := by decide +kernel
  obtain ⟨s, ran, published⟩ := Option.map_eq_some_iff.mp facts
  have evicted : (run (step single) ({} : State Unit) (evicts.take 4)).map
      (fun u => (u.published, u.store.retained)) = some ([named 1, named 2], [named 2]) := by
    decide +kernel
  obtain ⟨u, reached, held⟩ := Option.map_eq_some_iff.mp evicted
  have retained : u.store.retained = [named 2] := congrArg Prod.snd held
  have member : named 1 ∈ u.published := by
    have earlier : u.published = [named 1, named 2] := congrArg Prod.fst held
    rw [earlier]
    exact mem_cons_self
  have issued : Along (step single) Issued ({} : State Unit) evicts := by
    refine along_cons nofun rfl <| along_cons ?_ rfl <| along_cons nofun rfl <|
      along_cons ?_ rfl <| along_cons ?_ rfl <| along_cons nofun rfl trivial
    all_goals
      rintro x ⟨⟩
      decide +kernel
  refine ⟨s, ran, published, ?_⟩
  have never := ((store_window ran).2.2 issued).2 (evicts.take 4) (evicts.drop 4) u rfl reached
  refine never (named 1) member ?_
  rw [retained]
  decide

/-- An identifier that did not come from `next_observation_id` is forgotten, and comes back. -/
def aliased (n : Nat) : Snapshot Unit := ⟨['x'], ['s'], 0, n, ()⟩

end Window

end EmbodiRun.Observations
