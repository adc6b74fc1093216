/-
# Observations.Subscriptions -- one publisher, any number of subscriptions

`publish` and `subscribe` register under the store's lock and offer outside it.  `step`
interleaves the offers of one publisher with every other call: a `replay` of the latest
snapshot is a step of its own, after the section of `subscribe` that read it.
-/
import EmbodiRun.Observations.Store
import EmbodiRun.Transition.Machine

namespace EmbodiRun.Observations.Subscriptions

open Function
open Transition Subscription

universe u

/-! ## The machine -/

structure State (β : Type u) where
  store : Store β := {}
  subs : SubId → Option (Subscription β) := fun _ => none
  /-- The `latest` a call of `subscribe` is about to offer; it has not returned yet. -/
  replays : SubId → Option (Snapshot β) := fun _ => none
  /-- What the publisher is offering, and the subscribers still to serve. -/
  fanOut : Option (Snapshot β × Finset SubId) := none
  /-- The subscriptions that `unsubscribe` or `close` has still to mark closed. -/
  shutting : Finset SubId := ∅

open State

inductive Label (β : Type u) where
  | publish (snapshot : Snapshot β)
  | offer (c : SubId)
  | published
  | subscribe (c : SubId) (maxQueue : Int) (queueSize : Option Int) (replayLatest : Bool)
  | replay (c : SubId)
  | get (c : SubId)
  | unsubscribe (c : SubId)
  | close
  | shut (c : SubId)

variable {β : Type u}

def State.setSub (s : State β) (c : SubId) (sub : Subscription β) : State β :=
  { s with subs := update s.subs c (some sub) }

def State.subscribe (s : State β) (c : SubId) (maxQueue : Int) (queueSize : Option Int)
    (replayLatest : Bool) : State β :=
  let maxQueue := queueSize.getD maxQueue
  if maxQueue ≤ 0 then s
  else match s.store.register c replayLatest with
    | .error _ => s
    | .ok (store, latest) =>
      { s.setSub c { maxQueue } with store, replays := update s.replays c latest }

/-- A subscription belongs to its caller once `subscribe` has returned it. -/
def State.returned (s : State β) (c : SubId) : Option (Subscription β) :=
  match s.replays c with
  | none => s.subs c
  | some _ => none

def step (cfg : Config) (s : State β) : Label β → Option (State β)
  | .publish snapshot => match s.fanOut with
      | some _ => none
      | none => match s.store.publish cfg snapshot with
          | .error _ => some s
          | .ok store => some { s with store, fanOut := some (snapshot, store.subscriptions) }
  | .offer c => match s.fanOut, s.subs c with
      | some (snapshot, rest), some sub =>
        if c ∈ rest then
          some { s.setSub c (sub.offer snapshot) with fanOut := some (snapshot, rest.erase c) }
        else none
      | _, _ => none
  | .published => match s.fanOut with
      | some (_, rest) => if rest = ∅ then some { s with fanOut := none } else none
      | none => none
  | .subscribe c maxQueue queueSize replayLatest =>
    if s.subs c = none then some (s.subscribe c maxQueue queueSize replayLatest) else none
  | .replay c => match s.replays c, s.subs c with
      | some latest, some sub =>
        some { s.setSub c (sub.offer latest) with replays := update s.replays c none }
      | _, _ => none
  | .get c => (s.returned c).map fun sub => s.setSub c sub.get.2
  | .unsubscribe c => (s.returned c).map fun _ =>
    { s with store := s.store.discard c, shutting := insert c s.shutting }
  | .close => some { s with
      store := s.store.close
      shutting := if s.store.closed then s.shutting else s.shutting ∪ s.store.subscriptions }
  | .shut c =>
    if c ∈ s.shutting then
      (s.subs c).map fun sub => { s.setSub c sub.shut with shutting := s.shutting.erase c }
    else none

/-! ## What one step does -/

variable {cfg : Config} {s t : State β} {l : Label β} {ls : List (Label β)}

inductive Move (cfg : Config) (s : State β) : Label β → State β → Prop where
  | stays (l : Label β) : Move cfg s l s
  | publishes (snapshot : Snapshot β) (store : Store β) (idle : s.fanOut = none)
      (section_ : s.store.publish cfg snapshot = .ok store) :
      Move cfg s (.publish snapshot) { s with store, fanOut := some (snapshot, store.subscriptions) }
  | offers (c : SubId) (snapshot : Snapshot β) (rest : Finset SubId) (sub : Subscription β)
      (serving : s.fanOut = some (snapshot, rest)) (found : s.subs c = some sub)
      (due : c ∈ rest) :
      Move cfg s (.offer c) { s.setSub c (sub.offer snapshot) with fanOut := some (snapshot, rest.erase c) }
  | finishes : Move cfg s .published { s with fanOut := none }
  | subscribes (c : SubId) (maxQueue size : Int) (queueSize : Option Int) (replayLatest : Bool)
      (positive : 0 < size) (fresh : s.subs c = none) (live : s.store.closed = false) :
      Move cfg s (.subscribe c maxQueue queueSize replayLatest) { s.setSub c { maxQueue := size } with
          store := { s.store with subscriptions := insert c s.store.subscriptions }
          replays := update s.replays c (if replayLatest then s.store.latest else none) }
  | replays (c : SubId) (latest : Snapshot β) (sub : Subscription β)
      (pending : s.replays c = some latest) (found : s.subs c = some sub) :
      Move cfg s (.replay c) { s.setSub c (sub.offer latest) with replays := update s.replays c none }
  | gets (c : SubId) (sub : Subscription β) (found : s.subs c = some sub) :
      Move cfg s (.get c) (s.setSub c sub.get.2)
  | discards (c : SubId) :
      Move cfg s (.unsubscribe c) { s with store := s.store.discard c, shutting := insert c s.shutting }
  | closes (shutting : Finset SubId) :
      Move cfg s .close { s with store := s.store.close, shutting }
  | shuts (c : SubId) (sub : Subscription β) (found : s.subs c = some sub) :
      Move cfg s (.shut c) { s.setSub c sub.shut with shutting := s.shutting.erase c }

theorem found_of_returned {c} {sub} (returned : s.returned c = some sub) : s.subs c = some sub := by
  unfold State.returned at returned
  split at returned
  · exact returned
  · cases returned

theorem step_move (next : step cfg s l = some t) : Move cfg s l t := by
  cases l with simp only [step] at next
  | publish snapshot =>
    split at next
    · cases next
    · rename_i idle
      split at next <;> cases next
      · exact .stays _
      · exact .publishes snapshot _ idle ‹_›
  | offer c =>
    split at next
    · rename_i snapshot rest sub serving found
      split at next
      · rename_i due
        cases next
        exact .offers c snapshot rest sub serving found due
      · cases next
    · cases next
  | published =>
    split at next
    · split at next <;> cases next
      exact .finishes
    · cases next
  | subscribe c maxQueue queueSize replayLatest =>
    split at next
    · rename_i fresh
      cases next
      unfold subscribe
      dsimp only
      split
      · exact .stays _
      · rename_i positive
        unfold Store.register
        by_cases shut : s.store.closed = true
        · rw [if_pos shut]
          exact .stays _
        · rw [if_neg shut]
          exact .subscribes c maxQueue _ queueSize replayLatest (not_le.mp positive) fresh
            (Bool.eq_false_iff.mpr shut)
    · cases next
  | replay c =>
    split at next
    · rename_i latest sub pending found
      cases next
      exact .replays c latest sub pending found
    · cases next
  | get c =>
    obtain ⟨sub, returned, rfl⟩ := Option.map_eq_some_iff.mp next
    exact .gets c sub (found_of_returned returned)
  | unsubscribe c =>
    obtain ⟨_, _, rfl⟩ := Option.map_eq_some_iff.mp next
    exact .discards c
  | close =>
    cases next
    exact .closes _
  | shut c =>
    split at next
    · obtain ⟨sub, found, rfl⟩ := Option.map_eq_some_iff.mp next
      exact .shuts c sub found
    · cases next

/-! ## Bounds and accounts -/

def State.Accounted (s : State β) : Prop := ∀ c sub, s.subs c = some sub → sub.Accounted

theorem accounted_setSub {c} {sub} (all : s.Accounted) (one : sub.Accounted) : (s.setSub c sub).Accounted := by
  intro d other found
  change update s.subs c (some sub) d = some other at found
  by_cases same : d = c
  · subst same
    rw [update_self] at found
    cases found
    exact one
  · rw [update_of_ne same] at found
    exact all d other found

/-- **No interleaving** exceeds a bound or loses count of an offer. -/
theorem accounted_step (all : s.Accounted) (next : step cfg s l = some t) : t.Accounted := by
  cases step_move next with
  | stays | publishes | finishes | discards | closes => exact all
  | offers c snapshot rest sub _ found | replays c latest sub _ found =>
    exact accounted_setSub all (all c sub found).offer
  | subscribes c _ _ _ _ positive =>
    exact accounted_setSub all (accounted_new positive)
  | gets c sub found => exact accounted_setSub all (all c sub found).get
  | shuts c sub found => exact accounted_setSub all (all c sub found).shut

/-! ## Order -/

/-- Everything published so far has this sequence or a lower one, unless the store is closed. -/
def Under (store : Store β) (n : Nat) : Prop :=
  store.closed = false → ∃ last, store.retained.getLast? = some last ∧ n ≤ last.sequence

def Increasing (sub : Subscription β) : Prop :=
  sub.accepted.Pairwise fun x y => x.sequence < y.sequence

def State.due (s : State β) (c : SubId) : Option (Snapshot β) :=
  match s.fanOut with
  | some (x, rest) => if c ∈ rest then some x else none
  | none => none

structure InOrder (store : Store β) (sub : Subscription β) (replay due : Option (Snapshot β)) :
    Prop where
  increasing : Increasing sub
  published : ∀ y ∈ sub.accepted, Under store y.sequence
  replayed : ∀ x, replay = some x → Under store x.sequence ∧ ∀ y ∈ sub.accepted, x.sequence < y.sequence
  ahead : ∀ x, due = some x → Under store x.sequence ∧
    (∀ y ∈ sub.accepted, y.sequence < x.sequence) ∧ ∀ y, replay = some y → y.sequence < x.sequence

structure Ordered (s : State β) : Prop where
  latest : s.store.latest = s.store.retained.getLast?
  known : ∀ c ∈ s.store.subscriptions, s.subs c ≠ none
  knownDue : ∀ c, s.due c ≠ none → s.subs c ≠ none
  inOrder : ∀ c sub, s.subs c = some sub → InOrder s.store sub (s.replays c) (s.due c)

def Advances (store after : Store β) : Prop := ∀ n, Under store n → Under after n

theorem InOrder.mono {store after : Store β} {sub : Subscription β} {replay due : Option (Snapshot β)}
    (inOrder : InOrder store sub replay due) (advances : Advances store after) :
    InOrder after sub replay due where
  increasing := inOrder.increasing
  published y member := advances _ (inOrder.published y member)
  replayed x pending := (inOrder.replayed x pending).imp_left (advances _)
  ahead x due := (inOrder.ahead x due).imp_left (advances _)

theorem InOrder.same {store : Store β} {sub other : Subscription β}
    {replay due : Option (Snapshot β)} (inOrder : InOrder store sub replay due)
    (same : other.accepted = sub.accepted) : InOrder store other replay due where
  increasing := by
    unfold Increasing
    rw [same]
    exact inOrder.increasing
  published := by rw [same]; exact inOrder.published
  replayed := by rw [same]; exact inOrder.replayed
  ahead := by rw [same]; exact inOrder.ahead

theorem InOrder.offer {store : Store β} {sub : Subscription β} {replay : Option (Snapshot β)}
    {x : Snapshot β} (inOrder : InOrder store sub replay (some x)) :
    InOrder store (sub.offer x) replay none := by
  obtain ⟨under, above, aboveReplay⟩ := inOrder.ahead x rfl
  cases shut : sub.closed with
  | true =>
    rw [offer_closed shut]
    exact ⟨inOrder.increasing, inOrder.published, inOrder.replayed, nofun⟩
  | false =>
    have accepted := accepted_offer (x := x) shut
    refine ⟨?_, ?_, ?_, nofun⟩
    · unfold Increasing
      rw [accepted]
      exact List.pairwise_append.mpr ⟨inOrder.increasing, List.pairwise_singleton _ _,
        fun y member z last => by rw [List.mem_singleton.mp last]; exact above y member⟩
    · intro y member
      rw [accepted] at member
      rcases List.mem_append.mp member with before | last
      · exact inOrder.published y before
      · rw [List.mem_singleton.mp last]
        exact under
    · intro r pending
      refine ⟨(inOrder.replayed r pending).1, fun y member => ?_⟩
      rw [accepted] at member
      rcases List.mem_append.mp member with before | last
      · exact (inOrder.replayed r pending).2 y before
      · rw [List.mem_singleton.mp last]
        exact aboveReplay r pending

theorem InOrder.replay {store : Store β} {sub : Subscription β} {due : Option (Snapshot β)}
    {x : Snapshot β} (inOrder : InOrder store sub (some x) due)
    (first : sub.closed = false → sub.accepted = []) : InOrder store (sub.offer x) none due := by
  cases shut : sub.closed with
  | true =>
    rw [offer_closed shut]
    exact ⟨inOrder.increasing, inOrder.published, nofun, fun y due =>
      ⟨(inOrder.ahead y due).1, (inOrder.ahead y due).2.1, nofun⟩⟩
  | false =>
    have accepted : (sub.offer x).accepted = [x] := by
      rw [accepted_offer shut, first shut, List.nil_append]
    refine ⟨?_, ?_, nofun, ?_⟩
    · unfold Increasing
      rw [accepted]
      exact List.pairwise_singleton _ _
    · intro y member
      rw [accepted] at member
      rw [List.mem_singleton.mp member]
      exact (inOrder.replayed x rfl).1
    · intro y due
      refine ⟨(inOrder.ahead y due).1, fun z member => ?_, nofun⟩
      rw [accepted] at member
      rw [List.mem_singleton.mp member]
      exact (inOrder.ahead y due).2.2 x rfl

theorem first_of_increasing {store : Store β} {sub : Subscription β} {due : Option (Snapshot β)}
    {x : Snapshot β} (inOrder : InOrder store sub (some x) due)
    (increasing : Increasing (sub.offer x)) (live : sub.closed = false) : sub.accepted = [] := by
  unfold Increasing at increasing
  rw [accepted_offer live] at increasing
  refine List.eq_nil_iff_forall_not_mem.mpr fun y member => ?_
  have newer := (inOrder.replayed x rfl).2 y member
  have older := (List.pairwise_append.mp increasing).2.2 y member x (List.mem_singleton_self x)
  omega

/-! ## The exact condition -/

/-- No replay to an open subscription comes after a snapshot published since `subscribe`. -/
def ReplayFirst (s : State β) (l : Label β) : Prop :=
  ∀ c sub, l = .replay c → s.subs c = some sub → sub.closed = false → sub.accepted = []

theorem ordered_init : Ordered ({} : State β) := ⟨rfl, nofun, nofun, nofun⟩

theorem Ordered.setSub {c : SubId} {sub : Subscription β} (ordered : Ordered s)
    (latest : t.store.latest = t.store.retained.getLast?)
    (known : ∀ d ∈ t.store.subscriptions, d = c ∨ d ∈ s.store.subscriptions)
    (advances : Advances s.store t.store) (subs : t.subs = update s.subs c (some sub))
    (replays : ∀ d, d ≠ c → t.replays d = s.replays d) (due : ∀ d, d ≠ c → t.due d = s.due d)
    (one : InOrder t.store sub (t.replays c) (t.due c)) : Ordered t where
  latest := latest
  known := by
    intro d member
    rw [subs]
    by_cases same : d = c
    · subst same
      rw [update_self]
      nofun
    · rw [update_of_ne same]
      exact ordered.known d ((known d member).resolve_left same)
  knownDue := by
    intro d pending
    rw [subs]
    by_cases same : d = c
    · subst same
      rw [update_self]
      nofun
    · rw [update_of_ne same]
      exact ordered.knownDue d (due d same ▸ pending)
  inOrder := by
    intro d other found
    rw [subs] at found
    by_cases same : d = c
    · subst same
      rw [update_self] at found
      cases found
      exact one
    · rw [update_of_ne same] at found
      rw [replays d same, due d same]
      exact (ordered.inOrder d other found).mono advances

theorem advances_refl (store : Store β) : Advances store store := fun _ => id

theorem advances_publish {store after : Store β} {x : Snapshot β}
    (published : store.Published x after) (n : Nat) (under : Under store n) :
    n < x.sequence ∧ Under after n := by
  obtain ⟨last, found, below⟩ := under published.live
  have above := lt_of_le_of_lt below (published.increases last found)
  exact ⟨above, fun _ => ⟨x, published.last, above.le⟩⟩

theorem ordered_step (ordered : Ordered s) (first : ReplayFirst s l) (next : step cfg s l = some t) : Ordered t := by
  cases step_move next with
  | stays => exact ordered
  | publishes x store idle section_ =>
    have published := Store.published_of_publish section_
    have dueNew : ∀ c, due { s with store, fanOut := some (x, store.subscriptions) } c =
        if c ∈ store.subscriptions then some x else none := fun _ => rfl
    refine ⟨published.latest.trans published.last.symm, ?_, ?_, ?_⟩
    · intro c member
      exact ordered.known c (published.subscriptions ▸ member)
    · intro c due
      rw [dueNew] at due
      split at due
      · exact ordered.known c (published.subscriptions ▸ ‹c ∈ store.subscriptions›)
      · exact absurd rfl due
    · intro c sub found
      have before := ordered.inOrder c sub found
      rw [dueNew]
      refine ⟨before.increasing, fun y member => ?_, fun y pending => ?_, fun y due => ?_⟩
      · exact (advances_publish published _ (before.published y member)).2
      · exact (before.replayed y pending).imp_left fun under =>
          (advances_publish published _ under).2
      · split at due <;> cases due
        exact ⟨fun _ => ⟨x, published.last, le_rfl⟩,
          fun y member => (advances_publish published _ (before.published y member)).1,
          fun y pending => (advances_publish published _ (before.replayed y pending).1).1⟩
  | offers c x rest sub serving found due =>
    have dueBefore : s.due c = some x := by simp [State.due, serving, due]
    refine ordered.setSub (c := c) ordered.latest (fun d member => .inr member)
      (advances_refl _) rfl (fun _ _ => rfl) ?_ ?_
    · intro d other
      simp [State.due, serving, other]
    · have before := ordered.inOrder c sub found
      rw [dueBefore] at before
      have after : State.due { s.setSub c (sub.offer x) with fanOut := some (x, rest.erase c) } c =
          none := by simp [State.due]
      rw [after]
      exact before.offer
  | finishes =>
    refine ⟨ordered.latest, ordered.known, nofun, fun c sub found => ?_⟩
    have before := ordered.inOrder c sub found
    exact ⟨before.increasing, before.published, before.replayed, nofun⟩
  | subscribes c maxQueue size queueSize replayLatest positive fresh =>
    have dueNone : s.due c = none := by
      by_contra due
      exact ordered.knownDue c due fresh
    refine ordered.setSub (c := c) ordered.latest ?_ (fun _ => id) rfl ?_ (fun _ _ => rfl) ?_
    · intro d member
      exact Finset.mem_insert.mp member
    · intro d other
      exact update_of_ne other _ _
    · change InOrder _ _ (update s.replays c _ c) (s.due c)
      rw [update_self, dueNone]
      refine ⟨List.Pairwise.nil, nofun, fun x pending => ⟨fun _ => ⟨x, ?_, le_rfl⟩, nofun⟩, nofun⟩
      split at pending
      · exact ordered.latest ▸ pending
      · cases pending
  | replays c x sub pending found =>
    refine ordered.setSub (c := c) ordered.latest (fun d member => .inr member)
      (advances_refl _) rfl (fun d other => update_of_ne other _ _) (fun _ _ => rfl) ?_
    have before := ordered.inOrder c sub found
    rw [pending] at before
    change InOrder _ _ (update s.replays c _ c) (s.due c)
    rw [update_self]
    exact before.replay (first c sub rfl found)
  | gets c sub found =>
    exact ordered.setSub (c := c) ordered.latest (fun d member => .inr member)
      (advances_refl _) rfl (fun _ _ => rfl) (fun _ _ => rfl)
      ((ordered.inOrder c sub found).same accepted_get)
  | discards =>
    exact ⟨ordered.latest, fun d member => ordered.known d (Finset.mem_of_mem_erase member),
      ordered.knownDue, fun d sub found => (ordered.inOrder d sub found).mono fun _ => id⟩
  | closes =>
    unfold Store.close
    split
    · exact ⟨ordered.latest, ordered.known, ordered.knownDue, ordered.inOrder⟩
    · exact ⟨rfl, nofun, ordered.knownDue, fun d sub found =>
        (ordered.inOrder d sub found).mono fun _ _ => nofun⟩
  | shuts c sub found =>
    exact ordered.setSub (c := c) ordered.latest (fun d member => .inr member)
      (advances_refl _) rfl (fun _ _ => rfl) (fun _ _ => rfl)
      ((ordered.inOrder c sub found).same accepted_shut)

theorem replayFirst_of_increasing (ordered : Ordered s) (next : step cfg s l = some t)
    (after : ∀ c sub, t.subs c = some sub → Increasing sub) : ReplayFirst s l := by
  rintro c sub rfl found live
  simp only [step] at next
  split at next
  · rename_i x other pending present
    obtain rfl := Option.some.inj (found.symm.trans present)
    cases next
    have before := ordered.inOrder c sub found
    rw [pending] at before
    exact first_of_increasing before (after c _ (update_self ..)) live
  · cases next

/-- **Subscriptions are bounded and accounted for, and in order exactly while** replays come first. -/
theorem subscriptions_ordered (ran : run (step cfg) ({} : State β) ls = some s) :
    (∀ before after u, ls = before ++ after → run (step cfg) {} before = some u →
        ∀ c sub, u.subs c = some sub → Increasing sub ∧ sub.Accounted) ↔
      Along (step cfg) ReplayFirst {} ls := by
  refine along_iff_prefixes_of (I := fun u => Ordered u ∧ u.Accounted) ?_ ?_ ?_ ⟨ordered_init, nofun⟩ ran
  · rintro u ⟨ordered, accounted⟩ c sub found
    exact ⟨(ordered.inOrder c sub found).increasing, accounted c sub found⟩
  · rintro u l v first ⟨ordered, accounted⟩ next
    exact ⟨ordered_step ordered first next, accounted_step accounted next⟩
  · rintro u l v ⟨ordered, _⟩ next after
    exact replayFirst_of_increasing ordered next fun c sub found => (after c sub found).1

/-! ## A replay before and after a publication -/

theorem small_positive : 0 < 4 := by decide

def small : Config := ⟨['s'], 4, small_positive⟩

/-- The `n`-th snapshot of the first generation. -/
def numbered (n : Nat) : Snapshot Unit := ⟨Store.observationId small 0 n, ['s'], 0, n, ()⟩

/-- One snapshot is published; a subscriber with one place gets it replayed before the second is
published, which displaces it. -/
def servedAfterReplay : List (Label Unit) :=
  [.publish (numbered 1), .published, .subscribe 0 8 (some 1) true, .replay 0,
    .publish (numbered 2), .offer 0, .get 0, .published, .close, .shut 0]

theorem subscriptions_ordered_served : ∃ t, run (step small) ({} : State Unit) servedAfterReplay = some t ∧
      ∀ before after u, servedAfterReplay = before ++ after → run (step small) {} before = some u →
        ∀ c sub, u.subs c = some sub → Increasing sub ∧ sub.Accounted := by
  obtain ⟨t, ran⟩ : ∃ t, run (step small) ({} : State Unit) servedAfterReplay = some t := ⟨_, rfl⟩
  refine ⟨t, ran, (subscriptions_ordered ran).mpr ?_⟩
  refine ⟨nofun, fun _ first => ?_⟩
  cases first
  refine ⟨nofun, fun _ first => ?_⟩
  cases first
  refine ⟨nofun, fun _ first => ?_⟩
  cases first
  refine ⟨fun c sub same found _ => ?_, fun _ first => ?_⟩
  · obtain rfl := Label.replay.inj same
    cases found
    rfl
  cases first
  exact along_mono (fun _ l other c _ same => absurd same (other c))
    (along_of_mem (P := fun l => ∀ c, l ≠ .replay c) (by simp))

/-- **The replay may come late**: the second snapshot is served, and then `subscribe` offers the first. -/
theorem replay_after_publication : ∃ t sub, run (step small) ({} : State Unit)
        [.publish (numbered 1), .published, .subscribe 0 8 none true, .publish (numbered 2),
          .offer 0, .replay 0, .get 0, .get 0] = some t ∧
      t.subs 0 = some sub ∧ sub.delivered.map Snapshot.sequence = [2, 1] ∧ ¬ Increasing sub :=
  ⟨_, _, rfl, rfl, rfl, by unfold Increasing; decide⟩

end EmbodiRun.Observations.Subscriptions
