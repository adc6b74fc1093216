/-
# Observations.Complete -- whether a recording that is marked complete is complete

A loss marks a recording incomplete through a gap in the sequence numbers, through the count of
displaced events, through the budget of the last drain, or through a failure.
-/
import EmbodiRun.Observations.Recording

namespace EmbodiRun.Observations.Recording

open Transition List Subscription

universe u v

variable {β : Type u} {α : Type v} {store : Config} {cfg : Settings β} {s t : State β α} {l : Label β α}

/-- The snapshots published between `start` and the stop request have one record each, in the order
of their publication and before all others; the events that were taken have one record each. -/
def Complete (s : State β α) : Prop :=
  s.phase = .over → s.incomplete = false → s.due <+: s.observations ∧ s.actions = s.taken

/-- Unless the recording is marked incomplete already: a snapshot that is written after others were
displaced shows a gap, and where the worker gives up waiting, all that was due has been taken. -/
def Noticed (s : State β α) : Label β α → Prop
  | .write _ => ∀ x, s.phase = .writing x true → s.incomplete = false →
      ∃ last, s.lastSequence = some last ∧ last + 1 < x.sequence
  | .check => s.phase = .checking → s.stopEvent = true → s.incomplete = false →
      s.due.length ≤ s.sub.delivered.length
  | _ => True

/-! ## What a run keeps -/

structure Recorded (s : State β α) : Prop where
  due : s.due <+: s.published
  all : s.requested = false → s.due = s.published
  accepted : s.sub.accepted <+: s.published
  live : s.sub.closed = false → s.published = s.sub.accepted ++ s.pending.toList
  undropped : s.sub.droppedCount = 0 → s.sub.accepted = s.sub.delivered ++ s.sub.queue
  unseen : s.seen = 0 → s.sub.delivered <+: s.sub.accepted
  recorded : s.incomplete = false → s.sub.delivered = s.observations ++ s.phase.inFlight
  noticed : s.incomplete = false → (∀ x, s.phase ≠ .writing x true) → s.seen = 0
  outstanding : s.phase.left = true → s.incomplete = false → s.due.length ≤ s.sub.delivered.length

/-- The recorder before `start`, and after a stop. -/
structure Staged (s : State β α) : Prop where
  idle : s.phase = .unstarted → recorder ∉ s.store.subscriptions ∧ s.published = [] ∧
    s.pending = none ∧ s.sub.delivered = [] ∧ s.sub.closed = false ∧ s.seen = 0 ∧ s.observations = []
  created : s.state = .created → s.phase = .unstarted
  stopped : s.stopEvent = true → s.state ≠ .created ∧ s.state ≠ .running ∧ (s.requested = true ∨ s.incomplete = true)
  left : s.phase.left = true → s.stopEvent = true

structure Drained (cfg : Settings β) (s : State β α) : Prop where
  actions : s.incomplete = false → s.taken = s.actions ++ s.actionQueue
  room : s.actionQueue.length ≤ cfg.queueSize
  finishing : ∀ n, s.phase = .finishing n → s.actionQueue.length ≤ n
  empty : s.phase = .closing ∨ s.phase = .saving ∨ s.phase = .over → s.incomplete = false → s.actionQueue = []

structure Faithful (cfg : Settings β) (s : State β α) : Prop where
  recorded : Recorded s
  staged : Staged s
  drained : Drained cfg s

open Faithful

theorem faithful_init : Faithful cfg ({} : State β α) where
  recorded := ⟨prefix_rfl, fun _ => rfl, prefix_rfl, fun _ => rfl, fun _ => rfl, fun _ => prefix_rfl,
    fun _ => rfl, fun _ _ => rfl, nofun⟩
  staged := ⟨fun _ => ⟨Finset.notMem_empty _, rfl, rfl, rfl, rfl, rfl, rfl⟩, fun _ => rfl, nofun, nofun⟩
  drained := ⟨fun _ => rfl, Nat.zero_le _, nofun, nofun⟩

/-! ## Failures -/

theorem Faithful.marked (faithful : Faithful cfg s) : Faithful cfg { s with incomplete := true } where
  recorded := { faithful.recorded with recorded := nofun, noticed := nofun, outstanding := nofun }
  staged := { faithful.staged with
    stopped := fun stopped =>
      have ⟨created, running, _⟩ := faithful.staged.stopped stopped
      ⟨created, running, .inr rfl⟩ }
  drained := { faithful.drained with actions := nofun, empty := nofun }

variable {phase : Phase β} {x : Snapshot β}

theorem Faithful.fail (faithful : Faithful cfg s) (started : phase ≠ .unstarted)
    (finishing : ∀ n, phase = .finishing n → s.actionQueue.length ≤ n) :
    Faithful cfg (s.fail phase) where
  recorded := { faithful.recorded with recorded := nofun, noticed := nofun, outstanding := nofun }
  staged := ⟨fun idle => absurd idle started, nofun, fun _ => ⟨nofun, nofun, .inr rfl⟩, fun _ => rfl⟩
  drained := { faithful.drained with actions := nofun, empty := nofun, finishing := finishing }
variable {n : Nat} {queue : List α} {sub : Subscription β} {event : α} {rest : List α} {ok : Bool}

theorem finishing_of_room (room : queue.length ≤ n) :
    ∀ m, (Phase.finishing n : Phase β) = .finishing m → queue.length ≤ m := by
  rintro m same
  obtain rfl := Phase.finishing.inj same
  exact room

/-! ## The publisher -/

theorem faithful_publish (faithful : Faithful cfg s) (free : s.pending = none) :
    Faithful cfg (s.publish store x) := by
  have ⟨recorded, staged, drained⟩ := faithful
  unfold State.publish
  split
  · exact faithful
  rename_i after accepted
  have subscriptions := (Store.published_of_publish accepted).subscriptions
  split
  · rename_i subscribed
    have started : s.phase ≠ .unstarted := fun idle =>
      (staged.idle idle).1 (subscriptions ▸ subscribed)
    refine ⟨{ recorded with due := ?_, all := ?_, accepted := ?_, live := ?_, outstanding := ?_ },
      { staged with idle := fun idle => absurd idle started }, { drained with }⟩
    · dsimp only
      split
      · exact recorded.due.trans (prefix_append _ _)
      · rename_i unasked
        rw [recorded.all (by simpa using unasked)]
    · intro unasked
      have unasked : s.requested = false := unasked
      dsimp only
      rw [unasked, recorded.all unasked]
      rfl
    · exact recorded.accepted.trans (prefix_append _ _)
    · intro live
      have before := recorded.live live
      rw [free, Option.toList_none, append_nil] at before
      change s.published ++ [x] = s.sub.accepted ++ [x]
      rw [before]
    · intro left complete
      have asked := (staged.stopped (staged.left left)).2.2.resolve_right (by rw [complete]; nofun)
      change (if s.requested then s.due else s.due ++ [x]).length ≤ _
      rw [if_pos asked]
      exact recorded.outstanding left complete
  · refine ⟨{ recorded with }, { staged with idle := fun idle => ?_ }, { drained with }⟩
    have before := staged.idle idle
    exact ⟨fun member => before.1 (subscriptions ▸ member), before.2⟩

theorem queue_offer (live : sub.closed = false) (undropped : (sub.offer x).droppedCount = 0) :
    sub.droppedCount = 0 ∧ (sub.offer x).queue = sub.queue ++ [x] := by
  unfold offer at undropped ⊢
  rw [live, if_neg Bool.false_ne_true] at undropped ⊢
  dsimp only at undropped ⊢
  obtain ⟨before, room⟩ := Nat.add_eq_zero_iff.mp undropped
  refine ⟨before, ?_⟩
  have room : ¬ sub.maxQueue ≤ sub.queue.length := by simpa using room
  rw [decide_eq_false room, if_neg Bool.false_ne_true]

theorem faithful_offer (faithful : Faithful cfg s) (due : s.pending = some x) :
    Faithful cfg { s with sub := s.sub.offer x, pending := none } := by
  have ⟨recorded, staged, drained⟩ := faithful
  have started : s.phase ≠ .unstarted := fun idle => by
    rw [(staged.idle idle).2.2.1] at due
    cases due
  refine ⟨?_, { staged with idle := fun idle => absurd idle started }, { drained with }⟩
  have delivered : (s.sub.offer x).delivered = s.sub.delivered := delivered_offer
  cases shut : s.sub.closed with
  | true =>
    rw [offer_closed shut]
    exact { recorded with live := fun live => by rw [shut] at live; cases live }
  | false =>
    have whole := recorded.live shut
    rw [due, Option.toList_some] at whole
    have accepted := accepted_offer (x := x) shut
    refine { recorded with
      accepted := ?_, live := ?_, undropped := ?_, unseen := ?_, recorded := ?_, outstanding := ?_ }
    · dsimp only
      rw [accepted, whole]
    · intro _
      change s.published = (s.sub.offer x).accepted ++ []
      rw [accepted, whole, append_nil]
    · intro undropped
      obtain ⟨before, queue⟩ := queue_offer shut undropped
      dsimp only
      rw [accepted, delivered, queue, recorded.undropped before, append_assoc]
    · intro unseen
      dsimp only
      rw [accepted, delivered]
      exact (recorded.unseen unseen).trans (prefix_append _ _)
    · intro complete
      dsimp only
      rw [delivered]
      exact recorded.recorded complete
    · intro left complete
      dsimp only
      rw [delivered]
      exact recorded.outstanding left complete

theorem Recorded.shut (recorded : Recorded s) : Recorded { s with sub := s.sub.shut } :=
  { recorded with live := nofun }

/-! ## The worker -/

theorem faithful_get (faithful : Faithful cfg s) (getting : s.phase = .getting)
    (given : s.sub.get = (some x, sub)) : Faithful cfg { s with
      sub, seen := s.sub.droppedCount, phase := .writing x (s.sub.droppedCount ≠ s.seen) } := by
  have ⟨recorded, staged, drained⟩ := faithful
  unfold Subscription.get at given
  split at given
  · cases given
  rename_i first rest queued
  obtain ⟨same, rfl⟩ := Prod.mk.inj given
  obtain rfl := Option.some.inj same
  refine ⟨{ recorded with
      undropped := ?_, unseen := ?_, recorded := ?_, noticed := ?_, outstanding := nofun },
    { staged with idle := nofun, created := ?_, left := nofun },
    { drained with finishing := nofun, empty := nofun }⟩
  · intro undropped
    have whole := recorded.undropped undropped
    rw [queued] at whole
    simpa using whole
  · intro undropped
    have whole := recorded.undropped undropped
    rw [queued] at whole
    change s.sub.delivered ++ [first] <+: s.sub.accepted
    rw [whole]
    exact ⟨rest, by simp⟩
  · intro complete
    have before := recorded.recorded complete
    rw [getting] at before
    change s.sub.delivered ++ [first] = s.observations ++ [first]
    rw [before]
    simp [Phase.inFlight]
  · intro complete unskipped
    have none_seen := recorded.noticed complete (by rw [getting]; nofun)
    change s.sub.droppedCount = 0
    by_contra dropped
    refine unskipped first ?_
    simp [none_seen, dropped]
  · intro created
    have idle := staged.created created
    rw [getting] at idle
    cases idle

theorem faithful_write {skipped ok} (faithful : Faithful cfg s)
    (writing : s.phase = .writing x skipped) (noticed : Noticed s (.write ok)) :
    Faithful cfg (s.write cfg x ok) := by
  have ⟨recorded, staged, drained⟩ := faithful
  have room := finishing_of_room (β := β) drained.room
  unfold State.write
  split
  · exact faithful.fail nofun room
  cases ok with
  | false =>
    have failed : Faithful cfg (s.fail (.finishing cfg.queueSize)) := faithful.fail nofun room
    exact ⟨{ failed.recorded with }, { failed.staged with }, { failed.drained with }⟩
  | true =>
    have before {gap flaw : Bool} (complete : (s.incomplete || gap || flaw) = false) :
        s.incomplete = false ∧ gap = false := by
      simp only [Bool.or_eq_false_iff] at complete
      exact complete.1
    refine ⟨{ recorded with recorded := ?_, noticed := ?_, outstanding := nofun },
      { staged with idle := nofun, created := ?_, stopped := ?_, left := nofun },
      { drained with actions := ?_, finishing := nofun, empty := nofun }⟩
    · intro complete
      have whole := recorded.recorded (before complete).1
      rw [writing] at whole
      change s.sub.delivered = (s.observations ++ [x]) ++ []
      rw [whole, append_nil]
      rfl
    · intro complete _
      obtain ⟨complete, silent⟩ := before complete
      refine recorded.noticed complete fun y other => ?_
      obtain ⟨rfl, _⟩ := Phase.writing.inj (writing.symm.trans other)
      obtain ⟨last, known, gap⟩ := noticed x other complete
      rw [known] at silent
      simp [gap] at silent
    · intro created
      have idle := staged.created created
      rw [writing] at idle
      cases idle
    · intro stopped
      obtain ⟨created, running, marked⟩ := staged.stopped stopped
      exact ⟨created, running, marked.imp_right fun marked => by simp [marked]⟩
    · intro complete
      exact drained.actions (before complete).1

theorem Faithful.moves (faithful : Faithful cfg s) (started : s.phase ≠ .unstarted)
    (idle : phase ≠ .unstarted) (stays : phase.left = false) (before : s.phase.inFlight = [])
    (after : phase.inFlight = []) : Faithful cfg { s with phase } := by
  have ⟨recorded, staged, drained⟩ := faithful
  have loop : ∀ n, phase ≠ .finishing n := by
    rintro n rfl
    cases stays
  refine ⟨{ recorded with recorded := ?_, noticed := ?_, outstanding := ?_ },
    { staged with idle := fun same => absurd same idle, created := ?_, left := ?_ },
    { drained with finishing := fun n same => absurd same (loop n), empty := ?_ }⟩
  · intro complete
    have whole := recorded.recorded complete
    rw [before] at whole
    change s.sub.delivered = s.observations ++ phase.inFlight
    rw [whole, after]
  · intro complete _
    refine recorded.noticed complete fun x other => ?_
    rw [other] at before
    cases before
  · intro left
    rw [stays] at left
    cases left
  · exact fun created => absurd (staged.created created) started
  · intro left
    rw [stays] at left
    cases left
  · rintro (rfl | rfl | rfl) <;> cases stays

theorem Faithful.leaves (faithful : Faithful cfg s) (started : s.phase ≠ .unstarted)
    (before : s.phase.inFlight = []) (stopped : s.stopEvent = true)
    (outstanding : s.incomplete = false → s.due.length ≤ s.sub.delivered.length) :
    Faithful cfg { s with phase := .finishing cfg.queueSize } := by
  have ⟨recorded, staged, drained⟩ := faithful
  refine ⟨{ recorded with recorded := ?_, noticed := ?_, outstanding := fun _ => outstanding },
    { staged with idle := nofun, created := fun created => absurd (staged.created created) started
                  left := fun _ => stopped },
    { drained with finishing := finishing_of_room drained.room, empty := nofun }⟩
  · intro complete
    have whole := recorded.recorded complete
    rw [before] at whole
    exact whole
  · intro complete _
    refine recorded.noticed complete fun x other => ?_
    rw [other] at before
    cases before

theorem faithful_check (faithful : Faithful cfg s) (checking : s.phase = .checking) (noticed : Noticed s .check) :
    Faithful cfg { s with phase := if s.stopEvent then .finishing cfg.queueSize else .draining } := by
  have started : s.phase ≠ .unstarted := by rw [checking]; nofun
  have before : s.phase.inFlight = [] := by rw [checking]; rfl
  split
  · rename_i stopped
    exact faithful.leaves started before stopped (noticed checking stopped)
  · exact faithful.moves started nofun rfl before rfl

theorem faithful_afterWrite (faithful : Faithful cfg s) (written : s.phase = .written) :
    Faithful cfg (s.afterWrite cfg) := by
  have started : s.phase ≠ .unstarted := by rw [written]; nofun
  have before : s.phase.inFlight = [] := by rw [written]; rfl
  have moved : Faithful cfg { s with phase := .draining } := faithful.moves started nofun rfl before rfl
  unfold State.afterWrite
  split
  · rename_i stopped
    split
    · have left : Faithful cfg { s with incomplete := true, phase := .finishing cfg.queueSize } :=
        faithful.marked.leaves started before stopped nofun
      exact ⟨{ left.recorded with }, { left.staged with }, { left.drained with }⟩
    · exact ⟨{ moved.recorded with }, { moved.staged with }, { moved.drained with }⟩
  · exact moved

theorem faithful_drain (faithful : Faithful cfg s) (queued : s.actionQueue = event :: rest)
    (moves : s.phase = .draining ∧ phase = s.phase ∨ ∃ n, s.phase = .finishing (n + 1) ∧ phase = .finishing n) :
    Faithful cfg { s with actionQueue := rest, actions := s.actions ++ [event], phase } := by
  have ⟨recorded, staged, drained⟩ := faithful
  have whole (complete : s.incomplete = false) : s.taken = (s.actions ++ [event]) ++ rest := by
    rw [drained.actions complete, queued, append_assoc]
    rfl
  have room : rest.length ≤ cfg.queueSize := by
    have room := drained.room
    rw [queued] at room
    exact Nat.le_of_succ_le room
  rcases moves with ⟨standing, rfl⟩ | ⟨n, standing, rfl⟩
  · refine ⟨{ recorded with }, { staged with },
      { drained with actions := whole, room := room, finishing := fun n same => ?_, empty := fun ended => ?_ }⟩
    · rw [standing] at same
      cases same
    · rw [standing] at ended
      rcases ended with same | same | same <;> cases same
  · have started : s.phase ≠ .unstarted := by rw [standing]; nofun
    have left : s.phase.left = true := by rw [standing]; rfl
    refine ⟨{ recorded with
        recorded := fun complete => ?_, noticed := fun complete _ => ?_
        outstanding := fun _ => recorded.outstanding left },
      { staged with idle := nofun, created := fun created => absurd (staged.created created) started
                    left := fun _ => staged.left left },
      { drained with
        actions := whole, room := room, finishing := finishing_of_room ?_, empty := nofun }⟩
    · have kept := recorded.recorded complete
      rw [standing] at kept
      exact kept
    · exact recorded.noticed complete (by rw [standing]; nofun)
    · have bounded := drained.finishing (n + 1) standing
      rw [queued] at bounded
      exact Nat.le_of_succ_le_succ bounded

theorem faithful_undrained (faithful : Faithful cfg s) (queued : s.actionQueue = event :: rest)
    (started : phase ≠ .unstarted) (finishing : ∀ n, phase = .finishing n → n = cfg.queueSize) :
    Faithful cfg (State.fail { s with actionQueue := rest } phase) := by
  have room : rest.length ≤ cfg.queueSize := by
    have room := faithful.drained.room
    rw [queued] at room
    exact Nat.le_of_succ_le room
  have failed : Faithful cfg (s.fail phase) := by
    refine faithful.fail started fun n same => ?_
    rw [finishing n same]
    exact faithful.drained.room
  exact ⟨{ failed.recorded with }, { failed.staged with }, { failed.drained with
      actions := nofun, room := room, finishing := fun n same => finishing n same ▸ room, empty := nofun }⟩

theorem Faithful.ends (faithful : Faithful cfg s) (before : s.phase.left = true)
    (later : phase = .closing ∨ phase = .saving ∨ phase = .over)
    (empty : s.incomplete = false → s.actionQueue = []) : Faithful cfg { s with phase } := by
  have ⟨recorded, staged, drained⟩ := faithful
  have started : s.phase ≠ .unstarted := by
    intro idle
    rw [idle] at before
    cases before
  have flight : s.phase.inFlight = [] := by
    cases standing : s.phase with
    | writing =>
      rw [standing] at before
      cases before
    | _ => rfl
  have quiet : phase ≠ .unstarted ∧ phase.inFlight = [] ∧ ∀ n, phase ≠ .finishing n := by
    rcases later with rfl | rfl | rfl <;> exact ⟨nofun, rfl, nofun⟩
  refine ⟨{ recorded with recorded := ?_, noticed := ?_, outstanding := ?_ },
    { staged with idle := fun same => absurd same quiet.1
                  created := fun created => absurd (staged.created created) started
                  left := fun _ => staged.left before },
    { drained with finishing := fun n same => absurd same (quiet.2.2 n), empty := fun _ => empty }⟩
  · intro complete
    have kept := recorded.recorded complete
    rw [flight] at kept
    change s.sub.delivered = s.observations ++ phase.inFlight
    rw [kept, quiet.2.1]
  · intro complete _
    refine recorded.noticed complete fun x other => ?_
    rw [other] at flight
    cases flight
  · exact fun _ => recorded.outstanding before

theorem faithful_finish (faithful : Faithful cfg s) (saving : s.phase = .saving) : Faithful cfg (s.finish ok) := by
  have ended : Faithful cfg { s with phase := .over } :=
    faithful.ends (by rw [saving]; rfl) (.inr (.inr rfl)) (faithful.drained.empty (.inr (.inl saving)))
  have stopped := faithful.staged.stopped (faithful.staged.left (by rw [saving]; rfl))
  have named : (if s.state = .failed then Stage.failed else .stopped) ≠ .created ∧
      (if s.state = .failed then Stage.failed else .stopped) ≠ .running := by
    split <;> exact ⟨nofun, nofun⟩
  unfold State.finish
  cases ok with
  | true =>
    exact ⟨{ ended.recorded with },
      { ended.staged with created := fun created => absurd created named.1
                          stopped := fun _ => ⟨named.1, named.2, stopped.2.2⟩ },
      { ended.drained with }⟩
  | false =>
    have marked := ended.marked
    exact ⟨{ marked.recorded with },
      { marked.staged with created := nofun, stopped := fun _ => ⟨nofun, nofun, .inr rfl⟩ },
      { marked.drained with }⟩

/-! ## The callers -/

theorem faithful_start (faithful : Faithful cfg s) (created : s.state = .created) :
    Faithful cfg (s.start cfg ok) := by
  have ⟨recorded, staged, drained⟩ := faithful
  have unstarted := staged.created created
  obtain ⟨_, published, pending, _, _, seen, observations⟩ := staged.idle unstarted
  have due : s.due = [] := List.prefix_nil.mp (published ▸ recorded.due)
  have running : s.stopEvent = false :=
    Bool.eq_false_iff.mpr fun stopped => (staged.stopped stopped).1 created
  have failed : Faithful cfg { s with state := .failed, incomplete := true } := by
    have marked := faithful.marked
    exact ⟨{ marked.recorded with },
      { marked.staged with created := nofun, stopped := fun _ => ⟨nofun, nofun, .inr rfl⟩ },
      { marked.drained with }⟩
  unfold State.start
  split
  · cases ok with
    | false => exact failed
    | true =>
      refine ⟨⟨?_, recorded.all, ?_, ?_, fun _ => rfl, fun _ => prefix_rfl, ?_, ?_, nofun⟩, ⟨nofun, nofun, ?_, nofun⟩,
        { drained with finishing := nofun, empty := nofun }⟩
      · exact recorded.due
      · exact nil_prefix
      · intro _
        change s.published = [] ++ s.pending.toList
        rw [published, pending]
        rfl
      · intro _
        change [] = s.observations ++ []
        rw [observations]
        rfl
      · exact fun _ _ => seen
      · intro stopped
        have stopped : s.stopEvent = true := stopped
        rw [running] at stopped
        cases stopped
  · exact failed

theorem length_pushed (queue : List α) (event : α) : (pushed n queue event).length ≤ n := by
  rw [pushed, length_drop, length_append, length_singleton]
  omega

theorem pushed_of_room (event : α) (room : queue.length < n) : pushed n queue event = queue ++ [event] := by
  rw [pushed, show queue.length + 1 - n = 0 by omega, drop_zero]

theorem faithful_recordAction (faithful : Faithful cfg s) : Faithful cfg (s.recordAction cfg event) := by
  have ⟨recorded, staged, drained⟩ := faithful
  have taken (open_ : s.state = .created ∨ s.state = .running) : Faithful cfg { s with
      actionQueue := pushed cfg.queueSize s.actionQueue event
      incomplete := s.incomplete || decide (s.actionQueue.length = cfg.queueSize)
      taken := if decide (s.actionQueue.length = cfg.queueSize) then s.taken else s.taken ++ [event] } := by
    have before {displaced : Bool} (complete : (s.incomplete || displaced) = false) :
        s.incomplete = false := (Bool.or_eq_false_iff.mp complete).1
    have within : s.phase.left ≠ true := fun left =>
      open_.elim (staged.stopped (staged.left left)).1 (staged.stopped (staged.left left)).2.1
    refine ⟨{ recorded with
        recorded := fun complete => recorded.recorded (before complete)
        noticed := fun complete => recorded.noticed (before complete)
        outstanding := fun left => absurd left within },
      { staged with stopped := fun stopped => ?_ },
      ⟨fun complete => ?_, length_pushed _ _, fun n finishing => ?_, fun ended => ?_⟩⟩
    · obtain ⟨created, running, marked⟩ := staged.stopped stopped
      exact ⟨created, running, marked.imp_right fun marked => by simp [marked]⟩
    · obtain ⟨complete, kept⟩ := Bool.or_eq_false_iff.mp complete
      have apart : s.actionQueue.length ≠ cfg.queueSize := of_decide_eq_false kept
      change (if decide (s.actionQueue.length = cfg.queueSize) then s.taken else s.taken ++ [event]) =
        s.actions ++ pushed cfg.queueSize s.actionQueue event
      rw [kept, if_neg Bool.false_ne_true, drained.actions complete, append_assoc,
        pushed_of_room event (lt_of_le_of_ne drained.room apart)]
    · have finishing : s.phase = .finishing n := finishing
      exact absurd (by rw [finishing]; rfl) within
    · have ended : s.phase = .closing ∨ s.phase = .saving ∨ s.phase = .over := ended
      refine absurd ?_ within
      rcases ended with same | same | same <;> rw [same] <;> rfl
  unfold State.recordAction
  split
  · exact taken (.inl ‹_›)
  · exact taken (.inr ‹_›)
  · exact faithful

theorem faithful_stop (faithful : Faithful cfg s) : Faithful cfg s.stop := by
  have ⟨recorded, staged, drained⟩ := faithful
  have requests : Faithful cfg { s with state := .stopping, stopEvent := true, requested := true } :=
    ⟨{ recorded with all := nofun },
      { staged with created := nofun, stopped := fun _ => ⟨nofun, nofun, .inl rfl⟩, left := fun _ => rfl },
      { drained with }⟩
  unfold State.stop
  split
  · rename_i created
    refine ⟨{ recorded with }, { staged with created := nofun, stopped := fun stopped => ?_ }, { drained with }⟩
    exact absurd created (staged.stopped stopped).1
  · exact faithful
  · exact faithful
  · exact requests
  · exact requests

/-! ## Runs -/

theorem Faithful.stores (faithful : Faithful cfg s) {after}
    (fewer : after.subscriptions ⊆ s.store.subscriptions) : Faithful cfg { s with store := after } :=
  have idle := faithful.staged.idle
  ⟨{ faithful.recorded with },
    { faithful.staged with idle := fun same => ⟨fun member => (idle same).1 (fewer member), (idle same).2⟩ },
    { faithful.drained with }⟩

theorem faithful_shut (faithful : Faithful cfg s) (started : s.phase ≠ .unstarted) :
    Faithful cfg { s with sub := s.sub.shut } :=
  ⟨faithful.recorded.shut, { faithful.staged with idle := fun same => absurd same started },
    { faithful.drained with }⟩

theorem subscriptions_close (store : Store β) : store.close.subscriptions ⊆ store.subscriptions := by
  unfold Store.close
  split
  · exact Finset.Subset.refl _
  · exact Finset.empty_subset _

theorem faithful_step (faithful : Faithful cfg s) (noticed : Noticed s l)
    (next : step store cfg s l = some t) : Faithful cfg t := by
  cases l with simp only [step] at next
  | start =>
    split at next <;> cases next
    exact faithful_start faithful ‹_›
  | recordAction =>
    cases next
    exact faithful_recordAction faithful
  | stop =>
    cases next
    exact faithful_stop faithful
  | stopTimeout =>
    split at next <;> cases next
    exact faithful.marked
  | publish x =>
    split at next
    · cases next
    · rename_i free
      cases next
      exact faithful_publish faithful (by simpa using free)
  | offer =>
    obtain ⟨x, due, rfl⟩ := Option.map_eq_some_iff.mp next
    exact faithful_offer faithful due
  | beginGeneration =>
    split at next
    · cases next
      exact faithful
    · rename_i after begun
      cases next
      unfold Store.beginGeneration at begun
      split at begun
      · cases begun
      · obtain rfl := Except.ok.inj begun
        exact faithful.stores (Finset.Subset.refl _)
  | closeStore =>
    cases next
    exact faithful.stores (subscriptions_close _)
  | shut =>
    split at next
    · cases next
    · rename_i started
      split at next <;> cases next
      exact faithful_shut faithful started
  | drain ok =>
    split at next
    · rename_i event rest standing queued
      cases ok with
      | true =>
        cases next
        exact faithful_drain faithful queued (.inl ⟨standing, rfl⟩)
      | false =>
        cases next
        exact faithful_undrained faithful queued nofun fun n same => (Phase.finishing.inj same).symm
    · rename_i n event rest standing queued
      cases ok with
      | true =>
        cases next
        exact faithful_drain faithful queued (.inr ⟨n, standing, rfl⟩)
      | false =>
        cases next
        exact faithful_undrained faithful queued nofun nofun
    · cases next
  | drained =>
    split at next
    · rename_i standing queued
      cases next
      exact faithful.moves (by rw [standing]; nofun) nofun rfl (by rw [standing]; rfl) rfl
    · rename_i n standing queued
      cases next
      exact faithful.ends (by rw [standing]; rfl) (.inl rfl) fun _ => queued
    · rename_i standing _
      cases next
      have empty := eq_nil_of_length_eq_zero (Nat.le_zero.mp (faithful.drained.finishing 0 standing))
      exact faithful.ends (by rw [standing]; rfl) (.inl rfl) fun _ => empty
    · cases next
  | get =>
    split at next
    · rename_i x sub standing given
      cases next
      exact faithful_get faithful standing given
    · split at next <;> cases next
      exact faithful.fail nofun (finishing_of_room faithful.drained.room)
    · cases next
  | timeout =>
    split at next
    · rename_i standing _
      split at next <;> cases next
      exact faithful.moves (by rw [standing]; nofun) nofun rfl (by rw [standing]; rfl) rfl
    · cases next
  | check =>
    split at next
    · rename_i standing
      cases next
      exact faithful_check faithful standing noticed
    · cases next
  | write ok =>
    split at next
    · rename_i x skipped standing
      cases next
      exact faithful_write faithful standing noticed
    · cases next
  | afterWrite =>
    split at next
    · rename_i standing
      cases next
      exact faithful_afterWrite faithful standing
    · cases next
  | closeSubscription =>
    split at next
    · rename_i standing
      cases next
      have ended : Faithful cfg { s with phase := .saving } :=
        faithful.ends (by rw [standing]; rfl) (.inr (.inl rfl)) (faithful.drained.empty (.inl standing))
      exact faithful_shut (ended.stores (Finset.erase_subset recorder _)) nofun
    · cases next
  | finish ok =>
    split at next
    · rename_i standing
      cases next
      exact faithful_finish faithful standing
    · cases next

theorem Faithful.complete (faithful : Faithful cfg s) : Complete s := by
  intro finished complete
  have ⟨recorded, staged, drained⟩ := faithful
  have left : s.phase.left = true := by rw [finished]; rfl
  have whole := recorded.recorded complete
  rw [finished] at whole
  have whole : s.sub.delivered = s.observations := whole.trans (append_nil _)
  have unseen := recorded.noticed complete (by rw [finished]; nofun)
  have delivered := (recorded.unseen unseen).trans recorded.accepted
  refine ⟨?_, ?_⟩
  · rw [← whole]
    exact prefix_of_prefix_length_le recorded.due delivered (recorded.outstanding left complete)
  · have actions := drained.actions complete
    rw [drained.empty (.inr (.inr finished)) complete, append_nil] at actions
    exact actions.symm

/-- **A recording not marked incomplete is complete**, where displacements show and nothing due is left. -/
theorem recording_complete {ls : List (Label β α)} (ran : run (step store cfg) ({} : State β α) ls = some s)
    (noticed : Along (step store cfg) Noticed {} ls) : Complete s :=
  (run_induction (fun _ _ _ noticed faithful next => faithful_step faithful noticed next) noticed
    faithful_init ran).complete

/-! ## Runs that are complete, and runs that are not -/

def small : Config := ⟨['s'], 4, Nat.succ_pos 3⟩

def numbered (n : Nat) : Snapshot Unit := ⟨Store.observationId small 0 n, ['s'], 0, n, ()⟩

def narrow : Settings Unit := ⟨1, 9, fun _ => false, Nat.one_pos⟩

def ends : List (Label Unit Nat) := [.drained, .closeSubscription, .finish true]

def recordsOne : List (Label Unit Nat) :=
  [.start true, .recordAction 7, .publish (numbered 1), .offer, .drain true, .drained, .get]

def stopsEmpty : List (Label Unit Nat) := [.afterWrite, .drained, .stop, .timeout]

def Label.quiet : Label Unit Nat → Bool
  | .write _ | .check => false
  | _ => true

theorem noticed_of_quiet {s} {ls} (quiet : ∀ l ∈ ls, l.quiet) : Along (step small narrow) Noticed s ls := by
  refine along_mono (fun s l quiet => ?_) (along_of_mem (P := fun l => l.quiet = true) quiet)
  cases l with
  | write | check => cases quiet
  | _ => trivial

theorem recording_complete_one : ∃ s, run (step small narrow) ({} : State Unit Nat)
        (recordsOne ++ .write true :: (stopsEmpty ++ .check :: ends)) = some s ∧ Complete s ∧
      s.phase = .over ∧ s.incomplete = false ∧ s.due = [numbered 1] ∧ s.taken = [7] := by
  obtain ⟨t, begun, writes⟩ : ∃ t, run (step small narrow) ({} : State Unit Nat) recordsOne = some t ∧
      t.phase = .writing (numbered 1) false := ⟨_, rfl, rfl⟩
  obtain ⟨s, ran, rest⟩ : ∃ s, run (step small narrow) ({} : State Unit Nat)
        (recordsOne ++ .write true :: (stopsEmpty ++ .check :: ends)) = some s ∧
      s.phase = .over ∧ s.incomplete = false ∧ s.due = [numbered 1] ∧ s.taken = [7] :=
    ⟨_, rfl, rfl, rfl, rfl, rfl⟩
  obtain ⟨u, checked, due⟩ : ∃ u, run (step small narrow) ({} : State Unit Nat)
        (recordsOne ++ .write true :: stopsEmpty) = some u ∧ u.due.length ≤ u.sub.delivered.length :=
    ⟨_, rfl, by decide⟩
  refine ⟨s, ran, recording_complete ran ?_, rest⟩
  have first : Along (step small narrow) Noticed {} (recordsOne ++ .write true :: stopsEmpty) := by
    refine (along_append begun).mpr ⟨noticed_of_quiet (by decide), fun x skipped => ?_, fun v _ =>
      noticed_of_quiet (by decide)⟩
    rw [writes] at skipped
    cases skipped
  have last : Along (step small narrow) Noticed u (.check :: ends) :=
    ⟨fun _ _ _ => due, fun v _ => noticed_of_quiet (by decide)⟩
  have whole := (along_append checked).mpr ⟨first, last⟩
  simpa using whole

/-- **Two losses that go unnoticed**: of the first snapshot, and of one that comes with the stop. -/
theorem recording_misses : (∃ s, run (step small narrow) ({} : State Unit Nat)
        ([.start true, .publish (numbered 1), .offer, .publish (numbered 2), .offer, .drained, .get,
          .write true, .afterWrite, .drained, .timeout, .stop, .check] ++ ends) = some s ∧
      s.phase = .over ∧ s.incomplete = false ∧ s.due = [numbered 1, numbered 2] ∧
      s.observations = [numbered 2]) ∧
    ∃ s, run (step small narrow) ({} : State Unit Nat)
        ([.start true, .drained, .timeout, .publish (numbered 1), .offer, .stop, .check] ++ ends) = some s ∧
      s.phase = .over ∧ s.incomplete = false ∧ s.due = [numbered 1] ∧ s.observations = [] :=
  ⟨⟨_, rfl, rfl, rfl, rfl, rfl⟩, _, rfl, rfl, rfl, rfl, rfl⟩

end EmbodiRun.Observations.Recording
