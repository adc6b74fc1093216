/-
# Xlerobot.Resample -- the resampled export of an episode

Two cursors go over the frames of an episode and each output takes the frames that they passed last. A
cursor stops at the first frame that it cannot pass, so what it has passed is a run from the start of the file.

* `resampled_pairs_iff`: **an export pairs each time with its newest observation and its newest action just
  where no newer action stands elsewhere than at the end of such a run, and the last time is not after the
  last observation**.
-/
import EmbodiRun.Xlerobot.Commands

namespace EmbodiRun.Xlerobot.Resample

open List Option

open Commands (roundEven)

/-- The clocks that the times of a frame are of. -/
structure Domains where
  source : String := "__default__"
  state : String := "__default__"
  camera : String := "__default__"
  received : String := "__default__"
  sent : String := "__default__"
  deriving DecidableEq

/-- The times of a frame, `none` where one is no integer of zero or more, and the rest of it. -/
structure Frame (C : Type) where
  content : C
  state : Option ℕ
  source : Option ℕ
  cameras : List (Option ℕ)
  /-- None where the frame has none. -/
  received : Option (Option ℕ) := none
  recorded : Option ℕ := none
  domains : Domains := {}
  /-- The applied, executed, sent, action and command time of each. -/
  feedback : List (Option ℕ)
  action : List (Option ℕ) := []
  deriving DecidableEq

variable {C : Type}

namespace Frame

variable (frame : Frame C)

/-- `_frame_observation_clock`. -/
def observationClock : Option ℕ × String :=
  match frame.state, frame.source, frame.received.join with
  | some time, _, _ => (some time, frame.domains.state)
  | none, some time, _ => (some time, frame.domains.source)
  | none, none, some time => (some time, frame.domains.received)
  | none, none, none => (frame.recorded, "__recorded__")

def observationTime : Option ℕ := frame.observationClock.1

/-- `_frame_action_time`. -/
def actionTime : Option ℕ :=
  match (frame.feedback ++ frame.action).findSome? id with
  | some time => if frame.domains.sent = frame.observationClock.2 then some time else none
  | none => frame.observationTime

/-- What `_validate_frame` checks of the times, in nanoseconds. -/
def timely (maxSkew : Option ℚ) (maxAge : Option ℚ) : Bool :=
  match maxSkew, frame.source, frame.state, frame.feedback[2]?.join with
  | some skew, some source, some state, some sent =>
    let near (t : ℕ) : Bool := |(t : ℚ) - source| ≤ skew
    let clocks := frame.domains
    near state && near sent && frame.cameras.length = 3 && frame.cameras.all (·.any near) &&
      clocks.state = clocks.source && clocks.camera = clocks.source && clocks.sent = clocks.source &&
      frame.received.all (·.any fun t : ℕ =>
        clocks.received ≠ clocks.source || (source ≤ t && maxAge.all ((t : ℚ) - source ≤ ·)))
  | _, _, _, _ => false

end Frame

/-- `validate_episode`, of the times. -/
def trainable (maxSkew maxAge : Option ℚ) (frames : List (Frame C)) : Bool :=
  frames ≠ [] && frames.all (·.timely maxSkew maxAge) &&
    frames.Pairwise fun f g => ∀ s ∈ f.observationTime, ∀ t ∈ g.observationTime, s < t

/-- `_EpisodeBounds`. -/
structure Bounds where
  first : Option ℕ := none
  last : Option ℕ := none
  firstAction : Option ℕ := none

/-- `_episode_bounds`, from a frame on; `none` where it raises. -/
def boundsFrom : Bounds → List (Frame C) → Option Bounds
  | bounds, [] => some bounds
  | bounds, frame :: rest => do
    let time ← frame.observationTime
    if bounds.last.any (time ≤ ·) then none
    else boundsFrom ⟨bounds.first.or time, time, bounds.firstAction.or frame.actionTime⟩ rest

/-- The first and the last time that an export is of. -/
def span (frames : List (Frame C)) : Option (ℕ × ℕ) := do
  let bounds ← boundsFrom {} frames
  let first ← bounds.first
  let last ← bounds.last
  -- an action at time zero counts as none
  let start := max first ((bounds.firstAction.filter (· ≠ 0)).getD first)
  if last < start then none else some (start, last)

def period (fps : ℚ) : ℚ := 1000000000 / fps

/-- The number of the times, one more than of the periods between them. -/
def periods (start last : ℕ) (fps : ℚ) : ℕ := ⌊((last - start : Int) : ℚ) / period fps + 1 / 1000000000⌋.toNat

def targetAt (start : ℕ) (fps : ℚ) (index : ℕ) : Int := start + roundEven (index * period fps)

/-- What a cursor has passed last, and what is before it. -/
structure Cursor (C : Type) where
  previous : Option (ℕ × Frame C)
  rest : List (Frame C)

structure Output (C : Type) where
  target : Int
  observation : ℕ × Frame C
  action : ℕ × Frame C
  deriving DecidableEq

section

/- `valid` is `_validate_export_frame`, and `emit` what is made of the two frames of an output. -/
variable {S : Type} (valid : Frame C → Bool) (emit : S → Frame C → Frame C → Option S)

def advance (time : Frame C → Option ℕ) (target : Int) : Option (ℕ × Frame C) → List (Frame C) → Option (Cursor C)
  | previous, [] => some ⟨previous, []⟩
  | previous, frame :: rest =>
    match time frame with
    | none => some ⟨previous, frame :: rest⟩
    | some t =>
      if target < t then some ⟨previous, frame :: rest⟩
      else if valid frame then advance time target (some (t, frame)) rest
      else none

/-- The outputs from an index on; `none` where one raises. -/
def outputs (start gap : ℕ) (fps : ℚ) : ℕ → ℕ → S → Cursor C → Cursor C → Option (List (Output C))
  | 0, _, _, _, _ => some []
  | n + 1, index, made, observations, actions => do
    let target := targetAt start fps index
    let observations ← advance valid Frame.observationTime target observations.previous observations.rest
    let actions ← advance valid Frame.actionTime target actions.previous actions.rest
    let observation ← observations.previous
    let action ← actions.previous
    let observationAge := target - observation.1
    let actionAge := target - action.1
    if observationAge < 0 ∨ actionAge < 0 ∨ gap < observationAge ∨ gap < actionAge then none
    else
      let made ← emit made observation.2 action.2
      let later ← outputs start gap fps n (index + 1) made observations actions
      return ⟨target, observation, action⟩ :: later

/-- `_export_resampled_episode` up to `save_episode`. There is always a first output. -/
def exportResampled (gap : ℕ) (fps : ℚ) (made : S) (frames : List (Frame C)) : Option (List (Output C)) := do
  let (start, last) ← span frames
  outputs valid emit start gap fps (periods start last fps + 1) 0 made ⟨none, frames⟩ ⟨none, frames⟩

end

/-- The newest frame of a time, with its own time. -/
structure Newest (time : Frame C → Option ℕ) (frames : List (Frame C)) (target : Int) (found : ℕ × Frame C) : Prop where
  mem : found.2 ∈ frames
  time_eq : time found.2 = some found.1
  past : found.1 ≤ target
  newest : ∀ g ∈ frames, ∀ t : ℕ, time g = some t → t ≤ target → t ≤ found.1

/-- What is claimed of the outputs of an export. -/
structure Paired (frames : List (Frame C)) (start last gap : ℕ) (fps : ℚ) (made : List (Output C)) : Prop where
  spaced : ∀ (k : ℕ) o, made[k]? = some o → o.target = targetAt start fps k
  covers : (last : ℚ) < start + made.length * period fps
  within : ∀ o ∈ made, o.target ≤ last
  observed : ∀ o ∈ made, Newest Frame.observationTime frames o.target o.observation ∧ o.target - o.observation.1 ≤ gap
  acted : ∀ o ∈ made, Newest Frame.actionTime frames o.target o.action ∧ o.target - o.action.1 ≤ gap

/-! ## A cursor -/

section

variable (time : Frame C → Option ℕ) (target : Int)

def reached (frame : Frame C) : Bool := (time frame).any fun t : ℕ => t ≤ target

/-- The run that a cursor passes, each frame with its time. -/
def passed (frames : List (Frame C)) : List (ℕ × Frame C) :=
  (frames.takeWhile (reached time target)).filterMap fun f => (time f).map (·, f)

def cursorAt (frames : List (Frame C)) : Cursor C :=
  ⟨(passed time target frames).getLast?, frames.dropWhile (reached time target)⟩

/-- No frame that a time has reached is newer than the end of the run. -/
def Unhidden (frames : List (Frame C)) : Prop :=
  ∀ g ∈ frames, ∀ t : ℕ, time g = some t → t ≤ target → ∃ p ∈ (passed time target frames).getLast?, t ≤ p.1

variable {time target}
variable {frames : List (Frame C)} {valid : Frame C → Bool} {cursor : Cursor C} {target' : Int}

theorem advance_eq {previous} {rest : List (Frame C)} (moved : advance valid time target previous rest = some cursor) :
    cursor = ⟨(passed time target rest).getLast?.or previous, rest.dropWhile (reached time target)⟩ := by
  induction rest generalizing previous with
  | nil =>
    cases moved
    rfl
  | cons frame rest ih =>
    rw [advance] at moved
    split at moved
    · rename_i missing
      cases moved
      simp [passed, reached, missing]
    · rename_i t here
      split at moved
      · rename_i late
        cases moved
        simp [passed, reached, here, late]
      · rename_i early
        split at moved
        · rw [ih moved]
          simp [passed, reached, here, not_lt.mp early, getLast?_cons]
        · cases moved

/-- A cursor that goes on has passed what one from the start would have. -/
theorem advance_cursorAt (later : target ≤ target')
    (moved : advance valid time target' (cursorAt time target frames).previous (cursorAt time target frames).rest
      = some cursor) : cursor = cursorAt time target' frames := by
  have still : ∀ f ∈ frames.takeWhile (reached time target), reached time target' f = true := by
    intro f member
    have := mem_takeWhile_imp member
    simp only [reached, Option.any_eq_true, decide_eq_true_eq] at this ⊢
    obtain ⟨t, here, early⟩ := this
    exact ⟨t, here, early.trans later⟩
  have split := (takeWhile_append_dropWhile (p := reached time target) (l := frames)).symm
  rw [advance_eq moved, cursorAt, cursorAt]
  congr 1
  · conv_rhs => rw [split]
    simp only [passed]
    rw [takeWhile_append_of_pos still, filterMap_append, getLast?_append]
  · conv_rhs => rw [split, dropWhile_append_of_pos still]

theorem cursorAt_start : cursorAt time (-1) frames = ⟨none, frames⟩ := by
  cases frames with
  | nil => rfl
  | cons f rest =>
    have : reached time (-1) f = false := by
      simp only [reached, Option.any_eq_false, decide_eq_false_iff_not]
      omega
    simp [cursorAt, passed, this]

theorem mem_passed {found : ℕ × Frame C} (member : found ∈ passed time target frames) :
    found.2 ∈ frames ∧ time found.2 = some found.1 ∧ found.1 ≤ target := by
  obtain ⟨f, inRun, stamped⟩ := List.mem_filterMap.mp member
  obtain ⟨t, here, rfl⟩ := Option.map_eq_some_iff.mp stamped
  have := mem_takeWhile_imp inRun
  exact ⟨(takeWhile_sublist _).subset inRun, here, by simpa [reached, here] using this⟩

theorem newest_iff {found : ℕ × Frame C} (last : (passed time target frames).getLast? = some found) :
    Newest time frames target found ↔ Unhidden time target frames := by
  obtain ⟨mem, here, past⟩ := mem_passed (mem_of_getLast? last)
  constructor
  · exact fun most g member s is early => ⟨_, last, most.newest g member s is early⟩
  · refine fun clear => ⟨mem, here, past, fun g member s is early => ?_⟩
    obtain ⟨p, same, least⟩ := clear g member s is early
    cases last.symm.trans same
    exact least

end

/-! ## The bounds of an episode -/

theorem boundsFrom_observed {before bounds : Bounds} {frames : List (Frame C)} (found : boundsFrom before frames = some bounds) :
    (∀ f ∈ frames, ∃ t, f.observationTime = some t ∧ ∀ s ∈ before.last, s < t) ∧
      ∀ target, Unhidden Frame.observationTime target frames := by
  induction frames generalizing before with
  | nil => exact ⟨nofun, fun _ => nofun⟩
  | cons frame rest ih =>
    simp only [boundsFrom, bind_eq_bind, bind_eq_some_iff] at found
    obtain ⟨time, here, found⟩ := found
    split at found
    · cases found
    rename_i increasing
    obtain ⟨times, clear⟩ := ih found
    have above : ∀ s ∈ before.last, s < time := by
      intro s is
      rw [Option.mem_def.mp is] at increasing
      simpa using increasing
    have after : ∀ f ∈ rest, ∃ t, f.observationTime = some t ∧ time < t := by
      intro f member
      obtain ⟨t, observed, most⟩ := times f member
      exact ⟨t, observed, most time rfl⟩
    refine ⟨List.forall_mem_cons.mpr ⟨⟨time, here, above⟩, fun f member => ?_⟩, fun target g member t observed early => ?_⟩
    · obtain ⟨t, observed, below⟩ := after f member
      exact ⟨t, observed, fun s is => (above s is).trans below⟩
    -- the first frame is reached where any is, as it is the oldest
    have reachedFirst (soon : (time : Int) ≤ target) : passed Frame.observationTime target (frame :: rest) =
        (time, frame) :: passed Frame.observationTime target rest := by
      simp [passed, reached, here, soon]
    rcases List.mem_cons.mp member with rfl | member
    · cases here.symm.trans observed
      rw [reachedFirst early, getLast?_cons]
      rcases ends : (passed Frame.observationTime target rest).getLast? with _ | p
      · exact ⟨_, rfl, le_rfl⟩
      · obtain ⟨member, is, -⟩ := mem_passed (mem_of_getLast? ends)
        obtain ⟨s, is', below⟩ := after _ member
        cases is.symm.trans is'
        exact ⟨p, rfl, below.le⟩
    · obtain ⟨p, ends, least⟩ := clear target g member t observed early
      obtain ⟨t', observed', below⟩ := after g member
      cases observed.symm.trans observed'
      rw [reachedFirst (by omega), getLast?_cons, Option.mem_def.mp ends]
      exact ⟨p, rfl, least⟩

/-! ## The outputs -/

theorem roundEven_mono {q r : ℚ} (below : q ≤ r) : roundEven q ≤ roundEven r := by
  have floors : ⌊q⌋ ≤ ⌊r⌋ := Int.floor_le_floor below
  unfold roundEven
  rcases floors.lt_or_eq with apart | same
  · split_ifs <;> omega
  · rw [same]
    split_ifs <;> first | omega | linarith

section

variable {S : Type} {valid : Frame C → Bool} {emit : S → Frame C → Frame C → Option S} {start gap : ℕ} {fps : ℚ}
  {frames : List (Frame C)} {made : List (Output C)} {k l : ℕ}

theorem targetAt_mono (positive : 0 < fps) (below : k ≤ l) : targetAt start fps k ≤ targetAt start fps l := by
  have : (0 : ℚ) ≤ period fps := by unfold period; positivity
  have := roundEven_mono (mul_le_mul_of_nonneg_right (Nat.cast_le.mpr below) this)
  unfold targetAt
  omega

/-- What an output takes of the two cursors. -/
structure Taken (frames : List (Frame C)) (gap : ℕ) (target : Int) (o : Output C) : Prop where
  target_eq : o.target = target
  observation : (passed Frame.observationTime target frames).getLast? = some o.observation
  action : (passed Frame.actionTime target frames).getLast? = some o.action
  fresh : target - o.observation.1 ≤ gap
  recent : target - o.action.1 ≤ gap

theorem outputs_taken (positive : 0 < fps) {n index : ℕ} {state : S} {target : Int} (early : target ≤ targetAt start fps index)
    (done : outputs valid emit start gap fps n index state (cursorAt Frame.observationTime target frames)
      (cursorAt Frame.actionTime target frames) = some made) :
    made.length = n ∧ ∀ (k : ℕ) o, made[k]? = some o → Taken frames gap (targetAt start fps (index + k)) o := by
  induction n generalizing index state target made with
  | zero =>
    cases done
    exact ⟨rfl, fun _ _ at_ => by simp at at_⟩
  | succ n ih =>
    simp only [outputs, bind_eq_bind, bind_eq_some_iff] at done
    obtain ⟨observations, moved, actions, moved', observation, last, action, last', done⟩ := done
    rw [advance_cursorAt early moved] at last done
    rw [advance_cursorAt early moved'] at last' done
    split at done
    · cases done
    rename_i fits
    simp only [bind_eq_some_iff] at done
    obtain ⟨state', -, later, rest, same⟩ := done
    cases same
    obtain ⟨length, takes⟩ := ih (targetAt_mono positive (Nat.le_succ index)) rest
    refine ⟨by rw [length_cons, length], fun k o at_ => ?_⟩
    cases k with
    | zero =>
      cases at_
      push Not at fits
      exact ⟨rfl, last, last', fits.2.2.1, fits.2.2.2⟩
    | succ k =>
      have := takes k o at_
      rwa [show index + 1 + k = index + (k + 1) by omega] at this

theorem covers (positive : 0 < fps) (start last : ℕ) : (last : ℚ) < start + ↑(periods start last fps + 1) * period fps := by
  have long : (0 : ℚ) < period fps := by unfold period; positivity
  have most : ((last - start : Int) : ℚ) / period fps < ↑(periods start last fps + 1) := by
    have above := Int.lt_floor_add_one (((last - start : Int) : ℚ) / period fps + 1 / 1000000000)
    have whole : (⌊((last - start : Int) : ℚ) / period fps + 1 / 1000000000⌋ : ℚ) ≤ ((periods start last fps : Int) : ℚ) :=
      Int.cast_le.mpr (Int.self_le_toNat _)
    push_cast at above whole ⊢
    linarith
  have := (div_lt_iff₀ long).mp most
  push_cast at this ⊢
  linarith

/-- A whole export pairs the right frames where no newer action is hidden from its cursor and the last time
is not after the last observation. -/
theorem resampled_pairs_iff {state : S} (positive : 0 < fps)
    (exported : exportResampled valid emit gap fps state frames = some made) :
    ∃ start last, span frames = some (start, last) ∧ (Paired frames start last gap fps made ↔
        (∀ k ≤ periods start last fps, Unhidden Frame.actionTime (targetAt start fps k) frames) ∧
          targetAt start fps (periods start last fps) ≤ last) := by
  simp only [exportResampled, bind_eq_bind, bind_eq_some_iff] at exported
  obtain ⟨⟨start, last⟩, spanned, done⟩ := exported
  refine ⟨start, last, spanned, ?_⟩
  simp only [span, bind_eq_bind, bind_eq_some_iff] at spanned
  obtain ⟨bounds, found, -⟩ := spanned
  have clear := (boundsFrom_observed found).2
  have begun : outputs valid emit start gap fps (periods start last fps + 1) 0 state
      (cursorAt Frame.observationTime (-1) frames) (cursorAt Frame.actionTime (-1) frames) = some made := by
    rw [cursorAt_start, cursorAt_start]
    exact done
  obtain ⟨length, takes⟩ := outputs_taken positive (by simp [targetAt, roundEven]) begun
  constructor
  · intro paired
    refine ⟨fun k below => ?_, ?_⟩
    · have taken := takes k _ (getElem?_eq_getElem (by omega))
      rw [Nat.zero_add] at taken
      refine (newest_iff taken.action).mp ?_
      rw [← taken.target_eq]
      exact (paired.acted _ (getElem_mem _)).1
    · have taken := takes (periods start last fps) _ (getElem?_eq_getElem (by omega))
      rw [Nat.zero_add] at taken
      rw [← taken.target_eq]
      exact paired.within _ (getElem_mem _)
  · rintro ⟨unhidden, within⟩
    have each : ∀ o ∈ made, ∃ k ≤ periods start last fps, Taken frames gap (targetAt start fps k) o := by
      intro o member
      obtain ⟨k, at_⟩ := mem_iff_getElem?.mp member
      have := (List.getElem?_eq_some_iff.mp at_).1
      exact ⟨k, by omega, by simpa using takes k o at_⟩
    refine ⟨fun k o at_ => by simpa using (takes k o at_).target_eq, length ▸ covers positive start last,
      fun o member => ?_, fun o member => ?_, fun o member => ?_⟩ <;>
      obtain ⟨k, below, taken⟩ := each o member <;> rw [taken.target_eq]
    · exact (targetAt_mono positive below).trans within
    · exact ⟨(newest_iff taken.observation).mpr (clear _), taken.fresh⟩
    · exact ⟨(newest_iff taken.action).mpr (unhidden k below), taken.recent⟩

end

/-! ## Two actions that were applied late -/

def lateFrame (state sent applied : ℕ) : Frame Unit :=
  ⟨(), some state, some state, [some state, some state, some state], none, none, {}, [some applied, none, some sent], []⟩

/-- The first action is applied after the second. -/
def lateEpisode : List (Frame Unit) :=
  [lateFrame 0 1000000 60000000, lateFrame 33000000 34000000 50000000, lateFrame 100000000 101000000 102000000]

def lateOutputs : List (Output Unit) :=
  [⟨60000000, (33000000, lateFrame 33000000 34000000 50000000), (50000000, lateFrame 33000000 34000000 50000000)⟩,
    ⟨93333333, (33000000, lateFrame 33000000 34000000 50000000), (50000000, lateFrame 33000000 34000000 50000000)⟩]

theorem lateEpisode_exported :
    exportResampled (fun _ => true) (fun _ _ _ => some ()) 100000000 30 () lateEpisode = some lateOutputs := by
  decide +kernel

theorem resampled_late : ∃ start last, span lateEpisode = some (start, last) ∧
    (Paired lateEpisode start last 100000000 30 lateOutputs ↔
      (∀ k ≤ periods start last 30, Unhidden Frame.actionTime (targetAt start 30 k) lateEpisode) ∧
        targetAt start 30 (periods start last 30) ≤ last) :=
  resampled_pairs_iff (by norm_num) lateEpisode_exported

/-- Both times of the late episode are given the action of 50 ms, and the one of 60 ms is never used. -/
theorem resampled_not_newest : trainable (some 5000000) none lateEpisode = true ∧
    exportResampled (fun _ => true) (fun _ _ _ => some ()) 100000000 30 () lateEpisode = some lateOutputs ∧
      ∀ start last, ¬Paired lateEpisode start last 100000000 30 lateOutputs := by
  refine ⟨by decide +kernel, lateEpisode_exported, fun start last paired => ?_⟩
  have newest := (paired.acted _ mem_cons_self).1.newest _ mem_cons_self 60000000 (by decide) (by decide)
  exact absurd newest (by decide)

end EmbodiRun.Xlerobot.Resample
