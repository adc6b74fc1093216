/-
# Rollout.CameraClose -- `publish` and `close` of one camera store on many threads

`publish` looks at the flag before it has the lock.  `close` reads the status in one section and
rewrites the header in another, with the count and the status it read, and unmaps the file after
that.  A step is a section under the lock, a look at a flag, or what `close` does without the lock;
a section on a file that is unmapped raises.

`log` is read by no section: what the header and the slots say.

* `frames_append_only`: **recorded frames are append-only where no recording is committed between the
  two sections of a close, and nothing running after the second**.
-/
import EmbodiRun.Data.Except
import EmbodiRun.Rollout.CameraShm
import EmbodiRun.Transition.Machine

namespace EmbodiRun.Rollout.CameraShm

open Function
open Application Data Devices Transition List CameraShm

/-! ## Threads -/

abbrev CallId := Nat

/-- Where a call of `close` is. -/
inductive Closing where
  /-- Past its look at the flag. -/
  | entered
  /-- In `get`, past the look at the flag there. -/
  | admitted
  | read (status : StoredStatus)
  | written
  | unmapped
  | returned
  | raised
  deriving DecidableEq

structure State where
  file : Bytes
  /-- `_closed`. -/
  closed : Bool := false
  /-- `close` has not unmapped the file yet. -/
  mapped : Bool := true
  log : Log := {}
  /-- Calls of `publish` that are past the look at the flag, until their section is over. -/
  publishes : CallId → Option Publish := fun _ => none
  closes : CallId → Option Closing := fun _ => none

inductive Label where
  | publish (c : CallId) (call : Publish)
  /-- The section of `publish`. -/
  | commits (c : CallId)
  /-- The section of a reader. -/
  | get (path : Text)
  | close (c : CallId)
  /-- `get` looks at the flag. -/
  | admits (c : CallId)
  /-- The section of `get`. -/
  | reads (c : CallId)
  /-- The section of `close`. -/
  | writes (c : CallId)
  | unmaps (c : CallId)
  | marks (c : CallId)

section

variable (cfg : Config)

/-- `"running"`, as `get` compares it. -/
def runningState : Value := .str "running".toList

/-- `dict(status, state="stopped")`. -/
def stopped (status : StoredStatus) : Status := { status.toStatus with state := some (.str "stopped".toList) }

namespace State

def setClose (s : State) (c : CallId) (stage : Closing) : State :=
  { s with closes := update s.closes c (some stage) }

/-- The section of `publish`; a call that raises has changed nothing. -/
def commit (s : State) (c : CallId) (call : Publish) : State :=
  let ended : State := { s with publishes := update s.publishes c none }
  if s.mapped then
    match publish cfg s.file call with
    | (file, none) => { ended with file, log := s.log.publish call }
    | (file, some _) => { ended with file }
  else ended

/-- The section of `close`. -/
def stop (s : State) (c : CallId) (status : StoredStatus) : State :=
  if s.mapped then
    match encodeHeader cfg (stopped status) status.recorded with
    | .error _ => s.setClose c .raised
    | .ok header =>
      { s.setClose c .written with
        file := splice s.file 0 header
        log := { s.log with status := stopped status, recorded := s.log.recorded.take status.recorded } }
  else s.setClose c .raised

end State

def step (s : State) : Label → Option State
  | .publish c call =>
    match s.publishes c with
    | some _ => none
    | none =>
      if s.closed then some s
      else some { s with publishes := update s.publishes c (some call) }
  | .commits c => (s.publishes c).map (s.commit cfg c)
  | .get _ => some s
  | .close c =>
    match s.closes c with
    | some _ => none
    | none => some (s.setClose c (if s.closed then .returned else .entered))
  | .admits c =>
    if s.closes c = some .entered then some (s.setClose c (if s.closed then .raised else .admitted))
    else none
  | .reads c =>
    if s.closes c = some .admitted then
      match s.mapped, get cfg s.file "/health".toList with
      | true, .ok (.status status) => some (s.setClose c (.read status))
      | _, _ => some (s.setClose c .raised)
    else none
  | .writes c =>
    match s.closes c with
    | some (.read status) => some (s.stop cfg c status)
    | _ => none
  | .unmaps c =>
    if s.closes c = some .written then
      some { s.setClose c (if s.mapped then .unmapped else .raised) with mapped := false }
    else none
  | .marks c =>
    if s.closes c = some .unmapped then some { s.setClose c .returned with closed := true } else none

/-- What may be committed: no recording while a close has read the status and not written it, and
nothing running after a close has written that the publisher is stopped. -/
def Settled (s : State) (l : Label) : Prop :=
  ∀ c call, l = .commits c → s.publishes c = some call → s.mapped = true → (publish cfg s.file call).2 = none →
    (call.record = true → ∀ d status, s.closes d ≠ some (.read status)) ∧
    (call.status.state = some runningState → ∀ d, s.closes d ≠ some .written)

end

/-! ## What a run keeps -/

section

variable {cfg : Config} {s t : State} {l : Label} {ls : List Label} {c : CallId}

def Closing.stopped : Closing → Bool
  | .written | .unmapped | .returned => true
  | _ => false

def Closing.gone : Closing → Bool
  | .unmapped | .returned => true
  | _ => false

structure Inv (cfg : Config) (s : State) : Prop where
  stored : Stored cfg s.file s.log
  counted : ∀ d status, s.closes d = some (.read status) → status.recorded = s.log.recorded.length
  halted : ∀ d stage, s.closes d = some stage → stage.stopped = true → s.log.status.state ≠ some runningState
  unmapped : ∀ d stage, s.closes d = some stage → stage.gone = true → s.mapped = false
  closed : s.closed = true → ∃ d, s.closes d = some .returned
variable {log : Log} {file : Bytes} {d : CallId} {stage : Closing}

theorem stored_stop {file header} {status} {count} (stored : Stored cfg file log) (fits : count ≤ log.recorded.length)
    (encoded : encodeHeader cfg status count = .ok header) :
    Stored cfg (splice file 0 header) { log with status, recorded := log.recorded.take count } := by
  have short := length_header encoded
  have wrote := @wrote_splice file 0 header (by rw [stored.length]; omega)
  have taken : (log.recorded.take count).length = count := length_take_of_le fits
  refine ⟨wrote.length.trans stored.length, ⟨header, ?_, wrote.here⟩, ?_, fun i packet found => ?_⟩
  · rw [taken]
    exact encoded
  · rw [taken]
    exact fits.trans stored.room
  · have before := stored.recorded i packet (by
      rw [List.getElem?_take] at found
      split at found
      · exact found
      · cases found)
    refine before.keeps wrote (.inr ?_)
    unfold offset
    omega

theorem health_opened (stored : Stored cfg file log) : get cfg file "/health".toList =
      .ok (.status ⟨log.status, log.recorded.length, cfg.layout.capacity, cfg.clockIdentity⟩) := by
  rw [get_opened stored]
  rfl

theorem closes_setClose {stage other} (found : (s.setClose c stage).closes d = some other) :
    other = stage ∨ s.closes d = some other := by
  unfold State.setClose at found
  dsimp only at found
  rw [Function.update_apply] at found
  split at found
  · exact .inl (Option.some.inj found).symm
  · exact .inr found

theorem closes_setClose_self : (s.setClose c stage).closes c = some stage :=
  update_self ..

theorem closes_setClose_of_ne (other : d ≠ c) : (s.setClose c stage).closes d = s.closes d := update_of_ne other ..

theorem Inv.setClose (inv : Inv cfg s)
    (counted : ∀ status, stage = .read status → status.recorded = s.log.recorded.length)
    (halted : stage.stopped = true → s.log.status.state ≠ some runningState)
    (unmapped : stage.gone = true → s.mapped = false) (remains : s.closes c ≠ some .returned) :
    Inv cfg (s.setClose c stage) := by
  refine ⟨inv.stored, fun d status found => ?_, fun d other found stops => ?_, fun d other found gone => ?_,
    fun shut => ?_⟩
  · rcases closes_setClose found with new | old
    · exact counted status new.symm
    · exact inv.counted d status old
  · rcases closes_setClose found with rfl | old
    · exact halted stops
    · exact inv.halted d other old stops
  · rcases closes_setClose found with rfl | old
    · exact unmapped gone
    · exact inv.unmapped d other old gone
  · obtain ⟨d, found⟩ := inv.closed shut
    refine ⟨d, ?_⟩
    have other : d ≠ c := fun same => remains (same ▸ found)
    exact (closes_setClose_of_ne other).trans found

theorem Inv.commit (inv : Inv cfg s) {call} (found : s.publishes c = some call)
    (settled : Settled cfg s (.commits c)) :
    Inv cfg (s.commit cfg c call) ∧ s.log.recorded <+: (s.commit cfg c call).log.recorded := by
  unfold State.commit
  dsimp only
  split
  · rename_i mapped
    cases accepts : s.log.accepts cfg call with
    | false =>
      obtain ⟨error, refused⟩ := stored_refused inv.stored accepts
      rw [refused]
      exact ⟨⟨inv.stored, inv.counted, inv.halted, inv.unmapped, inv.closed⟩, prefix_refl _⟩
    | true =>
      obtain ⟨after, done, kept⟩ := stored_publish inv.stored accepts
      obtain ⟨apart, still⟩ := settled c call rfl found mapped (congrArg Prod.snd done)
      rw [done]
      refine ⟨⟨kept.stored, fun d status reads => ?_, fun d stage stops halted => ?_, inv.unmapped, inv.closed⟩, ?_⟩
      · cases recording : call.record with
        | true => exact absurd reads (apart recording d status)
        | false => simpa [Log.publish, recording] using inv.counted d status reads
      · intro running
        cases stage with
        | written => exact still running d stops
        | unmapped | returned =>
          rw [inv.unmapped d _ stops rfl] at mapped
          cases mapped
        | entered | admitted | read | raised => cases halted
      · unfold Log.publish
        dsimp only
        split
        · exact prefix_append _ _
        · exact prefix_refl _
  · exact ⟨⟨inv.stored, inv.counted, inv.halted, inv.unmapped, inv.closed⟩, prefix_refl _⟩

theorem Inv.stop (inv : Inv cfg s) {status} (found : s.closes c = some (.read status)) :
    Inv cfg (s.stop cfg c status) ∧ s.log.recorded <+: (s.stop cfg c status).log.recorded := by
  have remains : s.closes c ≠ some .returned := by rw [found]; nofun
  have raises : Inv cfg (s.setClose c .raised) :=
    inv.setClose nofun nofun nofun remains
  have counted := inv.counted c status found
  unfold State.stop
  split
  · split
    · exact ⟨raises, prefix_refl _⟩
    · rename_i mapped header encoded
      have whole : s.log.recorded.take status.recorded = s.log.recorded := by
        rw [counted, take_length]
      have stored := stored_stop inv.stored (Nat.le_of_eq counted) encoded
      refine ⟨⟨stored, fun d other reads => ?_, fun d stage _ _ => ?_, fun d stage done gone => ?_,
        fun shut => ?_⟩, ?_⟩
      · dsimp only
        rw [whole]
        rcases closes_setClose reads with ⟨⟨⟩⟩ | old
        exact inv.counted d other old
      · exact fun same => absurd (Option.some.inj same) (by decide)
      · rcases closes_setClose done with rfl | old
        · cases gone
        · exact inv.unmapped d stage old gone
      · obtain ⟨d, done⟩ := inv.closed shut
        have other : d ≠ c := fun same => remains (same ▸ done)
        exact ⟨d, (closes_setClose_of_ne other).trans done⟩
      · exact ⟨[], (append_nil _).trans whole.symm⟩
  · exact ⟨raises, prefix_refl _⟩

theorem inv_init (created : create cfg = .ok file) : Inv cfg { file } :=
  ⟨(kept_create created).stored, nofun, nofun, nofun, nofun⟩

theorem inv_step (inv : Inv cfg s) (settled : Settled cfg s l) (next : step cfg s l = some t) :
    Inv cfg t ∧ s.log.recorded <+: t.log.recorded := by
  cases l with simp only [step] at next
  | publish =>
    split at next
    · cases next
    · split at next <;> cases next
      · exact ⟨inv, prefix_refl _⟩
      · exact ⟨⟨inv.stored, inv.counted, inv.halted, inv.unmapped, inv.closed⟩, prefix_refl _⟩
  | commits =>
    obtain ⟨call, found, rfl⟩ := Option.map_eq_some_iff.mp next
    exact inv.commit found settled
  | get =>
    cases next
    exact ⟨inv, prefix_refl _⟩
  | close c =>
    split at next
    · cases next
    rename_i fresh
    cases next
    refine ⟨?_, prefix_refl _⟩
    have remains : s.closes c ≠ some .returned := by rw [fresh]; nofun
    split
    · rename_i shut
      obtain ⟨d, done⟩ := inv.closed shut
      exact inv.setClose nofun (fun _ => inv.halted d _ done rfl) (fun _ => inv.unmapped d _ done rfl) remains
    · exact inv.setClose nofun nofun nofun remains
  | admits c =>
    split at next
    · rename_i entered
      cases next
      refine ⟨?_, prefix_refl _⟩
      split <;> exact inv.setClose nofun nofun nofun (by rw [entered]; nofun)
    · cases next
  | reads c =>
    split at next
    · rename_i admitted
      have remains : s.closes c ≠ some .returned := by rw [admitted]; nofun
      rw [health_opened inv.stored] at next
      split at next
      · rename_i status _ told
        cases next
        cases told
        exact ⟨inv.setClose (fun _ same => by cases same; rfl) nofun nofun remains, prefix_refl _⟩
      · cases next
        exact ⟨inv.setClose nofun nofun nofun remains, prefix_refl _⟩
    · cases next
  | writes c =>
    split at next
    · rename_i status found
      cases next
      exact inv.stop found
    · cases next
  | unmaps c =>
    split at next
    · rename_i written
      cases next
      have cut : Inv cfg { s with mapped := false } :=
        ⟨inv.stored, inv.counted, inv.halted, fun _ _ _ _ => rfl, inv.closed⟩
      have remains : s.closes c ≠ some .returned := by rw [written]; nofun
      refine ⟨?_, prefix_refl _⟩
      split
      · exact cut.setClose nofun (fun _ => inv.halted c _ written rfl) (fun _ => rfl) remains
      · exact cut.setClose nofun nofun nofun remains
    · cases next
  | marks c =>
    split at next
    · rename_i unmapped
      cases next
      have halts := inv.halted c _ unmapped rfl
      have gone := inv.unmapped c _ unmapped rfl
      have remains : s.closes c ≠ some .returned := by rw [unmapped]; nofun
      have after : Inv cfg (s.setClose c .returned) :=
        inv.setClose nofun (fun _ => halts) (fun _ => gone) remains
      refine ⟨⟨after.stored, after.counted, after.halted, after.unmapped, fun _ => ⟨c, ?_⟩⟩, prefix_refl _⟩
      exact closes_setClose_self
    · cases next

/-- No count decreases, recorded packets stay, and after a close nobody gets the latest one. -/
def AppendOnly (cfg : Config) (file : Bytes) (ls : List Label) (t : State) : Prop :=
  (∀ before after u, ls = before ++ after → run (step cfg) { file } before = some u →
    ∃ a b, get cfg u.file "/health".toList = .ok (.status a) ∧
      get cfg t.file "/health".toList = .ok (.status b) ∧ a.recorded ≤ b.recorded ∧
      (a.recorded = b.recorded → ∀ path k reply, wanted cfg path = .frame k →
        get cfg u.file path = .ok reply → get cfg t.file path = .ok reply)) ∧
  ((∃ c, t.closes c = some .returned) → ∀ reply, get cfg t.file "/latest".toList ≠ .ok reply)

theorem get_frame {file other} {log later} (stored : Stored cfg file log)
    (after : Stored cfg other later) (same : later.recorded = log.recorded) {path} {k}
    (asks : wanted cfg path = .frame k) {reply} (told : get cfg file path = .ok reply) :
    get cfg other path = .ok reply := by
  rw [get_opened stored, asks] at told
  rw [get_opened after, asks]
  dsimp only at told ⊢
  split at told
  · cases told
  · rename_i some_
    obtain ⟨packet, found, shows⟩ := readSlot_recorded stored k some_
    obtain ⟨packet', found', shows'⟩ := readSlot_recorded after k (same ▸ some_)
    rw [same, found] at found'
    cases found'
    rw [if_neg (same ▸ some_), shows', ← shows, told]

/-- **Recorded frames are append-only**, where no recording comes between the two sections of a close. -/
theorem frames_append_only {file : Bytes} (created : create cfg = .ok file)
    (ran : run (step cfg) { file } ls = some t) (settled : Along (step cfg) (Settled cfg) { file } ls) :
    AppendOnly cfg file ls t := by
  have keeps : ∀ s l t, Settled cfg s l → Inv cfg s → step cfg s l = some t → Inv cfg t :=
    fun _ _ _ met inv next => (inv_step inv met next).1
  have inv : Inv cfg t := run_induction keeps settled (inv_init created) ran
  refine ⟨fun before after u split reached => ?_, fun ⟨c, done⟩ reply told => ?_⟩
  · subst split
    obtain ⟨first, rest⟩ := (along_append reached).mp settled
    obtain ⟨v, again, later⟩ := run_append.mp ran
    obtain rfl := Option.some.inj (reached.symm.trans again)
    have middle : Inv cfg u := run_induction keeps first (inv_init created) reached
    have grows : ∀ s l t, Settled cfg s l → (Inv cfg s ∧ u.log.recorded <+: s.log.recorded) →
        step cfg s l = some t → Inv cfg t ∧ u.log.recorded <+: t.log.recorded :=
      fun s l t met both next =>
        have one := inv_step both.1 met next
        ⟨one.1, both.2.trans one.2⟩
    have grown := run_induction grows rest ⟨middle, prefix_refl _⟩ later
    refine ⟨_, _, health_opened middle.stored, health_opened inv.stored, grown.2.length_le,
      fun counts path k reply asks => ?_⟩
    exact get_frame middle.stored inv.stored (grown.2.eq_of_length counts).symm asks
  · have halted := inv.halted c _ done rfl
    have asks : wanted cfg "/latest".toList = .latest := rfl
    rw [get_opened inv.stored, asks] at told
    dsimp only at told
    split at told
    · cases told
    · rename_i state found
      split at told
      · cases told
      · rename_i running
        exact halted (found.trans (congrArg some (not_not.mp running)))

end

/-! ## A recording between the two sections -/

section

variable {cfg : Config} {s : State} {c : CallId} {file header : Bytes} {log : Log}

theorem commit_accepted {call} (mapped : s.mapped = true) (done : publish cfg s.file call = (file, none)) :
    s.commit cfg c call = { s with
      publishes := update s.publishes c none, file, log := s.log.publish call } := by
  unfold State.commit
  rw [if_pos mapped, done]

theorem step_commits {call} (waits : s.publishes c = some call) :
    step cfg s (.commits c) = some (s.commit cfg c call) := by
  rw [step, waits]
  rfl

theorem step_reads (stored : Stored cfg s.file s.log) (mapped : s.mapped = true)
    (admitted : s.closes c = some .admitted) :
    step cfg s (.reads c) = some (s.setClose c (.read
      ⟨s.log.status, s.log.recorded.length, cfg.layout.capacity, cfg.clockIdentity⟩)) := by
  rw [step, if_pos admitted, health_opened stored, mapped]

theorem step_writes {status} (mapped : s.mapped = true) (read : s.closes c = some (.read status))
    (encoded : encodeHeader cfg (stopped status) status.recorded = .ok header) :
    step cfg s (.writes c) = some { s.setClose c .written with
      file := splice s.file 0 header
      log := { s.log with status := stopped status, recorded := s.log.recorded.take status.recorded } } := by
  rw [step, read]
  dsimp only
  rw [State.stop, if_pos mapped, encoded]

theorem step_unmaps (mapped : s.mapped = true) (written : s.closes c = some .written) :
    step cfg s (.unmaps c) = some { s.setClose c .unmapped with mapped := false } := by
  rw [step, if_pos written, if_pos mapped]

theorem step_marks (unmapped : s.closes c = some .unmapped) :
    step cfg s (.marks c) = some { s.setClose c .returned with closed := true } := if_pos unmapped

end

def statusJson (state : String) (count : Nat) : Bytes :=
  ascii ("\x7b\"state\":\"" ++ state ++ "\",\"recorded\":" ++ toString count ++ "\x7d")

def twoFrames : Config where
  layout := ⟨2, 1024, by decide, by decide, pictureConfig.layout.least, pictureConfig.layout.most⟩
  clockIdentity := .dict .empty
  status := .ofTable [(⟨starting, 0, 2, .dict .empty⟩, statusJson "starting" 0),
      (⟨running, 1, 2, .dict .empty⟩, statusJson "running" 1),
      (⟨running, 2, 2, .dict .empty⟩, statusJson "running" 2),
      (⟨⟨some (.str "stopped".toList), .empty⟩, 1, 2, .dict .empty⟩, statusJson "stopped" 1)]
    (by decide +kernel) (by decide +kernel)
  description := .ofTable [(⟨.empty, []⟩, ascii "\x7b\"images\":\x7b\x7d\x7d")]
    (by decide +kernel) (by decide +kernel)
  b64decode _ := none
  digit _ := none

def recording : Publish where
  packet := { images := some [], fields := .empty }
  status := running
  record := true

def reading : List Label := [.publish 0 recording, .commits 0, .close 0, .admits 0, .reads 0]

def closing : List Label := [.writes 0, .unmaps 0, .marks 0]

def readStatus : StoredStatus := ⟨running, 1, 2, .dict .empty⟩

theorem reading_run {file} (created : create twoFrames = .ok file) :
    ∃ s, run (step twoFrames) { file } reading = some s ∧ Kept twoFrames s.file s.log ∧
      s.log = Log.publish {} recording ∧ s.mapped = true ∧ s.closed = false ∧
      s.closes 0 = some (.read readStatus) ∧ s.publishes = (fun _ => none) ∧
      Along (step twoFrames) (Settled twoFrames) { file } reading := by
  have accepts : Log.accepts twoFrames {} recording = true := by decide +kernel
  obtain ⟨after, done, kept⟩ := kept_publish (kept_create created) accepts
  let waiting : State := { file, publishes := update (fun _ => none) 0 (some recording) }
  let published : State := { file := after, log := Log.publish {} recording }
  have committed : step twoFrames waiting (.commits 0) = some published := by
    have waits : waiting.publishes 0 = some recording := rfl
    rw [step_commits waits, commit_accepted rfl done]
    refine congrArg some (congrArg (fun p => ({ published with publishes := p } : State)) ?_)
    funext c
    by_cases mine : c = 0 <;> simp [mine, waiting]
  have read := step_reads (s := (published.setClose 0 .entered).setClose 0 .admitted) kept.stored rfl (update_self ..)
  have settled : Settled twoFrames waiting (.commits 0) := by
    rintro c call ⟨⟩ _ _ _
    exact ⟨fun _ _ _ => nofun, fun _ _ => nofun⟩
  have along : Along (step twoFrames) (Settled twoFrames) { file } reading :=
    along_cons nofun rfl <| along_cons settled committed <| along_cons nofun rfl <|
      along_cons nofun rfl <| along_cons nofun read trivial
  have ran : run (step twoFrames) { file } reading = some _ :=
    run_cons_eq_some.mpr ⟨waiting, rfl, run_cons_eq_some.mpr ⟨published, committed,
      run_cons_eq_some.mpr ⟨_, rfl, run_cons_eq_some.mpr ⟨_, rfl, run_cons_eq_some.mpr ⟨_, read, rfl⟩⟩⟩⟩⟩
  exact ⟨_, ran, kept, rfl, rfl, rfl, closes_setClose_self, rfl, along⟩

theorem stopped_encoded : ∃ header, encodeHeader twoFrames (stopped readStatus) readStatus.recorded = .ok header := by
  have fits : (encodeHeader twoFrames (stopped readStatus) readStatus.recorded).toOption.isSome := by
    decide +kernel
  obtain ⟨header, encoded⟩ := Option.isSome_iff_exists.mp fits
  exact ⟨header, ok_of_toOption encoded⟩

theorem created_twoFrames : ∃ file, create twoFrames = .ok file := by
  have fits : (encodeHeader twoFrames starting 0).toOption.isSome := by decide +kernel
  obtain ⟨header, encoded⟩ := Option.isSome_iff_exists.mp fits
  unfold create
  rw [ok_of_toOption encoded]
  exact ⟨_, rfl⟩

/-- A recording, and then a whole close: nobody gets the latest packet. -/
theorem frames_append_only_closed : ∃ file t, create twoFrames = .ok file ∧
    run (step twoFrames) { file } (reading ++ closing) = some t ∧
    AppendOnly twoFrames file (reading ++ closing) t ∧ t.closes 0 = some .returned := by
  obtain ⟨file, created⟩ := created_twoFrames
  obtain ⟨header, encoded⟩ := stopped_encoded
  obtain ⟨s, before, _, _, mapped, _, read, _, settled⟩ := reading_run created
  have wrote := step_writes (c := 0) mapped read encoded
  let halted : State := { s.setClose 0 .written with
    file := splice s.file 0 header
    log := { s.log with status := stopped readStatus, recorded := s.log.recorded.take 1 } }
  let gone : State := { halted.setClose 0 .unmapped with mapped := false }
  have cut : step twoFrames halted (.unmaps 0) = some gone :=
    step_unmaps (s := halted) mapped (closes_setClose_self (s := s) (c := 0))
  have marked : step twoFrames gone (.marks 0) = some _ :=
    step_marks (closes_setClose_self (s := halted) (c := 0))
  have after : run (step twoFrames) s closing = some _ :=
    run_cons_eq_some.mpr ⟨halted, wrote, run_cons_eq_some.mpr ⟨gone, cut, run_cons_eq_some.mpr ⟨_, marked, rfl⟩⟩⟩
  have along : Along (step twoFrames) (Settled twoFrames) s closing :=
    along_cons nofun wrote <| along_cons nofun cut <| along_cons nofun marked trivial
  have ran := run_append.mpr ⟨s, before, after⟩
  exact ⟨file, _, created, ran, frames_append_only created ran ((along_append before).mpr ⟨settled, along⟩),
    closes_setClose_self (s := gone) (c := 0)⟩

/-- A second packet is recorded before the close writes the header: the count goes back to one. -/
theorem recording_lost : ¬∀ (cfg : Config) (file : Bytes) (ls : List Label) (t : State),
    create cfg = .ok file → run (step cfg) { file } ls = some t → AppendOnly cfg file ls t := by
  intro always
  obtain ⟨file, created⟩ := created_twoFrames
  obtain ⟨header, encoded⟩ := stopped_encoded
  obtain ⟨s, before, kept, log, mapped, live, read, idle, _⟩ := reading_run created
  have accepts : s.log.accepts twoFrames recording = true := by
    rw [log]
    decide +kernel
  obtain ⟨after, done, kept'⟩ := kept_publish kept accepts
  let waiting : State := { s with publishes := update s.publishes 1 (some recording) }
  have waits : waiting.publishes 1 = some recording := update_self (1 : CallId) _ s.publishes
  have asked : step twoFrames s (.publish 1 recording) = some waiting := by
    rw [step, idle]
    dsimp only
    rw [if_neg (Bool.eq_false_iff.mp live)]
    simp only [waiting, idle]
  let recorded : State := { waiting with
    publishes := update waiting.publishes 1 none, file := after, log := s.log.publish recording }
  have committed : step twoFrames waiting (.commits 1) = some recorded := by
    rw [step_commits waits, commit_accepted (s := waiting) mapped done]
  have wrote := step_writes (s := recorded) mapped read encoded
  let between : List Label := [.publish 1 recording, .commits 1]
  have reached : run (step twoFrames) s between = some recorded :=
    run_cons_eq_some.mpr ⟨waiting, asked, run_cons_eq_some.mpr ⟨recorded, committed, rfl⟩⟩
  have middle := run_append.mpr ⟨s, before, reached⟩
  have last : run (step twoFrames) recorded [.writes 0] = some _ := run_cons_eq_some.mpr ⟨_, wrote, rfl⟩
  have ran := run_append.mpr ⟨recorded, middle, last⟩
  obtain ⟨a, b, first, second, ordered, _⟩ :=
    (always twoFrames file _ _ created ran).1 (reading ++ between) [.writes 0] recorded rfl middle
  have two : recorded.log.recorded.length = 2 := by
    change (s.log.publish recording).recorded.length = 2
    rw [log]
    rfl
  have one : (recorded.log.recorded.take readStatus.recorded).length = 1 := by
    rw [length_take, two]
    rfl
  have full : Stored twoFrames after (s.log.publish recording) := kept'.stored
  have shorter := stored_stop full (two.symm ▸ by decide) encoded
  rw [health_opened full] at first
  rw [health_opened shorter] at second
  obtain rfl := Reply.status.inj (Except.ok.inj first)
  obtain rfl := Reply.status.inj (Except.ok.inj second)
  have counts : 2 ≤ 1 := two ▸ one ▸ ordered
  exact absurd counts (by decide)

end EmbodiRun.Rollout.CameraShm
