/-
# Observations.Producer -- `publish_once`, `reconnect` and the source workers

`publish_once` and `add_camera_source` run under the capture lock, so there is one
publication at a time; `reconnect` and the workers' threads take no part in that lock.  `step`
interleaves them, one label for each section under a worker's condition or the store's lock,
and one for the beginning and the end of each call into a source.

A value read from a source carries `begun`, the store's generation when the call that read it
began.  No section reads it: it is what the property is about.

A snapshot's body is its `state` and `cameras`; timestamps, statuses and error texts of a
publication are left out, and so is `close`, after which nothing is published.
-/
import EmbodiRun.Observations.Store
import EmbodiRun.Transition.Machine

namespace EmbodiRun.Observations.Producer

open Data Devices

universe u

abbrev SourceId := Text
abbrev CallId := Nat

/-! ## Values -/

/-- A `CameraFrame`, by its name, and when its capture began. -/
structure Frame where
  name : Text
  begun : Nat
  deriving DecidableEq

structure Reading (σ : Type u) where
  value : σ
  begun : Nat

structure Body (σ : Type u) where
  state : Option (Reading σ)
  cameras : List Frame

/-- `_SourceResult`: the names of the frames, or the text of the exception (of the capture, or of
`_normalise_frames` for what it returned). -/
structure SourceResult where
  token : Nat
  begun : Nat
  value : Except Text (List Text)

/-! ## The worker of a source -/

/-- `_job`, `_running` and `_completed` of a worker: at most one of them is set. -/
inductive Phase where
  | idle
  /-- `_job = (generation, token)`. -/
  | scheduled (generation token : Nat)
  /-- `_running`, before and in the call of `_capture`. -/
  | taken (generation token : Nat)
  | capturing (generation token begun : Nat)
  | completed (result : SourceResult)

/-- `_SourceWorker`. -/
structure Worker where
  phase : Phase := .idle
  generation : Nat := 0
  nextToken : Nat := 0

namespace Worker

def request (w : Worker) : Option Nat × Worker :=
  match w.phase with
  | .idle =>
    let token := w.nextToken + 1
    (some token, { w with nextToken := token, phase := .scheduled w.generation token })
  | _ => (none, w)

def takeCompleted (w : Worker) : Option SourceResult × Worker :=
  match w.phase with
  | .completed result => (some result, { w with phase := .idle })
  | _ => (none, w)

def activeToken (w : Worker) : Option Nat :=
  match w.phase with
  | .scheduled _ token => some token
  | .taken _ _ | .capturing _ _ _ => some w.nextToken
  | .idle | .completed _ => none

def invalidate (w : Worker) : Worker :=
  { w with
    generation := w.generation + 1
    phase := match w.phase with
      | .completed _ => .idle
      | phase => phase }

/-- `_run` takes the job. -/
def take (w : Worker) : Option Worker :=
  match w.phase with
  | .scheduled generation token => some { w with phase := .taken generation token }
  | _ => none

/-- `_run` calls `_capture` at the store's generation `now`. -/
def capture (w : Worker) (now : Nat) : Option Worker :=
  match w.phase with
  | .taken generation token => some { w with phase := .capturing generation token now }
  | _ => none

/-- `_capture` is over; a result from before an `invalidate` is dropped. -/
def complete (w : Worker) (value : Except Text (List Text)) : Option Worker :=
  match w.phase with
  | .capturing generation token begun => some { w with
      phase := if generation = w.generation then .completed ⟨token, begun, value⟩ else .idle }
  | _ => none

end Worker

/-! ## One publication -/

/-- What `publish_once` has gathered: the locals of its collecting part. -/
structure Turn (σ : Type u) where
  generation : Nat
  state : Option (Reading σ)
  results : SourceId → Option SourceResult := fun _ => none
  pending : List (SourceId × Nat) := []

/-- The sections of `_collect_source_results` for one source. -/
inductive Visit where
  | take | request | takeAgain | requestAgain | active
  deriving Repr

inductive Publisher (σ : Type u) where
  | idle
  | started (generation : Nat)
  | reading (generation begun : Nat)
  | collecting (turn : Turn σ) (sources : List SourceId) (visit : Visit)
  /-- One pass over the pending sources; `ahead` are those it has still to poll. -/
  | polling (turn : Turn σ) (ahead : List (SourceId × Nat))
  | collected (turn : Turn σ)
  | checked (generation : Nat) (body : Body σ)
  | allocated (snapshot : Snapshot (Body σ))

def addFrames (frames : List Frame) : Option SourceResult → List Frame
  | some ⟨_, begun, .ok names⟩ =>
    if names = [] ∨ ¬ names.Nodup ∨ names.any fun name => name ∈ frames.map Frame.name then frames
    else frames ++ names.map fun name => ⟨name, begun⟩
  | _ => frames

/-- The `frames` of `publish_once`, source by source. -/
def frames (sources : List SourceId) (results : SourceId → Option SourceResult) : List Frame :=
  sources.foldl (fun frames i => addFrames frames (results i)) []

/-- Where a call of `reconnect` stands. -/
inductive Reconnect where
  | absent
  /-- Iterating over the workers, which were `size` at the start. -/
  | invalidating (size index : Nat)
  | one (i : SourceId)
  | beginning
  | over

/-! ## The machine -/

structure State (σ : Type u) where
  store : Store (Body σ) := {}
  /-- Whether there is a state reader. -/
  hasReader : Bool
  sources : List SourceId := []
  workers : SourceId → Option Worker := fun _ => none
  reportedTimeouts : Finset (SourceId × Nat) := ∅
  publisher : Publisher σ := .idle
  reconnects : CallId → Reconnect := fun _ => .absent
  /-- What was published, the latest last. -/
  published : List (Snapshot (Body σ)) := []

/-- What a call of the state reader ends in; `raised` also stands for a value or a clock that
`_normalise_state` or `_now_ns` refuses. -/
inductive ReadReply (σ : Type u) where
  | raised
  | nothing
  | state (value : σ)

inductive Label (σ : Type u) where
  /-- `publish_once` takes the capture lock and reads the generation. -/
  | publishOnce
  | readBegins
  | readReplies (reply : ReadReply σ)
  /-- `_now_ns` raises out of `publish_once`. -/
  | clockFails
  | collect
  | poll
  | passes (timeUp : Bool)
  | check
  | allocate
  | publish
  | addCameraSource (i : SourceId)
  | take (i : SourceId)
  | captureBegins (i : SourceId)
  | captureEnds (i : SourceId) (value : Except Text (List Text))
  | reconnect (c : CallId) (target : Option SourceId)
  | invalidate (c : CallId)
  | begins (c : CallId)

variable {σ : Type u}

namespace State

def setWorker (s : State σ) (i : SourceId) (w : Worker) : State σ :=
  { s with workers := Function.update s.workers i (some w) }

def setReconnect (s : State σ) (c : CallId) (stage : Reconnect) : State σ :=
  { s with reconnects := Function.update s.reconnects c stage }

/-- One section of `_collect_source_results` at the source `i`, whose worker is `w`. -/
def collect (s : State σ) (turn : Turn σ) (i : SourceId) (rest : List SourceId) (visit : Visit)
    (w : Worker) : State σ :=
  let stay (visit : Visit) : Publisher σ := .collecting turn (i :: rest) visit
  let takes (again late : Visit) : State σ :=
    match w.takeCompleted with
    | (some result, w) =>
      if (i, result.token) ∈ s.reportedTimeouts then
        { s.setWorker i w with
          reportedTimeouts := s.reportedTimeouts.erase (i, result.token)
          publisher := stay again }
      else
        { s.setWorker i w with
          publisher := .collecting
            { turn with results := Function.update turn.results i (some result) } rest .take }
    | (none, _) => { s with publisher := stay late }
  let requests (late : Visit) : State σ :=
    match w.request with
    | (some token, w) =>
      { s.setWorker i w with
        publisher := .collecting { turn with pending := turn.pending ++ [(i, token)] } rest .take }
    | (none, _) => { s with publisher := stay late }
  match visit with
  | .take => takes .request .request
  | .request => requests .takeAgain
  | .takeAgain => takes .requestAgain .active
  | .requestAgain => requests .active
  | .active =>
    { s with
      reportedTimeouts := insert (i, w.activeToken.getD 0) s.reportedTimeouts
      publisher := .collecting turn rest .take }

/-- The pass polls the source `i`, whose worker is `w`, for the token it requested. -/
def poll (s : State σ) (turn : Turn σ) (i : SourceId) (token : Nat)
    (ahead : List (SourceId × Nat)) (w : Worker) : State σ :=
  match w.takeCompleted with
  | (none, _) => { s with publisher := .polling turn ahead }
  | (some result, w) =>
    if result.token ≠ token then { s.setWorker i w with publisher := .polling turn ahead }
    else
      { s.setWorker i w with
        reportedTimeouts := s.reportedTimeouts.erase (i, token)
        publisher := .polling { turn with
            results := Function.update turn.results i (some result)
            pending := turn.pending.erase (i, token) } ahead }

def passes (s : State σ) (turn : Turn σ) (timeUp : Bool) : State σ :=
  if turn.pending = [] then { s with publisher := .collected turn }
  else if timeUp then
    { s with
      reportedTimeouts := s.reportedTimeouts ∪ turn.pending.toFinset
      publisher := .collected { turn with pending := [] } }
  else { s with publisher := .polling turn turn.pending }

/-- `reconnect`, to the end of `_require_source`. -/
def reconnect (s : State σ) (c : CallId) : Option SourceId → State σ
  | none => s.setReconnect c (.invalidating s.sources.length 0)
  | some i =>
    if i ∈ s.sources then s.setReconnect c (.one i)
    else if i = ['s', 't', 'a', 't', 'e'] ∧ s.hasReader then s.setReconnect c .beginning
    else s.setReconnect c .over

end State

def step (cfg : Config) (s : State σ) : Label σ → Option (State σ)
  | .publishOnce => match s.publisher with
      | .idle => some { s with publisher := .started s.store.generation }
      | _ => none
  | .readBegins => match s.publisher with
      | .started generation =>
        if s.hasReader then some { s with publisher := .reading generation s.store.generation }
        else some { s with publisher := .collecting { generation, state := none } s.sources .take }
      | _ => none
  | .readReplies reply => match s.publisher with
      | .reading generation begun =>
        let state := match reply with
          | .raised | .nothing => none
          | .state value => some ⟨value, begun⟩
        some { s with publisher := .collecting { generation, state } s.sources .take }
      | _ => none
  | .clockFails => match s.publisher with
      | .reading _ _ | .collected _ | .checked _ _ => some { s with publisher := .idle }
      | _ => none
  | .collect => match s.publisher with
      | .collecting turn [] _ => some { s with publisher := .polling turn turn.pending }
      | .collecting turn (i :: rest) visit => (s.workers i).map (s.collect turn i rest visit)
      | _ => none
  | .poll => match s.publisher with
      | .polling turn ((i, token) :: ahead) => (s.workers i).map (s.poll turn i token ahead)
      | _ => none
  | .passes timeUp => match s.publisher with
      | .polling turn [] => some (s.passes turn timeUp)
      | _ => none
  | .check => match s.publisher with
      | .collected turn =>
        if turn.generation ≠ s.store.generation then some { s with publisher := .idle }
        else some { s with
          publisher := .checked turn.generation ⟨turn.state, frames s.sources turn.results⟩ }
      | _ => none
  | .allocate => match s.publisher with
      | .checked _ body => match s.store.nextObservationId cfg with
          | .error _ => some { s with publisher := .idle }
          | .ok ((observationId, generation, sequence), store) => some { s with
              store
              publisher := .allocated ⟨observationId, cfg.serviceInstanceId, generation, sequence, body⟩ }
      | _ => none
  | .publish => match s.publisher with
      | .allocated snapshot => match s.store.publish cfg snapshot with
          | .error _ => some { s with publisher := .idle }
          | .ok store => some { s with
              store, publisher := .idle, published := s.published ++ [snapshot] }
      | _ => none
  | .addCameraSource i => match s.publisher with
      | .idle =>
        if i ∈ s.sources then some s
        else some { s.setWorker i {} with sources := s.sources ++ [i] }
      | _ => none
  | .take i => ((s.workers i).bind Worker.take).map (s.setWorker i)
  | .captureBegins i => ((s.workers i).bind fun w => w.capture s.store.generation).map (s.setWorker i)
  | .captureEnds i value => ((s.workers i).bind fun w => w.complete value).map (s.setWorker i)
  | .reconnect c target => match s.reconnects c with
      | .absent => some (s.reconnect c target)
      | _ => none
  | .invalidate c => match s.reconnects c with
      -- a `dict` that grew while it is iterated over raises `RuntimeError`
      | .invalidating size index =>
        if s.sources.length ≠ size then some (s.setReconnect c .over)
        else match s.sources[index]? with
          | none => some (s.setReconnect c .beginning)
          | some i => (s.workers i).map fun w =>
            (s.setWorker i w.invalidate).setReconnect c (.invalidating size (index + 1))
      | .one i => (s.workers i).map fun w => (s.setWorker i w.invalidate).setReconnect c .beginning
      | _ => none
  | .begins c => match s.reconnects c with
      | .beginning => match s.store.beginGeneration cfg with
          | .error _ => some (s.setReconnect c .over)
          | .ok store => some { s.setReconnect c .over with store }
      | _ => none

end EmbodiRun.Observations.Producer
