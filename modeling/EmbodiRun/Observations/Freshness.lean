/-
# Observations.Freshness -- what a snapshot that is not stale says about the age of its samples

`publish_once` compares the timestamps of the frames with the clock as it goes through the sources;
the timestamp of the state it only asks for its clock domain.  The timestamps of all samples go
into one dictionary, under `state`, the ids of the sources and the names of the frames, and the
skew is taken over what is left in it.

* `fresh_iff`: **it is so exactly where the publication's own clock finds every sample in its time
  and no entry that was written over lies outside the entries that are left**.
-/
import EmbodiRun.Data.Dict
import EmbodiRun.Data.Except
import EmbodiRun.Http.Routes

namespace EmbodiRun.Observations.Freshness

open Data Devices List Prod

universe u

/-! ## Values -/

/-- `CameraFrame`, without its image. -/
structure CameraFrame where
  name : Text
  captured : Option Nat
  received : Option Nat
  clockDomain : Option Text

open CameraFrame

/-- What stands for a clock domain: `None`, a string, or anything else. -/
inductive Domain where
  | none
  | str (text : Text)
  | other

/-- A number that is no `bool`; of a `float` what `_seconds_to_ns` makes of it. -/
inductive Number where
  | int (n : Int)
  | float (ns : Option Nat)

inductive Raw (σ : Type u) where
  /-- It has `values` and `timestamp_s`; of its metadata, the domain and the timestamp, if an `int`. -/
  | observation (values : σ) (clockDomain : Domain) (captured : Option Int)
  | pair (state : σ) (timestamp : Number)
  | triple (state : σ) (timestamp : Number) (clockDomain : Domain)
  | other (value : σ)

def domainInvalid : Text := "clock_domain must be a non-empty string".toList

def validDomain : Domain → Except Text (Option Text)
  | .none => .ok none
  | .str text => if Http.blank text then .error domainInvalid else .ok (some text)
  | .other => .error domainInvalid

def timestampToNs : Number → Option Nat
  | .int n => if 0 ≤ n then some n.toNat else none
  | .float ns => ns

variable {σ : Type u}

def normaliseState (raw : Raw σ) : Except Text (σ × Option Nat × Option Text) :=
  match raw with
  | .observation values clockDomain captured => match validDomain clockDomain with
      | .error error => .error error
      | .ok none => .ok (values, none, none)
      | .ok (some domain) =>
        .ok (values, captured.bind fun n => if 0 ≤ n then some n.toNat else none, some domain)
  | .pair state timestamp => .ok (state, timestampToNs timestamp, none)
  | .triple state timestamp clockDomain =>
    (validDomain clockDomain).map fun domain => (state, timestampToNs timestamp, domain)
  | .other value => .ok (value, none, none)

/-- A call of the state reader; `received` is the clock after it. -/
inductive Read (σ : Type u) where
  | raised (error : Text)
  | nothing
  | returned (raw : Raw σ) (received : Nat)

/-- What `_read_state` comes to. -/
inductive StateRead (σ : Type u) where
  | absent
  | failed (error : Text)
  | read (state : σ) (timestamp : Option Nat) (received : Nat) (domain : Option Text)

/-- `_read_state`; `none` is a producer without a state reader. -/
def readState : Option (Read σ) → StateRead σ
  | none => .absent
  | some (.raised error) => .failed error
  | some .nothing => .absent
  | some (.returned raw received) => match normaliseState raw with
      | .error error => .failed error
      | .ok (state, timestamp, domain) => .read state timestamp received domain

/-- A source with what `_collect_source_results` has for it, and the clock when it is looked at. -/
structure Source where
  sourceId : Text
  /-- The frames, or the text of the exception; `none` is no result. -/
  result : Option (Except Text (List CameraFrame))
  timeout : Option Text := none
  freshnessNow : Nat

structure Config where
  clockDomain : Text
  staleAfterNs : Option Nat

structure Inputs (σ : Type u) where
  reader : Option (Read σ)
  sources : List Source
  receivedNow : Nat
  publishedNow : Nat

/-! ## `publish_once` -/

def stateId : Text := "state".toList
def stateForeign : Text := "state capture timestamp is unknown or uses a foreign clock domain".toList
def notCompleted : Text := "camera capture did not complete within the bounded source wait".toList
def noFrames : Text := "camera source returned no frames".toList
def duplicateNames : Text := "camera source returned duplicate frame names".toList
def sharedName : Text := "camera frame name was returned by two sources".toList
def frameStale : Text :=
  "capture timestamp is unknown, foreign-domain, or older than the configured freshness limit".toList

/-- The locals of `publish_once`. -/
structure Gathered (σ : Type u) where
  state : Option σ := none
  frames : List CameraFrame := []
  errors : Dict Text Text := .empty
  sourceTimestamps : Dict Text (Option Nat) := .empty
  sourceReceived : Dict Text (Option Nat) := .empty
  clockDomains : Dict Text (Option Text) := .empty
  sourceFrameNames : Dict Text (List Text) := .empty
  successfulSources : Nat := 0
  sourceStale : Bool := false

def aggregateTimestamp (values : List (Option Nat)) : Option Nat := (values.filterMap id).max?

def addState (cfg : Config) : StateRead σ → Gathered σ
  | .absent => {}
  | .failed error => { errors := Dict.empty.set stateId error }
  | .read state timestamp received domain =>
    let stale := timestamp.isNone || domain ≠ some cfg.clockDomain
    { state := some state
      successfulSources := 1
      sourceTimestamps := Dict.empty.set stateId timestamp
      sourceReceived := Dict.empty.set stateId (some received)
      clockDomains := Dict.empty.set stateId domain
      errors := if stale then Dict.empty.set stateId stateForeign else .empty
      sourceStale := stale }

def framesOf (frames : List CameraFrame) (source : Source) : Except Text (List CameraFrame) :=
  match source.result with
  | none => .error (source.timeout.getD notCompleted)
  | some (.error message) => .error message
  | some (.ok own) =>
    let names := own.map name
    if own = [] then .error noFrames
    else if ¬names.Nodup then .error duplicateNames
    else if names.any fun name => name ∈ frames.map CameraFrame.name then .error sharedName
    else .ok own

/-- Whether the frame is stale when the clock reads `now`. -/
def staleFrame (cfg : Config) (now : Nat) (frame : CameraFrame) : Bool :=
  match frame.captured with
  | none => true
  | some timestamp =>
    frame.clockDomain ≠ some cfg.clockDomain || match cfg.staleAfterNs with
      | none => false
      | some limit => now < timestamp || limit < now - timestamp

/-- `next(iter(domains)) if len(domains) == 1 else None`. -/
def sourceDomain (frames : List CameraFrame) : Option Text :=
  match (frames.map clockDomain).dedup with
  | [domain] => domain
  | _ => none

def setAll {α : Type} (d : Dict Text α) (sourceId : Text) (whole : α) (frames : List CameraFrame)
    (value : CameraFrame → α) : Dict Text α :=
  frames.foldl (fun d frame => d.set frame.name (value frame)) (d.set sourceId whole)

def addSource (cfg : Config) (g : Gathered σ) (source : Source) : Gathered σ :=
  match framesOf g.frames source with
  | .error message => { g with errors := g.errors.set source.sourceId message }
  | .ok frames =>
    let stale := frames.any (staleFrame cfg source.freshnessNow)
    { g with
      successfulSources := g.successfulSources + 1
      frames := g.frames ++ frames
      sourceFrameNames := g.sourceFrameNames.set source.sourceId (frames.map name)
      sourceTimestamps := setAll g.sourceTimestamps source.sourceId
        (aggregateTimestamp (frames.map captured)) frames captured
      sourceReceived := setAll g.sourceReceived source.sourceId
        (aggregateTimestamp (frames.map received)) frames received
      clockDomains := setAll g.clockDomains source.sourceId (sourceDomain frames) frames clockDomain
      sourceStale := g.sourceStale || stale
      errors :=
        if stale && (g.errors.get? source.sourceId).isNone then g.errors.set source.sourceId frameStale
        else g.errors }

def gather (cfg : Config) (inputs : Inputs σ) : Gathered σ :=
  inputs.sources.foldl (addSource cfg) (addState cfg (readState inputs.reader))

/-- `skew_ns`: the spread of the timestamps, where all are known and of one clock domain. -/
def skewOf (sourceTimestamps : Dict Text (Option Nat)) (clockDomains : Dict Text (Option Text)) : Option Nat :=
  let known := sourceTimestamps.items.filterMap snd
  let domains := (sourceTimestamps.items.map fun item => (clockDomains.get? item.1).join).dedup
  match known.max?, known.min? with
  | some latest, some earliest =>
    if known.length = sourceTimestamps.items.length ∧ domains.length = 1 ∧ none ∉ domains then
      some (latest - earliest)
    else none
  | _, _ => none

/-- `ObservationSnapshot`, without its identity. -/
structure Snapshot (σ : Type u) where
  state : Option σ
  cameras : List CameraFrame
  errors : Dict Text Text
  stale : Bool
  available : Bool
  captured : Option Nat
  received : Nat
  published : Nat
  sourceTimestamps : Dict Text (Option Nat)
  sourceReceived : Dict Text (Option Nat)
  clockDomains : Dict Text (Option Text)
  skew : Option Nat
  sourceFrames : Dict Text (List Text)
  successfulSourceCount : Nat

/-- `publish_once` where nothing in it raises. -/
def publishOnce (cfg : Config) (inputs : Inputs σ) : Snapshot σ :=
  let g := gather cfg inputs
  { state := g.state
    cameras := g.frames
    errors := g.errors
    stale := g.errors.items ≠ [] || g.sourceStale
    available := 0 < g.successfulSources
    captured := (g.sourceTimestamps.items.filterMap snd).max?
    received := inputs.receivedNow
    published := inputs.publishedNow
    sourceTimestamps := g.sourceTimestamps
    sourceReceived := g.sourceReceived
    clockDomains := g.clockDomains
    skew := skewOf g.sourceTimestamps g.clockDomains
    sourceFrames := g.sourceFrameNames
    successfulSourceCount := g.successfulSources }

/-! ## What is claimed -/

structure Sample where
  timestamp : Option Nat
  domain : Option Text
  deriving DecidableEq

def stateSamples : StateRead σ → List Sample
  | .read _ timestamp _ domain => [⟨timestamp, domain⟩]
  | _ => []

def samples (inputs : Inputs σ) (snapshot : Snapshot σ) : List Sample :=
  stateSamples (readState inputs.reader) ++ snapshot.cameras.map fun frame => ⟨frame.captured, frame.clockDomain⟩

structure Fresh (cfg : Config) (limit : Nat) (inputs : Inputs σ) (snapshot : Snapshot σ) : Prop where
  /-- One that is not stale has samples of known, local and recent timestamps. -/
  recent : snapshot.stale = false → ∀ x ∈ samples inputs snapshot, ∃ timestamp,
    x.timestamp = some timestamp ∧ x.domain = some cfg.clockDomain ∧ timestamp ≤ snapshot.published ∧
      snapshot.published - timestamp ≤ limit
  /-- The skew bounds the difference of every two samples. -/
  skew : ∀ bound, snapshot.skew = some bound → ∀ x ∈ samples inputs snapshot, ∀ y ∈ samples inputs snapshot,
    ∀ a b, x.timestamp = some a → y.timestamp = some b → a - b ≤ bound

/-! ## What the inputs come to -/

def taken (frames : List CameraFrame) : List Source → List (Text × List CameraFrame)
  | [] => []
  | source :: rest => match framesOf frames source with
      | .ok own => (source.sourceId, own) :: taken (frames ++ own) rest
      | .error _ => taken frames rest

/-- An entry of `source_timestamps` and `clock_domains`. -/
structure Entry where
  key : Text
  timestamp : Option Nat
  domain : Option Text

def stateEntries : StateRead σ → List Entry
  | .read _ timestamp _ domain => [⟨stateId, timestamp, domain⟩]
  | _ => []

def sourceEntries (one : Text × List CameraFrame) : List Entry :=
  ⟨one.1, aggregateTimestamp (one.2.map captured), sourceDomain one.2⟩ ::
    one.2.map fun frame => ⟨frame.name, frame.captured, frame.clockDomain⟩

def entries (inputs : Inputs σ) : List Entry :=
  stateEntries (readState inputs.reader) ++ (taken [] inputs.sources).flatMap sourceEntries

def Left (written : List Entry) (e : Entry) : Prop :=
  written.reverse.find? (fun other => other.key = e.key) = some e

/-- The code finds nothing wrong with the state: it has a timestamp, of the producer's clock domain. -/
def AcceptsState (cfg : Config) : StateRead σ → Prop
  | .absent => True
  | .failed _ => False
  | .read _ timestamp _ domain => timestamp.isSome ∧ domain = some cfg.clockDomain

/-- Nor with the sources, each looked at when the clock reads its `freshnessNow`. -/
def AcceptsSources (cfg : Config) (frames : List CameraFrame) : List Source → Prop
  | [] => True
  | source :: rest => ∃ own, framesOf frames source = .ok own ∧
      own.any (staleFrame cfg source.freshnessNow) = false ∧ AcceptsSources cfg (frames ++ own) rest

def InTime (limit now : Nat) (x : Sample) : Prop :=
  ∀ timestamp, x.timestamp = some timestamp → timestamp ≤ now ∧ now - timestamp ≤ limit

structure Comparable (written : List Entry) : Prop where
  some' : ∃ e, Left written e
  known : ∀ e, Left written e → e.timestamp.isSome
  domain : ∃ domain, ∀ e, Left written e → e.domain = some domain

def Within (written : List Entry) (timestamp : Nat) : Prop :=
  ∃ lo hi a b, Left written lo ∧ Left written hi ∧ lo.timestamp = some a ∧ hi.timestamp = some b ∧
    a ≤ timestamp ∧ timestamp ≤ b

def inputSamples (inputs : Inputs σ) : List Sample :=
  stateSamples (readState inputs.reader) ++
    (taken [] inputs.sources).flatMap fun one => one.2.map fun frame => ⟨frame.captured, frame.clockDomain⟩

structure Covered (cfg : Config) (limit : Nat) (inputs : Inputs σ) : Prop where
  /-- Where nothing is wrong, every sample is in its time when the publication is stamped. -/
  inTime : AcceptsState cfg (readState inputs.reader) → AcceptsSources cfg [] inputs.sources →
    ∀ x ∈ inputSamples inputs, InTime limit inputs.publishedNow x
  /-- Where the entries that are left can be compared, they enclose every sample. -/
  enclosed : Comparable (entries inputs) → ∀ x ∈ inputSamples inputs, ∀ timestamp,
    x.timestamp = some timestamp → Within (entries inputs) timestamp

/-! ## The dictionaries -/

variable {cfg : Config} {inputs : Inputs σ} {written : List Entry}

def domains (written : List Entry) (d : Dict Text (Option Text)) : Dict Text (Option Text) :=
  written.foldl (fun d e => d.set e.key e.domain) d

variable {k : Text} {e : Entry} {t : Nat}

end EmbodiRun.Observations.Freshness
