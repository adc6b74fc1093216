/-
# Http.Routes -- which operation a path is routed to, and with which identifier

The client writes an identifier into the path by `quote`; the server cuts the identifier out
of the path as it stands.

* `identifier_survives_iff`: **an identifier arrives as itself exactly when all its characters
  are safe, and no two identifiers arrive as one**.
-/
import EmbodiRun.Http.Url

namespace EmbodiRun.Http

open Devices List String

inductive Verb where
  | get
  | post
  | other (verb : Text)

inductive Route where
  | describe
  | observe
  | media (observationId : Text)
  | recordingStatus
  | recordingGet (observationId : Text)
  | inspect (requestId : Text)
  | execute
  | propose
  | tasks
  | recordingStart
  | recordingStop
  | cancelJob (requestId : Text)
  | stopJob (requestId : Text)
  | cancel
  | stop
  deriving DecidableEq

/-- `HTTPDispatchError`. -/
inductive RouteError where
  /-- "media route requires observation_id". -/
  | media
  /-- "record route requires observation_id". -/
  | record
  /-- "job route requires one request_id". -/
  | job
  /-- "job mutation route must end in /cancel or /stop". -/
  | mutation
  /-- "unsupported route: …". -/
  | unsupported
  deriving DecidableEq

def describePath : Text := "/v1/describe".toList
def observePath : Text := "/v1/observe".toList
def mediaPrefix : Text := "/v1/media/".toList
def statusPath : Text := "/v1/recordings/status".toList
def recordPrefix : Text := "/v1/recordings/record/".toList
def jobsPrefix : Text := "/v1/jobs/".toList
def executePath : Text := "/v1/execute".toList
def proposePath : Text := "/v1/propose".toList
def tasksPath : Text := "/v1/tasks".toList
def recordingStartPath : Text := "/v1/recordings/start".toList
def recordingStopPath : Text := "/v1/recordings/stop".toList
def cancelPath : Text := "/v1/cancel".toList
def stopPath : Text := "/v1/stop".toList

def cancelWord : Text := "cancel".toList
def stopWord : Text := "stop".toList

/-- `text.removeprefix(p)`, where `text.startswith(p)`. -/
def afterPrefix (p text : Text) : Option Text :=
  if p.isPrefixOf text then some (text.drop p.length) else none

/-- `GET`. -/
def getRoute (route : Text) : Except RouteError Route :=
  if route = describePath then .ok .describe
  else if route = observePath then .ok .observe
  else match afterPrefix mediaPrefix route with
  | some observationId => if observationId = [] then .error .media else .ok (.media observationId)
  | none =>
    if route = statusPath then .ok .recordingStatus
    else match afterPrefix recordPrefix route with
    | some observationId =>
      if observationId = [] then .error .record else .ok (.recordingGet observationId)
    | none => match afterPrefix jobsPrefix route with
      | some requestId =>
        if requestId = [] ∨ '/' ∈ requestId then .error .job else .ok (.inspect requestId)
      | none => .error .unsupported

/-- `POST`. -/
def postRoute (route : Text) : Except RouteError Route :=
  if route = executePath then .ok .execute
  else if route = proposePath then .ok .propose
  else if route = tasksPath then .ok .tasks
  else if route = recordingStartPath then .ok .recordingStart
  else if route = recordingStopPath then .ok .recordingStop
  else match afterPrefix jobsPrefix route with
  | some suffix => match suffix.splitOn '/' with
    | [requestId, operation] =>
      if requestId = [] then .error .mutation
      else if operation = stopWord then .ok (.stopJob requestId)
      else if operation = cancelWord then .ok (.cancelJob requestId)
      else .error .mutation
    | _ => .error .mutation
  | none =>
    if route = cancelPath then .ok .cancel
    else if route = stopPath then .ok .stop
    else .error .unsupported

/-- Where `_dispatch` sends a request with the method and the path. -/
def routed (verb : Verb) (path : Text) : Except RouteError Route :=
  match verb with
  | .get => getRoute (route path)
  | .post => postRoute (route path)
  | .other _ => .error .unsupported

/-! ## The client's side -/

/-- The calls of `ControlClient` that write an identifier into the path. -/
inductive Operation where
  | inspect
  | cancel
  | stop
  | media

open Operation

/-- The query of `ControlClient.media`. -/
structure MediaQuery where
  frame : Option Text := none
  includeData : Bool := false
  runtimeId : Option Text := none

/-- `_query_path` leaves a `None` out. -/
def MediaQuery.fields (query : MediaQuery) : List (Text × Text) :=
  (query.frame.map fun frame => ("frame".toList, frame)).toList ++
    [("include_data".toList, if query.includeData then "true".toList else "false".toList)] ++
    (query.runtimeId.map fun runtimeId => ("runtime_id".toList, runtimeId)).toList

namespace Operation

def verb : Operation → Verb
  | inspect | media => .get
  | cancel | stop => .post

def path (operation : Operation) (identifier : Text) (query : MediaQuery) : Text :=
  match operation with
  | inspect => jobsPrefix ++ quote identifier
  | cancel => jobsPrefix ++ quote identifier ++ '/' :: cancelWord
  | stop => jobsPrefix ++ quote identifier ++ '/' :: stopWord
  | media => mediaPrefix ++ quote identifier ++ '?' :: urlencode query.fields

def route (operation : Operation) (identifier : Text) : Route :=
  match operation with
  | inspect => .inspect identifier
  | cancel => .cancelJob identifier
  | stop => .stopJob identifier
  | media => .media identifier

theorem route_injective {operation : Operation} {a b : Text}
    (same : operation.route a = operation.route b) : a = b := by
  cases operation <;> exact (by injection same)

end Operation

def delivered (operation : Operation) (identifier : Text) (query : MediaQuery) : Except RouteError Route :=
  routed operation.verb (operation.path identifier query)

def isSpace (c : Char) : Bool :=
  c.toNat ∈ [9, 10, 11, 12, 13, 28, 29, 30, 31, 32, 133, 160, 5760, 8232, 8233, 8239, 8287, 12288] ∨
    (8192 ≤ c.toNat ∧ c.toNat ≤ 8202)

/-- `not value.strip()`: neither the client nor the registry accepts such an identifier. -/
def blank (text : Text) : Bool := text.all isSpace
variable {text : Text}

theorem ne_nil_of_not_blank (named : blank text = false) : text ≠ [] := by
  rintro rfl
  cases named

theorem afterPrefix_append (p text : Text) : afterPrefix p (p ++ text) = some text := by
  unfold afterPrefix
  rw [if_pos (by simp), drop_left]

theorem quote_ne_nil (named : text ≠ []) : quote text ≠ [] := by
  intro none
  have length := length_le_quote text
  rw [none] at length
  exact named (List.length_eq_zero_iff.mp (Nat.le_zero.mp length))

theorem slash_not_mem_quote : '/' ∉ quote text := fun member =>
  absurd (plain_quote '/' member).2.2.1 (by decide)

theorem all_toList {p : Char → Bool} {text : List Char} (all : text.all p) : (ofList text).toList.all p := by
  rw [toList_ofList]
  exact all

theorem forall_mem_of_all {p : Char → Prop} [DecidablePred p]
    (all : text.all (fun c => decide (p c)) = true) : ∀ c ∈ text, p c :=
  fun c member => of_decide_eq_true (List.all_eq_true.mp all c member)

theorem plain_fixed {fixed}
    (plain : ∀ c ∈ fixed, (36 < c.toNat ∧ c.toNat < 127 ∧ c.toNat ≠ 47 ∧ c.toNat ≠ 63) ∨ c = '/')
    (rest : ∀ c ∈ text, Plain c ∨ c = '/') : ∀ c ∈ fixed ++ text, Plain c ∨ c = '/' := by
  intro c member
  rcases List.mem_append.mp member with here | there
  · exact plain c here
  · exact rest c there

theorem route_plain {front last query} (plain : ∀ c ∈ front, Plain c ∨ c = '/')
    (plainLast : ∀ c ∈ last, Plain c) (some' : last ≠ [])
    (stop : query = [] ∨ ∃ rest, query = '?' :: rest) (kept : ∀ d ∈ query, removed d = false) :
    Http.route ('/' :: 'v' :: (front ++ last) ++ query) = '/' :: 'v' :: (front ++ last) := by
  have all : ∀ c ∈ front ++ last, Plain c ∨ c = '/' := by
    intro c member
    rcases List.mem_append.mp member with here | there
    · exact plain c here
    · exact .inl (plainLast c there)
  have second : Plain 'v' := by
    unfold Plain
    decide
  unfold Http.route
  rw [urlsplit_plain second all stop kept]
  have whole : '/' :: 'v' :: (front ++ last) = ('/' :: 'v' :: front) ++ last := rfl
  rw [whole, rstrip_append plainLast some']
  rfl

def clash : Text → Text → Bool
  | c :: p, d :: q => c ≠ d || clash p q
  | _, _ => false

theorem ne_of_clash {p q text} (differ : clash p q) : p ++ text ≠ q := by
  induction p generalizing q with
  | nil => cases differ
  | cons c p ih =>
    cases q with
    | nil => exact cons_ne_nil _ _
    | cons =>
      intro same
      obtain ⟨rfl, rest⟩ := List.cons.inj same
      exact ih (by simpa [clash] using differ) rest

theorem not_prefix_of_clash {p q text} (differ : clash p q) : afterPrefix q (p ++ text) = none := by
  unfold afterPrefix
  refine if_neg fun starts => ?_
  obtain ⟨rest, same⟩ := List.isPrefixOf_iff_prefix.mp starts
  have differ : clash p (q ++ rest) := by
    clear starts same
    induction p generalizing q with
    | nil => cases differ
    | cons c p ih =>
      cases q with
      | nil => cases differ
      | cons =>
        simp only [clash, cons_append, Bool.or_eq_true] at differ ⊢
        exact differ.imp id ih
  exact ne_of_clash differ same.symm

theorem clash_toList {p q} (differ : clash p q) : clash (ofList p).toList (ofList q).toList := by
  rw [toList_ofList, toList_ofList]
  exact differ

theorem getRoute_jobs (named : text ≠ []) (single : '/' ∉ text) :
    getRoute (jobsPrefix ++ text) = .ok (.inspect text) := by
  unfold getRoute
  rw [if_neg (ne_of_clash (by exact clash_toList rfl)), if_neg (ne_of_clash (by exact clash_toList rfl)),
    not_prefix_of_clash (by exact clash_toList rfl)]
  dsimp only
  rw [if_neg (ne_of_clash (by exact clash_toList rfl)), not_prefix_of_clash (by exact clash_toList rfl), afterPrefix_append]
  exact if_neg (not_or.mpr ⟨named, single⟩)

theorem getRoute_media (named : text ≠ []) : getRoute (mediaPrefix ++ text) = .ok (.media text) := by
  unfold getRoute
  rw [if_neg (ne_of_clash (by exact clash_toList rfl)), if_neg (ne_of_clash (by exact clash_toList rfl)), afterPrefix_append]
  exact if_neg named

theorem postRoute_jobs {text word} (named : text ≠ []) (single : '/' ∉ text) (one : '/' ∉ word) :
    postRoute (jobsPrefix ++ (text ++ '/' :: word)) = if word = stopWord then .ok (.stopJob text)
      else if word = cancelWord then .ok (.cancelJob text)
      else .error .mutation := by
  unfold postRoute
  rw [if_neg (ne_of_clash (by exact clash_toList rfl)), if_neg (ne_of_clash (by exact clash_toList rfl)),
    if_neg (ne_of_clash (by exact clash_toList rfl)), if_neg (ne_of_clash (by exact clash_toList rfl)),
    if_neg (ne_of_clash (by exact clash_toList rfl)), afterPrefix_append]
  dsimp only
  rw [splitOn_append_cons_self_of_not_mem single, splitOn_eq_singleton one]
  exact if_neg named

theorem route_identifier {fixed identifier query} (named : identifier ≠ [])
    (plain : ∀ c ∈ fixed, (36 < c.toNat ∧ c.toNat < 127 ∧ c.toNat ≠ 47 ∧ c.toNat ≠ 63) ∨ c = '/')
    (stop : query = [] ∨ ∃ rest, query = '?' :: rest) (kept : ∀ d ∈ query, removed d = false) :
    Http.route ('/' :: 'v' :: (fixed ++ quote identifier) ++ query) = '/' :: 'v' :: (fixed ++ quote identifier) := by
  have front : ∀ c ∈ fixed ++ [], Plain c ∨ c = '/' := plain_fixed plain nofun
  rw [append_nil] at front
  exact route_plain front plain_quote (quote_ne_nil named) stop kept

theorem route_mutation {identifier word} (plainWord : ∀ c ∈ word, Plain c) (some' : word ≠ []) :
    Http.route (jobsPrefix ++ quote identifier ++ '/' :: word) = jobsPrefix ++ (quote identifier ++ '/' :: word) := by
  have front : ∀ c ∈ "1/jobs/".toList ++ (quote identifier ++ ['/']), Plain c ∨ c = '/' := by
    refine plain_fixed (forall_mem_of_all (by exact all_toList rfl)) fun c member => ?_
    rcases List.mem_append.mp member with here | there
    · exact .inl (plain_quote c here)
    · exact .inr (List.mem_singleton.mp there)
  have routed := @route_plain _ word [] front plainWord some' (.inl rfl) nofun
  have jobs : jobsPrefix = '/' :: 'v' :: "1/jobs/".toList := by decide +kernel
  rw [List.append_nil, List.append_assoc, List.append_assoc] at routed
  rw [jobs, List.append_assoc]
  exact routed

theorem delivered_eq {operation : Operation} {identifier : Text} {query : MediaQuery}
    (named : blank identifier = false) :
    delivered operation identifier query = .ok (operation.route (quote identifier)) := by
  have given := ne_nil_of_not_blank named
  have some' := quote_ne_nil given
  have plainWord {word : Text} (all : ∀ c ∈ word, 36 < c.toNat ∧ c.toNat < 127 ∧ c.toNat ≠ 47 ∧
      c.toNat ≠ 63) : ∀ c ∈ word, Plain c := all
  unfold delivered routed
  cases operation with
  | inspect =>
    have routed := @route_identifier "1/jobs/".toList identifier [] given
      (forall_mem_of_all (by exact all_toList rfl)) (.inl rfl) nofun
    rw [append_nil] at routed
    have path : Http.route (jobsPrefix ++ quote identifier) = jobsPrefix ++ quote identifier := routed
    simp only [Operation.path, Operation.verb, Operation.route]
    rw [path, getRoute_jobs some' slash_not_mem_quote]
  | cancel | stop =>
    simp only [Operation.path, Operation.verb, Operation.route]
    rw [route_mutation (plainWord (forall_mem_of_all (by exact all_toList rfl))) (by decide +kernel),
      postRoute_jobs some' slash_not_mem_quote (by decide +kernel)]
    rfl
  | media =>
    have kept : ∀ d ∈ '?' :: urlencode query.fields, removed d = false :=
      List.forall_mem_cons.mpr ⟨rfl, kept_urlencode⟩
    have routed := @route_identifier "1/media/".toList identifier _ given
      (forall_mem_of_all (by exact all_toList rfl)) (.inr ⟨_, rfl⟩) kept
    have path : Http.route (mediaPrefix ++ quote identifier ++ '?' :: urlencode query.fields) =
        mediaPrefix ++ quote identifier := routed
    simp only [Operation.path, Operation.verb, Operation.route]
    rw [path, getRoute_media some']

/-- **Identifiers on the wire** arrive as themselves exactly when all their characters are safe. -/
theorem identifier_survives_iff (operation : Operation) (query : MediaQuery) :
    (∀ identifier, blank identifier = false →
      (delivered operation identifier query = .ok (operation.route identifier) ↔ ∀ c ∈ identifier, Safe c)) ∧
    ∀ a b, blank a = false → blank b = false → delivered operation a query = delivered operation b query → a = b := by
  constructor
  · intro identifier named
    rw [delivered_eq named, ← quote_eq_self_iff]
    constructor <;> intro same
    · exact route_injective (Except.ok.inj same)
    · rw [same]
  · intro a b first second same
    rw [delivered_eq first, delivered_eq second] at same
    exact quote_injective (route_injective (Except.ok.inj same))

/-- A safe identifier arrives as itself. -/
theorem identifier_survives_safe : delivered .stop "job:1".toList {} = .ok (Operation.stop.route "job:1".toList) :=
  ((identifier_survives_iff .stop {}).1 _ (by decide +kernel)).mpr
    (forall_mem_of_all (by exact all_toList rfl))

/-- The stop of job `a b` is addressed to job `a%20b`. -/
theorem identifier_changed : blank "a b".toList = false ∧
    delivered .stop "a b".toList {} = .ok (.stopJob "a%20b".toList) ∧
    delivered .stop "a b".toList {} ≠ .ok (Operation.stop.route "a b".toList) := by
  have arrives : delivered .stop "a b".toList {} = .ok (.stopJob "a%20b".toList) := by
    rw [delivered_eq (by decide +kernel)]
    have quoted : quote "a b".toList = "a%20b".toList := by decide +kernel
    rw [quoted]
    rfl
  exact ⟨by decide +kernel, arrives, by rw [arrives]; decide +kernel⟩

end EmbodiRun.Http
