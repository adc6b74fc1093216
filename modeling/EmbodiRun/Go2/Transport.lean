/-
# Go2.Transport -- uploads by `ParamikoTransport`

A file is uploaded under a temporary name and renamed.  `posix_rename` replaces what has the name;
where it fails, `_replace` removes the destination first, and `rename` may fail as well.

* `upload_atomic_iff`: **an upload leaves the new content or the old one exactly if it is not lost**.
-/
import EmbodiRun.Data.Effect
import EmbodiRun.Data.Words

namespace EmbodiRun.Go2.Transport

open Function
open Data List Effect

/-! ## The server -/

/-- A path with `//`, `.` and `..` resolved: its components. -/
structure Path where
  absolute : Bool
  components : List String
  deriving DecidableEq

inductive Node where
  | file (content : Bytes) (mode : Nat)
  | directory
  deriving DecidableEq

abbrev Files := Path → Option Node

inductive Fault where
  | osError
  /-- `posix_rename` is not there to be called. -/
  | attributeError
  | valueError (text : String)
  | runtimeError (text : String)
  /-- Another exception of the transport. -/
  | other
  deriving DecidableEq

inductive Operation where
  | stat (path : Path)
  | mkdir (path : Path)
  | put
  | openFile
  | write
  | flush
  | closeFile
  | chmod
  | posixRename
  | rename
  | remove (path : Path)

structure Server where
  /-- `none` where it is done. -/
  fails : Operation → Option Fault
  /-- What is left under the name that was being written, where writing failed. -/
  left : Operation → Option Node

abbrev Remote := Effect Files Fault

variable (server : Server)

/-- An operation that the server does where it does not fail, and where the files allow it. -/
def call (operation : Operation) (change : Files → Option Files) : Remote Unit := fun files =>
  match server.fails operation, change files with
  | some fault, _ => (.error fault, files)
  | none, some after => (.ok (), after)
  | none, none => (.error .osError, files)

def stat (path : Path) : Remote Node := fun files =>
  match server.fails (.stat path), files path with
  | some fault, _ => (.error fault, files)
  | none, some node => (.ok node, files)
  | none, none => (.error .osError, files)

def mkdir (path : Path) : Remote Unit :=
  call server (.mkdir path) fun files =>
    if files path = none then some (update files path (some .directory)) else none

def writing (operation : Operation) (path : Path) (node : Node) : Remote Unit := fun files =>
  match server.fails operation with
  | some fault => (.error fault, update files path (server.left operation))
  | none => (.ok (), update files path (some node))

def chmod (path : Path) (mode : Nat) : Remote Unit :=
  call server .chmod fun files =>
    match files path with
    | some (.file content _) => some (update files path (some (.file content mode)))
    | some .directory => some files
    | none => none

def renameBy (operation : Operation) (source destination : Path) : Remote Unit :=
  call server operation fun files =>
    if files source = none ∨ files destination = some .directory then none
    else some (update (update files destination (files source)) source none)

def remove (path : Path) : Remote Unit :=
  call server (.remove path) fun files =>
    match files path with
    | some (.file _ _) => some (update files path none)
    | _ => none

/-! ## The source -/

def parents (path : Path) : List Path :=
  path.components.dropLast.inits.tail.map fun components => { path with components }

/-- A directory of `make_dirs`. -/
def makeDir (path : Path) : Remote Unit :=
  tryCatch (do let node ← stat server path if node ≠ .directory then
        throw (.runtimeError "remote path exists but is not a directory"))
    fun
      | .osError => mkdir server path
      | fault => throw fault

/-- `make_dirs(posixpath.dirname(remote_path))`. -/
def makeDirs (remotePath : Path) : Remote Unit := do
  if !remotePath.absolute then
    throw (.valueError "make_dirs requires an absolute remote path")
  (parents remotePath).forM (makeDir server)

/-- `_temporary_remote_path`, with its fresh part. -/
def temporaryRemotePath (path : Path) (hex : String) : Path :=
  { path with components :=
      path.components.dropLast ++ [path.components.getLastD "" ++ ".tmp-" ++ hex] }

def bestEffortRemove (path : Path) : Remote Unit :=
  tryCatch (remove server path) fun
    | .osError => pure ()
    | fault => throw fault

def replace (source destination : Path) : Remote Unit :=
  tryCatch (renameBy server .posixRename source destination) fun
    | .attributeError | .osError => do
      bestEffortRemove server destination
      renameBy server .rename source destination
    | fault => throw fault

def upload (write : Path → Remote Unit) (remotePath : Path) (mode : Nat) (hex : String) : Remote Unit := do
  makeDirs server remotePath
  let temporary := temporaryRemotePath remotePath hex
  tryCatch
    (do
      write temporary
      chmod server temporary mode
      replace server temporary remotePath)
    fun fault => do
      bestEffortRemove server temporary
      throw fault

/-- `sftp.put`: the local file is read and written. -/
def putWrite (payload : Bytes) (temporary : Path) : Remote Unit :=
  writing server .put temporary (.file payload 0o666)

/-- `with sftp.file(temporary, "wb")`. -/
def bytesWrite (payload : Bytes) (temporary : Path) : Remote Unit := do
  writing server .openFile temporary (.file [] 0o666)
  tryCatch
    (do
      writing server .write temporary (.file payload 0o666)
      writing server .flush temporary (.file payload 0o666))
    fun fault => do
      writing server .closeFile temporary (.file payload 0o666)
      throw fault
  writing server .closeFile temporary (.file payload 0o666)

/-- `put_file`; `payload` is what the local file holds. -/
def putFile (payload : Bytes) (remotePath : Path) (mode : Nat) (hex : String) : Remote Unit :=
  upload server (putWrite server payload) remotePath mode hex

def putBytes (payload : Bytes) (remotePath : Path) (mode : Nat) (hex : String) : Remote Unit :=
  upload server (bytesWrite server payload) remotePath mode hex

/-! ## What keeps the destination -/

section

variable {server : Server} {path : Path}

def Same (path : Path) (before after : Files) : Prop := after path = before path

theorem same_refl (files : Files) : Same path files files := rfl

theorem same_trans {s t u} (first : Same path s t) (second : Same path t u) : Same path s u :=
  second.trans first

theorem keeps_call {operation} {change} (other : ∀ files after, change files = some after → Same path files after) :
    (call server operation change).Keeps (Same path) := by
  intro files
  unfold call
  split
  · exact same_refl files
  · rename_i changed
    exact other files _ changed
  · exact same_refl files
variable {name : Path}

theorem keeps_stat : (stat server name).Keeps (Same path) := by
  intro files
  unfold stat
  split <;> exact same_refl files

theorem keeps_mkdir (other : path ≠ name) : (mkdir server name).Keeps (Same path) := by
  refine keeps_call fun files after changed => ?_
  split at changed <;> cases changed
  exact update_of_ne other ..

theorem keeps_writing {operation} {node} (other : path ≠ name) :
    (writing server operation name node).Keeps (Same path) := by
  intro files
  unfold writing
  split <;> exact update_of_ne other ..

theorem keeps_chmod (mode : Nat) (other : path ≠ name) : (chmod server name mode).Keeps (Same path) := by
  refine keeps_call fun files after changed => ?_
  split at changed <;> cases changed
  · exact update_of_ne other ..
  · exact same_refl files

theorem keeps_remove (other : path ≠ name) : (remove server name).Keeps (Same path) := by
  refine keeps_call fun files after changed => ?_
  split at changed <;> cases changed
  exact update_of_ne other ..

theorem keeps_bestEffortRemove (other : path ≠ name) : (bestEffortRemove server name).Keeps (Same path) := by
  refine (keeps_remove other).tryCatch same_trans fun fault => ?_
  split
  · exact Effect.Keeps.pure same_refl ()
  · exact Effect.Keeps.throw same_refl _

theorem keeps_makeDir (other : path ≠ name) : (makeDir server name).Keeps (Same path) := by
  refine Effect.Keeps.tryCatch same_trans (keeps_stat.bind same_trans fun node => ?_) fun fault => ?_
  · split
    · exact Effect.Keeps.throw same_refl _
    · exact Effect.Keeps.pure same_refl ()
  · split
    · exact keeps_mkdir other
    · exact Effect.Keeps.throw same_refl _

theorem ne_of_mem_parents {above} (member : above ∈ parents path) : path ≠ above := by
  obtain ⟨components, held, rfl⟩ := List.mem_map.mp member
  have front : components <+: path.components.dropLast :=
    mem_inits _ _ |>.mp (mem_of_mem_tail held)
  intro same
  have equal : path.components = components := congrArg Path.components same
  have short := front.length_le
  rw [← equal, length_dropLast] at short
  have empty : path.components = [] := eq_nil_of_length_eq_zero (by omega)
  rw [empty] at held
  cases held

theorem keeps_makeDirs (server : Server) (path : Path) : (makeDirs server path).Keeps (Same path) := by
  have all (names : List Path) (others : ∀ name ∈ names, path ≠ name) :
      (names.forM (makeDir server)).Keeps (Same path) := by
    induction names with
    | nil => exact Effect.Keeps.pure same_refl ()
    | cons name names ih =>
      exact (keeps_makeDir (others name mem_cons_self)).bind same_trans fun _ =>
        ih fun other member => others other (mem_cons_of_mem _ member)
  have loop := all (parents path) fun _ member => ne_of_mem_parents member
  unfold makeDirs
  split
  · exact Effect.Keeps.bind (R := Same path) same_trans (Effect.Keeps.throw same_refl _) fun _ => loop
  · exact loop

theorem ne_temporaryRemotePath (path : Path) (hex : String) : path ≠ temporaryRemotePath path hex := by
  intro same
  have equal : path.components = path.components.dropLast ++ [path.components.getLastD "" ++ ".tmp-" ++ hex] :=
    congrArg Path.components same
  by_cases empty : path.components = []
  · rw [empty] at equal
    cases equal
  · have last : path.components.getLastD "" = path.components.getLast empty := by
      rw [getLastD_eq_getLast?, getLast?_eq_some_getLast empty]
      rfl
    have whole := dropLast_append_getLast empty
    rw [← last] at whole
    have tails := (append_cancel_left (whole.trans equal))
    have text := congrArg String.length (List.cons.inj tails).1
    rw [String.length_append, String.length_append, show ".tmp-".length = 5 from rfl] at text
    omega

/-! ## Renaming over the destination -/

section

variable {operation : Operation} {files : Files} {source destination : Path} {node : Node}

theorem renameBy_done (done : server.fails operation = none) (held : files source = some node)
    (replaced : files destination ≠ some .directory) :
    renameBy server operation source destination files =
      (.ok (), update (update files destination (some node)) source none) := by
  have allowed : ¬ (some node = none ∨ files destination = some .directory) := by simp [replaced]
  simp only [renameBy, call, done, held, if_neg allowed]

theorem renameBy_failed (files : Files) (source destination : Path) {fault}
    (failed : server.fails operation = some fault) :
    renameBy server operation source destination files = (.error fault, files) := by
  simp only [renameBy, call, failed]

theorem renameBy_directory (done : server.fails operation = none) (directory : files destination = some .directory) :
    renameBy server operation source destination files = (.error .osError, files) := by
  simp only [renameBy, call, done, directory, or_true, if_true]

theorem renamed_destination (other : destination ≠ source) :
    update (update files destination (some node)) source none destination = some node := by
  rw [update_of_ne other, update_self]

theorem bestEffortRemove_ends (server : Server) (destination : Path) (files : Files) :
    ((∃ content mode, files destination = some (.file content mode)) ∧ server.fails (.remove destination) = none ∧
        bestEffortRemove server destination files = (.ok (), update files destination none)) ∨
      ¬ ((∃ content mode, files destination = some (.file content mode)) ∧
          server.fails (.remove destination) = none) ∧
        ∃ outcome, bestEffortRemove server destination files = (outcome, files) := by
  have failed {fault : Fault} (ran : remove server destination files = (.error fault, files)) :
      ∃ outcome, bestEffortRemove server destination files = (outcome, files) := by
    rw [bestEffortRemove, tryCatch_error ran]
    split <;> exact ⟨_, rfl⟩
  cases answer : server.fails (.remove destination) with
  | some fault =>
    have ran : remove server destination files = (.error fault, files) := by
      simp only [remove, call, answer]
    exact .inr ⟨fun both => (nomatch both.2), failed ran⟩
  | none =>
    match found : files destination with
    | some (.file content mode) =>
      refine .inl ⟨⟨content, mode, rfl⟩, rfl, ?_⟩
      rw [bestEffortRemove]
      refine tryCatch_ok ?_
      simp only [remove, call, answer, found]
    | some .directory =>
      have ran : remove server destination files = (.error .osError, files) := by
        simp only [remove, call, answer, found]
      exact .inr ⟨fun both => (nomatch both.1), failed ran⟩
    | none =>
      have ran : remove server destination files = (.error .osError, files) := by
        simp only [remove, call, answer, found]
      exact .inr ⟨fun both => (nomatch both.1), failed ran⟩

/-- The destination is removed, and then `rename` fails. -/
def Gone (server : Server) (destination : Path) (files : Files) : Prop :=
  ((∃ content mode, files destination = some (.file content mode)) ∧
    server.fails (.remove destination) = none) ∧ ∃ fault, server.fails .rename = some fault

theorem remove_rename_ends (server : Server) (other : destination ≠ source) (held : files source = some node) :
    let rest := bestEffortRemove server destination >>= fun _ =>
      renameBy server .rename source destination
    (∃ after, rest files = (.ok (), after) ∧ after destination = some node ∧ ¬ Gone server destination files) ∨
      ∃ fault after, rest files = (.error fault, after) ∧ (Gone server destination files → after destination = none) ∧
        (¬ Gone server destination files → after destination = files destination) := by
  intro rest
  rcases bestEffortRemove_ends server destination files with ⟨file, removed, ran⟩ | ⟨kept, outcome, ran⟩
  · have there : update files destination none source = some node := by
      rw [update_of_ne (Ne.symm other), held]
    have whole := bind_ok (f := fun _ => renameBy server .rename source destination) ran
    cases answer : server.fails .rename with
    | none =>
      have done := renameBy_done answer there (show update files destination none destination ≠ _ by simp)
      exact .inl ⟨_, whole.trans done, renamed_destination other,
        fun gone => nomatch answer.symm.trans gone.2.choose_spec⟩
    | some fault =>
      have failed := renameBy_failed (update files destination none) source destination answer
      exact .inr ⟨fault, _, whole.trans failed, fun _ => update_self ..,
        fun kept => (kept ⟨⟨file, removed⟩, fault, answer⟩).elim⟩
  · have safe : ¬ Gone server destination files := fun gone => kept gone.1
    have same {fault : Fault} {after : Files} (ended : rest files = (.error fault, after))
        (there : after destination = files destination) :
        ∃ fault after, rest files = (.error fault, after) ∧
          (Gone server destination files → after destination = none) ∧
          (¬ Gone server destination files → after destination = files destination) :=
      ⟨fault, after, ended, fun gone => (safe gone).elim, fun _ => there⟩
    cases outcome with
    | error => exact .inr (same (bind_error ran) rfl)
    | ok =>
      have whole := bind_ok (f := fun _ => renameBy server .rename source destination) ran
      cases answer : server.fails .rename with
      | some => exact .inr (same (whole.trans (renameBy_failed files source destination answer)) rfl)
      | none =>
        by_cases directory : files destination = some .directory
        · exact .inr (same (whole.trans (renameBy_directory answer directory)) rfl)
        · exact .inl ⟨_, whole.trans (renameBy_done answer held directory), renamed_destination other, safe⟩

/-- `posix_rename` fails in a way that `_replace` goes on from, and what follows loses the
destination. -/
def Refused (server : Server) (destination : Path) (files : Files) : Prop :=
  (server.fails .posixRename = some .osError ∨ server.fails .posixRename = some .attributeError) ∧
    Gone server destination files

theorem replace_ends (server : Server) (other : destination ≠ source) (held : files source = some node) :
    (∃ after, replace server source destination files = (.ok (), after) ∧
        after destination = some node ∧ ¬ Refused server destination files) ∨
      ∃ fault after, replace server source destination files = (.error fault, after) ∧
        (Refused server destination files → after destination = none) ∧
        (¬ Refused server destination files → after destination = files destination) := by
  have goesOn {fault : Fault} (which : fault = .osError ∨ fault = .attributeError)
      (ran : renameBy server .posixRename source destination files = (.error fault, files)) :
      replace server source destination files = (bestEffortRemove server destination >>= fun _ =>
          renameBy server .rename source destination) files := by
    rw [replace, tryCatch_error ran]
    rcases which with rfl | rfl <;> rfl
  have rest := remove_rename_ends server other held
  cases answer : server.fails .posixRename with
  | none =>
    by_cases directory : files destination = some .directory
    · have gone : ¬ Gone server destination files := by
        rintro ⟨⟨⟨content, mode, file⟩, _⟩, _⟩
        cases directory.symm.trans file
      rw [goesOn (.inl rfl) (renameBy_directory answer directory)]
      rcases rest with ⟨after, ran, there, _⟩ | ⟨fault, after, ran, _, kept⟩
      · exact .inl ⟨after, ran, there, fun refused => gone refused.2⟩
      · exact .inr ⟨fault, after, ran, fun refused => (gone refused.2).elim, fun _ => kept gone⟩
    · refine .inl ⟨_, tryCatch_ok (renameBy_done answer held directory), renamed_destination other, fun refused => ?_⟩
      rcases refused.1 with failed | failed <;> cases answer.symm.trans failed
  | some fault =>
    have failed := renameBy_failed files source destination answer
    by_cases which : fault = .osError ∨ fault = .attributeError
    · have same : Refused server destination files ↔ Gone server destination files := by
        refine and_iff_right ?_
        rw [answer]
        exact which.imp (congrArg some) (congrArg some)
      rw [goesOn which failed, same]
      exact rest
    · refine .inr ⟨fault, files, ?_, fun refused => ?_, fun _ => rfl⟩
      · rw [replace, tryCatch_error failed]
        cases fault <;> first | rfl | exact (which (by decide)).elim
      · have first := refused.1
        rw [answer] at first
        exact (which (first.imp Option.some.inj Option.some.inj)).elim

end

/-! ## Uploads -/

section

variable {write : Path → Remote Unit} {payload : Bytes} {remotePath : Path} {mode : Nat} {hex : String}
  {files : Files}

/-- Writing a temporary file changes no other name, and where it returns the file is whole. -/
structure Writes (write : Path → Remote Unit) (payload : Bytes) : Prop where
  elsewhere : ∀ path name, path ≠ name → (write name).Keeps (Same path)
  whole : ∀ name files after, write name files = (.ok (), after) → after name = some (.file payload 0o666)
variable {name : Path} {after : Files}

theorem writing_ok {operation} {node}
    (ran : writing server operation name node files = (.ok (), after)) : after name = some node := by
  unfold writing at ran
  split at ran
  · cases (Prod.mk.inj ran).1
  · rw [← (Prod.mk.inj ran).2, update_self]

theorem writes_put : Writes (putWrite server payload) payload where
  elsewhere _ _ other := keeps_writing other
  whole _ _ _ ran := writing_ok ran

theorem writes_bytes : Writes (bytesWrite server payload) payload where
  elsewhere path name other := by
    have closes (operation : Operation) (content : Bytes) :
        (writing server operation name (.file content 0o666)).Keeps (Same path) := keeps_writing other
    refine Effect.Keeps.bind same_trans (closes _ _) fun _ =>
      Effect.Keeps.bind same_trans (Effect.Keeps.tryCatch same_trans ?_ fun fault => ?_) fun _ => closes _ _
    · exact (closes _ _).bind same_trans fun _ => closes _ _
    · exact (closes _ _).bind same_trans fun _ => Effect.Keeps.throw same_refl _
  whole name files after ran := by
    unfold bytesWrite at ran
    rcases bind_cases _ _ files with ⟨_, _, _, stopped⟩ | ⟨_, first, _, goes⟩
    · cases (Prod.mk.inj (stopped.symm.trans ran)).1
    · rw [goes] at ran
      rcases Effect.bind_cases _ _ first with ⟨_, _, _, stopped⟩ | ⟨_, second, _, goes⟩
      · cases (Prod.mk.inj (stopped.symm.trans ran)).1
      · exact writing_ok (goes.symm.trans ran)

def prepare (server : Server) (write : Path → Remote Unit) (remotePath : Path) (mode : Nat)
    (hex : String) : Remote Unit := do
  makeDirs server remotePath
  write (temporaryRemotePath remotePath hex)
  chmod server (temporaryRemotePath remotePath hex) mode

/-- In `_replace`, `posix_rename` fails, the destination is removed, and `rename` fails. -/
def Lost (server : Server) (write : Path → Remote Unit) (remotePath : Path) (mode : Nat)
    (hex : String) (files : Files) : Prop :=
  (∃ ready, prepare server write remotePath mode hex files = (.ok (), ready)) ∧ Refused server remotePath files

/-- The new content where the upload returned, and what was there before where it raised. -/
def Atomic (payload : Bytes) (remotePath : Path) (mode : Nat) (files : Files)
    (ended : Except Fault Unit × Files) : Prop :=
  match ended with
  | (.ok _, after) => after remotePath = some (.file payload mode)
  | (.error _, after) => after remotePath = files remotePath

theorem chmod_ok {content} {old} (there : files name = some (.file content old))
    (ran : chmod server name mode files = (.ok (), after)) :
    after name = some (.file content mode) := by
  simp only [chmod, call, there] at ran
  split at ran
  · cases (Prod.mk.inj ran).1
  · rename_i changed
    cases changed
    rw [← (Prod.mk.inj ran).2, update_self]
  · cases (Prod.mk.inj ran).1

theorem cleanup_ends (other : remotePath ≠ name) (fault : Fault) (files : Files) :
    ∃ fault' after, (bestEffortRemove server name >>= fun _ => (throw fault : Remote Unit)) files =
      (.error fault', after) ∧ after remotePath = files remotePath := by
  have kept := @keeps_bestEffortRemove server remotePath name other files
  rcases bind_cases (bestEffortRemove server name) (fun _ => (throw fault : Remote Unit)) files with
    ⟨fault', after, ran, whole⟩ | ⟨_, after, ran, whole⟩
  · rw [ran] at kept
    exact ⟨fault', after, whole, kept⟩
  · rw [ran] at kept
    exact ⟨fault, after, whole, kept⟩

theorem refused_same {ready} (same : Same remotePath files ready) :
    Refused server remotePath ready ↔ Refused server remotePath files := by
  rw [Refused, Refused, Gone, Gone, show ready remotePath = files remotePath from same]

theorem upload_ends (writes : Writes write payload) : (¬ Lost server write remotePath mode hex files →
      Atomic payload remotePath mode files (upload server write remotePath mode hex files)) ∧
    (Lost server write remotePath mode hex files →
      ∃ fault after, upload server write remotePath mode hex files = (.error fault, after) ∧
        after remotePath = none) := by
  have other := ne_temporaryRemotePath remotePath hex
  -- What raises inside the `try` raises after the handler, which keeps the destination.
  have handled {body : Remote Unit} {made after : Files} {fault : Fault} (ran : body made = (.error fault, after)) :
      ∃ fault' ended, (tryCatch body fun fault => do
          bestEffortRemove server (temporaryRemotePath remotePath hex)
          throw fault : Remote Unit) made = (.error fault', ended) ∧
        ended remotePath = after remotePath := by
    rw [tryCatch_error ran]
    exact cleanup_ends other fault after
  have kept {fault : Fault} {after : Files}
      (ran : upload server write remotePath mode hex files = (.error fault, after))
      (same : after remotePath = files remotePath)
      (unready : ¬ ∃ ready, prepare server write remotePath mode hex files = (.ok (), ready)) :
      (¬ Lost server write remotePath mode hex files →
        Atomic payload remotePath mode files (upload server write remotePath mode hex files)) ∧
      (Lost server write remotePath mode hex files →
        ∃ fault after, upload server write remotePath mode hex files = (.error fault, after) ∧
          after remotePath = none) := by
    refine ⟨fun _ => ?_, fun lost => (unready lost.1).elim⟩
    rw [ran]
    exact same
  have dirs := keeps_makeDirs server remotePath files
  rcases ran : makeDirs server remotePath files with ⟨fault | _, made⟩
  · rw [ran] at dirs
    refine kept (bind_error ran) dirs ?_
    rintro ⟨ready, prepared⟩
    cases (Prod.mk.inj ((bind_error ran).symm.trans prepared)).1
  rw [ran] at dirs
  have written := writes.elsewhere remotePath _ other made
  have prepares : prepare server write remotePath mode hex files = _ := bind_ok ran
  have uploads : upload server write remotePath mode hex files = _ := bind_ok ran
  rcases wrote : write (temporaryRemotePath remotePath hex) made with ⟨fault | _, partly⟩
  · rw [wrote] at written
    obtain ⟨fault', ended, whole, same⟩ := handled (bind_error wrote)
    refine kept (uploads.trans whole) (same.trans (written.trans dirs)) ?_
    rintro ⟨ready, prepared⟩
    cases (Prod.mk.inj ((prepares.trans (bind_error wrote)).symm.trans prepared)).1
  rw [wrote] at written
  have content := writes.whole _ _ _ wrote
  have goes := Effect.bind_ok (f := fun _ => (do
    chmod server (temporaryRemotePath remotePath hex) mode
    replace server (temporaryRemotePath remotePath hex) remotePath : Remote Unit)) wrote
  have moded := @keeps_chmod server remotePath _ mode other partly
  rcases changed : chmod server (temporaryRemotePath remotePath hex) mode partly with ⟨fault | _, ready⟩
  · rw [changed] at moded
    obtain ⟨fault', ended, whole, same⟩ :=
      handled (goes.trans (bind_error changed))
    refine kept (uploads.trans whole) (same.trans (moded.trans (written.trans dirs))) ?_
    rintro ⟨ready, prepared⟩
    cases (Prod.mk.inj ((prepares.trans ((bind_ok wrote).trans changed)).symm.trans prepared)).1
  rw [changed] at moded
  have same : Same remotePath files ready := moded.trans (written.trans dirs)
  have prepared : prepare server write remotePath mode hex files = (.ok (), ready) :=
    prepares.trans ((bind_ok wrote).trans changed)
  have body := goes.trans (bind_ok changed)
  have lost : Lost server write remotePath mode hex files ↔ Refused server remotePath ready :=
    (and_iff_right ⟨ready, prepared⟩).trans (refused_same same).symm
  rw [lost]
  rcases replace_ends server other (chmod_ok content changed) with
    ⟨after, replaced, there, safe⟩ | ⟨fault, after, replaced, gone, keeps⟩
  · refine ⟨fun _ => ?_, fun refused => (safe refused).elim⟩
    rw [uploads.trans (tryCatch_ok (body.trans replaced))]
    exact there
  · obtain ⟨fault', ended, whole, unchanged⟩ := handled (body.trans replaced)
    refine ⟨fun safe => ?_, fun refused => ⟨fault', ended, uploads.trans whole, ?_⟩⟩
    · rw [uploads.trans whole]
      exact unchanged.trans ((keeps safe).trans same)
    · exact unchanged.trans (gone refused)

theorem atomic_iff (writes : Writes write payload) :
    Atomic payload remotePath mode files (upload server write remotePath mode hex files) ↔
      ¬ Lost server write remotePath mode hex files := by
  refine ⟨fun atomic lost => ?_, (upload_ends writes).1⟩
  obtain ⟨fault, after, ran, gone⟩ := (upload_ends writes).2 lost
  rw [ran] at atomic
  obtain ⟨_, _, ⟨⟨content, old, there⟩, _⟩, _⟩ := lost
  cases (there.symm.trans (atomic.symm.trans gone))

end

/-- **An upload leaves the new content, or raises and leaves what was there, exactly if it is not
lost between removing the destination and renaming the temporary file.** -/
theorem upload_atomic_iff (server : Server) (payload : Bytes) (remotePath : Path) (mode : Nat)
    (hex : String) (files : Files) :
    (Atomic payload remotePath mode files (putFile server payload remotePath mode hex files) ↔
      ¬ Lost server (putWrite server payload) remotePath mode hex files) ∧
    (Atomic payload remotePath mode files (putBytes server payload remotePath mode hex files) ↔
      ¬ Lost server (bytesWrite server payload) remotePath mode hex files) :=
  ⟨atomic_iff writes_put, atomic_iff writes_bytes⟩

end

/-! ## A lost destination -/

/-- `posix_rename` is not supported, and `rename` fails as well. -/
def renameless : Server where
  fails
    | .posixRename | .rename => some .osError
    | _ => none
  left _ := none

def manifest : Path := { absolute := true, components := ["manifest.json"] }

def before : Files := fun path => if path = manifest then some (.file [1] 0o644) else none

/-- The upload raises, and the file that was there is gone. -/
theorem destination_lost : (putBytes renameless [2] manifest 0o644 "0" before).1 = .error .osError ∧
    before manifest = some (.file [1] 0o644) ∧
    (putBytes renameless [2] manifest 0o644 "0" before).2 manifest = none := by
  decide +kernel

end EmbodiRun.Go2.Transport
