/-
# Devices.Identity -- canonical names of physical resources

A resource is named `node:kind:value`.  The lock directory and the lifecycle state are
local to one host, so both look at the part `kind:value` only: a lock file is named by it,
and a persisted name is read back by cutting it at its first two colons.
-/
import Mathlib

namespace EmbodiRun.Devices

/-- A Python `str`. -/
abbrev Text := List Char

/-- `text.split(":", 1)`: the part before the first colon, and what follows it. -/
def cut : Text → Text × Option Text
  | [] => ([], none)
  | c :: text => if c = ':' then ([], some text) else (c :: (cut text).1, (cut text).2)

theorem cut_append {a b} (plain : ':' ∉ a) : cut (a ++ ':' :: b) = (a, some b) := by
  induction a with
  | nil => rfl
  | cons c a ih =>
    obtain ⟨other, plain⟩ := not_or.mp (mt List.mem_cons.mpr plain)
    simp [cut, ih plain, Ne.symm other]

theorem eq_of_cut {text rest} (found : (cut text).2 = some rest) : text = (cut text).1 ++ ':' :: rest := by
  induction text with
  | nil => cases found
  | cons c text ih =>
    unfold cut at found ⊢
    split at found
    · rename_i colon
      obtain rfl := Option.some.inj found
      simp [colon]
    · rename_i other
      rw [if_neg other]
      exact congrArg (c :: ·) (ih found)

theorem cut_isSome {a b} : ∃ rest, (cut (a ++ ':' :: b)).2 = some rest := by
  induction a with
  | nil => exact ⟨b, rfl⟩
  | cons c a ih =>
    by_cases colon : c = ':'
    · exact ⟨a ++ ':' :: b, by simp [cut, colon]⟩
    · obtain ⟨rest, found⟩ := ih
      exact ⟨rest, by simp [cut, colon, found]⟩

/-- The parts after the first colon of `text.split(":", 2)`, where there are three. -/
def pieces (text : Text) : Option (Text × Text) :=
  match (cut text).2 with
  | none => none
  | some rest => match (cut rest).2 with
    | none => none
    | some value => some ((cut rest).1, value)

def physicalKey (text : Text) : Text :=
  match pieces text with
  | some (kind, value) => kind ++ ':' :: value
  | none => text

/-- How `_refresh_unresolved` renames a persisted key. -/
def normalizeKey (node text : Text) : Text :=
  match pieces text with
  | some (kind, value) => node ++ ':' :: kind ++ ':' :: value
  | none => text

structure ResourceIdentity where
  node : Text
  kind : Text
  value : Text
  deriving DecidableEq

namespace ResourceIdentity

def physical (identity : ResourceIdentity) : Text := identity.kind ++ ':' :: identity.value

def key (identity : ResourceIdentity) : Text := identity.node ++ ':' :: identity.physical

def PlainNode (identity : ResourceIdentity) : Prop := ':' ∉ identity.node

instance (identity : ResourceIdentity) : Decidable identity.PlainNode :=
  inferInstanceAs (Decidable (':' ∉ identity.node))
variable {identity : ResourceIdentity}

theorem pieces_key (plain : identity.PlainNode) : ∃ kind value, pieces identity.key = some (kind, value) ∧
      kind ++ ':' :: value = identity.physical := by
  obtain ⟨value, found⟩ := cut_isSome (a := identity.kind) (b := identity.value)
  refine ⟨(cut identity.physical).1, value, ?_, (eq_of_cut found).symm⟩
  have parts : (cut identity.key).2 = some identity.physical := by rw [key, cut_append plain]
  unfold pieces
  rw [parts]
  dsimp only
  rw [show (cut identity.physical).2 = some value from found]

/-- **A persisted name** is read back by its physical part. -/
theorem physicalKey_key (plain : identity.PlainNode) : physicalKey identity.key = identity.physical := by
  obtain ⟨kind, value, found, joined⟩ := pieces_key plain
  rw [physicalKey, found]
  exact joined

end ResourceIdentity

theorem normalizeKey_eq {node text} (parts : (pieces text).isSome = true) :
    normalizeKey node text = node ++ ':' :: physicalKey text := by
  obtain ⟨⟨kind, value⟩, found⟩ := Option.isSome_iff_exists.mp parts
  rw [normalizeKey, physicalKey, found]
  simp

structure DeviceResource where
  identity : ResourceIdentity
  componentIdentities : List ResourceIdentity := []
  externalOwner : Bool := false
  /-- `__post_init__` refuses identities that are not distinct. -/
  distinct : ((identity :: componentIdentities).map ResourceIdentity.key).Nodup := by decide
  deriving DecidableEq

namespace DeviceResource

def identities (resource : DeviceResource) : List ResourceIdentity :=
  resource.identity :: resource.componentIdentities

def lockOrder (resource : DeviceResource) : List ResourceIdentity :=
  resource.identities.insertionSort fun a b => a.key ≤ b.key

theorem mem_lockOrder {resource : DeviceResource} {identity : ResourceIdentity} :
    identity ∈ resource.lockOrder ↔ identity ∈ resource.identities :=
  (List.perm_insertionSort _ _).mem_iff

end DeviceResource

end EmbodiRun.Devices
