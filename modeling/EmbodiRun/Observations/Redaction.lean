/-
# Observations.Redaction -- `_json_safe`, which writes no credentials

A value is redacted by the key it is stored under; a list hands no key down to its items.

* `jsonSafe_alike`: **alike values give one JSON, under any key**.
-/
import EmbodiRun.Data.Dict
import EmbodiRun.Data.Json

namespace EmbodiRun.Observations.Redaction

open Data

abbrev Text := List Char

/-! ## Values and their JSON -/

inductive Kind where
  | list | tuple | set | frozenset

mutual

/-- A value that may be recorded, with keys of type `κ`. -/
inductive Value (κ : Type) where
  | none
  | str (text : Text)
  /-- An `int`, a `float` or a `bool`. -/
  | number (n : Number)
  | bytes (data : List UInt8)
  | mapping (items : Items κ)
  /-- The items in the order in which a loop goes through them, of a set as well. -/
  | sequence (kind : Kind) (items : Values κ)
  /-- Any other object, with the name of its type. -/
  | other (type : Text) (object : Nat)

inductive Values (κ : Type) where
  | nil
  | cons (head : Value κ) (tail : Values κ)

inductive Items (κ : Type) where
  | nil
  | cons (key : κ) (value : Value κ) (rest : Items κ)

end

inductive Json where
  | null
  | str (text : Text)
  | number (n : Number)
  | list (items : List Json)
  | dict (items : Dict Text Json)

/-! ## The source -/

def sensitiveKeyParts : List Text :=
  ["password".toList, "passwd".toList, "secret".toList, "token".toList, "credential".toList,
    "api_key".toList, "access_token".toList, "authorization".toList, "private_key".toList]

variable {κ : Type} (str : κ → Text) (lower : Text → Text)

/-- `any(part in key.lower() for part in _SENSITIVE_KEY_PARTS)`. -/
def sensitive (key : Text) : Bool := sensitiveKeyParts.any fun part => part <:+: lower key

def field (name : String) (value : Json) : Text × Json := (name.toList, value)

mutual

/-- `_json_safe(value, key=key)`. -/
def jsonSafe (value : Value κ) (key : Option Text) : Json :=
  if key.any (sensitive lower) then .str "<redacted>".toList
  else
    match value with
    | .mapping items => .dict (Dict.ofItems (itemsSafe items))
    | .sequence _ items => .list (valuesSafe items)
    | .none => .null
    | .str text => .str text
    | .number n => .number n
    | .bytes data =>
      .dict (Dict.ofItems [field "type" (.str "bytes".toList), field "length" (.number (.int data.length))])
    | .other type _ =>
      .dict (Dict.ofItems [field "type" (.str type), field "value" (.str "<unsupported>".toList)])

/-- `[_json_safe(item) for item in value]`. -/
def valuesSafe : Values κ → List Json
  | .nil => []
  | .cons head tail => jsonSafe head none :: valuesSafe tail

/-- `{str(item_key): _json_safe(item_value, key=str(item_key)) for ...}`. -/
def itemsSafe : Items κ → List (Text × Json)
  | .nil => []
  | .cons key value rest => (str key, jsonSafe value (some (str key))) :: itemsSafe rest

end

/-! ## Two values that differ in credentials -/

mutual

inductive Alike : Value κ → Value κ → Prop
  | refl (value) : Alike value value
  | mapping {a b : Items κ} (items : ItemsAlike a b) : Alike (.mapping a) (.mapping b)
  | sequence (kind) {a b : Values κ} (items : ValuesAlike a b) :
      Alike (.sequence kind a) (.sequence kind b)

inductive ValuesAlike : Values κ → Values κ → Prop
  | nil : ValuesAlike .nil .nil
  | cons {a b : Value κ} {as bs : Values κ} (head : Alike a b) (tail : ValuesAlike as bs) :
      ValuesAlike (.cons a as) (.cons b bs)

inductive ItemsAlike : Items κ → Items κ → Prop
  | nil : ItemsAlike .nil .nil
  /-- Whatever is stored under a sensitive key may differ. -/
  | secret {key : κ} (hidden : sensitive lower (str key)) (a b) {as bs : Items κ}
      (rest : ItemsAlike as bs) : ItemsAlike (.cons key a as) (.cons key b bs)
  | shown (key : κ) {a b : Value κ} (value : Alike a b) {as bs : Items κ} (rest : ItemsAlike as bs) :
      ItemsAlike (.cons key a as) (.cons key b bs)

end

variable {str lower}

theorem jsonSafe_secret {key} (hidden : sensitive lower key) (value : Value κ) :
    jsonSafe str lower value (some key) = .str "<redacted>".toList := by
  rw [jsonSafe.eq_def]
  exact if_pos hidden

mutual

theorem jsonSafe_same {a b} (alike : Alike str lower a b) (key : Option Text) :
    jsonSafe str lower a key = jsonSafe str lower b key := by
  cases alike with
  | refl => rfl
  | mapping items => rw [jsonSafe, jsonSafe, itemsSafe_same items]
  | sequence kind items => rw [jsonSafe, jsonSafe, valuesSafe_same items]

theorem valuesSafe_same {a b} (alike : ValuesAlike str lower a b) :
    valuesSafe str lower a = valuesSafe str lower b := by
  cases alike with
  | nil => rfl
  | cons head tail => rw [valuesSafe, valuesSafe, jsonSafe_same head, valuesSafe_same tail]

theorem itemsSafe_same {a b} (alike : ItemsAlike str lower a b) :
    itemsSafe str lower a = itemsSafe str lower b := by
  cases alike with
  | nil => rfl
  | secret hidden a b rest =>
    rw [itemsSafe, itemsSafe, jsonSafe_secret hidden, jsonSafe_secret hidden, itemsSafe_same rest]
  | shown key value rest => rw [itemsSafe, itemsSafe, jsonSafe_same value, itemsSafe_same rest]

end

end EmbodiRun.Observations.Redaction
