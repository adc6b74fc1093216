/-
# Data.Dumps -- the text that `json.dumps(value, sort_keys=True)` writes, read from its front

The text is of ASCII characters, with a blank after every comma and colon.  A number is a word, and so
is `null`; every other value has brackets or quotes around it.

* `quoted_append`, `text_append`: **no text goes on as another one**.
-/
import EmbodiRun.Data.Json
import EmbodiRun.Data.Reread

namespace EmbodiRun.Data.Dumps

open Reread (Str CodePoint CodeUnit Settled join units units_join)

/-! ## Strings -/

/-- What `json.loads` reads as a `str`: it holds no two surrogates that join. -/
abbrev Name := {s : Str // Settled s}

def hexDigit (n : Nat) : Char := if n < 10 then Char.ofNat (48 + n) else Char.ofNat (87 + n)

def hexValue (c : Char) : Nat := if c.toNat < 58 then c.toNat - 48 else c.toNat - 87

/-- `ESCAPE_DCT`, and `\uXXXX` for what is not printable ASCII. -/
def escape (u : CodeUnit) : List Char :=
  if u.val = 0x22 then ['\\', '"']
  else if u.val = 0x5c then ['\\', '\\']
  else if u.val = 0x0a then ['\\', 'n']
  else if u.val = 0x0d then ['\\', 'r']
  else if u.val = 0x09 then ['\\', 't']
  else if u.val = 0x0c then ['\\', 'f']
  else if u.val = 0x08 then ['\\', 'b']
  else if 0x20 ≤ u.val ∧ u.val < 0x7f then [Char.ofNat u.val]
  else ['\\', 'u', hexDigit (u.val / 4096), hexDigit (u.val / 256 % 16), hexDigit (u.val / 16 % 16),
    hexDigit (u.val % 16)]

def readUnit : List Char → Option (Nat × List Char)
  | '\\' :: 'n' :: rest => some (0x0a, rest)
  | '\\' :: 'r' :: rest => some (0x0d, rest)
  | '\\' :: 't' :: rest => some (0x09, rest)
  | '\\' :: 'f' :: rest => some (0x0c, rest)
  | '\\' :: 'b' :: rest => some (0x08, rest)
  | '\\' :: 'u' :: a :: b :: c :: d :: rest =>
    some (hexValue a * 4096 + hexValue b * 256 + hexValue c * 16 + hexValue d, rest)
  | '\\' :: c :: rest => some (c.toNat, rest)
  | '"' :: _ => none
  | c :: rest => some (c.toNat, rest)
  | [] => none
variable {n : Nat} {r s : List Char} {c : Char}

theorem hexValue_hexDigit (small : n < 16) : hexValue (hexDigit n) = n := by
  revert n
  decide

theorem printed (least : 0x20 ≤ n) (most : n < 0x7f) (quote : n ≠ 0x22) (slash : n ≠ 0x5c) :
    (Char.ofNat n).toNat = n ∧ Char.ofNat n ≠ '\\' ∧ Char.ofNat n ≠ '"' := by
  have each : ∀ k < 0x5f, 0x20 + k ≠ 0x22 → 0x20 + k ≠ 0x5c → (Char.ofNat (0x20 + k)).toNat = 0x20 + k ∧
      Char.ofNat (0x20 + k) ≠ '\\' ∧ Char.ofNat (0x20 + k) ≠ '"' := by decide
  obtain ⟨k, rfl⟩ := Nat.exists_eq_add_of_le least
  exact each k (by omega) quote slash

theorem readUnit_escape (u : CodeUnit) (rest : List Char) : readUnit (escape u ++ rest) = some (u.val, rest) := by
  have bound := u.isLt
  unfold escape
  split_ifs with quote slash line carriage tab feed back plain
  · rw [quote]; rfl
  · rw [slash]; rfl
  · rw [line]; rfl
  · rw [carriage]; rfl
  · rw [tab]; rfl
  · rw [feed]; rfl
  · rw [back]; rfl
  · obtain ⟨value, noSlash, noQuote⟩ := printed plain.1 plain.2 quote slash
    generalize Char.ofNat u.val = c at value noSlash noQuote
    rw [List.singleton_append]
    unfold readUnit
    split <;> simp_all
  · simp only [List.cons_append, List.nil_append, readUnit]
    rw [hexValue_hexDigit (by omega), hexValue_hexDigit (by omega), hexValue_hexDigit (by omega),
      hexValue_hexDigit (by omega)]
    congr 2
    omega

/-- The text of a `str`. -/
def quoted (s : Name) : List Char := '"' :: ((s.1.flatMap units).flatMap escape ++ ['"'])

theorem escaped_append {us vs : List CodeUnit}
    (same : us.flatMap escape ++ '"' :: r = vs.flatMap escape ++ '"' :: s) : us = vs ∧ r = s := by
  induction us generalizing vs with
  | nil =>
    cases vs with
    | nil => exact ⟨rfl, (List.cons.inj same).2⟩
    | cons =>
      have read := congrArg readUnit same
      rw [List.flatMap_cons, List.append_assoc, readUnit_escape] at read
      cases read
  | cons u us ih =>
    cases vs with have read := congrArg readUnit same
    | nil =>
      rw [List.flatMap_cons, List.append_assoc, readUnit_escape] at read
      cases read
    | cons =>
      rw [List.flatMap_cons, List.flatMap_cons, List.append_assoc, List.append_assoc, readUnit_escape,
        readUnit_escape] at read
      obtain ⟨first, later⟩ := Prod.mk.inj (Option.some.inj read)
      obtain ⟨rfl, rest⟩ := ih later
      exact ⟨by rw [Fin.ext first], rest⟩

theorem quoted_append {a b : Name} (same : quoted a ++ r = quoted b ++ s) : a = b ∧ r = s := by
  simp only [quoted, List.cons_append, List.append_assoc, List.nil_append] at same
  have inner := (List.cons.inj same).2
  obtain ⟨spelled, rest⟩ := escaped_append inner
  refine ⟨Subtype.ext ?_, rest⟩
  rw [← units_join.mpr a.2, ← units_join.mpr b.2, spelled]

/-! ## Values -/

def mark (c : Char) : Bool := c ∈ [',', ':', '"', '[', ']', '{', '}']

def IsWord (w : List Char) : Prop := w ≠ [] ∧ ∀ c ∈ w, mark c = false

instance (w : List Char) : Decidable (IsWord w) := inferInstanceAs (Decidable (_ ∧ _))

def null : List Char := ['n', 'u', 'l', 'l']

/-- How `json.dumps` writes numbers: each as a word of its own. -/
structure Numerals where
  shown : Number → List Char
  injective : Function.Injective shown
  word : ∀ n, IsWord (shown n)
  ne_null : ∀ n, shown n ≠ null

def separator (first : Bool) : List Char := if first then [] else [',', ' ']

def Plain : {i : Shape} → Tree Name i → Prop
  | _, .null | _, .number _ | _, .str _ | _, .nil | _, .empty => True
  | _, .list items => Plain items
  | _, .dict fields => Plain fields
  | _, .other _ => False
  | _, .cons head tail => Plain head ∧ Plain tail
  | _, .field _ value rest => Plain value ∧ Plain rest

variable (py : Numerals)

/-- `json.dumps(value, sort_keys=True)`, where `value` is `Plain`; items and fields with the bracket that closes
them. -/
def text : {i : Shape} → Bool → Tree Name i → List Char
  | _, _, .null => null
  | _, _, .number n => py.shown n
  | _, _, .str s => quoted s
  | _, _, .list items => '[' :: text true items
  | _, _, .dict fields => '{' :: text true fields
  | _, first, .other shown => text first shown
  | _, _, .nil => [']']
  | _, first, .cons head tail => separator first ++ (text true head ++ text false tail)
  | _, _, .empty => ['}']
  | _, first, .field key value rest =>
    separator first ++ (quoted key ++ ':' :: ' ' :: (text true value ++ text false rest))

def dumps (value : Tree Name .value) : List Char := text py true value

def Ends (rest : List Char) : Prop := ∀ c ∈ rest.head?, mark c = true

theorem ends_nil : Ends [] := nofun

theorem ends_cons {rest} (marked : mark c = true) : Ends (c :: rest) := by
  rintro _ ⟨⟩
  exact marked

theorem word_append {v w r s} (first : ∀ c ∈ v, mark c = false) (second : ∀ c ∈ w, mark c = false)
    (endsR : Ends r) (endsS : Ends s) (same : v ++ r = w ++ s) : v = w ∧ r = s := by
  have stops {c : Char} {x y : List Char} (plain : mark c = false) (ends : Ends y) : c :: x ≠ y := by
    rintro rfl
    rw [ends c rfl] at plain
    cases plain
  induction v generalizing w with
  | nil =>
    cases w with
    | nil => exact ⟨rfl, same⟩
    | cons c => exact absurd same.symm (stops (second c (List.mem_cons_self ..)) endsR)
  | cons a v ih =>
    cases w with
    | nil => exact absurd same (stops (first a (List.mem_cons_self ..)) endsS)
    | cons c =>
      obtain ⟨rfl, later⟩ := List.cons.inj same
      obtain ⟨rfl, rest⟩ := ih (fun c held => first c (List.mem_cons_of_mem _ held))
        (fun c held => second c (List.mem_cons_of_mem _ held)) later
      exact ⟨rfl, rest⟩

theorem word_ne {w r s} (word : IsWord w) (marked : mark c = true) : w ++ r ≠ c :: s := by
  obtain ⟨a, v, rfl⟩ := List.exists_cons_of_ne_nil word.1
  intro same
  have plain := word.2 a (List.mem_cons_self ..)
  rw [(List.cons.inj same).1, marked] at plain
  cases plain

theorem isWord_null : IsWord null := ⟨nofun, by simp [null, mark]⟩

variable {py}

theorem ends_items : (t : Tree Name .items) → (r : List Char) → Ends (text py false t ++ r)
  | .nil, _ => ends_cons rfl
  | .cons _ _, _ => ends_cons rfl

theorem ends_fields : (t : Tree Name .fields) → (r : List Char) → Ends (text py false t ++ r)
  | .empty, _ => ends_cons rfl
  | .field _ _ _, _ => ends_cons rfl

theorem text_ne {c} (closes : c = ']' ∨ c = '}') {r s : List Char} :
    {v : Tree Name .value} → Plain v → text py true v ++ r ≠ c :: s
  | .null, _ => word_ne isWord_null (by rcases closes with rfl | rfl <;> rfl)
  | .number n, _ => word_ne (py.word n) (by rcases closes with rfl | rfl <;> rfl)
  | .str _, _ | .list _, _ | .dict _, _ => by
    rcases closes with rfl | rfl <;> exact fun same => absurd (List.cons.inj same).1 (by decide)
  | .other _, plain => plain.elim

/-- What `text` says of two trees that stand before `r` and `s`. -/
def Told (py : Numerals) {i : Shape} (t : Tree Name i) : Prop :=
  Plain t → ∀ {u : Tree Name i} {first : Bool} {r s : List Char}, Plain u → Ends r → Ends s →
    text py first t ++ r = text py first u ++ s → t = u ∧ r = s

theorem told_word {w} {t} (written : ∀ first, text py first t = w) (word : IsWord w)
    (same : ∀ (u : Tree Name .value) (first : Bool), Plain u → text py first u = w → t = u) : Told py t := by
  intro _ u first r s plain endsR endsS equal
  rw [written] at equal
  cases u with
  | null =>
    obtain ⟨words, rest⟩ := word_append word.2 isWord_null.2 endsR endsS equal
    exact ⟨same _ first plain words.symm, rest⟩
  | number n =>
    obtain ⟨words, rest⟩ := word_append word.2 (py.word n).2 endsR endsS equal
    exact ⟨same _ first plain words.symm, rest⟩
  | str | list | dict => exact absurd equal (word_ne word rfl)
  | other => exact plain.elim

theorem mark_ne_word {x y} {u} {first} (marked : mark c = true)
    (word : u = .null ∨ ∃ n, u = .number n) : c :: x ≠ text py first u ++ y := by
  rcases word with rfl | ⟨n, rfl⟩
  · exact (word_ne isWord_null marked).symm
  · exact (word_ne (py.word n) marked).symm

/-- **No text goes on as another one**: the texts of two values that stand before words' ends are one text, of one
value. -/
theorem text_append {i} (t : Tree Name i) : Told py t := by
  induction t with
  | null =>
    refine told_word (fun _ => rfl) isWord_null fun u _ plain written => ?_
    cases u with
    | null => rfl
    | number n => exact absurd written (py.ne_null n)
    | str | list | dict => exact absurd (List.cons.inj written).1 (by decide)
    | other => exact plain.elim
  | number n =>
    refine told_word (fun _ => rfl) (py.word n) fun u _ plain written => ?_
    cases u with
    | null => exact absurd written.symm (py.ne_null n)
    | number => exact congrArg Tree.number (py.injective written.symm)
    | str | list | dict =>
      exact absurd ((List.append_nil _).trans written.symm) (word_ne (py.word n) rfl)
    | other => exact plain.elim
  | str =>
    intro _ u first r s plain _ _ same
    cases u with
    | str =>
      obtain ⟨rfl, rest⟩ := quoted_append same
      exact ⟨rfl, rest⟩
    | null => exact absurd same (mark_ne_word rfl (.inl rfl))
    | number n => exact absurd same (mark_ne_word rfl (.inr ⟨n, rfl⟩))
    | list | dict => exact absurd (List.cons.inj same).1 (by decide)
    | other => exact plain.elim
  | list a ih =>
    intro plain u first r s other endsR endsS same
    cases u with
    | list =>
      obtain ⟨rfl, rest⟩ := ih plain other endsR endsS (List.cons.inj same).2
      exact ⟨rfl, rest⟩
    | null => exact absurd same (mark_ne_word rfl (.inl rfl))
    | number n => exact absurd same (mark_ne_word rfl (.inr ⟨n, rfl⟩))
    | str | dict => exact absurd (List.cons.inj same).1 (by decide)
    | other => exact other.elim
  | dict a ih =>
    intro plain u first r s other endsR endsS same
    cases u with
    | dict =>
      obtain ⟨rfl, rest⟩ := ih plain other endsR endsS (List.cons.inj same).2
      exact ⟨rfl, rest⟩
    | null => exact absurd same (mark_ne_word rfl (.inl rfl))
    | number n => exact absurd same (mark_ne_word rfl (.inr ⟨n, rfl⟩))
    | str | list => exact absurd (List.cons.inj same).1 (by decide)
    | other => exact other.elim
  | other => exact fun plain => plain.elim
  | nil =>
    intro _ u first r s plain _ _ same
    cases u with
    | nil => exact ⟨rfl, (List.cons.inj same).2⟩
    | cons =>
      cases first with
      | true =>
        simp only [text, separator, if_true, List.nil_append, List.append_assoc] at same
        exact absurd same.symm (text_ne (.inl rfl) plain.1)
      | false => exact absurd (List.cons.inj same).1 (by decide)
  | cons v a head tail =>
    intro plain u first r s other endsR endsS same
    cases u with
    | nil =>
      cases first with
      | true =>
        simp only [text, separator, if_true, List.nil_append, List.append_assoc] at same
        exact absurd same (text_ne (.inl rfl) plain.1)
      | false => exact absurd (List.cons.inj same).1 (by decide)
    | cons =>
      simp only [text, List.append_assoc] at same
      have after := List.append_cancel_left same
      obtain ⟨rfl, later⟩ := head plain.1 other.1 (ends_items _ _) (ends_items _ _) after
      obtain ⟨rfl, rest⟩ := tail plain.2 other.2 endsR endsS later
      exact ⟨rfl, rest⟩
  | empty =>
    intro _ u first r s plain _ _ same
    cases u with
    | empty => exact ⟨rfl, (List.cons.inj same).2⟩
    | field => cases first <;> exact absurd (List.cons.inj same).1 (by decide)
  | field k v a value later =>
    intro plain u first r s other endsR endsS same
    cases u with
    | empty => cases first <;> exact absurd (List.cons.inj same).1 (by decide)
    | field =>
      simp only [text, List.append_assoc, List.cons_append] at same
      obtain ⟨rfl, after⟩ := quoted_append (List.append_cancel_left same)
      have inner := (List.cons.inj (List.cons.inj after).2).2
      obtain ⟨rfl, others⟩ := value plain.1 other.1 (ends_fields _ _) (ends_fields _ _) inner
      obtain ⟨rfl, rest⟩ := later plain.2 other.2 endsR endsS others
      exact ⟨rfl, rest⟩

/-! ## Texts after each other -/

theorem ends_records (ts : List (Tree Name .fields)) : Ends (ts.flatMap fun t => dumps py (.dict t)) := by
  cases ts with
  | nil => exact ends_nil
  | cons => exact ends_cons rfl

theorem records_injective {ts us : List (Tree Name .fields)} (first : ∀ t ∈ ts, Plain t)
    (second : ∀ u ∈ us, Plain u)
    (same : (ts.flatMap fun t => dumps py (.dict t)) = us.flatMap fun u => dumps py (.dict u)) : ts = us := by
  induction ts generalizing us with
  | nil =>
    cases us with
    | nil => rfl
    | cons => cases same
  | cons t ts ih =>
    cases us with
    | nil => cases same
    | cons u us =>
      rw [List.forall_mem_cons] at first second
      obtain ⟨here, later⟩ := text_append (.dict t) first.1 (u := .dict u) second.1 (ends_records ts)
        (ends_records us) same
      cases here
      rw [ih first.2 second.2 later]

end EmbodiRun.Data.Dumps
