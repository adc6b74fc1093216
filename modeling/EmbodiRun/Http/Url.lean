/-
# Http.Url -- `quote`, and the path of a request

`quote` writes the UTF-8 bytes of a text and escapes those that are neither unreserved nor
in `safe`.  `urlsplit` takes the scheme, the host, the fragment and the query off a request
target; nothing here undoes `quote`.

* `quote_eq_self_iff`: **a text is quoted as itself exactly when all its characters are safe**.
-/
import EmbodiRun.Devices.Identity

namespace EmbodiRun.Http

open Devices List String

/-! ## Quoting -/

def hexDigit (n : Nat) : Char :=
  "0123456789ABCDEF".toList.getD n '0'

def safeCode (n : Nat) : Bool :=
  (65 ≤ n ∧ n ≤ 90) ∨ (97 ≤ n ∧ n ≤ 122) ∨ (48 ≤ n ∧ n ≤ 57) ∨ n ∈ [95, 46, 45, 126, 58]

def quoteByte (b : UInt8) : Text :=
  if safeCode b.toNat then [Char.ofNat b.toNat]
  else ['%', hexDigit (b.toNat / 16), hexDigit (b.toNat % 16)]

/-- `quote(text, safe=":")`. -/
def quote (text : Text) : Text := (text.flatMap utf8EncodeChar).flatMap quoteByte

def Safe (c : Char) : Prop := safeCode c.toNat

instance (c : Char) : Decidable (Safe c) := inferInstanceAs (Decidable (_ = true))
variable {n : Nat} {a b : Text} {c : Char} {text : Text}

theorem safeCode_bounds (safe : safeCode n) : 44 < n ∧ n < 127 ∧ n ≠ 47 ∧ n ≠ 63 := by
  simp only [safeCode, decide_eq_true_eq, mem_cons, not_mem_nil, or_false] at safe
  omega

theorem toNat_ofNat (small : n < 128) : (Char.ofNat n).toNat = n := by
  have valid : n.isValidChar := .inl (by omega)
  simp [Char.ofNat, valid, Char.ofNatAux, Char.toNat]

def hexValue (c : Char) : Nat := if c.toNat < 58 then c.toNat - 48 else c.toNat - 55

theorem hexValue_hexDigit (digit : n < 16) : hexValue (hexDigit n) = n := by
  have all : ∀ n < 16, hexValue (hexDigit n) = n := by decide
  exact all n digit

theorem hexDigit_plain (digit : n < 16) :
    47 < (hexDigit n).toNat ∧ (hexDigit n).toNat < 71 ∧ (hexDigit n).toNat ≠ 63 := by
  have all : ∀ n < 16, 47 < (hexDigit n).toNat ∧ (hexDigit n).toNat < 71 ∧ (hexDigit n).toNat ≠ 63 := by decide
  exact all n digit

theorem hexDigit_injective {m n} (first : m < 16) (second : n < 16)
    (same : hexDigit m = hexDigit n) : m = n := by
  rw [← hexValue_hexDigit first, same, hexValue_hexDigit second]

theorem quoteByte_append {a b} {s t} (same : quoteByte a ++ s = quoteByte b ++ t) : a = b ∧ s = t := by
  have small (x : UInt8) : x.toNat < 256 := UInt8.toNat_lt_size x
  have percent {x : UInt8} (safe : safeCode x.toNat) : Char.ofNat x.toNat ≠ '%' := by
    intro other
    have bounds := safeCode_bounds safe
    have code := congrArg Char.toNat other
    rw [toNat_ofNat (by omega)] at code
    have literal : '%'.toNat = 37 := rfl
    omega
  unfold quoteByte at same
  split at same
  · rename_i safeA
    split at same
    · rename_i safeB
      obtain ⟨head, tail⟩ := List.cons.inj same
      have code := congrArg Char.toNat head
      rw [toNat_ofNat (by have := safeCode_bounds safeA; omega),
        toNat_ofNat (by have := safeCode_bounds safeB; omega)] at code
      exact ⟨UInt8.toNat_inj.mp code, tail⟩
    · exact absurd (List.cons.inj same).1 (percent safeA)
  · split at same
    · rename_i safeB
      exact absurd (List.cons.inj same).1.symm (percent safeB)
    · obtain ⟨_, rest⟩ := List.cons.inj same
      obtain ⟨high, rest⟩ := List.cons.inj rest
      obtain ⟨low, tail⟩ := List.cons.inj rest
      have quotient := hexDigit_injective (by have := small a; omega) (by have := small b; omega) high
      have remainder := hexDigit_injective (by omega) (by omega) low
      exact ⟨UInt8.toNat_inj.mp (by omega), tail⟩

theorem quoteByte_ne_nil (b : UInt8) : quoteByte b ≠ [] := by
  unfold quoteByte
  split <;> exact cons_ne_nil _ _

theorem flatMap_quoteByte_injective {a b : List UInt8}
    (same : a.flatMap quoteByte = b.flatMap quoteByte) : a = b := by
  induction a generalizing b with
  | nil =>
    cases b with
    | nil => rfl
    | cons y =>
      rw [flatMap_cons] at same
      exact absurd (List.append_eq_nil_iff.mp same.symm).1 (quoteByte_ne_nil y)
  | cons x a ih =>
    cases b with
    | nil =>
      rw [flatMap_cons] at same
      exact absurd (List.append_eq_nil_iff.mp same).1 (quoteByte_ne_nil x)
    | cons =>
      simp only [flatMap_cons] at same
      obtain ⟨rfl, tail⟩ := quoteByte_append same
      rw [ih tail]

theorem utf8_injective (same : a.flatMap utf8EncodeChar = b.flatMap utf8EncodeChar) : a = b := by
  have bytes : a.utf8Encode = b.utf8Encode := congrArg List.toByteArray same
  have decoded := congrArg ByteArray.utf8Decode? bytes
  rw [utf8Decode?_utf8Encode, utf8Decode?_utf8Encode] at decoded
  exact toArray_inj (Option.some.inj decoded)

theorem quote_injective (same : quote a = quote b) : a = b :=
  utf8_injective (flatMap_quoteByte_injective same)

/-- `quote_plus`. -/
def quotePlusByte (b : UInt8) : Text :=
  if b.toNat = 32 then ['+']
  else if safeCode b.toNat ∧ b.toNat ≠ 58 then [Char.ofNat b.toNat]
  else ['%', hexDigit (b.toNat / 16), hexDigit (b.toNat % 16)]

def quotePlus (text : Text) : Text := (text.flatMap utf8EncodeChar).flatMap quotePlusByte

def urlencode : List (Text × Text) → Text
  | [] => []
  | [(key, value)] => quotePlus key ++ '=' :: quotePlus value
  | (key, value) :: fields => quotePlus key ++ '=' :: quotePlus value ++ '&' :: urlencode fields

/-! ## What is quoted as itself -/

theorem quote_cons (c : Char) (text : Text) :
    quote (c :: text) = (utf8EncodeChar c).flatMap quoteByte ++ quote text := by
  simp [quote, flatMap_append]

theorem quote_safe (safe : Safe c) : (utf8EncodeChar c).flatMap quoteByte = [c] := by
  have bounds := safeCode_bounds safe
  have ascii : c.val.toNat ≤ 127 := by
    have value : c.toNat = c.val.toNat := rfl
    omega
  have size : c.utf8Size = 1 := by
    rw [Char.utf8Size_eq_one_iff]
    exact UInt32.le_iff_toNat_le.mpr ascii
  have byte : c.val.toUInt8.toNat = c.toNat := by
    rw [UInt32.toNat_toUInt8]
    exact Nat.mod_eq_of_lt (by omega)
  have code : safeCode c.val.toUInt8.toNat = true := by
    rw [byte]
    exact safe
  rw [utf8EncodeChar_eq_singleton size, flatMap_singleton, quoteByte, if_pos code, byte, Char.ofNat_toNat]

theorem length_quoteByte (b : UInt8) : 0 < (quoteByte b).length := by
  unfold quoteByte
  split <;> simp

theorem length_quote_char (c : Char) : 0 < ((utf8EncodeChar c).flatMap quoteByte).length := by
  have bytes : 0 < (utf8EncodeChar c).length := by
    rw [length_utf8EncodeChar]
    exact Char.utf8Size_pos c
  cases encoded : utf8EncodeChar c with
  | nil => simp [encoded] at bytes
  | cons b =>
    have first := length_quoteByte b
    rw [List.flatMap_cons, List.length_append]
    omega

theorem length_le_quote (text : Text) : text.length ≤ (quote text).length := by
  induction text with
  | nil => exact Nat.zero_le _
  | cons c =>
    have first := length_quote_char c
    rw [quote_cons, List.length_append, List.length_cons]
    omega

theorem quote_eq_self_iff : quote text = text ↔ ∀ c ∈ text, Safe c := by
  induction text with
  | nil => exact ⟨fun _ => nofun, fun _ => rfl⟩
  | cons c text ih =>
    rw [quote_cons, forall_mem_cons]
    constructor
    · intro same
      have first := length_quote_char c
      have rest := length_le_quote text
      have total := congrArg List.length same
      rw [List.length_append, List.length_cons] at total
      -- No character may be written longer than it is.
      have one : ((utf8EncodeChar c).flatMap quoteByte).length = 1 := by omega
      obtain ⟨d, single⟩ := List.length_eq_one_iff.mp one
      rw [single] at same
      obtain ⟨rfl, tail⟩ := List.cons.inj same
      refine ⟨?_, ih.mp tail⟩
      cases encoded : utf8EncodeChar d with
      | nil =>
        rw [encoded] at single
        cases single
      | cons b bytes =>
        rw [encoded, flatMap_cons] at single
        unfold quoteByte at single
        split at single
        · rename_i safe
          obtain ⟨same, _⟩ := List.cons.inj single
          have bounds := safeCode_bounds safe
          rw [← same]
          unfold Safe
          rw [toNat_ofNat (by omega)]
          exact safe
        · simp at single
    · rintro ⟨safe, rest⟩
      rw [quote_safe safe, ih.mpr rest]
      rfl

/-! ## The path of a request target -/

def Plain (c : Char) : Prop := 36 < c.toNat ∧ c.toNat < 127 ∧ c.toNat ≠ 47 ∧ c.toNat ≠ 63

theorem plain_quote : ∀ c ∈ quote text, Plain c := by
  intro c member
  obtain ⟨b, _, member⟩ := List.mem_flatMap.mp member
  have small : b.toNat < 256 := UInt8.toNat_lt_size b
  unfold quoteByte at member
  unfold Plain
  split at member
  · rename_i safe
    have bounds := safeCode_bounds safe
    obtain rfl := List.mem_singleton.mp member
    rw [toNat_ofNat (by omega)]
    omega
  · simp only [mem_cons, not_mem_nil, or_false] at member
    have high := hexDigit_plain (n := b.toNat / 16) (by omega)
    have low := hexDigit_plain (n := b.toNat % 16) (by omega)
    rcases member with rfl | rfl | rfl
    · decide
    · omega
    · omega

/-- `lstrip` takes these off. -/
def control (c : Char) : Bool := c.toNat ≤ 32

def removed (c : Char) : Bool := c = '\t' ∨ c = '\r' ∨ c = '\n'

def schemeChar (c : Char) : Bool := c.isAlphanum ∨ c = '+' ∨ c = '-' ∨ c = '.'

def afterScheme (url : Text) : Text :=
  match cut url with
  | (c :: scheme, some rest) =>
    if c.isAlpha ∧ (c :: scheme).all schemeChar then rest else url
  | _ => url

def afterHost : Text → Text
  | '/' :: '/' :: rest => rest.dropWhile fun c => c ≠ '/' ∧ c ≠ '?' ∧ c ≠ '#'
  | url => url

/-- The part of the target that `urlsplit` cuts up after the scheme and the host. -/
def target (path : Text) : Text :=
  afterHost (afterScheme ((path.dropWhile control).filter fun c => !removed c))

/-- `urlsplit(path).path`. -/
def urlsplit (path : Text) : Text :=
  ((target path).takeWhile fun c => c ≠ '#').takeWhile fun c => c ≠ '?'

/-- `text.rstrip("/")`. -/
def rstrip (text : Text) : Text := (text.reverse.dropWhile fun c => c = '/').reverse

/-- `urlsplit(path).path.rstrip("/") or "/"`. -/
def route (path : Text) : Text :=
  match rstrip (urlsplit path) with
  | [] => ['/']
  | text => text

theorem removed_of_code (large : 36 < c.toNat) : removed c = false := by
  have tab : ('\t' : Char).toNat = 9 := rfl
  have feed : ('\r' : Char).toNat = 13 := rfl
  have line : ('\n' : Char).toNat = 10 := rfl
  simp only [removed, decide_eq_false_iff_not, not_or]
  refine ⟨?_, ?_, ?_⟩ <;> (rintro rfl; omega)

theorem rstrip_append (plain : ∀ c ∈ b, Plain c) (some' : b ≠ []) : rstrip (a ++ b) = a ++ b := by
  unfold rstrip
  obtain ⟨front, last, rfl⟩ := eq_nil_or_concat b |>.resolve_left some'
  have other : last ≠ '/' := by
    intro slash
    have plain := plain last (by simp)
    rw [slash] at plain
    exact absurd plain.2.2.1 (by decide)
  simp [other]

theorem urlsplit_plain {path query} (second : Plain c) (plain : ∀ d ∈ path, Plain d ∨ d = '/')
    (stop : query = [] ∨ ∃ rest, query = '?' :: rest) (kept : ∀ d ∈ query, removed d = false) :
    urlsplit ('/' :: c :: path ++ query) = '/' :: c :: path := by
  have removed_of_plain {d : Char} (plain : Plain d ∨ d = '/') : removed d = false := by
    rcases plain with plain | rfl
    · exact removed_of_code plain.1
    · rfl
  have every : ∀ d ∈ c :: path, Plain d ∨ d = '/' := List.forall_mem_cons.mpr ⟨.inl second, plain⟩
  have slash : c ≠ '/' := by
    rintro rfl
    exact absurd second.2.2.1 (by decide)
  have unchanged : ('/' :: c :: path ++ query).filter (fun d => !removed d) = '/' :: c :: path ++ query := by
    refine List.filter_eq_self.mpr fun d member => ?_
    rcases List.mem_append.mp member with here | there
    · rcases List.mem_cons.mp here with rfl | here
      · rfl
      · rw [removed_of_plain (every d here)]
        rfl
    · rw [kept d there]
      rfl
  have schemeless : afterScheme ('/' :: c :: path ++ query) = '/' :: c :: path ++ query := by
    unfold afterScheme
    have first : (cut ('/' :: c :: path ++ query)).1 = '/' :: (cut (c :: path ++ query)).1 := by
      rw [cons_append, cut]
      exact congrArg Prod.fst (if_neg (by decide))
    cases parts : cut ('/' :: c :: path ++ query) with
    | mk before after =>
      rw [parts] at first
      obtain rfl := first
      cases after with
      | none => rfl
      | some => exact if_neg fun alpha => absurd alpha.1 (by decide)
  have whole : target ('/' :: c :: path ++ query) = '/' :: c :: path ++ query := by
    unfold target
    have stripped : ('/' :: c :: path ++ query).dropWhile control = '/' :: c :: path ++ query :=
      dropWhile_cons_of_neg (by decide)
    rw [stripped, unchanged, schemeless]
    unfold afterHost
    split
    · rename_i rest same
      simp only [cons_append, List.cons.injEq] at same
      exact absurd same.2.1 slash
    · rfl
  have both : ∀ d ∈ '/' :: c :: path, d ≠ '#' ∧ d ≠ '?' := by
    intro d member
    rcases List.mem_cons.mp member with rfl | member
    · decide
    rcases every d member with plain | rfl
    · have hash : ('#' : Char).toNat = 35 := rfl
      have mark : ('?' : Char).toNat = 63 := rfl
      refine ⟨?_, ?_⟩ <;> rintro rfl
      · have := plain.1
        omega
      · exact absurd plain.2.2.2 (by omega)
    · decide
  unfold urlsplit
  rw [whole, takeWhile_append_of_pos fun d member => by simpa using (both d member).1,
    takeWhile_append_of_pos fun d member => by simpa using (both d member).2]
  rcases stop with rfl | ⟨rest, rfl⟩
  · simp
  · simp

theorem kept_quotePlus : ∀ c ∈ quotePlus text, removed c = false := by
  intro c member
  obtain ⟨b, _, member⟩ := List.mem_flatMap.mp member
  have small : b.toNat < 256 := UInt8.toNat_lt_size b
  unfold quotePlusByte at member
  split at member
  · obtain rfl := List.mem_singleton.mp member
    rfl
  split at member
  · rename_i safe
    have bounds := safeCode_bounds safe.1
    obtain rfl := List.mem_singleton.mp member
    refine removed_of_code ?_
    rw [toNat_ofNat (by omega)]
    omega
  · simp only [mem_cons, not_mem_nil, or_false] at member
    have high := hexDigit_plain (n := b.toNat / 16) (by omega)
    have low := hexDigit_plain (n := b.toNat % 16) (by omega)
    rcases member with rfl | rfl | rfl
    · rfl
    · exact removed_of_code (by omega)
    · exact removed_of_code (by omega)

theorem kept_pair {key value} : ∀ c ∈ quotePlus key ++ '=' :: quotePlus value, removed c = false := by
  intro c member
  rcases List.mem_append.mp member with key | rest
  · exact kept_quotePlus c key
  rcases List.mem_cons.mp rest with rfl | value
  · rfl
  · exact kept_quotePlus c value

theorem kept_urlencode {fields} : ∀ c ∈ urlencode fields, removed c = false := by
  induction fields using urlencode.induct with
  | case1 => nofun
  | case2 => exact kept_pair
  | case3 key value fields more ih =>
    intro c member
    rw [urlencode] at member
    · rcases List.mem_append.mp member with here | there
      · exact kept_pair c here
      rcases List.mem_cons.mp there with rfl | there
      · rfl
      · exact ih c there
    · exact more

end EmbodiRun.Http
