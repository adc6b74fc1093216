/-
# Data.JsonText -- the JSON texts that Python writes, and where reading a text fails

`json.loads` reads a text from the left, so what it says of a text that was cut depends on where the
cut falls.  Reading is a machine over characters here; it decides about a text, and does not build the
value.
-/
import Mathlib

namespace EmbodiRun.Data.JsonText

/-! ## Numbers -/

inductive Numb where
  | minus
  | zero
  | int
  | dot
  | frac
  | exp
  | expSign
  | expDigits
  deriving DecidableEq

namespace Numb

def first (c : Char) : Option Numb :=
  if c = '-' then some .minus else if c = '0' then some .zero else if c.isDigit then some .int else none

/-- `NUMBER_RE`, a character further. -/
def next (n : Numb) (c : Char) : Option Numb :=
  match n with
  | .minus => if c = '0' then some .zero else if c.isDigit then some .int else none
  | .zero => if c = '.' then some .dot else if c = 'e' || c = 'E' then some .exp else none
  | .int =>
    if c.isDigit then some .int else if c = '.' then some .dot
    else if c = 'e' || c = 'E' then some .exp else none
  | .dot => if c.isDigit then some .frac else none
  | .frac => if c.isDigit then some .frac else if c = 'e' || c = 'E' then some .exp else none
  | .exp => if c.isDigit then some .expDigits else if c = '+' || c = '-' then some .expSign else none
  | .expSign | .expDigits => if c.isDigit then some .expDigits else none

def complete : Numb → Bool
  | .zero | .int | .frac | .expDigits => true
  | _ => false

def follow (n : Numb) : List Char → Option Numb
  | [] => some n
  | c :: cs => (n.next c).bind fun m => m.follow cs

end Numb

def IsNumeral : List Char → Prop
  | [] => False
  | c :: cs => ∃ n m, Numb.first c = some n ∧ n.follow cs = some m ∧ m.complete = true

/-! ## Values -/

inductive Shape where
  | value | items | fields

/-- A value, the items of a list, or the fields of a dictionary in the order of their keys. A number
stands for its text. -/
inductive Tree : Shape → Type where
  | null : Tree .value
  | bool (b : Bool) : Tree .value
  | number (numeral : List Char) : Tree .value
  | str (s : List Char) : Tree .value
  | list (items : Tree .items) : Tree .value
  | dict (fields : Tree .fields) : Tree .value
  | nil : Tree .items
  | cons (head : Tree .value) (tail : Tree .items) : Tree .items
  | empty : Tree .fields
  | field (key : List Char) (value : Tree .value) (rest : Tree .fields) : Tree .fields

def hexDigit (n : Nat) : Char := if n < 10 then Char.ofNat (48 + n) else Char.ofNat (87 + n)

/-- `ESCAPE_DCT`, and the other control characters. -/
def escape (c : Char) : List Char :=
  if c = '"' then ['\\', '"']
  else if c = '\\' then ['\\', '\\']
  else if c = '\n' then ['\\', 'n']
  else if c = '\r' then ['\\', 'r']
  else if c = '\t' then ['\\', 't']
  else if c = '\x0c' then ['\\', 'f']
  else if c = '\x08' then ['\\', 'b']
  else if c.toNat < 32 then ['\\', 'u', '0', '0', hexDigit (c.toNat / 16), hexDigit (c.toNat % 16)]
  else [c]

def quoted (s : List Char) : List Char := '"' :: (s.flatMap escape ++ ['"'])

namespace Tree

/-- `json.dumps` with the separators `,` and `:`. What follows the first item of a list, or the first
field of a dictionary, has a comma before it. -/
def text : {k : Shape} → Tree k → List Char
  | _, null => ['n', 'u', 'l', 'l']
  | _, bool true => ['t', 'r', 'u', 'e']
  | _, bool false => ['f', 'a', 'l', 's', 'e']
  | _, number numeral => numeral
  | _, str s => quoted s
  | _, list nil => ['[', ']']
  | _, list (cons head tail) => '[' :: (head.text ++ (tail.text ++ [']']))
  | _, dict empty => ['{', '}']
  | _, dict (field key value rest) => '{' :: (quoted key ++ ':' :: (value.text ++ (rest.text ++ ['}'])))
  | _, nil => []
  | _, cons head tail => ',' :: (head.text ++ tail.text)
  | _, empty => []
  | _, field key value rest => ',' :: (quoted key ++ ':' :: (value.text ++ rest.text))

def Valid : {k : Shape} → Tree k → Prop
  | _, null | _, bool _ | _, str _ | _, nil | _, empty => True
  | _, number numeral => IsNumeral numeral
  | _, list items => items.Valid
  | _, dict fields => fields.Valid
  | _, cons head tail => head.Valid ∧ tail.Valid
  | _, field _ value rest => value.Valid ∧ rest.Valid

end Tree

/-! ## Reading -/

/-- `JSONDecodeError.msg`. -/
inductive Message where
  /-- `Expecting value` -/
  | value
  /-- `Expecting property name enclosed in double quotes` -/
  | property
  /-- `Expecting ':' delimiter` -/
  | colon
  /-- `Expecting ',' delimiter` -/
  | comma
  /-- `Unterminated string starting at` -/
  | unterminated
  /-- `Invalid control character at` -/
  | control
  /-- `Invalid \escape` -/
  | escape
  /-- `Invalid \uXXXX escape` -/
  | unicode
  /-- `Extra data` -/
  | extra
  /-- `Unexpected UTF-8 BOM (decode using utf-8-sig)` -/
  | bom
  deriving DecidableEq

/-- A `JSONDecodeError`; `rest` is the text from its position on. -/
structure Failure where
  message : Message
  rest : List Char

inductive Esc where
  | plain
  /-- After a backslash. -/
  | slash
  /-- After `\u` and some of its four digits, or after all of them. -/
  | hex (digits : List Char)

inductive Mode where
  /-- A value is next; `close` after `[`. -/
  | value (close : Bool)
  /-- A key is next; `close` after `{`. -/
  | key (close : Bool)
  | colon
  /-- A value is over. -/
  | after
  /-- In a string, which is a key or not; `read` is its text so far, from its end. -/
  | str (key : Bool) (esc : Esc) (read : List Char)
  | literal (read left : List Char)
  /-- `back` is what is given back if the number ends here and is not complete. -/
  | number (n : Numb) (back : List Char)

inductive Bracket where
  | obj
  | arr

structure State where
  mode : Mode
  stack : List Bracket

def isSpace (c : Char) : Bool := c = ' ' || c = '\t' || c = '\n' || c = '\r'

def isHex (c : Char) : Bool :=
  c.isDigit || ('a'.toNat ≤ c.toNat && c.toNat ≤ 'f'.toNat) || ('A'.toNat ≤ c.toNat && c.toNat ≤ 'F'.toNat)

abbrev Fault := List Char → Failure

/-- A failure at what was read last, `back`, or before it. -/
def fault (message : Message) (back : List Char) : Fault := fun rest => ⟨message, back ++ rest⟩

def afterStep (stack : List Bracket) (c : Char) : Except Fault State :=
  if isSpace c then .ok ⟨.after, stack⟩
  else match stack with
    | [] => .error (fault .extra [c])
    | .obj :: below =>
      if c = '}' then .ok ⟨.after, below⟩
      else if c = ',' then .ok ⟨.key false, stack⟩
      else .error (fault .comma [c])
    | .arr :: below =>
      if c = ']' then .ok ⟨.after, below⟩
      else if c = ',' then .ok ⟨.value false, stack⟩
      else .error (fault .comma [c])

def valueStep (close : Bool) (stack : List Bracket) (c : Char) : Except Fault State :=
  if isSpace c then .ok ⟨.value close, stack⟩
  else if c = '"' then .ok ⟨.str false .plain ['"'], stack⟩
  else if c = '{' then .ok ⟨.key true, .obj :: stack⟩
  else if c = '[' then .ok ⟨.value true, .arr :: stack⟩
  else if c = 'n' then .ok ⟨.literal ['n'] ['u', 'l', 'l'], stack⟩
  else if c = 't' then .ok ⟨.literal ['t'] ['r', 'u', 'e'], stack⟩
  else if c = 'f' then .ok ⟨.literal ['f'] ['a', 'l', 's', 'e'], stack⟩
  else if c = 'N' then .ok ⟨.literal ['N'] ['a', 'N'], stack⟩
  else if c = 'I' then .ok ⟨.literal ['I'] ['n', 'f', 'i', 'n', 'i', 't', 'y'], stack⟩
  else if close && c = ']' then .ok ⟨.after, stack.tail⟩
  else match Numb.first c with
    | some n => .ok ⟨.number n [c], stack⟩
    | none => .error (fault .value [c])

def plainStep (key : Bool) (read : List Char) (stack : List Bracket) (c : Char) : Except Fault State :=
  if c = '"' then .ok ⟨if key then .colon else .after, stack⟩
  else if c = '\\' then .ok ⟨.str key .slash (c :: read), stack⟩
  else if c.toNat < 32 then .error (fault .control [c])
  else .ok ⟨.str key .plain (c :: read), stack⟩

/-- What `next` gives back if the number ends after it: a point, or an exponent, without digits. -/
def pending (n : Numb) (back : List Char) (c : Char) : List Char :=
  match n with
  | .dot => ['.']
  | .exp => [c]
  | .expSign => back ++ [c]
  | _ => []

def step (s : State) (c : Char) : Except Fault State :=
  match s.mode with
  | .value close => valueStep close s.stack c
  | .key close =>
    if isSpace c then .ok s
    else if c = '"' then .ok ⟨.str true .plain ['"'], s.stack⟩
    else if close && c = '}' then .ok ⟨.after, s.stack.tail⟩
    else .error (fault .property [c])
  | .colon =>
    if isSpace c then .ok s
    else if c = ':' then .ok ⟨.value false, s.stack⟩
    else .error (fault .colon [c])
  | .after => afterStep s.stack c
  | .str key .plain read => plainStep key read s.stack c
  | .str key .slash read =>
    if c = 'u' then .ok ⟨.str key (.hex []) (c :: read), s.stack⟩
    else if c ∈ ['"', '\\', '/', 'b', 'f', 'n', 'r', 't'] then .ok ⟨.str key .plain (c :: read), s.stack⟩
    else .error (fault .escape ['\\', c])
  | .str key (.hex digits) read =>
    if digits.length = 4 then plainStep key read s.stack c
    else if isHex c then .ok ⟨.str key (.hex (digits ++ [c])) (c :: read), s.stack⟩
    else .error fun rest =>
      -- fewer than five characters are no escape, whatever they are
      if digits.length + 1 + rest.length < 5 then ⟨.unicode, digits ++ c :: rest⟩
      else ⟨.unicode, 'u' :: (digits ++ c :: rest)⟩
  | .literal read left => match left with
      | [] => afterStep s.stack c
      | d :: left =>
        if c = d then .ok ⟨if left = [] then .after else .literal (read ++ [c]) left, s.stack⟩
        else .error (fault .value (read ++ [c]))
  | .number n back => match n.next c with
      | some m => .ok ⟨.number m (pending m back c), s.stack⟩
      | none =>
        if n.complete then afterStep s.stack c
        else if n = .minus then
          if c = 'I' then .ok ⟨.literal ['-', 'I'] ['n', 'f', 'i', 'n', 'i', 't', 'y'], s.stack⟩
          else .error (fault .value ['-', c])
        else .error (fault (if s.stack = [] then .extra else .comma) (back ++ [c]))

def run (s : State) : List Char → Except Failure State
  | [] => .ok s
  | c :: cs => match step s c with
      | .ok t => run t cs
      | .error failure => .error (failure cs)

def finish (s : State) : Except Failure Unit :=
  let finished : Except Failure Unit := if s.stack = [] then .ok () else .error ⟨.comma, []⟩
  match s.mode with
  | .value _ => .error ⟨.value, []⟩
  | .key _ => .error ⟨.property, []⟩
  | .colon => .error ⟨.colon, []⟩
  | .after => finished
  | .str _ (.hex digits) _ => .error ⟨.unicode, digits⟩
  | .str _ _ read => .error ⟨.unterminated, read.reverse⟩
  | .literal read _ => .error ⟨.value, read⟩
  | .number n back =>
    if n.complete then finished
    else if n = .minus then .error ⟨.value, back⟩
    else .error ⟨if s.stack = [] then .extra else .comma, back⟩

def initial : State := ⟨.value false, []⟩

/-- `json.loads`; whether the value is an object. -/
def loads (text : List Char) : Except Failure Bool :=
  if text.head? = some '\uFEFF' then .error ⟨.bom, text⟩
  else do
    let s ← run initial text
    finish s
    return (text.dropWhile isSpace).head? = some '{'

/-- A text ends in a token that is told from an error only by what follows: a literal, a number, an escape. -/
def Inside (text : List Char) : Prop :=
  ∃ s, run initial text = .ok s ∧ match s.mode with
    | .literal _ _ => True
    | .number n _ => n.complete = false
    | .str _ (.hex digits) _ => digits ≠ []
    | _ => False

/-! ## A text is read -/

variable {s t : State} {a b : List Char} {stack : List Bracket} {m : Mode}

theorem run_append (first : run s a = .ok t) : run s (a ++ b) = run t b := by
  induction a generalizing s with
  | nil =>
    obtain rfl := Except.ok.inj first
    rfl
  | cons c cs ih =>
    simp only [run, List.cons_append] at first ⊢
    split at first
    · exact ih first
    · cases first

variable {c : Char} {esc : Esc} {cs : List Char} {numeral : List Char}

theorem run_cons (stepped : step s c = .ok t) : run s (c :: b) = run t b := by
  simp only [run, stepped]

def Done (m : Mode) : Prop := m = .after ∨ ∃ n back, m = .number n back ∧ n.complete = true

theorem step_done {c : Char} (done : Done m) (sep : c = ',' ∨ c = ']' ∨ c = '}') :
    step ⟨m, stack⟩ c = afterStep stack c := by
  rcases done with rfl | ⟨n, back, rfl, complete⟩
  · rfl
  · have none_ : n.next c = none := by
      rcases sep with rfl | rfl | rfl <;> cases n <;> rfl
    simp only [step, none_, complete, if_true]

def Open (esc : Esc) : Prop := esc = .plain ∨ ∃ digits, esc = .hex digits ∧ digits.length = 4

theorem step_open (open_ : Open esc) (key : Bool) (read : List Char) (c : Char) :
    step ⟨.str key esc read, stack⟩ c = plainStep key read stack c := by
  rcases open_ with rfl | ⟨digits, rfl, four⟩
  · rfl
  · simp only [step, four, if_true]

theorem isHex_hexDigit {n : Nat} (small : n < 16) : isHex (hexDigit n) = true := by
  have all : ∀ n < 16, isHex (hexDigit n) = true := by decide
  exact all n small

theorem escape_cases {P : List Char → Prop} (c : Char)
    (letter : ∀ d ∈ ['"', '\\', 'n', 'r', 't', 'f', 'b'], P ['\\', d])
    (digits : c.toNat < 32 → P ['\\', 'u', '0', '0', hexDigit (c.toNat / 16), hexDigit (c.toNat % 16)])
    (plain : c ≠ '"' → c ≠ '\\' → c ≠ '\n' → ¬ c.toNat < 32 → P [c]) : P (escape c) := by
  have test {p : Prop} [Decidable p] {a b : List Char} (yes : p → P a) (no : ¬ p → P b) : P (if p then a else b) := by
    by_cases here : p
    · exact (if_pos here).symm ▸ yes here
    · exact (if_neg here).symm ▸ no here
  have short {p : Prop} [Decidable p] {b : List Char} (d : Char) (here : d ∈ ['"', '\\', 'n', 'r', 't', 'f', 'b'])
      (no : ¬ p → P b) : P (if p then ['\\', d] else b) := test (fun _ => letter d here) no
  exact short '"' (by decide) fun quote => short '\\' (by decide) fun slash => short 'n' (by decide) fun newline =>
    short 'r' (by decide) fun _ => short 't' (by decide) fun _ => short 'f' (by decide) fun _ =>
    short 'b' (by decide) fun _ => test digits fun printable => plain quote slash newline printable

theorem run_escape (open_ : Open esc) (stack : List Bracket) (key : Bool) (read : List Char)
    (c : Char) :
    ∃ esc' read', Open esc' ∧ run ⟨.str key esc read, stack⟩ (escape c) = .ok ⟨.str key esc' read', stack⟩ := by
  have slash : step ⟨.str key esc read, stack⟩ '\\' = .ok ⟨.str key .slash ('\\' :: read), stack⟩ := by
    rw [step_open open_]
    rfl
  refine escape_cases (P := fun text => ∃ esc' read', Open esc' ∧
    run ⟨.str key esc read, stack⟩ text = .ok ⟨.str key esc' read', stack⟩) c (fun d letter => ?_)
    (fun control => ?_) fun quote slash_ _ printable => ?_
  · refine ⟨.plain, d :: '\\' :: read, .inl rfl, ?_⟩
    rw [run_cons slash]
    simp only [List.mem_cons, List.not_mem_nil, or_false] at letter
    rcases letter with rfl | rfl | rfl | rfl | rfl | rfl | rfl <;> rfl
  · have high := isHex_hexDigit (show c.toNat / 16 < 16 by omega)
    have low := isHex_hexDigit (show c.toNat % 16 < 16 by omega)
    refine ⟨.hex ['0', '0', hexDigit (c.toNat / 16), hexDigit (c.toNat % 16)],
      hexDigit (c.toNat % 16) :: hexDigit (c.toNat / 16) :: '0' :: '0' :: 'u' :: '\\' :: read,
      .inr ⟨_, rfl, rfl⟩, ?_⟩
    rw [run_cons slash]
    rw [run_cons (t := ⟨.str key (.hex []) ('u' :: '\\' :: read), stack⟩) rfl]
    rw [run_cons (t := ⟨.str key (.hex ['0']) ('0' :: 'u' :: '\\' :: read), stack⟩) rfl]
    rw [run_cons (t := ⟨.str key (.hex ['0', '0']) ('0' :: '0' :: 'u' :: '\\' :: read), stack⟩) rfl]
    simp only [run, step, List.length_cons, List.length_nil, high, low, List.cons_append, List.nil_append]
    rfl
  · refine ⟨.plain, c :: read, .inl rfl, ?_⟩
    have stepped : step ⟨.str key esc read, stack⟩ c = .ok ⟨.str key .plain (c :: read), stack⟩ := by
      rw [step_open open_, plainStep, if_neg quote, if_neg slash_, if_neg printable]
    rw [run_cons stepped, run]

theorem run_str (open_ : Open esc) (stack : List Bracket) (key : Bool) (read : List Char)
    (s : List Char) : run ⟨.str key esc read, stack⟩ (s.flatMap escape ++ ['"']) =
      .ok ⟨if key then .colon else .after, stack⟩ := by
  induction s generalizing esc read with
  | nil =>
    have stepped : step ⟨.str key esc read, stack⟩ '"' = .ok ⟨if key then .colon else .after, stack⟩ := by
      rw [step_open open_]
      rfl
    exact run_cons stepped
  | cons c cs ih =>
    obtain ⟨esc', read', open', first⟩ := run_escape open_ stack key read c
    rw [List.flatMap_cons, List.append_assoc, run_append first]
    exact ih open' read'

theorem run_follow {n k : Numb} (reads : n.follow cs = some k) (stack : List Bracket)
    (back : List Char) : ∃ back', run ⟨.number n back, stack⟩ cs = .ok ⟨.number k back', stack⟩ := by
  induction cs generalizing n back with
  | nil =>
    obtain rfl := Option.some.inj reads
    exact ⟨back, rfl⟩
  | cons c cs ih =>
    obtain ⟨m, next, rest⟩ := Option.bind_eq_some_iff.mp reads
    obtain ⟨back', ran⟩ := ih rest (pending m back c)
    refine ⟨back', ?_⟩
    rw [run_cons (t := ⟨.number m (pending m back c), stack⟩) (by simp only [step, next]), ran]

theorem valueStep_number {n : Numb} (close : Bool) (first : Numb.first c = some n) :
    valueStep close stack c = .ok ⟨.number n [c], stack⟩ := by
  have other (d : Char) (not_ : Numb.first d = none) : c ≠ d := by
    rintro rfl
    rw [not_] at first
    cases first
  have space : isSpace c = false := by
    simp only [isSpace, other ' ' (by decide), other '\t' (by decide), other '\n' (by decide),
      other '\r' (by decide), decide_false, Bool.or_self]
  simp only [valueStep, space, other '"' (by decide), other '{' (by decide), other '[' (by decide),
    other 'n' (by decide), other 't' (by decide), other 'f' (by decide), other 'N' (by decide),
    other 'I' (by decide), other ']' (by decide), decide_false, Bool.and_false, Bool.false_eq_true, if_false, first]

theorem run_numeral (close : Bool) (is : IsNumeral numeral) :
    ∃ m, Done m ∧ run ⟨.value close, stack⟩ numeral = .ok ⟨m, stack⟩ := by
  cases numeral with
  | nil => cases is
  | cons c =>
    obtain ⟨n, k, first, reads, complete⟩ := is
    obtain ⟨back, ran⟩ := run_follow reads stack [c]
    refine ⟨.number k back, .inr ⟨k, back, rfl, complete⟩, ?_⟩
    rw [run_cons (s := ⟨.value close, stack⟩) (valueStep_number close first), ran]

def Reads : {k : Shape} → Tree k → Prop
  | .value, t => ∀ close stack, ∃ m, Done m ∧ run ⟨.value close, stack⟩ t.text = .ok ⟨m, stack⟩
  | .items, t => ∀ m stack, Done m → ∃ m', Done m' ∧ run ⟨m, .arr :: stack⟩ t.text = .ok ⟨m', .arr :: stack⟩
  | .fields, t => ∀ m stack, Done m → ∃ m', Done m' ∧ run ⟨m, .obj :: stack⟩ t.text = .ok ⟨m', .obj :: stack⟩

theorem run_field {value : Tree .value} {rest : Tree .fields} (key : List Char) (close : Bool) (stack : List Bracket)
    (reads : Reads value) (more : Reads rest) :
    ∃ m, Done m ∧ run ⟨.key close, .obj :: stack⟩ (quoted key ++ ':' :: (value.text ++ rest.text)) =
      .ok ⟨m, .obj :: stack⟩ := by
  obtain ⟨m, done, ran⟩ := reads false (.obj :: stack)
  obtain ⟨m', done', rest_⟩ := more m stack done
  refine ⟨m', done', ?_⟩
  have quote : step ⟨.key close, .obj :: stack⟩ '"' = .ok ⟨.str true .plain ['"'], .obj :: stack⟩ := rfl
  have colon : step ⟨.colon, .obj :: stack⟩ ':' = .ok ⟨.value false, .obj :: stack⟩ := rfl
  have key_ := run_str (.inl rfl) (.obj :: stack) true ['"'] key
  rw [quoted, List.cons_append, run_cons quote, run_append key_, if_pos rfl, run_cons colon, run_append ran, rest_]

theorem reads : {k : Shape} → (t : Tree k) → t.Valid → Reads t
  | _, .null, _ => fun _ stack => ⟨.after, .inl rfl, rfl⟩
  | _, .bool true, _ => fun _ stack => ⟨.after, .inl rfl, rfl⟩
  | _, .bool false, _ => fun _ stack => ⟨.after, .inl rfl, rfl⟩
  | _, .number _, valid => fun close _ => run_numeral close valid
  | _, .str s, _ => fun close stack => by
    refine ⟨.after, .inl rfl, ?_⟩
    have quote : step ⟨.value close, stack⟩ '"' = .ok ⟨.str false .plain ['"'], stack⟩ := rfl
    rw [Tree.text, quoted, run_cons quote, run_str (.inl rfl)]
    rfl
  | _, .list .nil, _ => fun _ stack => ⟨.after, .inl rfl, rfl⟩
  | _, .dict .empty, _ => fun _ stack => ⟨.after, .inl rfl, rfl⟩
  | _, .list (.cons head tail), valid => fun close stack => by
    obtain ⟨m, done, ran⟩ := reads head valid.1 true (.arr :: stack)
    obtain ⟨m', done', rest⟩ := reads tail valid.2 m stack done
    refine ⟨.after, .inl rfl, ?_⟩
    have opens : step ⟨.value close, stack⟩ '[' = .ok ⟨.value true, .arr :: stack⟩ := rfl
    have closes : step ⟨m', .arr :: stack⟩ ']' = .ok ⟨.after, stack⟩ := step_done done' (.inr (.inl rfl))
    rw [Tree.text, run_cons opens, run_append ran, run_append rest, run_cons closes, run]
  | _, .dict (.field key value rest), valid => fun close stack => by
    obtain ⟨m, done, ran⟩ := run_field key true stack (reads value valid.1) (reads rest valid.2)
    refine ⟨.after, .inl rfl, ?_⟩
    have opens : step ⟨.value close, stack⟩ '{' = .ok ⟨.key true, .obj :: stack⟩ := rfl
    have closes : step ⟨m, .obj :: stack⟩ '}' = .ok ⟨.after, stack⟩ := step_done done (.inr (.inr rfl))
    rw [Tree.text, run_cons opens, show quoted key ++ ':' :: (value.text ++ (rest.text ++ ['}'])) =
      (quoted key ++ ':' :: (value.text ++ rest.text)) ++ ['}'] by simp, run_append ran, run_cons closes, run]
  | _, .nil, _ => fun m _ done => ⟨m, done, rfl⟩
  | _, .empty, _ => fun m _ done => ⟨m, done, rfl⟩
  | _, .cons head tail, valid => fun m stack done => by
    obtain ⟨k, finished, ran⟩ := reads head valid.1 false (.arr :: stack)
    obtain ⟨k', over', rest⟩ := reads tail valid.2 k stack finished
    refine ⟨k', over', ?_⟩
    have comma : step ⟨m, .arr :: stack⟩ ',' = .ok ⟨.value false, .arr :: stack⟩ := step_done done (.inl rfl)
    rw [Tree.text, run_cons comma, run_append ran, rest]
  | _, .field key value rest, valid => fun m stack done => by
    obtain ⟨k, finished, ran⟩ := run_field key false stack (reads value valid.1) (reads rest valid.2)
    refine ⟨k, finished, ?_⟩
    have comma : step ⟨m, .obj :: stack⟩ ',' = .ok ⟨.key false, .obj :: stack⟩ := step_done done (.inl rfl)
    rw [Tree.text, run_cons comma, ran]

theorem text_dict (fields : Tree .fields) : ∃ inner, (Tree.dict fields).text = '{' :: (inner ++ ['}']) := by
  cases fields with
  | empty => exact ⟨[], rfl⟩
  | field key value rest => exact ⟨quoted key ++ ':' :: (value.text ++ rest.text), by simp [Tree.text]⟩

theorem run_text {fields : Tree .fields} (valid : fields.Valid) :
    run initial (Tree.dict fields).text = .ok ⟨.after, []⟩ := by
  cases fields with
  | empty => rfl
  | field key value rest =>
    obtain ⟨m, done, ran⟩ := run_field key true [] (reads value valid.1) (reads rest valid.2)
    have opens : step initial '{' = .ok ⟨.key true, [.obj]⟩ := rfl
    have closes : step ⟨m, [.obj]⟩ '}' = .ok ⟨.after, []⟩ := step_done done (.inr (.inr rfl))
    rw [Tree.text, run_cons opens, show quoted key ++ ':' :: (value.text ++ (rest.text ++ ['}'])) =
      (quoted key ++ ':' :: (value.text ++ rest.text)) ++ ['}'] by simp, run_append ran, run_cons closes, run]

theorem loads_text {fields : Tree .fields} (valid : fields.Valid) : loads (Tree.dict fields).text = .ok true := by
  have ran := run_text valid
  obtain ⟨inner, text⟩ := text_dict fields
  rw [text] at ran ⊢
  have head : ¬ ('{' :: (inner ++ ['}'])).head? = some '\uFEFF' := by
    rw [List.head?_cons]
    decide
  rw [loads, if_neg head, ran]
  rfl

theorem newline_not_mem_escape (c : Char) : '\n' ∉ escape c := by
  have digits : ∀ n < 16, '\n' ≠ hexDigit n := by decide
  have letters (d : Char) (letter : d ∈ ['"', '\\', 'n', 'r', 't', 'f', 'b']) : '\n' ∉ ['\\', d] := by
    simp only [List.mem_cons, List.not_mem_nil, or_false] at letter
    rcases letter with rfl | rfl | rfl | rfl | rfl | rfl | rfl <;> decide
  refine escape_cases (P := fun text => '\n' ∉ text) c letters (fun control => ?_) fun _ _ other _ => ?_
  · simp only [List.mem_cons, List.not_mem_nil, or_false, not_or]
    exact ⟨by decide, by decide, by decide, by decide, digits _ (by omega), digits _ (by omega)⟩
  · exact fun here => other (List.mem_singleton.mp here).symm

theorem newline_not_mem_quoted (s : List Char) : '\n' ∉ quoted s := by
  simp only [quoted, List.mem_cons, List.mem_append, List.mem_flatMap, List.not_mem_nil, or_false, not_or, not_exists,
    not_and]
  exact ⟨by decide, fun c _ => newline_not_mem_escape c, by decide⟩

theorem newline_not_mem_follow {n m : Numb} (follows : n.follow cs = some m) : '\n' ∉ cs := by
  induction cs generalizing n with
  | nil => exact List.not_mem_nil
  | cons c cs ih =>
    obtain ⟨k, next, rest⟩ := Option.bind_eq_some_iff.mp follows
    rintro (_ | ⟨_, later⟩)
    · cases n <;> cases next
    · exact ih rest later

theorem newline_not_mem_numeral (is : IsNumeral numeral) : '\n' ∉ numeral := by
  cases numeral with
  | nil => exact List.not_mem_nil
  | cons =>
    obtain ⟨n, m, first, follows, _⟩ := is
    rintro (_ | ⟨_, later⟩)
    · cases first
    · exact newline_not_mem_follow follows later

theorem newline_not_mem_text : {k : Shape} → (t : Tree k) → t.Valid → '\n' ∉ t.text
  | _, .null, _ | _, .bool true, _ | _, .bool false, _ | _, .list .nil, _ | _, .dict .empty, _ => by
    simp only [Tree.text]
    decide
  | _, .number _, valid => newline_not_mem_numeral valid
  | _, .str s, _ => newline_not_mem_quoted s
  | _, .nil, _ | _, .empty, _ => List.not_mem_nil
  | _, .list (.cons head tail), valid => by
    simp only [Tree.text, List.mem_cons, List.mem_append, List.not_mem_nil, or_false, not_or]
    exact ⟨by decide, newline_not_mem_text head valid.1, newline_not_mem_text tail valid.2, by decide⟩
  | _, .dict (.field key value rest), valid => by
    simp only [Tree.text, List.mem_cons, List.mem_append, List.not_mem_nil, or_false, not_or]
    exact ⟨by decide, newline_not_mem_quoted key, by decide, newline_not_mem_text value valid.1,
      newline_not_mem_text rest valid.2, by decide⟩
  | _, .cons head tail, valid => by
    simp only [Tree.text, List.mem_cons, List.mem_append, not_or]
    exact ⟨by decide, newline_not_mem_text head valid.1, newline_not_mem_text tail valid.2⟩
  | _, .field key value rest, valid => by
    simp only [Tree.text, List.mem_cons, List.mem_append, not_or]
    exact ⟨by decide, newline_not_mem_quoted key, by decide, newline_not_mem_text value valid.1,
      newline_not_mem_text rest valid.2⟩

/-! ## A text that is cut -/

def Closed (s : State) : Prop := s.stack = [] ∧ (s.mode = .after ∨ ∃ n back, s.mode = .number n back ∧ n ≠ .minus)

theorem closed_step (closed : Closed s) (next : step s c = .ok t) : Closed t ∧ c ≠ '}' := by
  obtain ⟨mode, stack⟩ := s
  obtain ⟨empty, here⟩ := closed
  simp only at empty here
  subst empty
  have after (next : afterStep [] c = .ok t) : Closed t ∧ c ≠ '}' := by
    simp only [afterStep] at next
    split at next
    · rename_i space
      obtain rfl := Except.ok.inj next
      refine ⟨⟨rfl, .inl rfl⟩, ?_⟩
      rintro rfl
      cases space
    · cases next
  rcases here with rfl | ⟨n, back, rfl, going⟩
  · exact after next
  · simp only [step] at next
    split at next
    · rename_i k further
      obtain rfl := Except.ok.inj next
      refine ⟨⟨rfl, .inr ⟨k, _, rfl, ?_⟩⟩, ?_⟩ <;> rintro rfl
      · cases n <;> simp only [Numb.next] at further <;> (repeat' split at further) <;> cases further
      · cases n <;> cases further
    · split at next
      · exact after next
      · cases next

end EmbodiRun.Data.JsonText
