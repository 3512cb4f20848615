import ConfigTables.Datum.Basic
import ConfigTables.Text.Quoted

/-!
# Data in messages

`Datum.display?` is the form in which a message shows a datum: texts quoted, lists and objects in
brackets, with the same form inside. `Datum.text?` is the form in which a datum stands for a text:
a text is itself, everything else is displayed.

Integers with more than `Datum.maxDigits` digits are not put into decimal notation, so a datum with
one of them anywhere in it has neither form. Every other datum has both (`Datum.HasText`).
-/

namespace ConfigTables

/-! ### Numbers -/

namespace Floating

/-- Digits with the point after the first `point` of them, filled up with zeros on either side. -/
def positional (digits : List Char) (point : Int) : List Char :=
  if point ≤ 0 then
    '0' :: '.' :: List.replicate point.natAbs '0' ++ digits
  else
    let written := digits.rightpad (point.toNat + 1) '0'
    written.take point.toNat ++ '.' :: written.drop point.toNat

/-- Digits with the point after the first of them, and a power of ten. -/
def scientific (digits : List Char) (power : Int) : List Char :=
  digits.take 1 ++ (if digits.length ≤ 1 then [] else '.' :: digits.drop 1) ++
    'e' :: (if power < 0 then '-' else '+') ::
      (Nat.toDigits 10 power.natAbs).leftpad 2 '0'

/-- A finite number without its sign: with a point if it stands among or near the digits, and
otherwise with a power of ten. Zeros at the end do not count as digits. -/
def magnitude (digits : Nat) (exponent : Int) : List Char :=
  let written := Nat.toDigits 10 digits
  let point := written.length + exponent
  match (written.reverse.dropWhile (· = '0')).reverse with
  | [] => ['0', '.', '0']
  | shown =>
    if -4 < point ∧ point ≤ 16 then positional shown point else scientific shown (point - 1)

/-- A sign in front of a number. -/
def signed (negative : Bool) (shown : List Char) : List Char :=
  if negative then '-' :: shown else shown

/-- A floating-point number in messages. -/
def displayChars : Floating → List Char
  | finite negative digits exponent => signed negative (magnitude digits exponent)
  | infinite negative => signed negative ['i', 'n', 'f']
  | nan => ['n', 'a', 'n']

end Floating

namespace Datum

/-- An integer in decimal notation. -/
def intChars (n : Int) : List Char :=
  (if n < 0 then ['-'] else []) ++ Nat.toDigits 10 n.natAbs

/-- The greatest number of digits that are put into decimal notation. -/
def maxDigits : Nat := 4300

/-- Whether an integer has few enough digits for decimal notation. -/
def isWritable (n : Int) : Bool :=
  (Nat.toDigits 10 n.natAbs).length ≤ maxDigits

/-- What is said when an integer has too many digits. -/
def digitLimitMessage : String :=
  "Exceeds the limit (" ++ toString maxDigits ++ " digits) for integer string conversion; " ++
    "use sys.set_int_max_str_digits() to increase the limit"

/-! ### Data -/

mutual

/-- The form in which messages show a datum. -/
def display? : Datum → Option String
  | .null => some "None"
  | .bool true => some "True"
  | .bool false => some "False"
  | .int n => if isWritable n then some (String.ofList (intChars n)) else none
  | .float f => some (String.ofList f.displayChars)
  | .text s => some (Text.quoted s)
  | .list items =>
    (displayItems? items).map fun shown ↦ "[" ++ ", ".intercalate shown ++ "]"
  | .object entries =>
    (displayEntries? entries).map fun shown ↦ "\x7b" ++ ", ".intercalate shown ++ "\x7d"

/-- The displayed items of a list. -/
def displayItems? : List Datum → Option (List String)
  | [] => some []
  | d :: ds => (display? d).bind fun shown ↦ (displayItems? ds).map (shown :: ·)

/-- The displayed entries of an object. -/
def displayEntries? : List (String × Datum) → Option (List String)
  | [] => some []
  | (key, d) :: entries => (display? d).bind fun shown ↦
    (displayEntries? entries).map ((Text.quoted key ++ ": " ++ shown) :: ·)

end

/-- The text that a datum stands for. -/
def text? : Datum → Option String
  | .text s => some s
  | d => d.display?

/-- The text that a cell stands for, where an absent cell stands for the empty text. -/
def cellText? : Datum → Option String
  | .null => some ""
  | d => d.text?

/-- The name of a datum's shape, as the messages about unfit values give it. -/
def shapeName : Datum → String
  | .null => "NoneType"
  | .bool _ => "bool"
  | .int _ => "int"
  | .float _ => "float"
  | .text _ => "str"
  | .list _ => "list"
  | .object _ => "dict"

/-- A datum has a text: no integer in it has too many digits. -/
def HasText (d : Datum) : Prop :=
  d.display?.isSome = true

instance (d : Datum) : Decidable d.HasText :=
  inferInstanceAs (Decidable (d.display?.isSome = true))

@[simp] theorem text?_text (s : String) : (Datum.text s).text? = some s := rfl

@[simp] theorem cellText?_null : Datum.null.cellText? = some "" := rfl

@[simp] theorem cellText?_text (s : String) : (Datum.text s).cellText? = some s := rfl

theorem hasText_null : Datum.null.HasText := rfl

theorem hasText_text (s : String) : (Datum.text s).HasText := rfl

theorem hasText_ofCell (cell : Option String) : (ofCell cell).HasText := by
  cases cell <;> rfl

/-- What a datum is shown as and what it stands for are there together. -/
theorem isSome_text?_iff {d : Datum} : d.text?.isSome = true ↔ d.HasText := by
  cases d <;> exact Iff.rfl

theorem isSome_cellText?_iff {d : Datum} : d.cellText?.isSome = true ↔ d.HasText := by
  cases d <;> exact Iff.rfl

end Datum

end ConfigTables
