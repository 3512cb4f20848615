import ConfigTables.Datum.Display

/-!
# Data as JSON text

`Datum.json` writes a datum as indented JSON: two spaces a level, one item or entry a line, entries
sorted by key, empty lists and objects without a line break. Texts are written as they are; escaped
are only the quotation mark, the backslash and the control characters below U+0020. Since keys are
sorted, the order in which an object's entries were put together leaves no trace. Floating-point
numbers are written as in messages, but for those that are not finite.
-/

namespace ConfigTables

/-- A floating-point number in JSON text. -/
def Floating.jsonChars : Floating → List Char
  | finite negative digits exponent => signed negative (magnitude digits exponent)
  | infinite negative => signed negative "Infinity".toList
  | nan => "NaN".toList

namespace Datum

/-- One character of a JSON text. -/
def jsonChar (c : Char) : List Char :=
  if c = '"' || c = '\\' then ['\\', c]
  else if c = '\n' then ['\\', 'n']
  else if c = '\r' then ['\\', 'r']
  else if c = '\t' then ['\\', 't']
  else if c = '\x0c' then ['\\', 'f']
  else if c = '\x08' then ['\\', 'b']
  else if c.toNat < 0x20 then '\\' :: 'u' :: Text.hexDigits 4 c.toNat
  else [c]

/-- A text between quotation marks. -/
def jsonText (s : String) : List Char :=
  '"' :: s.toList.flatMap jsonChar ++ ['"']

/-- A line break and the indentation of a level. -/
def newLine (depth : Nat) : List Char :=
  '\n' :: List.replicate (2 * depth) ' '

/-- Parts separated by commas, each on a line of its own, between an opening and a closing bracket.
The parts may be made of other things than characters, if characters can be taken for such. -/
def bracketed {α : Type} (embed : Char → α) (opening closing : Char) (depth : Nat) :
    List (List α) → List α
  | [] => [embed opening, embed closing]
  | part :: parts =>
    embed opening :: (newLine (depth + 1)).map embed ++ part ++
      parts.flatMap (fun more ↦ embed ',' :: (newLine (depth + 1)).map embed ++ more) ++
      (newLine depth).map embed ++ [embed closing]

/-- Entries in the order of their keys. -/
def sortByKey {κ α : Type} [LE κ] [DecidableLE κ] (entries : List (κ × α)) : List (κ × α) :=
  entries.mergeSort fun a b ↦ decide (a.1 ≤ b.1)

mutual

/-- The JSON text of a datum that stands `depth` levels deep. -/
def jsonChars (depth : Nat) : Datum → List Char
  | .null => ['n', 'u', 'l', 'l']
  | .bool true => ['t', 'r', 'u', 'e']
  | .bool false => ['f', 'a', 'l', 's', 'e']
  | .int n => intChars n
  | .float f => f.jsonChars
  | .text s => jsonText s
  | .list items => bracketed id '[' ']' depth (jsonItems (depth + 1) items)
  | .object entries =>
    bracketed id '\x7b' '\x7d' depth
      ((sortByKey (jsonEntries (depth + 1) entries)).map fun entry ↦
        jsonText entry.1 ++ ':' :: ' ' :: entry.2)

/-- The JSON texts of the items of a list. -/
def jsonItems (depth : Nat) : List Datum → List (List Char)
  | [] => []
  | d :: ds => jsonChars depth d :: jsonItems depth ds

/-- The keys of an object with the JSON texts of its values. -/
def jsonEntries (depth : Nat) : List (String × Datum) → List (String × List Char)
  | [] => []
  | (key, d) :: entries => (key, jsonChars depth d) :: jsonEntries depth entries

end

/-- The JSON text of a datum. -/
def json (d : Datum) : String :=
  String.ofList (jsonChars 0 d)

theorem jsonItems_eq_map (depth : Nat) (ds : List Datum) :
    jsonItems depth ds = ds.map (jsonChars depth) := by
  induction ds with
  | nil => rfl
  | cons d ds ih => simp [jsonItems, ih]

theorem jsonEntries_eq_map (depth : Nat) (entries : List (String × Datum)) :
    jsonEntries depth entries = entries.map fun entry ↦ (entry.1, jsonChars depth entry.2) := by
  induction entries with
  | nil => rfl
  | cons entry entries ih => simp [jsonEntries, ih]

end Datum

end ConfigTables
