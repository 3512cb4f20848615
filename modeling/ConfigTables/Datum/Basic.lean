import ConfigTables.Text.Blank

/-!
# Raw data

A `Datum` is what a cell, a row or a report field may hold before anybody has looked at it: null, a
truth value, a number, a text, a list, or an object with named entries. Sheets usually hold texts
and nulls; the other shapes come from callers that hand over data of their own, and every rule of
the library says what it makes of them. Typed values and documents are data as well.

A floating-point number is given by decimal digits that stand for it; how they are found is not
modelled. Objects keep the order of their entries.
-/

namespace ConfigTables

/-- A floating-point number. -/
inductive Floating where
  /-- The number `digits * 10 ^ exponent`, negated if `negative` holds. -/
  | finite (negative : Bool) (digits : Nat) (exponent : Int)
  | infinite (negative : Bool)
  | nan
  deriving DecidableEq, Repr

/-- A value of any shape. -/
inductive Datum where
  | null
  | bool (value : Bool)
  | int (value : Int)
  | float (value : Floating)
  | text (value : String)
  | list (items : List Datum)
  | object (entries : List (String × Datum))
  deriving Repr, BEq, Inhabited

namespace Datum

/-- The datum of a cell that holds a text or nothing. -/
def ofCell : Option String → Datum
  | none => .null
  | some s => .text s

/-- Whether a cell counts as empty: it holds nothing, or a text with nothing but white space. -/
def isBlank : Datum → Bool
  | .null => true
  | .text s => Text.isBlank s
  | _ => false

/-- The cells of a row that is a list; any other row has no cells. -/
def cells? : Datum → Option (List Datum)
  | .list items => some items
  | _ => none

/-- The members of a value that can be gone through one by one: the items of a list, the
characters of a text, the keys of an object. -/
def members? : Datum → Option (List Datum)
  | .list items => some items
  | .text s => some (s.toList.map fun c ↦ .text (String.singleton c))
  | .object entries => some (entries.map fun entry ↦ .text entry.1)
  | _ => none

/-- The entry of an object under a key. -/
def field? (key : String) : Datum → Option Datum
  | .object entries => entries.lookup key
  | _ => none

@[simp] theorem ofCell_none : ofCell none = .null := rfl

@[simp] theorem ofCell_some (s : String) : ofCell (some s) = .text s := rfl

theorem isBlank_ofCell (cell : Option String) :
    (ofCell cell).isBlank = cell.all Text.isBlank := by
  cases cell <;> rfl

end Datum

end ConfigTables
