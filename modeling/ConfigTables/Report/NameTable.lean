import ConfigTables.Datum.Json
import ConfigTables.Report.Field

/-!
# Tables of names

A field that is a table is given as an object or as a list of pairs. Pairs are entered one after
the other, so what is refused is the first item that is no pair or whose key cannot be one. Keys
are texts, numbers, truth values and null; lists and objects are none. Numbers are compared by what
they are worth, so `1`, `1.0` and true are one key. Of several pairs with one key the first says
how the key is written, and the last says its value.
-/

namespace ConfigTables.NameTable

/-- The number that a key is worth, as a numerator and the power of ten below it. A truth value is
worth one or nothing. -/
def worth? : Datum → Option (Int × Nat)
  | .bool true => some (1, 0)
  | .bool false => some (0, 0)
  | .int n => some (n, 0)
  | .float (.finite negative digits exponent) =>
    let numerator := Int.ofNat (digits * Nat.pow 10 exponent.toNat)
    some (if negative then -numerator else numerator, (-exponent).toNat)
  | _ => none

/-- Whether two keys are one. -/
def sameKey : Datum → Datum → Bool
  | .null, .null => true
  | .text s, .text t => s == t
  | .float (.infinite negative), .float (.infinite other) => negative == other
  | key, other =>
    match worth? key, worth? other with
    | some (m, j), some (n, k) => m * Nat.pow 10 k == n * Nat.pow 10 j
    | _, _ => false

/-- Whether a datum may be a key. -/
def isKey : Datum → Bool
  | .list _ | .object _ => false
  | _ => true

/-- A table with a value under a key, in place of the value that was there. -/
def put (key value : Datum) : List (Datum × Datum) → List (Datum × Datum)
  | [] => [(key, value)]
  | entry :: entries =>
    if sameKey entry.1 key then (entry.1, value) :: entries else entry :: put key value entries

/-- The key and the value in an item of a list of pairs. -/
def readPair (position : Nat) (item : Datum) : Except FieldFault (Datum × Datum) :=
  match item.members? with
  | none => .error (.entryNotPair position none)
  | some [key, value] => if isKey key then .ok (key, value) else .error (.keyUnfit key)
  | some members => .error (.entryNotPair position (some members.length))

/-- The table of a list of pairs. -/
def ofPairs (items : List Datum) : Except FieldFault (List (Datum × Datum)) :=
  items.zipIdx.foldlM
    (fun table item ↦ (readPair item.2 item.1).map fun pair ↦ put pair.1 pair.2 table) []

/-- The name that a key is written as. -/
def keyName : Datum → String
  | .text s => s
  | key => key.json

/-- Reads a table of names. -/
def read : Datum → Except FieldFault (List (String × Datum))
  | .object entries => .ok entries
  | found =>
    match found.members? with
    | some items => (ofPairs items).map (·.map fun entry ↦ (keyName entry.1, entry.2))
    | none => .error (.notIterable found)

end ConfigTables.NameTable
