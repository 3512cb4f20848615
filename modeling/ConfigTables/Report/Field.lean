import ConfigTables.Datum.Display

/-!
# Report fields

Reports are built from fields that may hold anything. `readCount` and `readTexts` accept a
field or say what is wrong with it; a `FieldFault` keeps the cause, and `FieldFault.message` words
it.
-/

namespace ConfigTables

/-- What became of a tab, or of a workbook that could not be read. -/
inductive SheetStatus where
  | converted
  | skipped
  | malformed
  | invalidValues
  | unreadable
  deriving DecidableEq, Repr

namespace SheetStatus

/-- All statuses, in the order in which messages list them. -/
def all : List SheetStatus := [.converted, .skipped, .malformed, .invalidValues, .unreadable]

/-- The word for a status in a report. -/
def name : SheetStatus → String
  | .converted => "converted"
  | .skipped => "skipped"
  | .malformed => "malformed"
  | .invalidValues => "invalid_values"
  | .unreadable => "unreadable"

/-- The status that a word names. -/
def ofName? (word : String) : Option SheetStatus :=
  all.find? fun status ↦ status.name == word

/-- Whether a status is a failure. -/
def failed : SheetStatus → Bool
  | .malformed | .invalidValues | .unreadable => true
  | .converted | .skipped => false

theorem ofName?_name (status : SheetStatus) : ofName? status.name = some status := by
  cases status <;> decide

end SheetStatus

/-- Why the fields of a report are refused. -/
inductive FieldFault where
  /-- A record has no such field. -/
  | unknown (record field : String)
  /-- A field has the name by which a record calls itself. -/
  | ownName (record : String)
  | statusUnknown
  | notInteger (field : String)
  | negative (field : String)
  /-- A list of texts is a single text. -/
  | notSequence (field : String)
  /-- A field that is gone through item by item has no items. -/
  | notIterable (found : Datum)
  | itemNotText (field : String)
  /-- More rows came out than went in. -/
  | rowsExceed
  /-- An entry of a table of names is not a pair. -/
  | entryNotPair (position : Nat) (length : Option Nat)
  /-- The key of an entry of a table of names cannot be one. -/
  | keyUnfit (found : Datum)
  deriving Repr, BEq

/-- The name by which a record calls itself, which is therefore none of its fields. -/
def FieldFault.selfName : String := "self"

/-- Why a record refuses a field that it does not have. -/
def FieldFault.ofUnknown (record field : String) : FieldFault :=
  if field = selfName then .ownName record else .unknown record field

/-- The wording of a refusal. Names of fields stand in it as they are. -/
def FieldFault.message : FieldFault → String
  | unknown record field =>
    record ++ ".__init__() got an unexpected keyword argument '" ++ field ++ "'"
  | ownName record => record ++ ".__init__() got multiple values for argument '" ++ selfName ++ "'"
  | statusUnknown => "status must be one of " ++ ", ".intercalate (SheetStatus.all.map (·.name))
  | notInteger field => field ++ " must be an integer"
  | negative field => field ++ " must be >= 0"
  | notSequence field => field ++ " must be a sequence of strings"
  | notIterable found => "'" ++ found.shapeName ++ "' object is not iterable"
  | itemNotText field => field ++ " items must be strings"
  | rowsExceed => "rows_out must be <= rows_in"
  | entryNotPair position none =>
    "cannot convert dictionary update sequence element #" ++ toString position ++ " to a sequence"
  | entryNotPair position (some length) =>
    "dictionary update sequence element #" ++ toString position ++ " has length " ++
      toString length ++ "; 2 is required"
  | keyUnfit found => "unhashable type: '" ++ found.shapeName ++ "'"

/-- Whether a refusal is about the shape of a field and not about its value. -/
def FieldFault.isAboutShape : FieldFault → Bool
  | unknown .. | ownName _ | notInteger _ | notSequence _ | notIterable _ | itemNotText _
  | keyUnfit _ => true
  | statusUnknown | negative _ | rowsExceed => false
  | entryNotPair _ length => length.isNone

namespace Field

/-- Reads a number of things. A truth value is no number. -/
def readCount (field : String) : Datum → Except FieldFault Nat
  | .int n => if n < 0 then .error (.negative field) else .ok n.toNat
  | _ => .error (.notInteger field)

/-- Reads the items of a list of texts. -/
def textItems (field : String) : List Datum → Except FieldFault (List String)
  | [] => .ok []
  | .text s :: items => (textItems field items).map (s :: ·)
  | _ :: _ => .error (.itemNotText field)

/-- Reads a list of texts, for which null stands when it is empty. -/
def readTexts (field : String) : Datum → Except FieldFault (List String)
  | .null => .ok []
  | .text _ => .error (.notSequence field)
  | found =>
    match found.members? with
    | some items => textItems field items
    | none => .error (.notIterable found)

/-- Reads a status by its word. -/
def readStatus : Datum → Except FieldFault SheetStatus
  | .text word =>
    match SheetStatus.ofName? word with
    | some status => .ok status
    | none => .error .statusUnknown
  | _ => .error .statusUnknown

theorem readCount_int {field : String} {n : Nat} : readCount field (.int n) = .ok n := by
  simp [readCount]

theorem readTexts_texts (field : String) (items : List String) :
    readTexts field (.list (items.map .text)) = .ok items := by
  suffices textItems field (items.map .text) = .ok items by simpa [readTexts, Datum.members?]
  induction items with
  | nil => rfl
  | cons s ss ih => simp [textItems, ih, Except.map]

end Field

end ConfigTables
