import ConfigTables.Datum.Json
import ConfigTables.Text.Loose

/-!
# Payloads

A `Payload` is what callers may hand over to be written as JSON. Beside data it may hold paths,
dates and sets, which are written as texts and lists, boxes with a value in them, objects whose keys
are no texts, and objects of a shape that has no JSON form. Its texts are loose ones.

`Payload.json` is the JSON text of a payload, laid out as that of a datum, or says why there is
none. Entries are looked at in the order in which they are written, so of several values that cannot
be written the first in that order is reported. Whether the text can be encoded is another question,
which is asked when the text is complete (`Payload.encode`).
-/

namespace ConfigTables

/-- Why a payload is not written. -/
inductive PayloadFault where
  /-- A value of the named shape has no JSON form. -/
  | shapeless (shape : String)
  /-- A key of the named shape has no JSON form. -/
  | keyUnfit (shape : String)
  /-- An integer has too many digits. -/
  | tooManyDigits
  /-- A value fails with an error of its own, of the given kind, when it is looked at. -/
  | own (kind message : String)
  /-- Surrogates follow one another in the text from a position on. -/
  | surrogates (position : Nat) (found : List CodePoint)
  deriving DecidableEq, Repr

namespace PayloadFault

/-- The wording of a fault. -/
def message : PayloadFault → String
  | shapeless shape => "Object of type " ++ shape ++ " is not JSON serializable"
  | keyUnfit shape => "keys must be str, int, float, bool or None, not " ++ shape
  | tooManyDigits => Datum.digitLimitMessage
  | own _ message => message
  | surrogates position [first] =>
    "'utf-8' codec can't encode character '\\u" ++
      String.ofList (Text.hexDigits 4 first.value) ++ "' in position " ++ toString position ++
      ": surrogates not allowed"
  | surrogates position found =>
    "'utf-8' codec can't encode characters in position " ++ toString position ++ "-" ++
      toString (position + found.length - 1) ++ ": surrogates not allowed"

end PayloadFault

/-- The key of an entry of an object. -/
inductive PayloadKey where
  | null
  | bool (value : Bool)
  | int (value : Int)
  | float (value : Floating)
  | text (value : LooseText)
  /-- A key of another shape. -/
  | other (shape : String)
  deriving Repr

/-- A value to be written as JSON. -/
inductive Payload where
  | null
  | bool (value : Bool)
  | int (value : Int)
  | float (value : Floating)
  | text (value : LooseText)
  | list (items : List Payload)
  /-- An object whose keys are texts. -/
  | object (entries : List (LooseText × Payload))
  /-- An object with other keys, its entries in the order of the keys. -/
  | keyed (entries : List (PayloadKey × Payload))
  /-- A path, by its text. -/
  | path (text : LooseText)
  /-- A date, or a date and a time, in ISO form. -/
  | moment (iso : String)
  /-- A set, its members in their order. -/
  | set (members : List Payload)
  /-- A value of the named shape that gives another one for itself when it is asked. -/
  | boxed (shape : String) (content : Payload)
  /-- A value that fails with an error of its own when it is looked at, such as a set whose members
  have no order, or a list that holds itself. -/
  | failing (kind message : String)
  /-- A value without a JSON form, of the named shape. -/
  | shapeless (shape : String)
  deriving Repr, Inhabited

namespace Payload

/-- A set of texts. -/
def textSet (members : List LooseText) : Payload :=
  .set ((members.mergeSort fun a b ↦ decide (a ≤ b)).eraseReps.map .text)

/-- A set of integers. -/
def intSet (members : List Int) : Payload :=
  .set ((members.mergeSort fun a b ↦ decide (a ≤ b)).eraseReps.map .int)

/-- Whether a value is neither a list nor an object and has a JSON form by itself. Only such values
are taken out of a box. -/
def isScalar : Payload → Bool
  | .null | .bool _ | .int _ | .float _ | .text _ => true
  | _ => false

/-! ### JSON texts -/

/-- One code point of a JSON text. -/
def jsonPoint : CodePoint → LooseText
  | .char c => .ofChars (Datum.jsonChar c)
  | point => [point]

/-- A loose text between quotation marks. -/
def jsonText (s : LooseText) : LooseText :=
  .char '"' :: s.flatMap jsonPoint ++ [.char '"']

/-- An integer in JSON text. -/
def jsonInt (n : Int) : Except PayloadFault LooseText :=
  if Datum.isWritable n then .ok (.ofChars (Datum.intChars n)) else .error .tooManyDigits

/-- The text that a key is written as. -/
def keyText : PayloadKey → Except PayloadFault LooseText
  | .null => .ok (.ofString "null")
  | .bool b => .ok (.ofString (if b then "true" else "false"))
  | .int n => jsonInt n
  | .float f => .ok (.ofChars f.jsonChars)
  | .text s => .ok s
  | .other shape => .error (.keyUnfit shape)

/-- An entry of an object in JSON text. -/
def jsonEntry (key value : LooseText) : LooseText :=
  jsonText key ++ .char ':' :: .char ' ' :: value

/-- The entries of an object in the order of their keys, or the first fault among them. -/
def gather (entries : List (LooseText × Except PayloadFault LooseText)) :
    Except PayloadFault (List LooseText) :=
  (Datum.sortByKey entries).mapM fun entry ↦ entry.2.map (jsonEntry entry.1)

mutual

/-- The JSON text of a payload that stands `depth` levels deep. -/
def jsonPoints (depth : Nat) : Payload → Except PayloadFault LooseText
  | .null => .ok (.ofString "null")
  | .bool b => .ok (.ofString (if b then "true" else "false"))
  | .int n => jsonInt n
  | .float f => .ok (.ofChars f.jsonChars)
  | .text s => .ok (jsonText s)
  | .list items => (jsonItems (depth + 1) items).map (Datum.bracketed .char '[' ']' depth)
  | .object entries =>
    (gather (jsonEntries (depth + 1) entries)).map (Datum.bracketed .char '\x7b' '\x7d' depth)
  | .keyed entries =>
    (jsonKeyed (depth + 1) entries).map (Datum.bracketed .char '\x7b' '\x7d' depth)
  | .path s => .ok (jsonText s)
  | .moment iso => .ok (jsonText (.ofString iso))
  | .set members => (jsonItems (depth + 1) members).map (Datum.bracketed .char '[' ']' depth)
  | .boxed shape content =>
    if content.isScalar then jsonPoints depth content else .error (.shapeless shape)
  | .failing kind message => .error (.own kind message)
  | .shapeless shape => .error (.shapeless shape)

/-- The JSON texts of the items of a list. -/
def jsonItems (depth : Nat) : List Payload → Except PayloadFault (List LooseText)
  | [] => .ok []
  | p :: ps =>
    match jsonPoints depth p with
    | .error fault => .error fault
    | .ok part => (jsonItems depth ps).map (part :: ·)

/-- What becomes of each entry of an object whose keys are texts. -/
def jsonEntries (depth : Nat) :
    List (LooseText × Payload) → List (LooseText × Except PayloadFault LooseText)
  | [] => []
  | (key, p) :: entries => (key, jsonPoints depth p) :: jsonEntries depth entries

/-- The entries of an object with other keys, from the first to the last. -/
def jsonKeyed (depth : Nat) :
    List (PayloadKey × Payload) → Except PayloadFault (List LooseText)
  | [] => .ok []
  | (key, p) :: entries =>
    match keyText key, jsonPoints depth p with
    | .error fault, _ => .error fault
    | _, .error fault => .error fault
    | .ok key, .ok value => (jsonKeyed depth entries).map (jsonEntry key value :: ·)

end

/-- The JSON text of a payload, and a line break. -/
def json (payload : Payload) : Except PayloadFault LooseText :=
  (jsonPoints 0 payload).map (· ++ [.char '\n'])

/-- A text of which the bytes in UTF-8 are to be written, if there are any. -/
def encode (text : LooseText) : Except PayloadFault String :=
  match text.string? with
  | some s => .ok s
  | none => .error (.surrogates text.surrogates.1 text.surrogates.2)

/-! ### Data -/

mutual

/-- The payload that holds just a datum. -/
def ofDatum : Datum → Payload
  | .null => .null
  | .bool b => .bool b
  | .int n => .int n
  | .float f => .float f
  | .text s => .text (.ofString s)
  | .list items => .list (ofItems items)
  | .object entries => .object (ofEntries entries)

/-- The payloads of a list of data. -/
def ofItems : List Datum → List Payload
  | [] => []
  | d :: ds => ofDatum d :: ofItems ds

/-- The payloads of the entries of an object. -/
def ofEntries : List (String × Datum) → List (LooseText × Payload)
  | [] => []
  | (key, d) :: entries => (.ofString key, ofDatum d) :: ofEntries entries

end

end Payload

end ConfigTables
