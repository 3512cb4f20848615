/-!
# Columns

The compiled form of a config sheet's columns. A column has a position and a label for its readers;
an exported one also has an `Output`: the name under which its values are written, the audiences
that may see them, and their type. A column without an output is an annotation, and nothing of it
leaves the sheet.
-/

namespace ConfigTables

/-- The types of single values. -/
inductive ScalarType where
  | string
  | int
  | bool
  | any
  deriving DecidableEq, Repr

namespace ScalarType

/-- All scalar types, in the order in which messages list them. -/
def all : List ScalarType := [.string, .int, .bool, .any]

/-- The word for a scalar type in a type expression. -/
def name : ScalarType → String
  | .string => "string"
  | .int => "int"
  | .bool => "bool"
  | .any => "any"

/-- The scalar type that a word names. -/
def ofName? (word : String) : Option ScalarType :=
  all.find? fun t ↦ t.name == word

theorem ofName?_name (t : ScalarType) : ofName? t.name = some t := by
  cases t <;> decide

theorem name_of_ofName? {word : String} {t : ScalarType} (h : ofName? word = some t) :
    t.name = word := by
  simpa using List.find?_some h

/-- A word names a scalar type exactly when it is that type's name. -/
theorem ofName?_eq_some_iff {word : String} {t : ScalarType} :
    ofName? word = some t ↔ word = t.name :=
  ⟨fun h ↦ (name_of_ofName? h).symm, fun h ↦ h ▸ ofName?_name t⟩

end ScalarType

/-- The type of a column: one value a cell, or an array of them. -/
inductive ColumnType where
  | scalar (element : ScalarType)
  | array (element : ScalarType)
  deriving DecidableEq, Repr

/-- The word that begins the expression of an array type. -/
def arrayWord : String := "array"

/-- The canonical expression of a column type. -/
def ColumnType.expression : ColumnType → String
  | .scalar element => element.name
  | .array element => arrayWord ++ ":" ++ element.name

/-- Who a column is exported for. -/
inductive Audience where
  | server
  | client
  deriving DecidableEq, Repr

namespace Audience

/-- Both audiences, in the order in which exports are written. -/
def all : List Audience := [.server, .client]

/-- The letter that stands for an audience in a scope cell. -/
def flag : Audience → Char
  | .server => 's'
  | .client => 'c'

/-- The audience that a letter stands for. -/
def ofFlag? (c : Char) : Option Audience :=
  all.find? fun a ↦ a.flag == c

theorem ofFlag?_flag (a : Audience) : ofFlag? a.flag = some a := by
  cases a <;> decide

theorem flag_of_ofFlag? {c : Char} {a : Audience} (h : ofFlag? c = some a) : a.flag = c := by
  simpa using List.find?_some h

end Audience

/-- A set of audiences. -/
structure Scope where
  server : Bool := false
  client : Bool := false
  deriving DecidableEq, Repr

namespace Scope

/-- The scope of nobody. -/
def empty : Scope := {}

/-- Whether a scope includes an audience. -/
def includes (scope : Scope) : Audience → Bool
  | .server => scope.server
  | .client => scope.client

/-- Whether a scope includes nobody. -/
def isEmpty (scope : Scope) : Bool :=
  !scope.server && !scope.client

/-- A scope with one more audience. -/
def insert (scope : Scope) : Audience → Scope
  | .server => { scope with server := true }
  | .client => { scope with client := true }

/-- The scope of the listed audiences. -/
def ofList (audiences : List Audience) : Scope :=
  audiences.foldl insert empty

/-- The letters of a scope, in alphabetical order. -/
def flags (scope : Scope) : List Char :=
  [Audience.client, Audience.server].filterMap fun a ↦
    if scope.includes a then some a.flag else none

theorem includes_insert (scope : Scope) (a b : Audience) :
    (scope.insert a).includes b = (b == a || scope.includes b) := by
  cases a <;> cases b <;> rfl

theorem includes_ofList (audiences : List Audience) (a : Audience) :
    (ofList audiences).includes a = audiences.contains a := by
  suffices ∀ scope : Scope, (audiences.foldl insert scope).includes a =
      (audiences.contains a || scope.includes a) by
    simpa [ofList, empty, includes] using (this empty).trans (by cases a <;> simp [empty, includes])
  induction audiences with
  | nil => simp
  | cons b bs ih =>
    intro scope
    rw [List.foldl_cons, ih, includes_insert, List.contains_cons, Bool.or_assoc, Bool.or_left_comm]

end Scope

/-- What an exported column contributes: a name, an audience and a type. -/
structure Output where
  name : String
  scope : Scope
  type : ColumnType
  deriving DecidableEq, Repr

/-- A column of a config sheet. -/
structure Column where
  /-- The position, which in a sheet is counted from zero. -/
  index : Int
  label : String
  output : Option Output
  deriving DecidableEq, Repr

namespace Column

/-- Whether a column is exported at all. -/
def isExported (column : Column) : Bool :=
  column.output.isSome

/-- Whether a column is exported for an audience. -/
def isSeenBy (column : Column) (audience : Audience) : Bool :=
  column.output.any (·.scope.includes audience)

end Column

end ConfigTables
