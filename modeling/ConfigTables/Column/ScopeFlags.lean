import ConfigTables.Fault

/-!
# Scope cells

A scope cell holds the letters of the audiences a column is exported for, each at most once, in
either order, with white space allowed around them. An empty cell is the scope of nobody.
-/

namespace ConfigTables.Scope

/-- Reads the letters of a scope, naming the whole cell if they are no scope. -/
def parseFlags (cell : String) (letters : List Char) : Except Fault Scope :=
  if letters.length > Audience.all.length then
    .error (.scopeTooLong cell)
  else if ¬ letters.Nodup then
    .error (.scopeRepeats cell)
  else match letters.find? fun c ↦ (Audience.ofFlag? c).isNone with
    | some c => .error (.scopeFlagUnknown cell c)
    | none => .ok (ofList (letters.filterMap Audience.ofFlag?))

/-- Reads a scope cell. -/
def parse (cell : Datum) : Except (Failure Fault) Scope :=
  if cell.isBlank then .ok empty
  else match cell with
    | .text s => (parseFlags s (Text.trimChars s.toList)).mapError .fault
    | other => .error (.quoting other .scopeNotText)

theorem parse_of_isBlank {cell : Datum} (h : cell.isBlank = true) : parse cell = .ok empty := by
  simp [parse, h]

end ConfigTables.Scope
