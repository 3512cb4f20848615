import ConfigTables.Value.Delimiter

/-!
# Invocations

What an argument list may ask for. How the list is read is not the business of this library: a
package does that, and says which `Invocation` an argument list is.
-/

namespace ConfigTables

/-- What the options of a command amount to. -/
structure Settings where
  delimiter : String := Delimiter.comma.text
  strict : Bool := false
  quiet : Bool := false
  deriving DecidableEq, Repr

/-- A command with its operands. -/
inductive Command where
  | run (input output : String) (settings : Settings)
  | validate (input : String) (settings : Settings)
  | inspect (workbook : String)
  deriving DecidableEq, Repr

/-- What an argument list asks for. -/
inductive Invocation where
  | usageError
  | help
  | version
  | command (command : Command)
  deriving DecidableEq, Repr

/-- How argument lists are read. -/
abbrev ArgumentParser := List String → Invocation

end ConfigTables
