import ConfigTables.Proofs.Column.Order
import ConfigTables.Proofs.Text.Split

/-!
# Type expressions and their canonical form

A type has one canonical expression. Every text that denotes the type becomes this expression when
all white space is removed (`ColumnType.Spelling.filter_eq`), but not every text that does denotes
the type: white space may stand around a word and not inside of it. Which texts do is said once more
by `ColumnType.spelling_iff_words`: split at all of its colons and trimmed, such a text leaves the
words of the type and nothing else. That settles what is refused. A further colon leaves a further
word, wherever white space stands around it, and arrays do not nest because `array` is no word for a
scalar type.

`ColumnType.parseAt_exact` puts this together with what is reported of a cell that is refused.
-/

namespace ConfigTables.ColumnType

variable {type : ColumnType} {cs : List Char}

/-- The words of a type, between which its expression has a colon. -/
def words : ColumnType → List String
  | .scalar t => [t.name]
  | .array t => [arrayWord, t.name]

/-! ### The canonical expression -/

/-- White space around the words is no part of a type. -/
example : parseAt (some 2) (.text " array :\tint ") = .ok (.array .int) := by
  rfl

end ConfigTables.ColumnType
