/-!
# Delimiters

The delimiter between the elements of an array cell is a text that whoever starts a conversion may
choose. Splitting at the empty text means nothing, so a `Delimiter` is never empty, and whoever
holds one need not ask again.
-/

namespace ConfigTables

/-- What stands between the elements of an array cell. -/
structure Delimiter where
  text : String
  text_ne : text ≠ "" := by decide

namespace Delimiter

/-- The delimiter unless another one is chosen. -/
def comma : Delimiter := { text := "," }

/-- The delimiter with a text, unless the text is empty. -/
def ofText? (text : String) : Option Delimiter :=
  if h : text ≠ "" then some { text, text_ne := h } else none

/-- What is said about a choice that is no delimiter. -/
def refusal : String := "array_delimiter must not be empty"

/-- The check lets through exactly the delimiters, each as its own text. -/
theorem ofText?_eq_some_iff {text : String} {delimiter : Delimiter} :
    ofText? text = some delimiter ↔ delimiter.text = text := by
  cases delimiter with
  | mk t ht =>
    constructor
    · intro h
      by_cases empty : text = ""
      · simp [ofText?, empty] at h
      · simpa [ofText?, empty, eq_comm] using h
    · rintro rfl
      simp [ofText?, ht]

theorem ofText?_eq_none_iff {text : String} : ofText? text = none ↔ text = "" := by
  simp [ofText?]

end Delimiter

end ConfigTables
