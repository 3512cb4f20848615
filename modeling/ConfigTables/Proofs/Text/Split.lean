import ConfigTables.Proofs.Text.Trimming
import ConfigTables.Text.Split
import Mathlib.Data.List.Infix

/-!
# Splitting and joining

A text is the join of its pieces (`intercalate_splitChars`), and no piece contains the delimiter
(`not_infix_of_mem_splitChars`). The other way round, the join of pieces that do not contain the
delimiter need not be split where it was joined: the delimiter may occur across a joint, where it
overlaps with itself. It cannot if no part of it, other than itself, is at once a beginning and an
end of it (`Unbordered`). For such delimiters splitting undoes joining (`splitChars_intercalate`).

The delimiter is not empty anywhere. Proofs about `splitChars` go by `splitChars_induction`, which
follows the search from the left and hides how characters of a delimiter are counted down.
-/

namespace ConfigTables.Text

variable {delimiter : List Char}

/-! ### The search from the left -/

/-- Characters that still belong to a delimiter are passed over. -/
theorem splitSkip_eq_splitChars (skip : Nat) (cs : List Char) :
    splitSkip delimiter skip cs = splitChars delimiter (cs.drop skip) := by
  induction skip generalizing cs with
  | zero => rfl
  | succ skip ih =>
    cases cs with
    | nil => rfl
    | cons c cs => exact ih cs

theorem splitChars_append (hne : delimiter ≠ []) (cs : List Char) :
    splitChars delimiter (delimiter ++ cs) = [] :: splitChars delimiter cs := by
  obtain ⟨c, rest, rfl⟩ := List.exists_cons_of_ne_nil hne
  have hstarts : (c :: rest).isPrefixOf (c :: (rest ++ cs)) = true :=
    List.isPrefixOf_iff_prefix.2 (List.prefix_append (c :: rest) cs)
  rw [splitChars, List.cons_append, splitSkip, if_pos hstarts, splitSkip_eq_splitChars,
    List.length_cons, Nat.add_sub_cancel, List.drop_left]

theorem splitChars_cons {c : Char} {cs : List Char} (h : ¬delimiter <+: c :: cs) :
    splitChars delimiter (c :: cs) = consFirst c (splitChars delimiter cs) := by
  rw [← List.isPrefixOf_iff_prefix] at h
  rw [splitChars, splitSkip, if_neg h]
  rfl

/-- A text is empty, or begins with the delimiter, or begins with a character of its first piece. -/
theorem splitChars_induction (hne : delimiter ≠ []) {motive : List Char → Prop} (nil : motive [])
    (hit : ∀ cs, motive cs → motive (delimiter ++ cs))
    (miss : ∀ c cs, ¬delimiter <+: c :: cs → motive cs → motive (c :: cs)) (cs : List Char) :
    motive cs := by
  induction hlength : cs.length using Nat.strong_induction_on generalizing cs with
  | _ length ih =>
    subst hlength
    by_cases hstarts : delimiter <+: cs
    · obtain ⟨rest, rfl⟩ := hstarts
      have hpos := List.length_pos_iff.2 hne
      exact hit rest (ih _ (by rw [List.length_append]; omega) rest rfl)
    · cases cs with
      | nil => exact nil
      | cons c cs => exact miss c cs hstarts (ih _ (Nat.lt_succ_self _) cs rfl)

/-! ### The pieces of a text -/

theorem consFirst_ne_nil (c : Char) (pieces : List (List Char)) : consFirst c pieces ≠ [] := by
  cases pieces <;> exact List.cons_ne_nil _ _

theorem splitChars_ne_nil (hne : delimiter ≠ []) (cs : List Char) :
    splitChars delimiter cs ≠ [] := by
  induction cs using splitChars_induction hne with
  | nil => exact List.cons_ne_nil _ _
  | hit cs _ =>
    rw [splitChars_append hne]
    exact List.cons_ne_nil _ _
  | miss c cs h _ =>
    rw [splitChars_cons h]
    exact consFirst_ne_nil c _

theorem intercalate_consFirst (c : Char) (pieces : List (List Char)) :
    delimiter.intercalate (consFirst c pieces) = c :: delimiter.intercalate pieces := by
  rcases pieces with _ | ⟨first, _ | ⟨second, rest⟩⟩
  · simp [consFirst]
  · simp [consFirst]
  · simp [consFirst, List.intercalate_cons_cons]

/-- **Joining after splitting**: nothing of a text is lost. -/
theorem intercalate_splitChars (hne : delimiter ≠ []) (cs : List Char) :
    delimiter.intercalate (splitChars delimiter cs) = cs := by
  induction cs using splitChars_induction hne with
  | nil => exact List.intercalate_singleton
  | hit cs ih =>
    rw [splitChars_append hne, List.intercalate_cons_of_ne_nil (splitChars_ne_nil hne cs), ih,
      List.nil_append]
  | miss c cs h ih => rw [splitChars_cons h, intercalate_consFirst, ih]

/-- A text begins with its first piece. -/
theorem prefix_of_splitChars_eq_cons (hne : delimiter ≠ []) {cs first : List Char}
    {rest : List (List Char)} (h : splitChars delimiter cs = first :: rest) : first <+: cs := by
  rw [← intercalate_splitChars hne cs, h]
  cases rest with
  | nil => rw [List.intercalate_singleton]
  | cons second rest =>
    rw [List.intercalate_cons_cons, List.append_assoc]
    exact List.prefix_append _ _

/-- No piece contains the delimiter. -/
theorem not_infix_of_mem_splitChars (hne : delimiter ≠ []) {cs piece : List Char}
    (h : piece ∈ splitChars delimiter cs) : ¬delimiter <:+: piece := by
  -- The induction is on where the next delimiter begins.
  induction cs using splitChars_induction hne generalizing piece with
  | nil =>
    rw [List.mem_singleton.1 h, List.infix_nil]
    exact hne
  | hit cs ih =>
    rw [splitChars_append hne] at h
    rcases List.mem_cons.1 h with rfl | h
    · rw [List.infix_nil]
      exact hne
    · exact ih h
  | miss c cs hmiss ih =>
    obtain ⟨first, rest, hsplit⟩ := List.exists_cons_of_ne_nil (splitChars_ne_nil hne cs)
    rw [splitChars_cons hmiss, hsplit] at h
    rw [hsplit] at ih
    rcases List.mem_cons.1 h with rfl | h
    · -- The first piece got longer by a character at which no delimiter begins.
      rw [List.infix_cons_iff, not_or]
      refine ⟨fun hstarts ↦ hmiss (hstarts.trans ?_), ih List.mem_cons_self⟩
      exact List.cons_prefix_cons.2 ⟨rfl, prefix_of_splitChars_eq_cons hne hsplit⟩
    · exact ih (List.mem_cons_of_mem _ h)

/-! ### Delimiters that do not overlap with themselves -/

/-- A text without the delimiter is its only piece. -/
theorem splitChars_eq_singleton {piece : List Char} (h : ¬delimiter <:+: piece) :
    splitChars delimiter piece = [piece] := by
  induction piece with
  | nil => rfl
  | cons c piece ih =>
    rw [List.infix_cons_iff, not_or] at h
    rw [splitChars_cons h.1, ih h.2]
    rfl

/-- No text other than the whole delimiter is at once a beginning and an end of it. -/
def Unbordered (delimiter : List Char) : Prop :=
  ∀ border, border ≠ [] → border <+: delimiter → border <:+ delimiter → border = delimiter

theorem unbordered_singleton (c : Char) : Unbordered [c] := by
  intro border hborder hstarts _
  exact hstarts.eq_of_length_le (List.length_pos_iff.2 hborder)

/-- Before a joint the delimiter begins only inside of the piece, so it does not begin in front of
one that does not contain it. -/
theorem Unbordered.not_prefix (h : Unbordered delimiter) {piece : List Char} (hpiece : piece ≠ [])
    (hfree : ¬delimiter <:+: piece) (cs : List Char) :
    ¬delimiter <+: piece ++ (delimiter ++ cs) := by
  intro hstarts
  rcases List.prefix_or_prefix_of_prefix hstarts (List.prefix_append piece _) with
    hinside | ⟨border, hborder⟩
  · exact hfree hinside.isInfix
  · -- The delimiter is the piece and the beginning of the one behind the piece.
    rw [← hborder, List.prefix_append_right_inj, hborder] at hstarts
    have hlength := congrArg List.length hborder
    rw [List.length_append] at hlength
    have hbegins : border <+: delimiter :=
      List.prefix_of_prefix_length_le hstarts (List.prefix_append delimiter cs) (by omega)
    have hne : border ≠ [] := by
      rintro rfl
      rw [List.append_nil] at hborder
      exact hfree (hborder ▸ List.infix_rfl)
    have heq := congrArg List.length (h border hne hbegins ⟨piece, hborder⟩)
    have hpos := List.length_pos_iff.2 hpiece
    omega

/-- A piece ends at the delimiter behind it. -/
theorem Unbordered.splitChars_append_append (h : Unbordered delimiter) (hne : delimiter ≠ [])
    {piece : List Char} (hfree : ¬delimiter <:+: piece) (cs : List Char) :
    splitChars delimiter (piece ++ delimiter ++ cs) = piece :: splitChars delimiter cs := by
  rw [List.append_assoc]
  induction piece with
  | nil => exact splitChars_append hne cs
  | cons c piece ih =>
    have hmiss := h.not_prefix (List.cons_ne_nil c piece) hfree cs
    rw [List.infix_cons_iff, not_or] at hfree
    rw [List.cons_append] at hmiss ⊢
    rw [splitChars_cons hmiss, ih hfree.2]
    rfl

/-- **Splitting after joining**: a delimiter that does not overlap with itself is found at the
joints and nowhere else. -/
theorem Unbordered.splitChars_intercalate (h : Unbordered delimiter) (hne : delimiter ≠ [])
    {pieces : List (List Char)} (hpieces : pieces ≠ [])
    (hfree : ∀ piece ∈ pieces, ¬delimiter <:+: piece) :
    splitChars delimiter (delimiter.intercalate pieces) = pieces := by
  induction pieces with
  | nil => exact absurd rfl hpieces
  | cons piece pieces ih =>
    rw [List.forall_mem_cons] at hfree
    rcases pieces with _ | ⟨second, rest⟩
    · rw [List.intercalate_singleton, splitChars_eq_singleton hfree.1]
    · rw [List.intercalate_cons_cons, h.splitChars_append_append hne hfree.1,
        ih (List.cons_ne_nil _ _) hfree.2]

/-- Trimming the pieces of a join leaves all of its characters that are no white space. -/
theorem all_isBlankChar_intercalate_trimChars (pieces : List (List Char)) :
    (delimiter.intercalate (pieces.map trimChars)).all isBlankChar =
      (delimiter.intercalate pieces).all isBlankChar := by
  induction pieces with
  | nil => rfl
  | cons piece pieces ih =>
    rcases pieces with _ | ⟨second, rest⟩
    · simp [all_isBlankChar_trimChars]
    · rw [List.map_cons, List.map_cons, List.intercalate_cons_cons, List.intercalate_cons_cons,
        ← List.map_cons, List.all_append, List.all_append, List.all_append, List.all_append, ih,
        all_isBlankChar_trimChars]

end ConfigTables.Text
