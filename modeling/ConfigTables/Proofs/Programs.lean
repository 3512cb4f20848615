import Mathlib.Data.List.Forall2

/-!
# When programs succeed

The library's functions are programs in `Except`, and those that change files or a run's state are
programs in `EStateM`. A program made of steps succeeds exactly if its steps do, one after the
other; the lemmas here say so for each way of putting steps together, so that proofs take programs
apart with `obtain` and never unfold a bind.

Two programs that do the same but for a part of the state are compared step by step, too
(`EStateM.Parallel`).
-/

/-- In lists that are related item by item, every item of the first has one in the second. -/
theorem List.Forall₂.exists_of_mem {α β : Type} {related : α → β → Prop} {as : List α}
    {bs : List β} (h : List.Forall₂ related as bs) {a : α} (ha : a ∈ as) :
    ∃ b ∈ bs, related a b := by
  induction h with
  | nil => exact absurd ha List.not_mem_nil
  | cons hfirst _ ih =>
    rcases List.mem_cons.1 ha with rfl | ha
    · exact ⟨_, List.mem_cons_self, hfirst⟩
    · obtain ⟨b, hb, hrelated⟩ := ih ha
      exact ⟨b, List.mem_cons_of_mem _ hb, hrelated⟩

namespace Except

variable {ε ε' α β : Type}

theorem map_eq_ok_iff {f : α → β} {x : Except ε α} {b : β} :
    x.map f = .ok b ↔ ∃ a, x = .ok a ∧ f a = b := by
  cases x <;> simp [Except.map]

/-- Errors may be renamed without a change to results. -/
theorem mapError_eq_ok_iff {f : ε → ε'} {x : Except ε α} {a : α} :
    x.mapError f = .ok a ↔ x = .ok a := by
  cases x <;> simp [Except.mapError]

theorem mapError_eq_error_iff {f : ε → ε'} {x : Except ε α} {e : ε'} :
    x.mapError f = .error e ↔ ∃ e', x = .error e' ∧ f e' = e := by
  cases x <;> simp [Except.mapError]

/-- A function after a result that is none changes nothing about the error. -/
theorem map_eq_error_iff {f : α → β} {x : Except ε α} {e : ε} :
    x.map f = .error e ↔ x = .error e := by
  cases x <;> simp [Except.map]

theorem bind_eq_ok_iff {x : Except ε α} {f : α → Except ε β} {b : β} :
    (x >>= f) = .ok b ↔ ∃ a, x = .ok a ∧ f a = .ok b := by
  cases x <;> simp [bind, Except.bind]

/-- The second step is only reached with a result of the first, and either may fail. -/
theorem bind_eq_error_iff {x : Except ε α} {f : α → Except ε β} {e : ε} :
    (x >>= f) = .error e ↔ x = .error e ∨ ∃ a, x = .ok a ∧ f a = .error e := by
  cases x <;> simp [bind, Except.bind]

@[simp]
theorem bind_ok (a : α) (f : α → Except ε β) : (Except.ok a >>= f) = f a := rfl

/-- A pass over a list gives the results of its steps, item by item. -/
theorem mapM_eq_ok_iff {f : α → Except ε β} {as : List α} {bs : List β} :
    as.mapM f = .ok bs ↔ List.Forall₂ (fun a b ↦ f a = .ok b) as bs := by
  induction as generalizing bs with
  | nil => cases bs <;> simp [pure, Except.pure]
  | cons a as ih =>
    rw [List.mapM_cons, bind_eq_ok_iff, List.forall₂_cons_left_iff]
    constructor
    · rintro ⟨b, hb, h⟩
      obtain ⟨rest, hrest, h⟩ := bind_eq_ok_iff.1 h
      cases h
      exact ⟨b, rest, hb, ih.1 hrest, rfl⟩
    · rintro ⟨b, rest, hb, hrest, rfl⟩
      exact ⟨b, hb, bind_eq_ok_iff.2 ⟨rest, ih.2 hrest, rfl⟩⟩

/-- Where the errors of a pass are relabelled, those of its steps may be. -/
theorem mapError_mapM (g : ε → ε') (f : α → Except ε β) (as : List α) :
    (as.mapM f).mapError g = as.mapM fun a ↦ (f a).mapError g := by
  induction as with
  | nil => rfl
  | cons a as ih =>
    rw [List.mapM_cons, List.mapM_cons, ← ih]
    cases f a with
    | error e => rfl
    | ok b => cases as.mapM f <;> rfl

variable {f : α → Except ε β} {as : List α} {bs : List β}

/-- A pass succeeds if each of its steps does. -/
theorem exists_mapM_eq_ok (h : ∀ a ∈ as, ∃ b, f a = .ok b) : ∃ bs, as.mapM f = .ok bs := by
  induction as with
  | nil => exact ⟨[], rfl⟩
  | cons a as ih =>
    obtain ⟨b, hb⟩ := h a List.mem_cons_self
    obtain ⟨bs, hbs⟩ := ih fun a' ha' ↦ h a' (List.mem_cons_of_mem a ha')
    exact ⟨b :: bs, mapM_eq_ok_iff.2 (.cons hb (mapM_eq_ok_iff.1 hbs))⟩

/-- A pass fails at the first of its steps that does. -/
theorem mapM_eq_error_iff {e : ε} :
    as.mapM f = .error e ↔ ∃ before a after, as = before ++ a :: after ∧
      (∀ a' ∈ before, ∃ b, f a' = .ok b) ∧ f a = .error e := by
  -- The first member either fails or has a result, and then the first failure comes later.
  induction as with
  | nil => simp [pure, Except.pure]
  | cons a as ih =>
    rw [List.mapM_cons, bind_eq_error_iff]
    constructor
    · rintro (ha | ⟨b, hb, h⟩)
      · exact ⟨[], a, as, rfl, nofun, ha⟩
      · rcases bind_eq_error_iff.1 h with h | ⟨bs, -, h⟩
        · obtain ⟨before, a', after, rfl, hbefore, ha'⟩ := ih.1 h
          exact ⟨a :: before, a', after, rfl, List.forall_mem_cons.2 ⟨⟨b, hb⟩, hbefore⟩, ha'⟩
        · cases h
    · rintro ⟨_ | ⟨first, before⟩, a', after, heq, hbefore, ha'⟩
      · cases heq
        exact .inl ha'
      · cases heq
        obtain ⟨⟨b, hb⟩, hbefore⟩ := List.forall_mem_cons.1 hbefore
        have hrest := ih.2 ⟨before, a', after, rfl, hbefore, ha'⟩
        exact .inr ⟨b, hb, bind_eq_error_iff.2 (.inl hrest)⟩

/-- A pass that fails does so at one of its steps. -/
theorem exists_of_mapM_eq_error {e : ε} (h : as.mapM f = .error e) :
    ∃ a ∈ as, f a = .error e := by
  obtain ⟨before, a, after, rfl, -, ha⟩ := mapM_eq_error_iff.1 h
  exact ⟨a, List.mem_append_right before List.mem_cons_self, ha⟩

/-- A pass with a step that fails does so, at that step or before it. -/
theorem exists_mapM_eq_error {a : α} {e : ε} (ha : a ∈ as) (h : f a = .error e) :
    ∃ e', as.mapM f = .error e' := by
  rcases hrun : as.mapM f with e' | bs
  · exact ⟨e', rfl⟩
  · obtain ⟨b, -, hb⟩ := (mapM_eq_ok_iff.1 hrun).exists_of_mem ha
    cases h.symm.trans hb

end Except

namespace EStateM

variable {ε σ α β : Type}

theorem bind_eq_ok_iff {x : EStateM ε σ α} {f : α → EStateM ε σ β} {s t : σ} {b : β} :
    (x >>= f) s = .ok b t ↔ ∃ a u, x s = .ok a u ∧ f a u = .ok b t := by
  change EStateM.bind x f s = .ok b t ↔ _
  rw [EStateM.bind]
  cases x s <;> simp

theorem bind_of_ok {x : EStateM ε σ α} {f : α → EStateM ε σ β} {s t : σ} {a : α}
    (h : x s = .ok a t) : (x >>= f) s = f a t := by
  change EStateM.bind x f s = _
  rw [EStateM.bind, h]

theorem bind_of_error {x : EStateM ε σ α} {f : α → EStateM ε σ β} {s t : σ} {e : ε}
    (h : x s = .error e t) : (x >>= f) s = .error e t := by
  change EStateM.bind x f s = _
  rw [EStateM.bind, h]

/-- A program with a handler succeeds, or else the handler does where the program left off. -/
theorem tryCatch_eq_ok_iff {x : EStateM ε σ α} {handle : ε → EStateM ε σ α} {s t : σ} {a : α} :
    (tryCatch x handle) s = .ok a t ↔
      x s = .ok a t ∨ ∃ e u, x s = .error e u ∧ handle e u = .ok a t := by
  change EStateM.tryCatch x handle s = .ok a t ↔ _
  rw [EStateM.tryCatch]
  cases x s <;> simp [EStateM.Backtrackable.restore, EStateM.dummyRestore]

/-- A handler is not asked about a result. -/
theorem tryCatch_of_ok {x : EStateM ε σ α} {handle : ε → EStateM ε σ α} {s t : σ} {a : α}
    (h : x s = .ok a t) : (tryCatch x handle) s = .ok a t := by
  change EStateM.tryCatch x handle s = _
  rw [EStateM.tryCatch, h]

/-- A handler goes on in the state that the failure has left. -/
theorem tryCatch_of_error {x : EStateM ε σ α} {handle : ε → EStateM ε σ α} {s t : σ} {e : ε}
    (h : x s = .error e t) : (tryCatch x handle) s = handle e t := by
  change EStateM.tryCatch x handle s = _
  rw [EStateM.tryCatch, h]
  rfl

/-- A pass over a list goes on where its first part ended. -/
theorem forM_append_of_ok {f : α → EStateM ε σ PUnit} {as bs : List α} {s t : σ}
    (h : as.forM f s = .ok ⟨⟩ t) : (as ++ bs).forM f s = bs.forM f t := by
  induction as generalizing s with
  | nil =>
    cases h
    rfl
  | cons a as ih =>
    obtain ⟨_, between, hfirst, hrest⟩ := bind_eq_ok_iff.1 h
    exact (bind_of_ok hfirst).trans (ih hrest)

/-- A program that only returns leaves the state alone. -/
theorem pure_eq_ok_iff {a b : α} {s t : σ} :
    (pure a : EStateM ε σ α) s = .ok b t ↔ a = b ∧ s = t := by
  change Result.ok a s = Result.ok b t ↔ _
  simp

/-! ### What a program leaves behind -/

/-- The state that a program leaves, whether it succeeds or fails. -/
def Result.left : Result ε σ α → σ
  | .ok _ s => s
  | .error _ s => s

section Left

variable {R : σ → σ → Prop} {s : σ} {x : EStateM ε σ α}

/-- Of a program in two steps, a failed first step leaves what it leaves, and a second step goes on
from there. -/
theorem left_bind {f : α → EStateM ε σ β}
    (htrans : ∀ {s t u}, R s t → R t u → R s u) (hfirst : R s (x s).left)
    (hnext : ∀ a t, x s = .ok a t → R t (f a t).left) : R s ((x >>= f) s).left := by
  rcases hrun : x s with ⟨a, t⟩ | ⟨e, t⟩ <;> rw [hrun] at hfirst
  · rw [bind_of_ok hrun]
    exact htrans hfirst (hnext a t hrun)
  · rw [bind_of_error hrun]
    exact hfirst

/-- What is left by a program and by its handler after it, where one relation holds of either and
composes. -/
theorem left_tryCatch {handle : ε → EStateM ε σ α}
    (htrans : ∀ {s t u}, R s t → R t u → R s u) (hfirst : R s (x s).left)
    (hnext : ∀ e t, x s = .error e t → R t (handle e t).left) :
    R s ((tryCatch x handle) s).left := by
  rcases hrun : x s with ⟨a, t⟩ | ⟨e, t⟩ <;> rw [hrun] at hfirst
  · rw [tryCatch_of_ok hrun]
    exact hfirst
  · rw [tryCatch_of_error hrun]
    exact htrans hfirst (hnext e t hrun)

end Left

/-! ### Two programs side by side -/

/-- Two results that are the same, but for the states, which may differ as a relation says. -/
inductive Parallel (related : σ → σ → Prop) : Result ε σ α → Result ε σ α → Prop where
  | ok {a : α} {s t : σ} (h : related s t) : Parallel related (.ok a s) (.ok a t)
  | error {e : ε} {s t : σ} (h : related s t) : Parallel related (.error e s) (.error e t)

variable {related : σ → σ → Prop}

/-- A result stands beside itself. -/
theorem Parallel.refl (hrefl : ∀ s, related s s) (result : Result ε σ α) :
    Parallel related result result := by
  rcases result with ⟨a, s⟩ | ⟨e, s⟩
  · exact .ok (hrefl s)
  · exact .error (hrefl s)

/-- Programs stay side by side as long as each of their steps does. -/
theorem Parallel.bind {x y : EStateM ε σ α} {f g : α → EStateM ε σ β} {s t : σ}
    (h : Parallel related (x s) (y t))
    (hnext : ∀ a s t, related s t → Parallel related (f a s) (g a t)) :
    Parallel related ((x >>= f) s) ((y >>= g) t) := by
  rcases hx : x s with ⟨a, s'⟩ | ⟨e, s'⟩ <;> rw [hx] at h
  · rcases hy : y t with ⟨b, t'⟩ | ⟨e, t'⟩ <;> rw [hy] at h <;> cases h
    next h =>
    rw [bind_of_ok hx, bind_of_ok hy]
    exact hnext a s' t' h
  · rcases hy : y t with ⟨b, t'⟩ | ⟨e, t'⟩ <;> rw [hy] at h <;> cases h
    next h =>
    rw [bind_of_error hx, bind_of_error hy]
    exact .error h

/-- Programs that begin in the same way differ only in how they go on. -/
theorem Parallel.bind_same (hrefl : ∀ s, related s s) (x : EStateM ε σ α)
    {f g : α → EStateM ε σ β} (hnext : ∀ a s, Parallel related (f a s) (g a s)) (s : σ) :
    Parallel related ((x >>= f) s) ((x >>= g) s) := by
  rcases hx : x s with ⟨a, s'⟩ | ⟨e, s'⟩
  · rw [bind_of_ok hx, bind_of_ok hx]
    exact hnext a s'
  · rw [bind_of_error hx, bind_of_error hx]
    exact .error (hrefl s')

end EStateM
