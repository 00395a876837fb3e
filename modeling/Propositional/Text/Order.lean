import Propositional.Text.Basic

/-!
# Sorted texts

Texts in increasing order of their code points, each listed once. Main statements: sorting lists
exactly the given texts (`Text.mem_sortDistinct`), and each of them before the greater ones
(`Text.pairwise_sortDistinct`).
-/

namespace Propositional.Text

/-- Inserts a text into a sorted list unless it is there already. -/
def insertDistinct (x : Text) : List Text → List Text
  | [] => [x]
  | y :: rest =>
    if x < y then x :: y :: rest
    else if x = y then y :: rest
    else y :: insertDistinct x rest

/-- The given texts in increasing order, each once. -/
def sortDistinct (texts : List Text) : List Text := texts.foldr insertDistinct []

theorem mem_insertDistinct {x z : Text} {texts : List Text} :
    z ∈ insertDistinct x texts ↔ z = x ∨ z ∈ texts := by
  induction texts with
  | nil => simp [insertDistinct]
  | cons y rest ih =>
    unfold insertDistinct
    split
    · simp
    · split
      · rename_i h
        subst h
        simp
      · simp [ih, or_left_comm]

theorem mem_sortDistinct {z : Text} {texts : List Text} : z ∈ sortDistinct texts ↔ z ∈ texts := by
  induction texts with
  | nil => simp [sortDistinct]
  | cons y rest ih =>
    rw [sortDistinct, List.foldr_cons, mem_insertDistinct, List.mem_cons, ← ih]
    rfl

/-! ## Increasing order -/

theorem lt_of_not_lt {x y : Text} (h : ¬ x < y) (hne : x ≠ y) : y < x :=
  (List.le_iff_lt_or_eq.1 (List.not_lt.1 h)).resolve_right fun heq => hne heq.symm

theorem pairwise_insertDistinct {x : Text} {texts : List Text} (h : texts.Pairwise (· < ·)) :
    (insertDistinct x texts).Pairwise (· < ·) := by
  induction texts with
  | nil => exact List.pairwise_singleton _ x
  | cons y rest ih =>
    obtain ⟨hy, hrest⟩ := List.pairwise_cons.1 h
    unfold insertDistinct
    split
    · rename_i hlt
      have hall : ∀ z ∈ y :: rest, x < z :=
        List.forall_mem_cons.2 ⟨hlt, fun z hz => List.lt_trans hlt (hy z hz)⟩
      exact List.pairwise_cons.2 ⟨hall, h⟩
    · split
      · exact h
      · rename_i hlt hne
        refine List.pairwise_cons.2 ⟨fun z hz => ?_, ih hrest⟩
        obtain rfl | hz := mem_insertDistinct.1 hz
        · exact lt_of_not_lt hlt hne
        · exact hy z hz

/-- Each text is listed before the greater ones, and so only once. -/
theorem pairwise_sortDistinct (texts : List Text) : (sortDistinct texts).Pairwise (· < ·) := by
  induction texts with
  | nil => exact .nil
  | cons x texts ih => exact pairwise_insertDistinct ih

end Propositional.Text
