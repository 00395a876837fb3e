import Mathlib.Data.List.Basic
import Propositional.Proofs.Layout

/-!
# Lines with their ends

Reports are written as lines, each with a line feed behind it. `Text.ofLines` runs lines together in
this way. Where no line holds a line feed itself, the text shows where each line begins and ends, so
that it determines its lines (`Text.ofLines_injective`).
-/

namespace Propositional.Text

/-- Lines run together, each with a line feed behind it. -/
def ofLines (lines : List Text) : Text := lines.flatMap (· ++ ['\n'])

theorem ofLines_cons (line : Text) (lines : List Text) :
    ofLines (line :: lines) = line ++ '\n' :: ofLines lines := by
  rw [ofLines, List.flatMap_cons, List.append_assoc]
  rfl

theorem ofLines_append (lines more : List Text) :
    ofLines (lines ++ more) = ofLines lines ++ ofLines more := List.flatMap_append

theorem line_append_inj {line line' rest rest' : Text} (hline : '\n' ∉ line)
    (hline' : '\n' ∉ line') (h : line ++ '\n' :: rest = line' ++ '\n' :: rest') :
    line = line' ∧ rest = rest' := by
  have hne : ∀ {l : Text}, '\n' ∉ l → ∀ c ∈ l, (c != '\n') = true := by
    intro l hl c hc
    rw [bne_iff_ne]
    rintro rfl
    exact hl hc
  have hstop : ∀ rest : Text, ∀ c ∈ ('\n' :: rest).head?, (c != '\n') = false := by
    rintro rest c ⟨⟩
    rfl
  have hfirst := congrArg (List.takeWhile (· != '\n')) h
  rw [takeWhile_append_stop (hne hline) (hstop rest),
    takeWhile_append_stop (hne hline') (hstop rest')] at hfirst
  subst hfirst
  exact ⟨rfl, (List.cons.inj (List.append_cancel_left h)).2⟩

theorem ofLines_injective {lines lines' : List Text} (hlines : ∀ line ∈ lines, '\n' ∉ line)
    (hlines' : ∀ line ∈ lines', '\n' ∉ line) (h : ofLines lines = ofLines lines') :
    lines = lines' := by
  induction lines generalizing lines' with
  | nil =>
    rcases lines' with _ | ⟨line', lines'⟩
    · rfl
    · simp [ofLines] at h
  | cons line lines ih =>
    rcases lines' with _ | ⟨line', lines'⟩
    · simp [ofLines] at h
    · obtain ⟨hline, hlines⟩ := List.forall_mem_cons.1 hlines
      obtain ⟨hline', hmore⟩ := List.forall_mem_cons.1 hlines'
      rw [ofLines_cons, ofLines_cons] at h
      obtain ⟨rfl, hrest⟩ := line_append_inj hline hline' h
      rw [ih hlines hmore hrest]

end Propositional.Text
