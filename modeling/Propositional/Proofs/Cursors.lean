import Mathlib.Data.List.TakeWhile
import Propositional.Proofs.Pulling

/-!
# Cursors

Pulling makes progress from any cursor, also from one in front of the text or past its end: what is
left is a later cursor within the text. Therefore pulls that each go on at the cursor the last one
left come to an end, and there are no more of them than places from the first cursor to the end of
the text, and one (`pulls_end_from_any_cursor`).

1. `EndsAfter` counts the pulls one by one; it knows neither a stream nor a measure. A text has one
   such count from each cursor, which is that of its scan (`endsAfter_scan`), and it is bounded by
   induction on the pulls (`EndsAfter.le`).
2. A cursor that counts from the end of the text is looked at as such until a character is found
   that is no blank. There the lexeme is sought at the start of the text (`read?_of_pullBack`), so
   that a lexeme may be found twice (`scan_back`).
-/

namespace Propositional

variable {text : Text}

/-! ## Counting pulls -/

/-- Pulls that each go on at the cursor the last one left come to the end of the text, or fail, with
the `n`-th pull. -/
inductive EndsAfter (text : Text) : Int → Nat → Prop
  | finished {cursor next : Int} :
    nextToken text cursor = .ok (none, next) → EndsAfter text cursor 1
  | failed {cursor : Int} {e : ForeignCharacter} :
    nextToken text cursor = .error e → EndsAfter text cursor 1
  | token {cursor next : Int} {t : Token} {n : Nat} :
    nextToken text cursor = .ok (some t, next) → EndsAfter text next n →
      EndsAfter text cursor (n + 1)

/-- The number of pulls behind what was delivered: a failure is a pull too. -/
def Delivery.attempts {ε β : Type} (d : Delivery ε β) : Nat :=
  d.items.length + d.failure.toList.length

theorem nextToken_cases (text : Text) (cursor : Int) :
    (∃ e, nextToken text cursor = .error e) ∨
      nextToken text cursor = .ok (none, (text.length : Int)) ∨
      ∃ t next, nextToken text cursor = .ok (some t, next) ∧ cursor < next ∧
        next ≤ text.length := by
  cases hpull : pull 1 text cursor with
  | foreign e => exact .inl ⟨e, by rw [nextToken, hpull]⟩
  | finished => exact .inr (.inl (by rw [nextToken, hpull]))
  | token t =>
    have hnext : nextToken text cursor = .ok (some t, t.cursor) := by rw [nextToken, hpull]
    obtain ⟨hlt, hle⟩ := nextToken_progress hnext
    exact .inr (.inr ⟨t, t.cursor, hnext, hlt, hle⟩)

theorem endsAfter_scan (text : Text) (cursor : Int) :
    EndsAfter text cursor (scan text cursor).attempts := by
  rw [scan]
  split
  · rename_i e h
    exact .failed h
  · rename_i next h
    exact .finished h
  · rename_i t next h
    have hprogress := nextToken_progress h
    have hcount : ((scan text next).cons (some t, next)).attempts =
        (scan text next).attempts + 1 := by
      simp only [Delivery.attempts, Delivery.cons, List.length_cons]
      omega
    rw [hcount]
    exact .token h (endsAfter_scan text next)
termination_by (text.length - cursor).toNat
decreasing_by omega

theorem EndsAfter.pos {cursor : Int} {n : Nat} (h : EndsAfter text cursor n) : 0 < n := by
  cases h <;> omega

/-- There is a pull for each place from the cursor to the end of the text at most, and one more. -/
theorem EndsAfter.le {cursor : Int} {n : Nat} (h : EndsAfter text cursor n) :
    (n : Int) ≤ max (text.length - cursor) 0 + 1 := by
  induction h with
  | finished => omega
  | failed => omega
  | token hnext _ ih =>
    have := nextToken_progress hnext
    omega

/-! ## Cursors that count from the end -/

section Back

variable {line : Int} {back : Nat}

theorem pull_neg (hback : 0 < back) : pull line text (-(back : Int)) = pullBack line text back := by
  cases back with
  | zero => omega
  | succ n => rfl

theorem pullBack_of_length_lt (h : text.length < back) : pullBack line text back = .finished :=
  if_pos h

/-- Blanks up to the end of the text lead to its start. -/
theorem pullBack_of_isGap (hback : back ≤ text.length)
    (hgap : Text.IsGap (text.drop (text.length - back))) :
    pullBack line text back = pull line text 0 := by
  have hskip : Text.skipBlanks (text.drop (text.length - back)) = [] :=
    List.dropWhile_eq_nil_iff.2 hgap
  simp only [pullBack, if_neg (Nat.not_lt.2 hback), hskip]
  rfl

/-- At any other character the lexeme is the longest one at the start of the text, while the index
counts from the end. -/
theorem read?_of_pullBack {t : Token} (h : pullBack line text back = .token t)
    (hgap : ¬ Text.IsGap (text.drop (text.length - back))) :
    t.index < 0 ∧ Lexeme.read? text = some (t.lexeme, text.drop t.stop) := by
  have hlength := Text.leadingBlanks_add_length_skipBlanks (text.drop (text.length - back))
  unfold pullBack at h
  split at h
  · cases h
  dsimp only at h
  split at h
  · rename_i hskip
    exact absurd (List.dropWhile_eq_nil_iff.1 hskip) hgap
  · rename_i c tail hskip
    split at h
    · rename_i x rest hread
      cases h
      obtain ⟨htext, -⟩ := Lexeme.read?_eq_some_iff.1 hread
      refine ⟨?_, ?_⟩
      · rw [hskip, List.length_cons, List.length_drop] at hlength
        dsimp only
        omega
      · rw [hread]
        dsimp only
        rw [htext, List.drop_left]
    · cases h

/-- Where a cursor that counts from the end stands at no blank, its token has that index. -/
theorem pullBack_of_cons {c : Char} {tail rest : Text} {x : Lexeme} (hback : back ≤ text.length)
    (hdrop : text.drop (text.length - back) = c :: tail) (hc : Text.isBlank c = false)
    (hread : Lexeme.read? text = some (x, rest)) :
    pullBack line text back = .token ⟨x, line, -(back : Int), x.text.length⟩ := by
  have hskip : Text.skipBlanks (c :: tail) = c :: tail :=
    List.dropWhile_cons_of_neg (by simp [hc])
  have hleading : Text.leadingBlanks (c :: tail) = 0 :=
    congrArg List.length (List.takeWhile_cons_of_neg (by simp [hc]))
  simp only [pullBack, if_neg (Nat.not_lt.2 hback), hdrop, hskip, hleading, hread]
  simp

/-- A lexeme that is all of the text is found twice from as many places before the end as it is
long: once counted from the end, and once from the start. -/
theorem scan_back (x : Lexeme) :
    scan x.text (-(x.text.length : Int)) =
      ⟨[(some ⟨x, 1, -(x.text.length : Int), x.text.length⟩, 0),
        (some ⟨x, 1, 0, x.text.length⟩, (x.text.length : Int)),
        (none, (x.text.length : Int))], none⟩ := by
  have hends : x.EndsBefore [] := by
    intro _ c hc
    cases hc
  have htext : x.text = x.text ++ [] := (List.append_nil _).symm
  obtain ⟨c, tail, hcons⟩ := List.exists_cons_of_ne_nil x.text_ne_nil
  have hc : Text.isBlank c = false :=
    Lexeme.not_isBlank_of_mem_text (x := x) (hcons ▸ List.mem_cons_self)
  have hfirst : pull 1 x.text (-(x.text.length : Int)) =
      .token ⟨x, 1, -(x.text.length : Int), x.text.length⟩ := by
    have hdrop : x.text.drop (x.text.length - x.text.length) = c :: tail := by
      rw [Nat.sub_self, List.drop_zero, hcons]
    rw [pull_neg x.length_text_pos]
    exact pullBack_of_cons (Nat.le_refl _) hdrop hc (Lexeme.read?_eq_some_iff.2 ⟨htext, hends⟩)
  have hsecond : pull 1 x.text (0 : Nat) = .token ⟨x, 1, 0, x.text.length⟩ := by
    have h : pull 1 x.text (0 : Nat) =
        .token ⟨x, 1, (0 + ([] : Text).length : Nat), 0 + ([] : Text).length + x.text.length⟩ :=
      pull_of_token htext Text.isGap_nil hends
    rwa [List.length_nil, Nat.add_zero, Nat.zero_add] at h
  have hlast : pull 1 x.text (x.text.length : Nat) = .finished :=
    pull_of_gap List.drop_length Text.isGap_nil
  have hcursor : Token.cursor ⟨x, 1, -(x.text.length : Int), x.text.length⟩ = (0 : Nat) :=
    Int.add_left_neg _
  rw [scan_of_token hfirst, hcursor, scan_of_token hsecond, Token.cursor_eq_stop hsecond,
    scan_of_finished hlast]
  rfl

end Back

/-! ## Pulling from any cursor -/

/-- From any cursor, a pull fails, finds the end of the text, or finds a token and leaves a later
cursor within the text; so pulling again and again comes to an end, after no more pulls than there
are places from the cursor to the end of the text, and one. Counted from the end of the text, a
cursor in front of it finds its end, and one with blanks only behind it is as good as the start;
from any other a token has a negative index and is the longest lexeme at the start of the text.
Characters may be found by several pulls. -/
theorem pulls_end_from_any_cursor (text : Text) (cursor : Int) :
    ((∃ e, nextToken text cursor = .error e) ∨
      nextToken text cursor = .ok (none, (text.length : Int)) ∨
      ∃ t next, nextToken text cursor = .ok (some t, next) ∧ cursor < next ∧
        next ≤ text.length) ∧
    (∃ n, EndsAfter text cursor n ∧ n = (scan text cursor).attempts ∧
      (cursor ≤ text.length → (n : Int) ≤ text.length - cursor + 1) ∧
      (text.length < cursor → n = 1)) ∧
    (∀ back : Nat, 0 < back → cursor = -(back : Int) →
      (text.length < back → nextToken text cursor = .ok (none, (text.length : Int))) ∧
      (back ≤ text.length → Text.IsGap (text.drop (text.length - back)) →
        nextToken text cursor = nextToken text 0) ∧
      ∀ t next, nextToken text cursor = .ok (some t, next) →
        ¬ Text.IsGap (text.drop (text.length - back)) →
          t.index < 0 ∧ Lexeme.read? text = some (t.lexeme, text.drop t.stop)) ∧
    ∀ x : Lexeme, scan x.text (-(x.text.length : Int)) =
      ⟨[(some ⟨x, 1, -(x.text.length : Int), x.text.length⟩, 0),
        (some ⟨x, 1, 0, x.text.length⟩, (x.text.length : Int)),
        (none, (x.text.length : Int))], none⟩ := by
  have hends := endsAfter_scan text cursor
  refine ⟨nextToken_cases text cursor, ⟨_, hends, rfl, fun h => ?_, fun h => ?_⟩, ?_, scan_back⟩
  · have := hends.le
    omega
  · have hle := hends.le
    have hpos := hends.pos
    omega
  · rintro back hback rfl
    refine ⟨fun h => ?_, fun h hgap => ?_, fun t next h hgap => ?_⟩
    · rw [nextToken, pull_neg hback, pullBack_of_length_lt h]
    · rw [nextToken, pull_neg hback, pullBack_of_isGap h hgap, ← nextToken]
    · rw [nextToken, pull_neg hback] at h
      split at h
      · rename_i u hu
        cases h
        exact read?_of_pullBack hu hgap
      · cases h
      · cases h

/-- A text with two names: the blank at its end leads to its start, and the name in front of that
blank is not the one that is found there. -/
theorem pulls_of_twoNames :
    (∃ n, EndsAfter "a b ".toList (-2) n ∧ (n : Int) ≤ 7) ∧
    (∃ t next, nextToken "a b ".toList (-2) = .ok (some t, next) ∧ t.index < 0 ∧
      Lexeme.read? "a b ".toList = some (t.lexeme, "a b ".toList.drop t.stop)) ∧
    nextToken "a b ".toList (-1) = nextToken "a b ".toList 0 ∧
    nextToken "a b ".toList (-5) = .ok (none, 4) ∧ EndsAfter "a b ".toList 9 1 := by
  obtain ⟨-, ⟨n, hends, -, hle, -⟩, hback, -⟩ := pulls_end_from_any_cursor "a b ".toList (-2)
  obtain ⟨-, -, hgap, -⟩ := pulls_end_from_any_cursor "a b ".toList (-1)
  obtain ⟨-, -, hfront, -⟩ := pulls_end_from_any_cursor "a b ".toList (-5)
  obtain ⟨-, ⟨m, hpast, -, -, hone⟩, -⟩ := pulls_end_from_any_cursor "a b ".toList 9
  have htoken : nextToken "a b ".toList (-2) =
      .ok (some ⟨.identifier Progress.someName, 1, -2, 1⟩, -1) := by rfl
  obtain ⟨-, -, hread⟩ := hback 2 (by decide) rfl
  refine ⟨⟨n, hends, hle (by decide)⟩, ⟨_, _, htoken, hread _ _ htoken (by decide)⟩, ?_, ?_, ?_⟩
  · exact (hgap 1 (by decide) rfl).2.1 (by decide) (by decide)
  · exact (hfront 5 (by decide) rfl).1 (by decide)
  · exact hone (by decide) ▸ hpast

/-- A token that is pulled from a negative cursor need not have a negative index: with a blank at
the end of the text, pulling goes on at the start. -/
theorem not_forall_index_neg :
    ¬ ∀ (text : Text) (cursor next : Int) (t : Token), cursor < 0 →
      nextToken text cursor = .ok (some t, next) → t.index < 0 := by
  intro h
  have htoken : nextToken "a ".toList (-1) =
      .ok (some ⟨.identifier Progress.someName, 1, 0, 1⟩, 1) := by rfl
  exact absurd (h _ _ _ _ (by decide) htoken) (by decide)

end Propositional
