import Mathlib.Order.Bounds.Basic
import Propositional.Proofs.Words

/-!
# The first foreign character

A stream of tokens breaks off exactly if the text holds a foreign character from the start of the
stream on, and then at the first of them (`tokenize_breaks_at_first_foreign`). The tokens in front
of it are those of the text that ends before it.

1. `Text.isPlain_eq`: a character that is not foreign is a blank, or a lexeme starts with it. So no
   such character is left unmatched, wherever it stands.
2. `Lexes.failure_eq_none_iff`: hence a layout breaks off unless its text is plain.
3. `Text.isLeast_foreignPlaces`: the text in front of the place where it breaks off is laid out to
   its end, so it is plain, and the place is the first one.
-/

namespace Propositional

/-! ## Plain characters -/

theorem Lexeme.isPlain_text (x : Lexeme) : x.text.IsPlain := by
  cases x with
  | identifier n =>
    intro c hc
    have halnum : c.isAlphanum = true := List.all_eq_true.1 n.alphanumeric c hc
    unfold Text.isPlain
    rw [halnum]
    rfl
  | connective op => cases op <;> decide
  | negation => decide
  | opening => decide
  | closing => decide

theorem Text.IsGap.isPlain {gap : Text} (h : gap.IsGap) : gap.IsPlain := by
  intro c hc
  unfold Text.isPlain
  rw [h c hc, Bool.or_true]

theorem Text.isPlain_eq (c : Char) : isPlain c = (isBlank c || Lexeme.starts c) := by
  rw [Bool.eq_iff_iff, Bool.or_eq_true]
  constructor
  · intro h
    cases hb : isBlank c with
    | true => exact .inl rfl
    | false => exact .inr (starts_of_isPlain h hb)
  · rintro (hb | hc)
    · unfold isPlain
      rw [hb, Bool.or_true]
    · unfold Lexeme.starts at hc
      obtain halnum | hsymbol := Bool.or_eq_true_iff.1 hc
      · unfold isPlain
        rw [halnum]
        rfl
      · obtain ⟨x, hx⟩ := Option.isSome_iff_exists.1 hsymbol
        refine x.isPlain_text c ?_
        rw [Lexeme.text_of_ofSymbol? hx]
        exact List.mem_singleton_self c

/-! ## Where layouts break off -/

section Layout

variable {line : Int} {start : Nat} {text : Text} {d : Delivery ForeignCharacter Token}

theorem Lexes.failure_eq_none_iff (h : Lexes line start text d) :
    d.failure = none ↔ text.IsPlain := by
  refine ⟨fun hd => ?_, h.failure_of_isPlain⟩
  induction h with
  | done hgap => exact hgap.isPlain
  | foreign => cases hd
  | @token start gap x rest d hgap hx _ ih =>
    exact Text.isPlain_append_iff.2
      ⟨hgap.isPlain, Text.isPlain_append_iff.2 ⟨x.isPlain_text, ih hd⟩⟩

theorem failure_tokenize_eq_none_iff :
    (tokenize text line start).failure = none ↔ Text.IsPlain (text.drop start) :=
  (tokenize_eq_iff.1 rfl).failure_eq_none_iff

end Layout

/-! ## The first foreign place -/

namespace Text

variable {text front back : Text} {start : Nat} {c : Char}

/-- The places from `start` on at which a text holds a foreign character. -/
def foreignPlaces (text : Text) (start : Nat) : Set Nat :=
  {i | start ≤ i ∧ ∃ c, text[i]? = some c ∧ isPlain c = false}

theorem mem_foreignPlaces_iff {i : Nat} :
    start + i ∈ text.foreignPlaces start ↔
      ∃ c, (text.drop start)[i]? = some c ∧ isPlain c = false := by
  rw [List.getElem?_drop]
  exact and_iff_right (Nat.le_add_right _ _)

theorem foreignPlaces_eq_empty_iff :
    text.foreignPlaces start = ∅ ↔ IsPlain (text.drop start) := by
  rw [Set.eq_empty_iff_forall_notMem]
  constructor
  · intro h c hc
    obtain ⟨i, hi⟩ := List.mem_iff_getElem?.1 hc
    by_contra hplain
    exact h (start + i) (mem_foreignPlaces_iff.2 ⟨c, hi, by simpa using hplain⟩)
  · rintro h i ⟨hle, hi⟩
    obtain ⟨n, rfl⟩ := Nat.exists_eq_add_of_le hle
    obtain ⟨c, hc, hplain⟩ := mem_foreignPlaces_iff.1 ⟨hle, hi⟩
    rw [h c (List.mem_of_getElem? hc)] at hplain
    cases hplain

/-- Behind plain characters the next one is at the first foreign place, if it is foreign. -/
theorem isLeast_foreignPlaces (h : text.drop start = front ++ c :: back) (hfront : front.IsPlain)
    (hc : isPlain c = false) :
    IsLeast (text.foreignPlaces start) (start + front.length) := by
  refine ⟨mem_foreignPlaces_iff.2 ⟨c, ?_, hc⟩, ?_⟩
  · rw [h]
    simp
  · rintro i ⟨hle, hi⟩
    obtain ⟨n, rfl⟩ := Nat.exists_eq_add_of_le hle
    obtain ⟨b, hb, hplain⟩ := mem_foreignPlaces_iff.1 ⟨hle, hi⟩
    refine Nat.add_le_add_left ?_ start
    by_contra hlt
    rw [h, List.getElem?_append_left (Nat.lt_of_not_le hlt)] at hb
    rw [hfront b (List.mem_of_getElem? hb)] at hplain
    cases hplain

end Text

section Streams

variable {line : Int} {text : Text} {start : Nat}

theorem exists_place_of_failure {e : ForeignCharacter}
    (h : (tokenize text line start).failure = some e) :
    ∃ i : Nat, e.index = i ∧ text[i]? = some e.char ∧ IsLeast (text.foreignPlaces start) i ∧
      tokenize (text.take i) line start = ⟨(tokenize text line start).items, none⟩ := by
  have hlexes : Lexes line start (text.drop start) (tokenize text line start) :=
    tokenize_eq_iff.1 rfl
  obtain ⟨front, back, hdrop, hindex, hb, hc, hfront⟩ := hlexes.exists_lexes_front h
  have hforeign : Text.isPlain e.char = false := by
    rw [Text.isPlain_eq, hb, hc]
    rfl
  have hplain : front.IsPlain := hfront.failure_eq_none_iff.1 rfl
  refine ⟨start + front.length, hindex, ?_, Text.isLeast_foreignPlaces hdrop hplain hforeign, ?_⟩
  · rw [← List.getElem?_drop, hdrop]
    simp
  · refine tokenize_eq_iff.2 ?_
    rw [List.drop_take, Nat.add_sub_cancel_left, hdrop, List.take_left]
    exact hfront

/-- A stream reaches the end of its text exactly if no place from its start on is foreign. If it
breaks off, it does so at the first foreign place and for the character there, and what it has
delivered is what the text in front of that place delivers to its end. -/
theorem tokenize_breaks_at_first_foreign (line : Int) (text : Text) (start : Nat) :
    ((tokenize text line start).failure = none ↔ text.foreignPlaces start = ∅) ∧
    (∀ c index, (tokenize text line start).failure = some ⟨c, index⟩ ↔
      ∃ i : Nat, index = i ∧ text[i]? = some c ∧ IsLeast (text.foreignPlaces start) i) ∧
    ∀ i, IsLeast (text.foreignPlaces start) i →
      tokenize (text.take i) line start = ⟨(tokenize text line start).items, none⟩ := by
  have hnone : (tokenize text line start).failure = none ↔ text.foreignPlaces start = ∅ :=
    failure_tokenize_eq_none_iff.trans Text.foreignPlaces_eq_empty_iff.symm
  -- a first foreign place is where the stream breaks off, since there is only one
  have hbreaks : ∀ i, IsLeast (text.foreignPlaces start) i →
      ∃ e, (tokenize text line start).failure = some e ∧ e.index = i ∧ text[i]? = some e.char ∧
        tokenize (text.take i) line start = ⟨(tokenize text line start).items, none⟩ := by
    intro i hi
    cases h : (tokenize text line start).failure with
    | none =>
      rw [hnone.1 h] at hi
      exact hi.1.elim
    | some e =>
      obtain ⟨j, hindex, hchar, hj, hfront⟩ := exists_place_of_failure h
      cases hj.unique hi
      exact ⟨e, rfl, hindex, hchar, hfront⟩
  refine ⟨hnone, fun c index => ⟨fun h => ?_, ?_⟩, fun i hi => ?_⟩
  · obtain ⟨i, hindex, hchar, hi, -⟩ := exists_place_of_failure h
    exact ⟨i, hindex, hchar, hi⟩
  · rintro ⟨i, rfl, hc, hi⟩
    obtain ⟨e, h, hindex, hchar, -⟩ := hbreaks i hi
    cases hc.symm.trans hchar
    rw [h, ← hindex]
  · obtain ⟨-, -, -, -, hfront⟩ := hbreaks i hi
    exact hfront

/-- Of two foreign characters the first one ends the stream, which has delivered the symbol in front
of it. -/
theorem tokenize_twoForeign :
    tokenize "a|?b?".toList 1 (1 : Nat) =
        ⟨[⟨.connective .disjunction, 1, 1, 2⟩], some ⟨'?', 2⟩⟩ ∧
      IsLeast (Text.foreignPlaces "a|?b?".toList 1) 2 ∧
      tokenize "a|".toList 1 (1 : Nat) = ⟨[⟨.connective .disjunction, 1, 1, 2⟩], none⟩ := by
  have htokens : tokenize "a|?b?".toList 1 (1 : Nat) =
      ⟨[⟨.connective .disjunction, 1, 1, 2⟩], some ⟨'?', 2⟩⟩ := by decide +kernel
  obtain ⟨-, hbreaks, hfront⟩ := tokenize_breaks_at_first_foreign 1 "a|?b?".toList 1
  rw [htokens] at hbreaks hfront
  obtain ⟨i, hindex, -, hi⟩ := (hbreaks '?' 2).1 rfl
  obtain rfl : 2 = i := Int.ofNat.inj hindex
  exact ⟨htokens, hi, hfront 2 hi⟩

end Streams

end Propositional
