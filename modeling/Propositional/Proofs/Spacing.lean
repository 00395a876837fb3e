import Mathlib.Data.List.Chain
import Propositional.Proofs.Layout

/-!
# Spacings

A spacing is a list of words with gaps of blanks around them, where two identifiers have a gap that
is not empty between them. Its text is what is left of it when the words and the gaps are run
together.

`tokenize_iff_spacing`: running words and gaps together and cutting a text into tokens are inverse
to each other. A text is delivered without a failure exactly if it is the text of a spacing, which
is the only one, and its tokens are the words of the spacing, each where it stands in the text.

1. `Lexes.exists_spacing`: a layout that does not break off is a spacing.
2. `exists_lexes_run`: words with gaps around them are a layout, with the words at their offsets.
3. `Spacing.text_injective`: the words of a text are its tokens, and they determine the gaps.
-/

namespace Propositional

/-! ## Words -/

/-- A word: a kind of lexeme and a text, which may or may not fit the kind. -/
abbrev Word := Lexeme.Kind × Text

def Token.word (t : Token) : Word := (t.kind, t.text)

theorem Lexeme.Kind.fits_iff {k : Lexeme.Kind} {v : Text} :
    k.fits v = true ↔ ∃ x : Lexeme, x.kind = k ∧ x.text = v := by
  constructor
  · intro h
    cases k with
    | identifier =>
      obtain ⟨hne, hall⟩ := (Bool.and_eq_true _ _).mp h
      exact ⟨.identifier ⟨v, by simpa using hne, hall⟩, rfl, rfl⟩
    | negation => exact ⟨.negation, rfl, (eq_of_beq h).symm⟩
    | connective op => exact ⟨.connective op, rfl, (eq_of_beq h).symm⟩
    | opening => exact ⟨.opening, rfl, (eq_of_beq h).symm⟩
    | closing => exact ⟨.closing, rfl, (eq_of_beq h).symm⟩
  · rintro ⟨x, rfl, rfl⟩
    cases x with
    | identifier n =>
      have hne : n.text.isEmpty = false := by simpa using n.nonempty
      show (!n.text.isEmpty && n.text.all Char.isAlphanum) = true
      rw [hne, n.alphanumeric]
      rfl
    | _ => exact beq_self_eq_true _

theorem Lexeme.not_endsBefore_identifier {x y : Lexeme} (hy : y.kind = .identifier) (rest : Text)
    (hx : x.kind = .identifier) : ¬ x.EndsBefore (y.text ++ rest) := by
  intro h
  cases y <;> cases hy
  rename_i n
  obtain ⟨c, tail, hc⟩ := List.exists_cons_of_ne_nil n.nonempty
  have halnum : c.isAlphanum = true :=
    List.all_eq_true.1 n.alphanumeric c (hc ▸ List.mem_cons_self)
  have hends : c.isAlphanum = false := by
    refine h hx c ?_
    show c ∈ (n.text ++ rest).head?
    rw [hc]
    rfl
  rw [halnum] at hends
  cases hends

/-! ## Spacings -/

/-- Words with gaps around them: the gap in front of the first word, and each word with the gap
behind it. -/
structure Spacing where
  front : Text
  words : List (Word × Text)
  front_isGap : front.IsGap
  fits : ∀ p ∈ words, p.1.1.fits p.1.2 = true
  isGap : ∀ p ∈ words, p.2.IsGap
  apart : words.IsChain fun p q => p.1.1 = .identifier → q.1.1 = .identifier → p.2 ≠ []

namespace Spacing

/-- Words run together, each with the gap behind it. -/
def run (words : List (Word × Text)) : Text := words.flatMap fun p => p.1.2 ++ p.2

def text (s : Spacing) : Text := s.front ++ run s.words

/-- The offset of the word with a given number. -/
def offset (s : Spacing) (i : Nat) : Nat := s.front.length + (run (s.words.take i)).length

theorem run_cons (p : Word × Text) (words : List (Word × Text)) :
    run (p :: words) = p.1.2 ++ (p.2 ++ run words) := by
  rw [run, List.flatMap_cons, List.append_assoc]
  rfl

/-- A lexeme ends before the gap behind it and the words that follow, unless it is an identifier,
the gap is empty and an identifier follows. -/
theorem endsBefore_run {x : Lexeme} {gap : Text} {words : List (Word × Text)} (hgap : gap.IsGap)
    (hfits : ∀ p ∈ words, p.1.1.fits p.1.2 = true)
    (hapart : ∀ p ∈ words.head?, x.kind = .identifier → p.1.1 = .identifier → gap ≠ []) :
    x.EndsBefore (gap ++ run words) := by
  intro hx c hc
  cases gap with
  | cons b gap =>
    cases hc
    by_contra hb
    have hblank := hgap c List.mem_cons_self
    rw [Lexeme.not_isBlank_of_isAlphanum (by simpa using hb)] at hblank
    cases hblank
  | nil =>
    cases words with
    | nil => cases hc
    | cons p words =>
      obtain ⟨y, hkind, htext⟩ := Lexeme.Kind.fits_iff.1 (hfits p List.mem_cons_self)
      have hy : y.kind ≠ .identifier := by
        rw [hkind]
        exact fun hp => hapart p rfl hx hp rfl
      obtain ⟨e, he, -, ha, -⟩ := Lexeme.exists_symbol hy
      rw [List.nil_append, run_cons, ← htext, he] at hc
      cases hc
      exact ha

end Spacing

/-! ## Layouts and spacings -/

section Layout

variable {line : Int} {start : Nat} {text : Text} {d : Delivery ForeignCharacter Token}

theorem Lexes.exists_spacing (h : Lexes line start text d) (hd : d.failure = none) :
    ∃ s : Spacing, s.text = text ∧ s.words.map Prod.fst = d.items.map Token.word := by
  induction h with
  | @done start gap hgap =>
    exact ⟨⟨gap, [], hgap, by simp, by simp, .nil⟩, List.append_nil gap, rfl⟩
  | foreign => cases hd
  | @token start gap x rest d hgap hx _ ih =>
    obtain ⟨⟨front, words, hfront, hfits, hgaps, hapart⟩, rfl, hwords⟩ := ih hd
    have hchain : (((x.kind, x.text), front) :: words).IsChain
        fun p q => p.1.1 = .identifier → q.1.1 = .identifier → p.2 ≠ [] := by
      refine List.isChain_cons.2 ⟨?_, hapart⟩
      rintro p hp hk hpk rfl
      -- with nothing between them, the second identifier would go on with the first
      obtain ⟨words, rfl⟩ := List.head?_eq_some_iff.1 hp
      obtain ⟨y, hkind, htext⟩ := Lexeme.Kind.fits_iff.1 (hfits p List.mem_cons_self)
      refine Lexeme.not_endsBefore_identifier (hkind.trans hpk) (p.2 ++ Spacing.run words) hk ?_
      rwa [htext, ← Spacing.run_cons]
    refine ⟨⟨gap, ((x.kind, x.text), front) :: words, hgap, ?_, ?_, hchain⟩, ?_, ?_⟩
    · exact List.forall_mem_cons.2 ⟨Lexeme.Kind.fits_iff.2 ⟨x, rfl, rfl⟩, hfits⟩
    · exact List.forall_mem_cons.2 ⟨hfront, hgaps⟩
    · simp only [Spacing.text, Spacing.run_cons]
    · exact congrArg (List.cons (x.kind, x.text)) hwords

/-- Words with gaps around them are laid out with the words as tokens, each at its offset. -/
theorem exists_lexes_run (line : Int) {front : Text} {words : List (Word × Text)}
    (hfront : front.IsGap) (hfits : ∀ p ∈ words, p.1.1.fits p.1.2 = true)
    (hgaps : ∀ p ∈ words, p.2.IsGap)
    (hapart : words.IsChain fun p q => p.1.1 = .identifier → q.1.1 = .identifier → p.2 ≠ [])
    (start : Nat) :
    ∃ ts : List Token, Lexes line start (front ++ Spacing.run words) ⟨ts, none⟩ ∧
      ts.map Token.word = words.map Prod.fst ∧
      ∀ (i : Nat) (t : Token), ts[i]? = some t →
        t.index = (start + (front.length + (Spacing.run (words.take i)).length) : Nat) ∧
          t.stop = t.index + t.text.length := by
  induction words generalizing front start with
  | nil =>
    refine ⟨[], ?_, rfl, by simp⟩
    show Lexes line start (front ++ []) .done
    rw [List.append_nil]
    exact .done hfront
  | cons p words ih =>
    obtain ⟨hfit, hfits⟩ := List.forall_mem_cons.1 hfits
    obtain ⟨hgap, hgaps⟩ := List.forall_mem_cons.1 hgaps
    obtain ⟨hhead, hapart⟩ := List.isChain_cons.1 hapart
    obtain ⟨x, hkind, htext⟩ := Lexeme.Kind.fits_iff.1 hfit
    obtain ⟨ts, hlexes, hwords, hplaces⟩ :=
      ih hgap hfits hgaps hapart (start + front.length + x.text.length)
    have hend : x.EndsBefore (p.2 ++ Spacing.run words) :=
      Spacing.endsBefore_run hgap hfits (hkind ▸ hhead)
    let t : Token :=
      ⟨x, line, (start + front.length : Nat), start + front.length + x.text.length⟩
    refine ⟨t :: ts, ?_, ?_, ?_⟩
    · rw [Spacing.run_cons, ← htext]
      exact .token hfront hend hlexes
    · have hword : t.word = p.1 := Prod.ext hkind htext
      rw [List.map_cons, List.map_cons, hword, hwords]
    · rintro (_ | i) u hu
      · cases hu
        exact ⟨by simp [t, Spacing.run], by simp [t, Token.text]⟩
      · obtain ⟨hindex, hstop⟩ := hplaces i u hu
        refine ⟨?_, hstop⟩
        rw [hindex, List.take_succ_cons, Spacing.run_cons, ← htext]
        simp only [List.length_append]
        omega

end Layout

/-! ## One spacing for a text -/

/-- Where the words agree, the text determines the gaps: each gap ends where the next word begins,
and no word begins with a blank. -/
theorem Spacing.gaps_inj {front front' : Text} {words words' : List (Word × Text)}
    (hfront : front.IsGap) (hfront' : front'.IsGap)
    (hfits : ∀ p ∈ words, p.1.1.fits p.1.2 = true) (hgaps : ∀ p ∈ words, p.2.IsGap)
    (hgaps' : ∀ p ∈ words', p.2.IsGap) (hwords : words.map Prod.fst = words'.map Prod.fst)
    (htext : front ++ run words = front' ++ run words') : front = front' ∧ words = words' := by
  induction words generalizing front front' words' with
  | nil =>
    obtain rfl := List.map_eq_nil_iff.1 hwords.symm
    exact ⟨List.append_cancel_right htext, rfl⟩
  | cons p words ih =>
    cases words' with
    | nil => cases hwords
    | cons p' words' =>
      obtain ⟨w, gap⟩ := p
      obtain ⟨w', gap'⟩ := p'
      rw [List.map_cons, List.map_cons, List.cons.injEq] at hwords
      obtain ⟨rfl, hwords⟩ := hwords
      obtain ⟨hfit, hfits⟩ := List.forall_mem_cons.1 hfits
      obtain ⟨hgap, hgaps⟩ := List.forall_mem_cons.1 hgaps
      obtain ⟨hgap', hgaps'⟩ := List.forall_mem_cons.1 hgaps'
      obtain ⟨x, -, hx⟩ := Lexeme.Kind.fits_iff.1 hfit
      rw [run_cons, run_cons] at htext
      dsimp only at htext hx
      rw [← hx] at htext
      have hblanks : front = front' := by
        have h := congrArg (List.takeWhile Text.isBlank) htext
        rwa [Text.takeWhile_append_stop hfront Lexeme.not_isBlank_of_mem_head?,
          Text.takeWhile_append_stop hfront' Lexeme.not_isBlank_of_mem_head?] at h
      subst hblanks
      have hrest := List.append_cancel_left (List.append_cancel_left htext)
      obtain ⟨rfl, rfl⟩ := ih hgap hgap' hfits hgaps hgaps' hwords hrest
      exact ⟨rfl, rfl⟩

theorem Spacing.exists_tokens (line : Int) (s : Spacing) :
    ∃ ts : List Token, tokenize s.text line 0 = ⟨ts, none⟩ ∧
      ts.map Token.word = s.words.map Prod.fst ∧
      ∀ (i : Nat) (t : Token), ts[i]? = some t →
        t.index = s.offset i ∧ t.stop = t.index + t.text.length := by
  obtain ⟨ts, hlexes, hwords, hplaces⟩ :=
    exists_lexes_run line s.front_isGap s.fits s.isGap s.apart 0
  refine ⟨ts, tokenize_zero_eq_iff.2 hlexes, hwords, fun i t ht => ?_⟩
  rw [← Nat.zero_add (s.offset i)]
  exact hplaces i t ht

theorem Spacing.text_injective : Function.Injective Spacing.text := by
  intro s s' h
  obtain ⟨ts, htokens, hwords, -⟩ := s.exists_tokens 1
  obtain ⟨ts', htokens', hwords', -⟩ := s'.exists_tokens 1
  -- both lists of words are the tokens of the one text
  rw [← h, htokens] at htokens'
  cases htokens'
  obtain ⟨front, words, hfront, hfits, hgaps, hapart⟩ := s
  obtain ⟨front', words', hfront', hfits', hgaps', hapart'⟩ := s'
  obtain ⟨rfl, rfl⟩ :=
    gaps_inj hfront hfront' hfits hgaps hgaps' (hwords.symm.trans hwords') h
  rfl

/-! ## Tokens and spacings -/

/-- Cutting a text into tokens is the inverse of spacing words out. A text is delivered as tokens
with given words exactly if it is the text of a spacing of these words; it has one spacing only; and
the tokens of a spacing stand at the offsets of its words, each as long as its text. -/
theorem tokenize_iff_spacing (line : Int) :
    (∀ (text : Text) (ws : List Word),
      (∃ ts, tokenize text line 0 = ⟨ts, none⟩ ∧ ts.map Token.word = ws) ↔
        ∃ s : Spacing, s.text = text ∧ s.words.map Prod.fst = ws) ∧
    Function.Injective Spacing.text ∧
    ∀ s : Spacing, ∃ ts : List Token, tokenize s.text line 0 = ⟨ts, none⟩ ∧
      ts.map Token.word = s.words.map Prod.fst ∧
      ∀ (i : Nat) (t : Token), ts[i]? = some t →
        t.index = s.offset i ∧ t.stop = t.index + t.text.length := by
  refine ⟨fun text ws => ⟨?_, ?_⟩, Spacing.text_injective, Spacing.exists_tokens line⟩
  · rintro ⟨ts, htokens, rfl⟩
    exact (tokenize_zero_eq_iff.1 htokens).exists_spacing rfl
  · rintro ⟨s, rfl, rfl⟩
    obtain ⟨ts, htokens, hwords, -⟩ := s.exists_tokens line
    exact ⟨ts, htokens, hwords⟩

/-- Two names with a gap in front and one between them, and a mark of negation right behind. -/
def Spacing.twoNames : Spacing where
  front := [' ']
  words := [((.identifier, ['a']), ['\t']), ((.identifier, ['b']), []), ((.negation, ['!']), [])]
  front_isGap := by decide
  fits := by decide
  isGap := by decide
  apart := by decide

/-- The text of this spacing has no other, and its second name is a token that stands at index 3. -/
theorem tokenize_twoNames :
    Spacing.twoNames.text = " a\tb!".toList ∧
      (∀ s : Spacing, s.text = " a\tb!".toList → s = .twoNames) ∧
      ∃ ts : List Token, tokenize " a\tb!".toList 1 0 = ⟨ts, none⟩ ∧
        ts.map Token.word = [(.identifier, ['a']), (.identifier, ['b']), (.negation, ['!'])] ∧
        ∃ t : Token, ts[1]? = some t ∧ t.index = 3 ∧ t.stop = t.index + t.text.length := by
  obtain ⟨-, hinj, hplaced⟩ := tokenize_iff_spacing 1
  have htext : Spacing.twoNames.text = " a\tb!".toList := by decide
  obtain ⟨ts, htokens, hwords, hplaces⟩ := hplaced .twoNames
  rw [htext] at htokens
  refine ⟨htext, fun s hs => hinj (hs.trans htext.symm), ts, htokens, hwords, ?_⟩
  have hlexed : tokenize " a\tb!".toList 1 0 =
      ⟨[⟨.identifier ⟨['a'], by simp, by decide⟩, 1, 1, 2⟩,
        ⟨.identifier ⟨['b'], by simp, by decide⟩, 1, 3, 4⟩, ⟨.negation, 1, 4, 5⟩], none⟩ := by
    decide +kernel
  cases htokens.symm.trans hlexed
  obtain ⟨hindex, hstop⟩ := hplaces 1 _ rfl
  exact ⟨_, rfl, hindex, hstop⟩

end Propositional
