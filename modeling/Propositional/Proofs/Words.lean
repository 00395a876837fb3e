import Propositional.Proofs.Acceptance
import Propositional.Proofs.Spacing

/-!
# The words of a text

The words of a text are the kinds and the texts of its tokens, without their places. They stay the
same when blanks are put in the place of other blanks, and they are all that a parse depends on,
places apart.

1. `Lexes.words_eq`: every layout of a text has its words, whatever index it begins at.
2. `Text.words_append`: the words of a plain text are those of its parts, unless an identifier runs
   across the seam. A plain text has the characters of formulas only, so no part of it breaks off.
3. `outcome_of_words_eq`: texts with the same words have the same formula, or fail for the same
   reason.
-/

namespace Propositional

/-! ## Words -/

/-- The words of a text, from its beginning up to its end or the first foreign character. -/
def Text.words (text : Text) : List Word := (tokenize text 1 0).items.map Token.word

section Layout

variable {line : Int} {start : Nat} {text : Text} {d : Delivery ForeignCharacter Token}

theorem Lexes.exists_moved (h : Lexes line start text d) (line' : Int) (start' : Nat) :
    ∃ e, Lexes line' start' text e ∧ e.items.map Token.word = d.items.map Token.word := by
  induction h generalizing start' with
  | done hgap => exact ⟨_, .done hgap, rfl⟩
  | foreign hgap hb hc => exact ⟨_, .foreign hgap hb hc, rfl⟩
  | @token start gap x rest d hgap hx _ ih =>
    obtain ⟨e, he, hwords⟩ := ih (start' + gap.length + x.text.length)
    exact ⟨_, .token hgap hx he, congrArg (List.cons (x.kind, x.text)) hwords⟩

theorem Lexes.words_eq (h : Lexes line start text d) : text.words = d.items.map Token.word := by
  obtain ⟨e, he, hwords⟩ := h.exists_moved 1 0
  rw [Text.words, tokenize_zero_eq_iff.2 he, hwords]

end Layout

namespace Text

variable {gap rest text : Text}

theorem words_of_isGap (hgap : gap.IsGap) : gap.words = [] :=
  (Lexes.done hgap : Lexes 1 0 gap _).words_eq

theorem words_of_foreign {c : Char} (hgap : gap.IsGap) (hb : isBlank c = false)
    (hc : Lexeme.starts c = false) : (gap ++ c :: rest).words = [] :=
  (Lexes.foreign hgap hb hc : Lexes 1 0 (gap ++ c :: rest) _).words_eq

theorem words_of_token {x : Lexeme} (hgap : gap.IsGap) (hx : x.EndsBefore rest) :
    (gap ++ (x.text ++ rest)).words = (x.kind, x.text) :: rest.words := by
  obtain ⟨d, hd⟩ := exists_lexes 1 (0 + gap.length + x.text.length) rest
  rw [(Lexes.token hgap hx hd).words_eq, hd.words_eq]
  rfl

theorem words_gap_append (hgap : gap.IsGap) : (gap ++ text).words = text.words := by
  obtain ⟨d, hd⟩ := exists_lexes 1 (0 + gap.length) text
  rw [(Lexes.gap_append hgap hd).words_eq, hd.words_eq]

/-! ## Plain texts -/

def symbols : List Char := ['(', ')', '!', '&', '|', '>']

/-- A plain character is a letter or digit of ASCII, a symbol of formulas, or a blank. -/
def isPlain (c : Char) : Bool := c.isAlphanum || symbols.contains c || isBlank c

/-- A plain text has plain characters only. -/
def IsPlain (text : Text) : Prop := ∀ c ∈ text, isPlain c = true

instance : DecidablePred IsPlain := fun text =>
  decidable_of_iff (text.all isPlain = true) List.all_eq_true

theorem isSome_ofSymbol?_of_mem {c : Char} (h : c ∈ symbols) :
    (Lexeme.ofSymbol? c).isSome = true := by
  have hall : symbols.all (fun c => (Lexeme.ofSymbol? c).isSome) = true := by decide
  exact List.all_eq_true.1 hall c h

theorem starts_of_isPlain {c : Char} (h : isPlain c = true) (hb : isBlank c = false) :
    Lexeme.starts c = true := by
  unfold isPlain at h
  rw [hb, Bool.or_false, Bool.or_eq_true, List.contains_iff_mem] at h
  unfold Lexeme.starts
  rcases h with halnum | hsymbol
  · rw [halnum]
    rfl
  · rw [isSome_ofSymbol?_of_mem hsymbol, Bool.or_true]

theorem isPlain_append_iff {front back : Text} :
    (front ++ back).IsPlain ↔ front.IsPlain ∧ back.IsPlain := List.forall_mem_append

end Text

theorem Lexes.failure_of_isPlain {line : Int} {start : Nat} {text : Text}
    {d : Delivery ForeignCharacter Token} (h : Lexes line start text d) (hplain : text.IsPlain) :
    d.failure = none := by
  induction h with
  | done hgap => rfl
  | @foreign start gap c rest hgap hb hc =>
    have hstarts := Text.starts_of_isPlain (hplain c (by simp)) hb
    rw [hc] at hstarts
    cases hstarts
  | token hgap hx _ ih =>
    rw [Text.isPlain_append_iff, Text.isPlain_append_iff] at hplain
    exact ih hplain.2.2

namespace Text

theorem failure_of_isPlain {text : Text} (h : text.IsPlain) : (tokenize text 1 0).failure = none :=
  (tokenize_zero_eq_iff.1 rfl).failure_of_isPlain h

/-- The words of a plain text and of what follows it are those of the two together, unless an
identifier runs across the seam. -/
theorem words_append {front back : Text} (hfront : front.IsPlain) (h : front.Apart back) :
    (front ++ back).words = front.words ++ back.words := by
  obtain ⟨e, he⟩ := exists_lexes 1 0 front
  obtain ⟨d, hd⟩ := exists_lexes 1 (0 + front.length) back
  rw [(he.append (he.failure_of_isPlain hfront) h hd).words_eq, he.words_eq, hd.words_eq,
    List.map_append]

theorem words_append_blank {front back : Text} {b : Char} (hfront : front.IsPlain)
    (hb : isBlank b = true) : (front ++ b :: back).words = front.words ++ back.words := by
  have hgap : IsGap [b] := by
    intro c hc
    rw [List.mem_singleton.1 hc, hb]
  have hapart : front.Apart (b :: back) := by
    rintro a - c ⟨⟩ -
    by_contra halnum
    rw [Bool.not_eq_false] at halnum
    rw [Lexeme.not_isBlank_of_isAlphanum halnum] at hb
    cases hb
  rw [words_append hfront hapart]
  exact congrArg (front.words ++ ·) (words_gap_append hgap)

end Text

/-! ## Reasons -/

/-- What a failure says, without the place of it. -/
inductive Reason where
  | foreign (c : Char)
  | unexpected (expected : Expected) (w : Word)
  | incomplete (expected : Expected)
  | limitExceeded (limit : Int)
  | limitUnwritable
  | ceilingExceeded
  deriving DecidableEq

def ParseFailure.reason : ParseFailure → Reason
  | .foreign e => .foreign e.char
  | .unexpected expected t => .unexpected expected t.word
  | .incomplete expected => .incomplete expected
  | .limitExceeded limit => .limitExceeded limit
  | .limitUnwritable => .limitUnwritable
  | .ceilingExceeded => .ceilingExceeded

def Lexeme.word (x : Lexeme) : Word := (x.kind, x.text)

theorem Lexeme.word_injective : Function.Injective Lexeme.word := by
  intro x y h
  obtain ⟨hkind, htext⟩ := Prod.mk.inj h
  cases x with
  | identifier n =>
    cases y <;> cases hkind
    obtain ⟨v, hne, halnum⟩ := n
    obtain rfl : v = _ := htext
    rfl
  | connective op =>
    cases y <;> cases hkind
    rfl
  | negation | opening | closing => cases y <;> first | rfl | cases hkind

theorem lexemes_eq_of_words {ts us : List Token} (h : ts.map Token.word = us.map Token.word) :
    ts.map Token.lexeme = us.map Token.lexeme := by
  have hword : Token.word = Lexeme.word ∘ Token.lexeme := rfl
  rw [hword, ← List.map_map, ← List.map_map] at h
  exact List.map_injective_iff.2 Lexeme.word_injective h

theorem reason_account (limit : Option Int) (text text' : Text) (q : Progress)
    {ts us : List Token} (h : ts.map Token.word = us.map Token.word) :
    (account limit text q ts none).failure.map ParseFailure.reason =
      (account limit text' q us none).failure.map ParseFailure.reason := by
  induction ts generalizing q us with
  | nil =>
    obtain rfl := List.map_eq_nil_iff.1 h.symm
    rfl
  | cons t ts ih =>
    rcases us with _ | ⟨u, us⟩
    · cases h
    rw [List.map_cons, List.map_cons, List.cons.injEq] at h
    obtain ⟨hword, hrest⟩ := h
    have hlexeme : t.lexeme = u.lexeme := Lexeme.word_injective hword
    obtain hstep | ⟨r, e, ho, hstep, he⟩ | ⟨r, hstep, hadmitted⟩ := step_cases limit q t
    · rw [account_of_step_eq_none hstep, account_of_step_eq_none (hlexeme ▸ hstep)]
      show some (Reason.unexpected _ _) = some (Reason.unexpected _ _)
      rw [hword]
    · rw [account_of_refusal ho hstep he, account_of_refusal (hlexeme ▸ ho) hstep he]
    · rw [failure_of_step hstep hadmitted, failure_of_step (hlexeme ▸ hstep) (hlexeme ▸ hadmitted)]
      exact ih r hrest

/-- Texts with the same words, none of which breaks off, have the same formula or fail for the same
reason. -/
theorem outcome_of_words_eq (limit : Option Int) {text text' : Text}
    (h : (tokenize text 1 0).failure = none) (h' : (tokenize text' 1 0).failure = none)
    (hwords : text.words = text'.words) :
    (parse limit text).outcome.mapError ParseFailure.reason =
      (parse limit text').outcome.mapError ParseFailure.reason := by
  obtain ⟨⟨ts, f⟩, htokens⟩ : ∃ d, tokenize text 1 0 = d := ⟨_, rfl⟩
  obtain ⟨⟨us, g⟩, htokens'⟩ : ∃ d, tokenize text' 1 0 = d := ⟨_, rfl⟩
  rw [htokens] at h
  rw [htokens'] at h'
  unfold Text.words at hwords
  rw [htokens, htokens'] at hwords
  obtain rfl : f = none := h
  obtain rfl : g = none := h'
  have hreason := reason_account limit text text' .start hwords
  obtain ⟨e, he, hparse⟩ | ⟨p, hnone, -, hp, hparse⟩ := parse_eq_account limit htokens
  · obtain ⟨e', he', hparse'⟩ | ⟨p', hnone', -, -, -⟩ := parse_eq_account limit htokens'
    · rw [he, he'] at hreason
      rw [hparse, hparse']
      exact congrArg Except.error (Option.some.inj hreason)
    · rw [he, hnone'] at hreason
      cases hreason
  · obtain ⟨e', he', -⟩ | ⟨p', -, -, hp', hparse'⟩ := parse_eq_account limit htokens'
    · rw [hnone, he'] at hreason
      cases hreason
    · have hlexemes : p.lexemes = p'.lexemes :=
        hp.symm.trans ((lexemes_eq_of_words hwords).trans hp')
      rw [hparse, hparse', Node.lexemes_inj hlexemes]

end Propositional
