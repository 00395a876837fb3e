import Propositional.Proofs.Words

/-!
# Cuts

A text may be cut at any place. What a stream delivers from the cut on depends on the text behind it
alone, places apart, and the tokens of the whole text are those of its two parts, unless an
identifier runs across the cut (`tokenize_cut`).

1. `Lexes.moved`: a layout can be moved, and its tokens move with it.
2. `Lexes.append_of_failure`: where the front part breaks off, nothing behind it counts.
3. `Lexes.apart_of_append`: the layouts of two parts do not join where an identifier runs across the
   cut, since it would have to end before a letter or digit.
-/

namespace Propositional

/-! ## Moving what is delivered -/

/-- A token that stands a number of places further on. -/
def Token.moved (n : Nat) (t : Token) : Token :=
  { t with index := t.index + n, stop := t.stop + n }

/-- A foreign character that stands a number of places further on. -/
def ForeignCharacter.moved (n : Nat) (e : ForeignCharacter) : ForeignCharacter :=
  { e with index := e.index + n }

namespace Delivery

/-- Tokens, and the foreign character that cuts them short, all moved by a number of places. -/
def moved (n : Nat) (d : Delivery ForeignCharacter Token) : Delivery ForeignCharacter Token :=
  ⟨d.items.map (Token.moved n), d.failure.map (ForeignCharacter.moved n)⟩

/-- One delivery and then another, unless the first is cut short. -/
def andThen {ε β : Type} (d e : Delivery ε β) : Delivery ε β :=
  match d.failure with
  | none => ⟨d.items ++ e.items, e.failure⟩
  | some _ => d

theorem andThen_of_none {ε β : Type} {d : Delivery ε β} (h : d.failure = none)
    (e : Delivery ε β) : d.andThen e = ⟨d.items ++ e.items, e.failure⟩ := by
  simp only [andThen, h]

theorem andThen_of_some {ε β : Type} {d : Delivery ε β} {f : ε} (h : d.failure = some f)
    (e : Delivery ε β) : d.andThen e = d := by
  simp only [andThen, h]

end Delivery

/-! ## Layouts and cuts -/

namespace Lexes

variable {line : Int} {start : Nat} {text front back : Text} {d : Delivery ForeignCharacter Token}

theorem moved (h : Lexes line start text d) (n : Nat) :
    Lexes line (start + n) text (d.moved n) := by
  induction h with
  | done hgap => exact .done hgap
  | @foreign start gap c rest hgap hb hc =>
    have hmoved : Lexes line (start + n) (gap ++ c :: rest) _ := .foreign hgap hb hc
    rwa [Nat.add_right_comm] at hmoved
  | @token start gap x rest d hgap hx _ ih =>
    have hplace : start + gap.length + x.text.length + n =
        start + n + gap.length + x.text.length := by omega
    rw [hplace] at ih
    have hmoved : Lexes line (start + n) (gap ++ (x.text ++ rest)) _ := .token hgap hx ih
    rwa [Nat.add_right_comm, Nat.add_right_comm _ _ x.text.length] at hmoved

theorem append_of_failure {e : ForeignCharacter} (h : Lexes line start front d)
    (he : d.failure = some e) (back : Text) : Lexes line start (front ++ back) d := by
  obtain ⟨init, tail, rfl, -, hother⟩ := h.exists_front_of_failure he
  have hboth := hother (tail ++ back)
  rwa [← List.cons_append, ← List.append_assoc] at hboth

/-- If the tokens of a text are the first ones of a longer text, no identifier runs across the place
where the one ends. -/
theorem apart_of_append {us : List Token} {f : Option ForeignCharacter}
    (h : Lexes line start front d) (hd : d.failure = none)
    (hboth : Lexes line start (front ++ back) ⟨d.items ++ us, f⟩) : front.Apart back := by
  induction h with
  | done hgap =>
    intro a ha b _ halnum
    have hblank := hgap a (List.mem_of_mem_getLast? ha)
    rw [Lexeme.not_isBlank_of_isAlphanum halnum] at hblank
    cases hblank
  | foreign => cases hd
  | @token start gap x rest d hgap hx _ ih =>
    -- the longer text begins with the same token, which ends before more text
    generalize htext : gap ++ (x.text ++ rest) ++ back = text at hboth
    generalize hitems : (⟨_, f⟩ : Delivery ForeignCharacter Token) = e at hboth
    cases hboth with
    | done => cases hitems
    | foreign => cases hitems
    | @token _ gap' x' rest' d' hgap' hx' hrest' =>
      obtain ⟨items, failure⟩ := d'
      obtain ⟨hcons, rfl⟩ := Delivery.mk.inj hitems
      obtain ⟨htoken, rfl⟩ := List.cons.inj hcons
      obtain ⟨rfl, -, hindex, -⟩ := Token.mk.inj htoken
      have hlength : gap.length = gap'.length := by omega
      rw [List.append_assoc, List.append_assoc] at htext
      obtain ⟨rfl, hrest⟩ := List.append_inj htext hlength
      obtain rfl := List.append_cancel_left hrest
      have happart : rest.Apart back := ih hd hrest'
      cases rest with
      | nil =>
        rw [List.append_nil]
        exact hx'.apart
      | cons c tail =>
        intro a ha
        refine happart a ?_
        rwa [List.getLast?_append, List.getLast?_append] at ha

end Lexes

/-! ## Cutting a text -/

theorem tokenize_eq_moved (line : Int) (text : Text) (cut : Nat) :
    tokenize text line cut = (tokenize (text.drop cut) line 0).moved cut := by
  have hlexes : Lexes line 0 (text.drop cut) (tokenize (text.drop cut) line 0) :=
    tokenize_zero_eq_iff.1 rfl
  have hmoved := hlexes.moved cut
  rw [Nat.zero_add] at hmoved
  exact tokenize_eq_iff.2 hmoved

theorem lexes_drop (line : Int) (text : Text) (cut : Nat) :
    Lexes line (text.take cut).length (text.drop cut) (tokenize text line cut) := by
  obtain hle | hle := Nat.le_total cut text.length
  · rw [List.length_take_of_le hle]
    exact tokenize_eq_iff.1 rfl
  · have hnil : text.drop cut = [] := List.drop_of_length_le hle
    rw [hnil, tokenize_of_finished (pull_of_gap hnil Text.isGap_nil)]
    exact .done Text.isGap_nil

/-- A stream that is started at a cut delivers what the text behind the cut does, with its tokens
and its foreign character as many places further on as the cut is. And what a text delivers is what
it does up to the cut and, unless that is cut short, what it does from there on, exactly if no
identifier runs across the cut or the text up to there breaks off. -/
theorem tokenize_cut (line : Int) (text : Text) (cut : Nat) :
    tokenize text line cut = (tokenize (text.drop cut) line 0).moved cut ∧
    (tokenize text line 0 = (tokenize (text.take cut) line 0).andThen (tokenize text line cut) ↔
      Text.Apart (text.take cut) (text.drop cut) ∨
        (tokenize (text.take cut) line 0).failure ≠ none) := by
  refine ⟨tokenize_eq_moved line text cut, ?_⟩
  have hfront : Lexes line 0 (text.take cut) (tokenize (text.take cut) line 0) :=
    tokenize_zero_eq_iff.1 rfl
  have hback := lexes_drop line text cut
  have htext : text = text.take cut ++ text.drop cut := (List.take_append_drop cut text).symm
  cases hfailure : (tokenize (text.take cut) line 0).failure with
  | some e =>
    refine iff_of_true ?_ (.inr (by simp))
    rw [Delivery.andThen_of_some hfailure]
    refine tokenize_zero_eq_iff.2 ?_
    have hboth := hfront.append_of_failure hfailure (text.drop cut)
    rwa [← htext] at hboth
  | none =>
    rw [Delivery.andThen_of_none hfailure, tokenize_zero_eq_iff]
    constructor
    · intro hboth
      nth_rewrite 1 [htext] at hboth
      exact .inl (hfront.apart_of_append hfailure hboth)
    · rintro (happart | hne)
      · nth_rewrite 1 [htext]
        refine hfront.append hfailure happart ?_
        rwa [Nat.zero_add]
      · exact absurd rfl hne

end Propositional
