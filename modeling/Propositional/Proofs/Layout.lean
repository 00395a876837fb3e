import Propositional.Token.Stream

/-!
# Layouts

How the tokens of a text lie in it. `Lexes line start text d` says that a text which begins at the
index `start` is laid out as gaps of blanks with a lexeme after each, and that `d` delivers these
lexemes as tokens; the layout ends with the text or at a foreign character.

1. `Lexeme.read?_eq_some_iff`: the longest lexeme at the front of a text is one that ends there.
2. `tokenize_eq_iff`: what is delivered is the layout, so every text has exactly one.
3. `Lexes.append`: layouts of two texts join into one unless an identifier runs across the seam.
4. `Lexes.split`: a layout parts after any of its tokens.
-/

namespace Propositional

/-! ## Runs of characters -/

namespace Text

/-- A gap is a text of blanks. -/
def IsGap (text : Text) : Prop := ∀ c ∈ text, isBlank c = true

instance : DecidablePred IsGap := fun text =>
  decidable_of_iff (text.all isBlank = true) List.all_eq_true

/-- Two texts are apart if no identifier runs from the first into the second. -/
def Apart (front back : Text) : Prop :=
  ∀ a ∈ front.getLast?, ∀ b ∈ back.head?, a.isAlphanum = true → b.isAlphanum = false

variable {p : Char → Bool} {run rest : Text}

theorem takeWhile_append_stop (hrun : ∀ c ∈ run, p c = true)
    (hrest : ∀ c ∈ rest.head?, p c = false) : (run ++ rest).takeWhile p = run := by
  rw [List.takeWhile_append_of_pos hrun]
  cases rest with
  | nil => simp
  | cons c tail => rw [List.takeWhile_cons_of_neg (by simp [hrest c rfl]), List.append_nil]

theorem dropWhile_append_stop (hrun : ∀ c ∈ run, p c = true)
    (hrest : ∀ c ∈ rest.head?, p c = false) : (run ++ rest).dropWhile p = rest := by
  rw [List.dropWhile_append_of_pos hrun]
  cases rest with
  | nil => rfl
  | cons c tail => rw [List.dropWhile_cons_of_neg (by simp [hrest c rfl])]

theorem isGap_nil : IsGap [] := List.forall_mem_nil _

theorem exists_gap (text : Text) :
    ∃ gap rest, text = gap ++ rest ∧ gap.IsGap ∧ ∀ c ∈ rest.head?, isBlank c = false := by
  refine ⟨text.takeWhile isBlank, text.dropWhile isBlank, List.takeWhile_append_dropWhile.symm,
    fun c hc => List.all_eq_true.1 List.all_takeWhile c hc, fun c hc => ?_⟩
  have h := List.head?_dropWhile_not isBlank text
  rw [Option.mem_def.1 hc] at h
  exact h

end Text

/-! ## The end of a lexeme -/

namespace Lexeme

/-- A lexeme ends before a text unless it is an identifier and the text goes on with it. -/
def EndsBefore (x : Lexeme) (rest : Text) : Prop :=
  x.kind = .identifier → ∀ c ∈ rest.head?, c.isAlphanum = false

/-- The characters at which a lexeme starts. -/
def starts (c : Char) : Bool := c.isAlphanum || (ofSymbol? c).isSome

theorem not_isBlank_of_isAlphanum {c : Char} (h : c.isAlphanum = true) :
    Text.isBlank c = false := by
  have key : Text.blanks.all (fun b => !b.isAlphanum) = true := by decide
  cases hb : Text.isBlank c with
  | false => rfl
  | true =>
    have hc := List.all_eq_true.1 key c (by simpa [Text.isBlank] using hb)
    rw [h] at hc
    cases hc

theorem ofSymbol?_symbol (op : Connective) : ofSymbol? op.symbol = some (.connective op) := by
  cases op <;> decide

theorem exists_symbol {x : Lexeme} (h : x.kind ≠ .identifier) :
    ∃ c, x.text = [c] ∧ ofSymbol? c = some x ∧ c.isAlphanum = false ∧ Text.isBlank c = false := by
  cases x with
  | identifier n => exact absurd rfl h
  | negation => exact ⟨'!', rfl, by decide, by decide, by decide⟩
  | connective op =>
    exact ⟨op.symbol, rfl, ofSymbol?_symbol op, by cases op <;> decide, by cases op <;> decide⟩
  | opening => exact ⟨'(', rfl, by decide, by decide, by decide⟩
  | closing => exact ⟨')', rfl, by decide, by decide, by decide⟩

theorem not_isBlank_of_mem_text {x : Lexeme} {c : Char} (h : c ∈ x.text) :
    Text.isBlank c = false := by
  by_cases hx : x.kind = .identifier
  · cases x <;> cases hx
    rename_i n
    exact not_isBlank_of_isAlphanum (List.all_eq_true.1 n.alphanumeric c h)
  · obtain ⟨e, he, -, -, hb⟩ := exists_symbol hx
    rw [he, List.mem_singleton] at h
    rwa [h]

theorem text_ne_nil (x : Lexeme) : x.text ≠ [] := List.length_pos_iff.1 x.length_text_pos

theorem not_isBlank_of_mem_head? {x : Lexeme} {rest : Text} :
    ∀ c ∈ (x.text ++ rest).head?, Text.isBlank c = false := by
  intro c hc
  cases hx : x.text with
  | nil => exact absurd hx x.text_ne_nil
  | cons e tail =>
    rw [hx] at hc
    cases hc
    exact not_isBlank_of_mem_text (x := x) (by rw [hx]; exact List.mem_cons_self)

theorem read?_identifier (n : Name) {rest : Text} (h : ∀ c ∈ rest.head?, c.isAlphanum = false) :
    read? (n.text ++ rest) = some (.identifier n, rest) := by
  obtain ⟨_ | ⟨c, tail⟩, hne, hall⟩ := n
  · exact absurd rfl hne
  · have hc : c.isAlphanum = true := List.all_eq_true.1 hall c (List.mem_cons_self)
    have htail : ∀ e ∈ tail, e.isAlphanum = true := fun e he =>
      List.all_eq_true.1 hall e (List.mem_cons_of_mem c he)
    rw [List.cons_append, read?, dif_pos hc]
    simp only [Text.takeWhile_append_stop htail h, Text.dropWhile_append_stop htail h]

theorem read?_eq_some_iff {input rest : Text} {x : Lexeme} :
    read? input = some (x, rest) ↔ input = x.text ++ rest ∧ x.EndsBefore rest := by
  constructor
  · intro h
    refine ⟨(text_append_of_read? h).symm, fun hx c hc => ?_⟩
    cases input with
    | nil => cases h
    | cons e tail =>
      rw [read?] at h
      split at h
      · cases h
        have hd := List.head?_dropWhile_not Char.isAlphanum tail
        rw [Option.mem_def.1 hc] at hd
        exact hd
      · rename_i ha
        obtain ⟨y, hy, e⟩ := Option.map_eq_some_iff.1 h
        cases e
        cases x <;> cases hx
        rename_i n
        -- a symbol is no letter or digit, so it is no name
        have hn := n.alphanumeric
        rw [show n.text = [_] from text_of_ofSymbol? hy] at hn
        exact absurd (by simpa using hn) ha
  · rintro ⟨rfl, h⟩
    by_cases hx : x.kind = .identifier
    · cases x <;> cases hx
      exact read?_identifier _ (h rfl)
    · obtain ⟨c, he, hs, ha, -⟩ := exists_symbol hx
      rw [he, List.singleton_append, read?, dif_neg (by simp [ha]), hs]
      rfl

theorem read?_eq_none_iff {c : Char} {tail : Text} :
    read? (c :: tail) = none ↔ starts c = false := by
  rw [read?, starts]
  split
  · rename_i h
    simp [h]
  · rename_i h
    simp [h]

end Lexeme

/-! ## Layouts -/

/-- A text that begins at the index `start` is laid out as gaps and lexemes, which `d` delivers. -/
inductive Lexes (line : Int) : Nat → Text → Delivery ForeignCharacter Token → Prop where
  | done {start : Nat} {gap : Text} : gap.IsGap → Lexes line start gap .done
  | foreign {start : Nat} {gap : Text} {c : Char} {rest : Text} :
    gap.IsGap → Text.isBlank c = false → Lexeme.starts c = false →
      Lexes line start (gap ++ c :: rest) (.broken ⟨c, (start + gap.length : Nat)⟩)
  | token {start : Nat} {gap : Text} {x : Lexeme} {rest : Text}
      {d : Delivery ForeignCharacter Token} :
    gap.IsGap → x.EndsBefore rest → Lexes line (start + gap.length + x.text.length) rest d →
      Lexes line start (gap ++ (x.text ++ rest))
        (.cons ⟨x, line, (start + gap.length : Nat), start + gap.length + x.text.length⟩ d)

section Pull

variable {line : Int} {text gap rest : Text} {start : Nat}

theorem pull_of_gap (h : text.drop start = gap) (hgap : gap.IsGap) :
    pull line text start = .finished := by
  change pullAt line text start = _
  have hs : (gap ++ []).dropWhile Text.isBlank = [] := Text.dropWhile_append_stop hgap (by simp)
  rw [List.append_nil] at hs
  simp only [pullAt, h, Text.skipBlanks, hs]

theorem pull_of_foreign {c : Char} (h : text.drop start = gap ++ c :: rest) (hgap : gap.IsGap)
    (hb : Text.isBlank c = false) (hc : Lexeme.starts c = false) :
    pull line text start = .foreign ⟨c, (start + gap.length : Nat)⟩ := by
  change pullAt line text start = _
  have hhead : ∀ e ∈ (c :: rest).head?, Text.isBlank e = false := by
    intro e he
    cases he
    exact hb
  simp only [pullAt, h, Text.skipBlanks, Text.leadingBlanks, Text.dropWhile_append_stop hgap hhead,
    Text.takeWhile_append_stop hgap hhead, Lexeme.read?_eq_none_iff.2 hc]

theorem pull_of_token {x : Lexeme} (h : text.drop start = gap ++ (x.text ++ rest))
    (hgap : gap.IsGap) (hx : x.EndsBefore rest) :
    pull line text start =
      .token ⟨x, line, (start + gap.length : Nat), start + gap.length + x.text.length⟩ := by
  change pullAt line text start = _
  have hread := Lexeme.read?_eq_some_iff.2 ⟨rfl, hx⟩
  have hhead : ∀ c ∈ (x.text ++ rest).head?, Text.isBlank c = false :=
    Lexeme.not_isBlank_of_mem_head?
  simp only [pullAt, h, Text.skipBlanks, Text.leadingBlanks, Text.dropWhile_append_stop hgap hhead,
    Text.takeWhile_append_stop hgap hhead]
  split
  · rename_i hnil
    exact absurd (List.append_eq_nil_iff.1 hnil).1 x.text_ne_nil
  · rename_i c tail hcons
    rw [hcons] at hread
    simp only [hread]

end Pull

section Tokenize

variable {line cursor : Int} {text : Text}

theorem tokenize_of_finished (h : pull line text cursor = .finished) :
    tokenize text line cursor = .done := by
  rw [tokenize, Stream.tokens]
  split <;> simp_all [Stream.next]

theorem tokenize_of_foreign {e : ForeignCharacter} (h : pull line text cursor = .foreign e) :
    tokenize text line cursor = .broken e := by
  rw [tokenize, Stream.tokens]
  split <;> simp_all [Stream.next]

theorem tokenize_of_token {t : Token} (h : pull line text cursor = .token t) :
    tokenize text line cursor = .cons t (tokenize text line t.stop) := by
  rw [tokenize, Stream.tokens]
  split <;> simp_all [Stream.next, Stream.past, tokenize]

end Tokenize

variable {line : Int} {start : Nat} {text : Text} {d : Delivery ForeignCharacter Token}

theorem Lexes.tokenize_eq {rest : Text} (h : Lexes line start rest d)
    (htext : text.drop start = rest) : tokenize text line start = d := by
  induction h with
  | done hgap => exact tokenize_of_finished (pull_of_gap htext hgap)
  | foreign hgap hb hc => exact tokenize_of_foreign (pull_of_foreign htext hgap hb hc)
  | @token start gap x rest d hgap hx _ ih =>
    rw [tokenize_of_token (pull_of_token htext hgap hx)]
    refine congrArg _ (ih ?_)
    rw [Nat.add_assoc, ← List.drop_drop, htext, ← List.append_assoc, ← List.length_append,
      List.drop_left]

theorem exists_lexes (line : Int) (start : Nat) (text : Text) :
    ∃ d, Lexes line start text d := by
  obtain ⟨gap, rest, rfl, hgap, hrest⟩ := text.exists_gap
  cases rest with
  | nil => exact ⟨.done, by simpa using .done hgap⟩
  | cons c tail =>
    cases hread : Lexeme.read? (c :: tail) with
    | none => exact ⟨_, .foreign hgap (hrest c rfl) (Lexeme.read?_eq_none_iff.1 hread)⟩
    | some p =>
      obtain ⟨x, rest⟩ := p
      obtain ⟨hx, hend⟩ := Lexeme.read?_eq_some_iff.1 hread
      rw [hx]
      have : rest.length < (gap ++ c :: tail).length := by
        have := x.length_text_pos
        simp only [hx, List.length_append]
        omega
      obtain ⟨d, hd⟩ := exists_lexes line (start + gap.length + x.text.length) rest
      exact ⟨_, .token hgap hend hd⟩
termination_by text.length

/-- What a stream delivers is the layout of the text from its start on. -/
theorem tokenize_eq_iff :
    tokenize text line start = d ↔ Lexes line start (text.drop start) d := by
  constructor
  · rintro rfl
    obtain ⟨d, hd⟩ := exists_lexes line start (text.drop start)
    rwa [hd.tokenize_eq rfl]
  · exact fun h => h.tokenize_eq rfl

theorem tokenize_zero_eq_iff : tokenize text line 0 = d ↔ Lexes line 0 text d := by
  have h : tokenize text line ((0 : Nat) : Int) = d ↔ Lexes line 0 (text.drop 0) d :=
    tokenize_eq_iff
  exact h

/-! ## Joining and parting layouts -/

theorem Text.Apart.of_append {front mid back : Text} (h : (front ++ mid).Apart back) :
    mid.Apart back := by
  intro a ha
  refine h a ?_
  rw [List.getLast?_append, Option.mem_def.1 ha]
  rfl

theorem Lexeme.EndsBefore.of_append {x : Lexeme} {front back : Text}
    (h : x.EndsBefore (front ++ back)) : x.EndsBefore front := by
  intro hk c hc
  refine h hk c ?_
  rw [List.head?_append, Option.mem_def.1 hc]
  rfl

theorem Lexeme.EndsBefore.apart {x : Lexeme} {front back : Text} (h : x.EndsBefore back) :
    (front ++ x.text).Apart back := by
  intro a ha b hb hab
  have hmem : a ∈ x.text := by
    rw [List.getLast?_append] at ha
    cases hx : x.text.getLast? with
    | none => exact absurd (List.getLast?_eq_none_iff.1 hx) x.text_ne_nil
    | some e =>
      rw [hx] at ha
      cases ha
      exact List.mem_of_mem_getLast? hx
  by_cases hk : x.kind = .identifier
  · exact h hk b hb
  · obtain ⟨c, he, -, hc, -⟩ := exists_symbol hk
    rw [he, List.mem_singleton] at hmem
    rw [hmem, hc] at hab
    cases hab

theorem Lexeme.EndsBefore.of_apart {x : Lexeme} {front rest back : Text}
    (h : x.EndsBefore rest) (happart : (front ++ (x.text ++ rest)).Apart back) :
    x.EndsBefore (rest ++ back) := by
  intro hk b hb
  cases rest with
  | cons c tail => exact h hk b hb
  | nil =>
    obtain ⟨a, ha⟩ := Option.ne_none_iff_exists'.1
      (fun hx => x.text_ne_nil (List.getLast?_eq_none_iff.1 hx))
    cases x <;> cases hk
    rename_i n
    refine happart a ?_ b hb (List.all_eq_true.1 n.alphanumeric a (List.mem_of_mem_getLast? ha))
    rw [List.append_nil, List.getLast?_append, ha]
    rfl

namespace Lexes

theorem gap_append {gap : Text} (hgap : gap.IsGap) (h : Lexes line (start + gap.length) text d) :
    Lexes line start (gap ++ text) d := by
  have joined : ∀ {other : Text}, other.IsGap → (gap ++ other).IsGap := by
    intro other hother c hc
    exact (List.mem_append.1 hc).elim (hgap c) (hother c)
  cases h with
  | done hother => exact .done (joined hother)
  | @foreign _ other c rest hother hb hc =>
    have h : Lexes line start (gap ++ other ++ c :: rest) _ := .foreign (joined hother) hb hc
    simpa only [List.append_assoc, List.length_append, Nat.add_assoc] using h
  | token hother hx hrest =>
    rw [Nat.add_assoc start, ← List.length_append] at hrest ⊢
    rw [← List.append_assoc]
    exact .token (joined hother) hx hrest

theorem append {back : Text} {e : Delivery ForeignCharacter Token} (h : Lexes line start text e)
    (he : e.failure = none) (happart : text.Apart back)
    (hback : Lexes line (start + text.length) back d) :
    Lexes line start (text ++ back) ⟨e.items ++ d.items, d.failure⟩ := by
  induction h with
  | done hgap => exact gap_append hgap hback
  | foreign => cases he
  | @token start gap x rest e hgap hx _ ih =>
    rw [List.append_assoc, List.append_assoc]
    refine .token hgap (hx.of_apart happart) (ih he ?_ ?_)
    · rw [← List.append_assoc] at happart
      exact happart.of_append
    · simpa only [List.length_append, Nat.add_assoc] using hback

end Lexes

/-- The place just past the last of some tokens, or a given place if there are none. -/
def Token.placeAfter (start : Nat) (ts : List Token) : Nat :=
  (ts.getLast?.map Token.stop).getD start

theorem Token.placeAfter_cons (start : Nat) (t : Token) (ts : List Token) :
    placeAfter start (t :: ts) = placeAfter t.stop ts := by
  rw [placeAfter, List.getLast?_cons, placeAfter]
  cases ts.getLast? <;> rfl

namespace Lexes

/-- A layout parts after any of its tokens: the tokens up to there are those of a front part of the
text, and those after it are those of the rest. -/
theorem split {read rest : List Token} (h : Lexes line start text d)
    (hd : d.items = read ++ rest) :
    ∃ front back, text = front ++ back ∧ Token.placeAfter start read = start + front.length ∧
      Lexes line start front ⟨read, none⟩ ∧
      Lexes line (start + front.length) back ⟨rest, d.failure⟩ ∧
      ∀ t ∈ read.getLast?, t.text <:+ front := by
  induction read generalizing start text d with
  | nil =>
    obtain ⟨items, failure⟩ := d
    cases hd
    exact ⟨[], text, rfl, rfl, .done Text.isGap_nil, h, by simp⟩
  | cons t read ih =>
    cases h with
    | done => cases hd
    | foreign => cases hd
    | @token _ gap x tail d hgap hx htail =>
      obtain ⟨rfl, hitems⟩ := List.cons.inj hd
      obtain ⟨front, back, rfl, hplace, hfront, hback, hlast⟩ := ih htail hitems
      have hlen : start + gap.length + x.text.length + front.length =
          start + (gap ++ (x.text ++ front)).length := by
        simp only [List.length_append]
        omega
      refine ⟨gap ++ (x.text ++ front), back, by simp only [List.append_assoc], ?_,
        .token hgap hx.of_append hfront, hlen ▸ hback, fun u hu => ?_⟩
      · rw [Token.placeAfter_cons, hplace, hlen]
      · rw [List.getLast?_cons] at hu
        cases hr : read.getLast? with
        | some v =>
          rw [hr] at hu
          cases hu
          exact ((hlast v hr).trans (List.suffix_append _ _)).trans (List.suffix_append _ _)
        | none =>
          -- nothing lies between the token and its end
          rw [hr] at hu
          cases hu
          rw [Token.placeAfter, hr] at hplace
          have hnil : front = [] := List.length_eq_zero_iff.1 (by simpa using hplace)
          rw [hnil, List.append_nil]
          exact List.suffix_append _ _

/-- A layout that breaks off does so at a foreign character, and its tokens lay out the text in
front of that character to its end. -/
theorem exists_lexes_front {e : ForeignCharacter} (h : Lexes line start text d)
    (he : d.failure = some e) :
    ∃ front back, text = front ++ e.char :: back ∧ e.index = (start + front.length : Nat) ∧
      Text.isBlank e.char = false ∧ Lexeme.starts e.char = false ∧
      Lexes line start front ⟨d.items, none⟩ := by
  induction h with
  | done => cases he
  | @foreign start gap c rest hgap hb hc =>
    cases he
    exact ⟨gap, rest, rfl, rfl, hb, hc, .done hgap⟩
  | @token start gap x rest d hgap hx _ ih =>
    obtain ⟨front, back, rfl, hindex, hb, hc, hfront⟩ := ih he
    refine ⟨gap ++ (x.text ++ front), back, by simp only [List.append_assoc], ?_, hb, hc,
      .token hgap hx.of_append hfront⟩
    rw [hindex, List.length_append, List.length_append, Nat.add_assoc, Nat.add_assoc]

theorem exists_front_of_failure {e : ForeignCharacter} (h : Lexes line start text d)
    (he : d.failure = some e) :
    ∃ front back, text = front ++ e.char :: back ∧ e.index = (start + front.length : Nat) ∧
      ∀ other, Lexes line start (front ++ e.char :: other) d := by
  obtain ⟨front, back, htext, hindex, hb, hc, hfront⟩ := h.exists_lexes_front he
  obtain ⟨items, failure⟩ := d
  obtain ⟨c, index⟩ := e
  cases he
  cases hindex
  refine ⟨front, back, htext, rfl, fun other => ?_⟩
  have hforeign : Lexes line (start + front.length) ([] ++ c :: other) _ :=
    .foreign Text.isGap_nil hb hc
  have happart : front.Apart (c :: other) := by
    rintro a - b ⟨⟩ -
    exact (Bool.or_eq_false_iff.1 hc).1
  simpa [Delivery.broken] using hfront.append rfl happart hforeign

end Lexes

theorem Lexes.index_le_and_pairwise (h : Lexes line start text d) :
    (∀ t ∈ d.items, (start : Int) ≤ t.index) ∧ d.items.Pairwise fun t u => t.index < u.index := by
  induction h with
  | done => exact ⟨by rintro t ⟨⟩, .nil⟩
  | foreign => exact ⟨by rintro t ⟨⟩, .nil⟩
  | @token start gap x rest d hgap hx _ ih =>
    obtain ⟨hle, hpairwise⟩ := ih
    have hpos := x.length_text_pos
    refine ⟨List.forall_mem_cons.2 ⟨?_, fun t ht => ?_⟩,
      List.pairwise_cons.2 ⟨fun t ht => ?_, hpairwise⟩⟩
    · dsimp only
      omega
    · have := hle t ht
      omega
    · have := hle t ht
      dsimp only
      omega

theorem Lexes.pairwise_index (h : Lexes line start text d) :
    d.items.Pairwise fun t u => t.index < u.index := h.index_le_and_pairwise.2

/-! ## Blanks -/

def Text.withoutBlanks (text : Text) : Text := text.filter fun c => !isBlank c

theorem Text.withoutBlanks_of_isGap {gap : Text} (h : gap.IsGap) : gap.withoutBlanks = [] := by
  rw [withoutBlanks, List.filter_eq_nil_iff]
  intro c hc
  simp [h c hc]

theorem Lexeme.withoutBlanks_text (x : Lexeme) : x.text.withoutBlanks = x.text := by
  rw [Text.withoutBlanks, List.filter_eq_self]
  intro c hc
  simp [not_isBlank_of_mem_text hc]

theorem Lexes.withoutBlanks_eq (h : Lexes line start text d) (hd : d.failure = none) :
    text.withoutBlanks = (d.items.map Token.text).flatten := by
  induction h with
  | done hgap => exact Text.withoutBlanks_of_isGap hgap
  | foreign => cases hd
  | @token start gap x rest d hgap hx _ ih =>
    have hgap := Text.withoutBlanks_of_isGap hgap
    have hx := x.withoutBlanks_text
    have hrest := ih hd
    rw [Text.withoutBlanks] at hgap hx hrest ⊢
    rw [List.filter_append, List.filter_append, hgap, hx, hrest]
    rfl

end Propositional
