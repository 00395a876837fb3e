import Mathlib.Data.List.DropRight
import Propositional.Proofs.SourceWords

/-!
# What a proposition file says

The formula of a file depends on what the lines say (`Source.said`), and these are told apart
wherever a break stands between them: `Source.said_append_break` cuts a text at any break, also
between a carriage return and its line feed, since the empty line there says nothing. So the formula
is the same however the breaks are written, whatever blank lines and comments are among the others,
and however the lines are indented.

What is read is a text of a certain kind (`Source.Normal`): it is on one line, has no white space at
its ends and is no comment. As the content of a file, such a text is read as it is
(`Source.formulaText?_of_normal`).
-/

namespace Propositional

namespace Text

/-! ## Trimming -/

/-- A text neither begins nor ends with white space. -/
def IsTight (text : Text) : Prop :=
  (∀ c ∈ text.head?, isWhite c = false) ∧ ∀ c ∈ text.getLast?, isWhite c = false

section Trim

variable {text white white' : Text} {c : Char}

theorem not_isWhite_of_head?_dropWhile (text : Text) (h : c ∈ (text.dropWhile isWhite).head?) :
    isWhite c = false := by
  have hnot := List.head?_dropWhile_not isWhite text
  rw [Option.mem_def.1 h] at hnot
  exact hnot

theorem isTight_trim (line : Text) : line.trim.IsTight := by
  constructor
  · intro c hc
    obtain ⟨back, hback⟩ : line.trim <+: line.dropWhile isWhite := List.rdropWhile_prefix isWhite _
    apply not_isWhite_of_head?_dropWhile line
    rw [← hback, List.head?_append, Option.mem_def.1 hc]
    rfl
  · intro c hc
    unfold trim at hc
    rw [List.getLast?_reverse] at hc
    exact not_isWhite_of_head?_dropWhile _ hc

theorem trim_append_of_isTight (hwhite : ∀ c ∈ white, isWhite c = true)
    (hwhite' : ∀ c ∈ white', isWhite c = true) (h : text.IsTight) :
    (white ++ (text ++ white')).trim = text := by
  obtain ⟨hhead, hlast⟩ := h
  unfold trim
  by_cases hnil : text = []
  · subst hnil
    have hall : ∀ c ∈ white ++ white', isWhite c = true := List.forall_mem_append.2 ⟨hwhite, hwhite'⟩
    rw [List.nil_append, ← List.append_nil (white ++ white'),
      dropWhile_append_stop hall (by simp)]
    rfl
  · have hback : ∀ c ∈ white'.reverse, isWhite c = true := fun c hc =>
      hwhite' c (List.mem_reverse.1 hc)
    rw [dropWhile_append_stop hwhite, List.reverse_append, dropWhile_append_stop hback,
      List.reverse_reverse]
    · rwa [List.head?_reverse]
    · rwa [List.head?_append_of_ne_nil _ hnil]

theorem trim_append (hwhite : ∀ c ∈ white, isWhite c = true) (line : Text)
    (hwhite' : ∀ c ∈ white', isWhite c = true) : (white ++ line ++ white').trim = line.trim := by
  obtain ⟨front, back, hline, hfront, hback⟩ := exists_trim line
  have hparts : white ++ line ++ white' = (white ++ front) ++ (line.trim ++ (back ++ white')) := by
    conv_lhs => rw [hline]
    simp only [List.append_assoc]
  rw [hparts]
  exact trim_append_of_isTight (List.forall_mem_append.2 ⟨hwhite, hfront⟩)
    (List.forall_mem_append.2 ⟨hback, hwhite'⟩) line.isTight_trim

theorem head?_trim_cons (hc : isWhite c = false) (rest : Text) :
    (trim (c :: rest)).head? = some c := by
  obtain ⟨front, back, hline, hfront, hback⟩ := exists_trim (c :: rest)
  have hnot : ∀ {white more : Text}, (∀ d ∈ white, isWhite d = true) → c :: rest = white ++ more →
      white = [] := by
    intro white more hwhite heq
    rcases white with _ | ⟨d, white⟩
    · rfl
    · obtain ⟨rfl, -⟩ := List.cons.inj heq
      rw [hwhite c List.mem_cons_self] at hc
      cases hc
  rw [hnot hfront hline, List.nil_append] at hline
  rcases htrim : trim (c :: rest) with _ | ⟨d, more⟩
  · rw [htrim, List.nil_append, ← List.append_nil back] at hline
    rw [hnot hback hline] at hline
    cases hline
  · rw [htrim] at hline
    rw [(List.cons.inj hline).1]
    rfl

end Trim

/-! ## Breaks between lines -/

/-- A line break as it is written: a character that ends a line, or a carriage return with the line
feed behind it. -/
inductive IsTerminator : Text → Prop
  | single {b : Char} : isBreak b = true → IsTerminator [b]
  | pair : IsTerminator ['\r', '\n']

/-- White space that ends no line, as it may stand at the ends of one. -/
def IsPadding (white : Text) : Prop := ∀ c ∈ white, isWhite c = true ∧ isBreak c = false

instance : DecidablePred IsPadding := fun white =>
  decidable_of_iff (white.all (fun c => isWhite c && !isBreak c) = true) (by simp [IsPadding])

/-- A line begins behind a text. -/
def EndsLine (front : Text) : Prop :=
  front = [] ∨ ∃ text term, IsTerminator term ∧ front = text ++ term

/-- A line ends in front of a text. -/
def BeginsAtBreak (back : Text) : Prop :=
  back = [] ∨ ∃ term text, IsTerminator term ∧ back = term ++ text

end Text

namespace Source

/-! ## Lines without a say -/

/-- A line says nothing if it is blank, or if its first character that is not white is `#`. -/
def SaysNothing (line : Text) : Prop :=
  (∀ c ∈ line, Text.isWhite c = true) ∨
    ∃ indent comment, line = indent ++ '#' :: comment ∧ ∀ c ∈ indent, Text.isWhite c = true

theorem isSilent_iff_head? {line : Text} :
    isSilent line = true ↔ ∀ c ∈ line.trim.head?, c = '#' := by
  unfold isSilent
  rcases line.trim with _ | ⟨c, rest⟩ <;> simp

theorem isSilent_iff {line : Text} : isSilent line = true ↔ SaysNothing line := by
  rw [isSilent_iff_head?]
  constructor
  · intro h
    obtain ⟨front, back, hline, hfront, hback⟩ := Text.exists_trim line
    rcases htrim : line.trim with _ | ⟨c, rest⟩
    · left
      rw [hline, htrim]
      exact List.forall_mem_append.2 ⟨hfront, hback⟩
    · right
      rw [htrim] at h hline
      rw [h c rfl] at hline
      exact ⟨front, rest ++ back, hline, hfront⟩
  · rintro (hwhite | ⟨indent, comment, rfl, hwhite⟩) c hc
    · have htrim := Text.trim_append hwhite [] (List.forall_mem_nil _)
      rw [List.append_nil, List.append_nil] at htrim
      rw [htrim] at hc
      cases hc
    · have htrim := Text.trim_append hwhite ('#' :: comment) (List.forall_mem_nil _)
      rw [List.append_nil] at htrim
      rw [htrim, Text.head?_trim_cons (by decide)] at hc
      exact (Option.some.inj hc).symm

/-! ## What lines say -/

/-- What a text says, line by line: the lines that say something, trimmed. -/
def said (text : Text) : List Text := (text.lines.filter fun line => !isSilent line).map Text.trim

section Said

variable {line front back term : Text} {b : Char}

theorem said_nil : said [] = [] := rfl

theorem said_of_isSilent (hline : line.IsLine) (h : isSilent line = true) : said line = [] := by
  by_cases hnil : line = []
  · rw [hnil]
    rfl
  · simp [said, Text.lines_of_isLine hline hnil, h]

theorem said_of_not_isSilent (hline : line.IsLine) (h : isSilent line = false) :
    said line = [line.trim] := by
  have hnil : line ≠ [] := by
    rintro rfl
    cases h
  simp [said, Text.lines_of_isLine hline hnil, h]

theorem said_line_break (hline : line.IsLine) (hb : Text.isBreak b = true) :
    said (line ++ b :: back) = said line ++ said back := by
  have hlines : said (line ++ b :: back) =
      (([line].filter fun l => !isSilent l).map Text.trim) ++ said back := by
    rw [said, Text.lines_append_break hline hb, ← List.singleton_append, List.filter_append,
      List.map_append]
    rfl
  rw [hlines]
  cases h : isSilent line with
  | true => simp [said_of_isSilent hline h, h]
  | false => simp [said_of_not_isSilent hline h, h]

/-- The texts at the two sides of a break say what they say by themselves. -/
theorem said_append_break (front : Text) (hb : Text.isBreak b = true) (back : Text) :
    said (front ++ b :: back) = said front ++ said back := by
  induction front using Text.induction_on_lines with
  | single line hline => exact said_line_break hline hb
  | broken line b' rest hline hb' ih =>
    rw [List.append_assoc, List.cons_append, said_line_break hline hb', ih,
      said_line_break hline hb', List.append_assoc]

/-- When breaks are unified, a break is still there, and what is behind it says the same. In a pair
the line feed is the break, and the empty line in front of it is gone. -/
theorem exists_unifyBreaks_cons (hb : Text.isBreak b = true) (rest : Text) :
    ∃ b' more, Text.unifyBreaks (b :: rest) = b' :: more ∧ Text.isBreak b' = true ∧
      said more = said rest.unifyBreaks := by
  by_cases hpair : b = '\r' ∧ ∃ more, rest = '\n' :: more
  · obtain ⟨rfl, more, rfl⟩ := hpair
    refine ⟨'\n', Text.unifyBreaks more, rfl, by decide, ?_⟩
    have hfeed : Text.unifyBreaks ('\n' :: more) = '\n' :: Text.unifyBreaks more :=
      Text.unifyBreaks_cons fun _ h => absurd h (by decide)
    rw [hfeed]
    exact (said_append_break [] (by decide) (Text.unifyBreaks more)).symm
  · have hcons := Text.unifyBreaks_cons fun more hr hmore => hpair ⟨hr, more, hmore⟩
    refine ⟨_, _, hcons, ?_, rfl⟩
    split_ifs
    · decide
    · exact hb

theorem said_unifyBreaks (text : Text) : said text.unifyBreaks = said text := by
  have hnot : ∀ {line : Text}, line.IsLine → '\r' ∉ line := fun hline h => by cases hline '\r' h
  induction text using Text.induction_on_lines with
  | single line hline =>
    have hsame : Text.unifyBreaks (line ++ []) = line ++ [] :=
      Text.unifyBreaks_append_of_notMem (hnot hline)
    rw [List.append_nil] at hsame
    rw [hsame]
  | broken line b rest hline hb ih =>
    obtain ⟨b', more, hmore, hb', hsaid⟩ := exists_unifyBreaks_cons hb rest
    rw [Text.unifyBreaks_append_of_notMem (hnot hline), hmore, said_append_break line hb',
      said_append_break line hb, hsaid, ih]

theorem speakingLines_eq (content : Text) : speakingLines content = said content :=
  said_unifyBreaks content

theorem formulaText?_eq_of_said {content content' : Text} (h : said content = said content') :
    formulaText? content = formulaText? content' := by
  unfold formulaText?
  rw [speakingLines_eq, speakingLines_eq, h]

/-! ## Breaks as they are written -/

theorem said_append_terminator (hterm : Text.IsTerminator term) (front back : Text) :
    said (front ++ (term ++ back)) = said front ++ said back := by
  cases hterm with
  | single hb => exact said_append_break front hb back
  | pair =>
    show said (front ++ '\r' :: ([] ++ '\n' :: back)) = _
    rw [said_append_break front (by decide), said_append_break [] (by decide)]
    rfl

theorem said_append_of_endsLine (hfront : front.EndsLine) (back : Text) :
    said (front ++ back) = said front ++ said back := by
  obtain rfl | ⟨text, term, hterm, rfl⟩ := hfront
  · rfl
  · have hends := said_append_terminator hterm text []
    rw [List.append_nil] at hends
    rw [hends, List.append_assoc, said_append_terminator hterm]
    simp [said_nil]

theorem said_append_of_beginsAtBreak (hback : back.BeginsAtBreak) (front : Text) :
    said (front ++ back) = said front ++ said back := by
  obtain rfl | ⟨term, text, hterm, rfl⟩ := hback
  · simp [said_nil]
  · have hbegins := said_append_terminator hterm [] text
    rw [List.nil_append] at hbegins
    rw [hbegins, said_append_terminator hterm]
    rfl

theorem said_white {white white' : Text} (hline : line.IsLine)
    (hwhite : white.IsPadding) (hwhite' : white'.IsPadding) :
    said (white ++ line ++ white') = said line := by
  have htrim : (white ++ line ++ white').trim = line.trim :=
    Text.trim_append (fun c hc => (hwhite c hc).1) line fun c hc => (hwhite' c hc).1
  have hline' : (white ++ line ++ white').IsLine := by
    refine List.forall_mem_append.2 ⟨List.forall_mem_append.2 ⟨?_, hline⟩, ?_⟩
    · exact fun c hc => (hwhite c hc).2
    · exact fun c hc => (hwhite' c hc).2
  have hsilent : isSilent (white ++ line ++ white') = isSilent line := by
    unfold isSilent
    rw [htrim]
  cases h : isSilent line with
  | true => rw [said_of_isSilent hline h, said_of_isSilent hline' (hsilent.trans h)]
  | false =>
    rw [said_of_not_isSilent hline h, said_of_not_isSilent hline' (hsilent.trans h), htrim]

end Said

/-! ## Normal texts -/

/-- What is read from a file: a text on one line, which neither begins nor ends with white space and
is no comment. -/
structure Normal (text : Text) : Prop where
  isLine : text.IsLine
  first : ∃ c, text.head? = some c ∧ Text.isWhite c = false ∧ c ≠ '#'
  last : ∃ c, text.getLast? = some c ∧ Text.isWhite c = false

namespace Normal

variable {text text' : Text}

theorem isTight (h : Normal text) : text.IsTight := by
  obtain ⟨-, ⟨c, hc, hwhite, -⟩, d, hd, hwhite'⟩ := h
  refine ⟨fun e he => ?_, fun e he => ?_⟩
  · rw [hc] at he
    cases he
    exact hwhite
  · rw [hd] at he
    cases he
    exact hwhite'

theorem said_eq (h : Normal text) : said text = [text] := by
  have htrim : Text.trim ([] ++ (text ++ [])) = text :=
    Text.trim_append_of_isTight (List.forall_mem_nil _) (List.forall_mem_nil _) h.isTight
  rw [List.nil_append, List.append_nil] at htrim
  have hsilent : isSilent text = false := by
    rw [Bool.eq_false_iff, Ne, isSilent_iff_head?, htrim]
    obtain ⟨c, hc, -, hcomment⟩ := h.first
    exact fun hall => hcomment (hall c hc)
  rw [said_of_not_isSilent h.isLine hsilent, htrim]

theorem append (h : Normal text) (h' : Normal text') : Normal (text ++ ' ' :: text') := by
  obtain ⟨hline, ⟨c, hc, hfirst⟩, -⟩ := h
  obtain ⟨hline', -, d, hd, hlast⟩ := h'
  refine ⟨List.forall_mem_append.2 ⟨hline, List.forall_mem_cons.2 ⟨by decide, hline'⟩⟩, ?_, ?_⟩
  · exact ⟨c, by rw [List.head?_append, hc]; rfl, hfirst⟩
  · refine ⟨d, ?_, hlast⟩
    rw [List.getLast?_append, List.getLast?_cons, hd]
    rfl

theorem intercalate {texts : List Text} (h : ∀ text ∈ texts, Normal text) (hne : texts ≠ []) :
    Normal ([' '].intercalate texts) := by
  induction texts with
  | nil => exact absurd rfl hne
  | cons text texts ih =>
    obtain ⟨htext, hmore⟩ := List.forall_mem_cons.1 h
    rcases texts with _ | ⟨next, texts⟩
    · rw [List.intercalate_singleton]
      exact htext
    · rw [List.intercalate_cons_cons, List.append_assoc]
      exact htext.append (ih hmore (List.cons_ne_nil _ _))

end Normal

theorem normal_of_mem_said {text line : Text} (h : line ∈ said text) : Normal line := by
  obtain ⟨l, hl, rfl⟩ := List.mem_map.1 h
  obtain ⟨hmem, hspeaks⟩ := List.mem_filter.1 hl
  obtain ⟨front, back, hparts, -, -⟩ := l.exists_trim
  obtain ⟨hfirst, hlast⟩ := l.isTight_trim
  have hisLine : l.trim.IsLine := by
    intro c hc
    apply (Text.mem_of_mem_lines hmem).2
    rw [hparts]
    exact List.mem_append_right _ (List.mem_append_left _ hc)
  obtain ⟨c, hc, hcomment⟩ : ∃ c ∈ l.trim.head?, c ≠ '#' := by
    by_contra hnone
    have hsilent : isSilent l = true := isSilent_iff_head?.2 (by simpa using hnone)
    rw [hsilent] at hspeaks
    cases hspeaks
  refine ⟨hisLine, ⟨c, hc, hfirst c hc, hcomment⟩, ?_⟩
  rcases hd : l.trim.getLast? with _ | d
  · rw [List.getLast?_eq_none_iff.1 hd] at hc
    cases hc
  · exact ⟨d, rfl, hlast d hd⟩

theorem normal_of_formulaText? {content text : Text} (h : formulaText? content = some text) :
    Normal text := by
  rw [formulaText?_eq_some_iff, speakingLines_eq] at h
  obtain ⟨hne, rfl⟩ := h
  exact Normal.intercalate (fun line => normal_of_mem_said) hne

/-- A normal text is read from a file as it is. -/
theorem formulaText?_of_normal {text : Text} (h : Normal text) : formulaText? text = some text := by
  rw [formulaText?_eq_some_iff, speakingLines_eq, h.said_eq]
  exact ⟨List.cons_ne_nil _ _, List.intercalate_singleton⟩

/-! ## Edits -/

/-- Reading a file normalises its text. There is no formula in it exactly if all its lines are blank
or comments; otherwise what is read is a normal text, which is read again as it is. It does not
change when a line that says nothing is inserted with its break wherever a line begins, when a break
is written in another way, or when white space that is no break is added at the ends of a line. -/
theorem formulaText?_normalises :
    (∀ content, formulaText? content = none ↔
      ∀ line ∈ content.unifyBreaks.lines, SaysNothing line) ∧
    (∀ content text, formulaText? content = some text →
      Normal text ∧ formulaText? text = some text) ∧
    (∀ front line term back : Text, front.EndsLine → line.IsLine → SaysNothing line →
      Text.IsTerminator term →
        formulaText? (front ++ (line ++ term) ++ back) = formulaText? (front ++ back)) ∧
    (∀ front term term' back : Text, Text.IsTerminator term → Text.IsTerminator term' →
      formulaText? (front ++ term ++ back) = formulaText? (front ++ term' ++ back)) ∧
    ∀ front white line white' back : Text, front.EndsLine → line.IsLine → back.BeginsAtBreak →
      white.IsPadding → white'.IsPadding →
        formulaText? (front ++ (white ++ line ++ white') ++ back) =
          formulaText? (front ++ line ++ back) := by
  refine ⟨fun content => ?_, fun content text h => ?_, ?_, ?_, ?_⟩
  · simp only [Command.formulaText?_eq_none_iff, isSilent_iff]
  · have hnormal := normal_of_formulaText? h
    exact ⟨hnormal, formulaText?_of_normal hnormal⟩
  · intro front line term back hfront hline hnothing hterm
    apply formulaText?_eq_of_said
    have hsilent := said_of_isSilent hline (isSilent_iff.2 hnothing)
    rw [List.append_assoc, said_append_of_endsLine hfront, List.append_assoc,
      said_append_terminator hterm, hsilent, said_append_of_endsLine hfront, List.nil_append]
  · intro front term term' back hterm hterm'
    apply formulaText?_eq_of_said
    rw [List.append_assoc, said_append_terminator hterm, List.append_assoc,
      said_append_terminator hterm']
  · intro front white line white' back hfront hline hback hwhite hwhite'
    apply formulaText?_eq_of_said
    rw [said_append_of_beginsAtBreak hback, said_append_of_endsLine hfront,
      said_white hline hwhite hwhite', said_append_of_beginsAtBreak hback,
      said_append_of_endsLine hfront]

/-- A comment by itself has no formula, and `a` on one line and `&b` on the next make up `a &b`, also
with a comment between them, with another break and with the second line indented. -/
theorem formulaText?_twoLines :
    formulaText? " # c\n".toList = none ∧
    formulaText? "a &b".toList = some "a &b".toList ∧
    formulaText? "a\r # c\n&b".toList = some "a &b".toList ∧
    formulaText? "a\u2028&b".toList = some "a &b".toList ∧
    formulaText? "a\r\u3000&b\t".toList = some "a &b".toList := by
  obtain ⟨hnone, hnormal, hinsert, hbreak, hindent⟩ := formulaText?_normalises
  have hreturn : Text.IsTerminator ['\r'] := .single (by decide)
  have hread : formulaText? "a\r&b".toList = some "a &b".toList := by decide +kernel
  have hbehind : Text.EndsLine "a\r".toList := .inr ⟨['a'], ['\r'], hreturn, rfl⟩
  refine ⟨(hnone _).2 fun line hline => ?_, (hnormal _ _ hread).2, ?_, ?_, ?_⟩
  · have hsilent : (Text.lines (Text.unifyBreaks " # c\n".toList)).all isSilent = true := by
      decide +kernel
    exact isSilent_iff.1 (List.all_eq_true.1 hsilent line hline)
  · rw [← hread]
    exact hinsert "a\r".toList " # c".toList "\n".toList "&b".toList hbehind (by decide)
      (isSilent_iff.1 (by decide)) (.single (by decide))
  · rw [← hread]
    exact hbreak "a".toList ['\u2028'] ['\r'] "&b".toList (.single (by decide)) hreturn
  · rw [← hread]
    exact hindent "a\r".toList "\u3000".toList "&b".toList "\t".toList [] hbehind (by decide)
      (.inl rfl) (by decide) (by decide)

end Source

end Propositional
