import Propositional.Proofs.Sources
import Propositional.Proofs.Words

/-!
# The words of a file

A formula has the same words in a file as on the command line (`Source.words_formulaText`). On the
way from the content of a file to the text of its formula, only blanks come and go.

1. `Text.words_unifyBreaks`: unifying the line breaks of any text changes none of its words.
2. `Text.words_lines`: a plain text has the words of its lines, one line after the other.
3. `Text.words_trim` and `Text.words_intercalate`: trimming plain lines and joining them by spaces
   changes no words either.
-/

namespace Propositional

namespace Text

/-! ## Unified breaks -/

section Breaks

variable {front back gap text : Text}

theorem unifyBreaks_cons {c : Char} {rest : Text}
    (h : ∀ more, c = '\r' → rest = '\n' :: more → False) :
    unifyBreaks (c :: rest) = (if c = '\r' then '\n' else c) :: rest.unifyBreaks :=
  unifyBreaks.eq_3 c rest h

/-- Breaks are unified part by part, unless the second part begins with a line feed. -/
theorem unifyBreaks_append (h : ∀ c ∈ back.head?, c ≠ '\n') :
    (front ++ back).unifyBreaks = front.unifyBreaks ++ back.unifyBreaks := by
  fun_induction unifyBreaks front with
  | case1 => rfl
  | case2 rest ih =>
    show unifyBreaks ('\r' :: '\n' :: (rest ++ back)) = _
    rw [unifyBreaks, ih]
    rfl
  | case3 c rest hpair ih =>
    have hpair' : ∀ more, c = '\r' → rest ++ back = '\n' :: more → False := by
      intro more hc hmore
      rcases rest with _ | ⟨e, rest⟩
      · rw [List.nil_append] at hmore
        exact h '\n' (by rw [hmore]; rfl) rfl
      · exact hpair rest hc (by rw [(List.cons.inj hmore).1])
    show unifyBreaks (c :: (rest ++ back)) = _
    rw [unifyBreaks_cons hpair', ih]
    rfl

theorem unifyBreaks_append_of_notMem (h : '\r' ∉ front) :
    (front ++ back).unifyBreaks = front ++ back.unifyBreaks := by
  induction front with
  | nil => rfl
  | cons c rest ih =>
    rw [List.mem_cons, not_or] at h
    show unifyBreaks (c :: (rest ++ back)) = _
    rw [unifyBreaks_cons fun _ hc _ => h.1 hc.symm, if_neg (Ne.symm h.1), ih h.2]
    rfl

theorem forall_mem_unifyBreaks {p : Char → Bool} (hp : p '\n' = true)
    (h : ∀ c ∈ text, p c = true) : ∀ c ∈ text.unifyBreaks, p c = true := by
  fun_induction unifyBreaks text with
  | case1 => exact h
  | case2 rest ih =>
    obtain ⟨-, hrest⟩ := List.forall_mem_cons.1 (List.forall_mem_cons.1 h).2
    exact List.forall_mem_cons.2 ⟨hp, ih hrest⟩
  | case3 c rest hpair ih =>
    obtain ⟨hc, hrest⟩ := List.forall_mem_cons.1 h
    refine List.forall_mem_cons.2 ⟨?_, ih hrest⟩
    split_ifs
    · exact hp
    · exact hc

theorem isGap_unifyBreaks (h : gap.IsGap) : gap.unifyBreaks.IsGap :=
  forall_mem_unifyBreaks (p := isBlank) rfl h

theorem isPlain_unifyBreaks (h : text.IsPlain) : text.unifyBreaks.IsPlain :=
  forall_mem_unifyBreaks (p := isPlain) (by decide) h

theorem head?_unifyBreaks (text : Text) :
    text.unifyBreaks.head? = text.head?.map fun c => if c = '\r' then '\n' else c := by
  fun_induction unifyBreaks text with
  | case1 | case2 | case3 => rfl

theorem endsBefore_unifyBreaks {x : Lexeme} (h : x.EndsBefore text) :
    x.EndsBefore text.unifyBreaks := by
  intro hx c hc
  rw [head?_unifyBreaks] at hc
  obtain ⟨e, he, rfl⟩ := Option.map_eq_some_iff.1 hc
  split_ifs
  · rfl
  · exact h hx e he

theorem words_unifyBreaks (text : Text) : text.unifyBreaks.words = text.words := by
  obtain ⟨d, hd⟩ := exists_lexes 1 0 text
  generalize 0 = start at hd
  induction hd with
  | done hgap => rw [words_of_isGap hgap, words_of_isGap (isGap_unifyBreaks hgap)]
  | @foreign start gap c rest hgap hb hc =>
    have hbreak : '\r' ∉ [c] := by
      intro h
      rw [← List.mem_singleton.1 h] at hb
      cases hb
    have hunified : (gap ++ c :: rest).unifyBreaks = gap.unifyBreaks ++ c :: rest.unifyBreaks := by
      rw [unifyBreaks_append]
      · exact congrArg (gap.unifyBreaks ++ ·) (unifyBreaks_append_of_notMem hbreak)
      · rintro _ ⟨⟩ rfl
        cases hb
    rw [hunified, words_of_foreign hgap hb hc, words_of_foreign (isGap_unifyBreaks hgap) hb hc]
  | @token start gap x rest d hgap hx _ ih =>
    have hbreak : '\r' ∉ x.text := by
      intro h
      cases Lexeme.not_isBlank_of_mem_text h
    have hunified : (gap ++ (x.text ++ rest)).unifyBreaks =
        gap.unifyBreaks ++ (x.text ++ rest.unifyBreaks) := by
      rw [unifyBreaks_append, unifyBreaks_append_of_notMem hbreak]
      rintro c hc rfl
      cases Lexeme.not_isBlank_of_mem_head? _ hc
    rw [hunified, words_of_token hgap hx,
      words_of_token (isGap_unifyBreaks hgap) (endsBefore_unifyBreaks hx), ih]

end Breaks

/-! ## Lines -/

theorem toNat_of_isAlphanum {c : Char} (h : c.isAlphanum = true) :
    48 ≤ c.toNat ∧ c.toNat ≤ 122 := by
  have hrange : ∀ low high : Char, low.val ≤ c.val ∧ c.val ≤ high.val →
      low.toNat ≤ c.toNat ∧ c.toNat ≤ high.toNat := by
    rintro low high ⟨hlow, hhigh⟩
    exact ⟨UInt32.le_iff_toNat_le.1 hlow, UInt32.le_iff_toNat_le.1 hhigh⟩
  rcases (Bool.or_eq_true _ _).mp h with hletter | hdigit
  · rcases (Bool.or_eq_true _ _).mp hletter with hupper | hlower
    · have : 65 ≤ c.toNat ∧ c.toNat ≤ 90 := hrange 'A' 'Z' (of_decide_eq_true hupper)
      omega
    · obtain ⟨hlow, hhigh⟩ := (Bool.and_eq_true _ _).mp hlower
      have : 97 ≤ c.toNat ∧ c.toNat ≤ 122 :=
        hrange 'a' 'z' ⟨of_decide_eq_true hlow, of_decide_eq_true hhigh⟩
      omega
  · have : 48 ≤ c.toNat ∧ c.toNat ≤ 57 := Char.isDigit_iff_toNat.1 hdigit
    omega

theorem toNat_of_isPlain {c : Char} (h : isPlain c = true) (hb : isBlank c = false) :
    33 ≤ c.toNat ∧ c.toNat ≤ 124 := by
  unfold isPlain at h
  rw [hb, Bool.or_false, Bool.or_eq_true, List.contains_iff_mem] at h
  rcases h with halnum | hsymbol
  · have := toNat_of_isAlphanum halnum
    omega
  · have hall : symbols.all (fun c => 33 ≤ c.toNat ∧ c.toNat ≤ 124) = true := by decide
    exact of_decide_eq_true (List.all_eq_true.1 hall c hsymbol)

theorem isBlank_of_contains {s : CharSet} {c : Char}
    (hs : ∀ r ∈ s.ranges, r.2 < 33 ∨ 124 < r.1) (hplain : isPlain c = true)
    (hc : s.contains c = true) : isBlank c = true := by
  by_contra hb
  obtain ⟨hlow, hhigh⟩ := toNat_of_isPlain hplain (by simpa using hb)
  obtain ⟨r, hr, hrange⟩ := List.any_eq_true.1 hc
  simp only [Bool.and_eq_true, decide_eq_true_eq] at hrange
  have := hs r hr
  omega

theorem isBlank_of_isBreak {c : Char} (hplain : isPlain c = true) (hc : isBreak c = true) :
    isBlank c = true := isBlank_of_contains (by decide) hplain hc

theorem isBlank_of_isWhite {c : Char} (hplain : isPlain c = true) (hc : isWhite c = true) :
    isBlank c = true := isBlank_of_contains (by decide) hplain hc

/-- A text is on one line. -/
def IsLine (line : Text) : Prop := ∀ c ∈ line, isBreak c = false

instance : DecidablePred IsLine := fun line =>
  decidable_of_iff (line.all (fun c => !isBreak c) = true) (by simp [IsLine])

theorem lines_append_break {line rest : Text} {b : Char} (hline : line.IsLine)
    (hb : isBreak b = true) : (line ++ b :: rest).lines = line :: rest.lines := by
  induction line with
  | nil => exact if_pos hb
  | cons c line ih =>
    obtain ⟨hc, hline⟩ := List.forall_mem_cons.1 hline
    show lines (c :: (line ++ b :: rest)) = _
    rw [lines, hc, ih hline]
    rfl

theorem lines_of_isLine {line : Text} (hline : line.IsLine) (hne : line ≠ []) :
    line.lines = [line] := by
  induction line with
  | nil => exact absurd rfl hne
  | cons c line ih =>
    obtain ⟨hc, hline⟩ := List.forall_mem_cons.1 hline
    rw [lines, hc]
    by_cases hnil : line = []
    · rw [hnil]
      rfl
    · rw [ih hline hnil]
      rfl

/-- Induction on the lines of a text: it is on one line, or it is a line, a break and a text behind
them. -/
@[elab_as_elim]
theorem induction_on_lines {motive : Text → Prop} (text : Text)
    (single : ∀ line : Text, line.IsLine → motive line)
    (broken : ∀ (line : Text) (b : Char) (rest : Text), line.IsLine → isBreak b = true →
      motive rest → motive (line ++ b :: rest)) : motive text := by
  rcases hfind : text.find? isBreak with _ | b
  · refine single text fun c hc => ?_
    exact Bool.not_eq_true _ ▸ List.find?_eq_none.1 hfind c hc
  · obtain ⟨hb, line, rest, rfl, hline⟩ := List.find?_eq_some_iff_append.1 hfind
    have : rest.length < (line ++ b :: rest).length := by
      simp only [List.length_append, List.length_cons]
      omega
    refine broken line b rest (fun c hc => ?_) hb (induction_on_lines rest single broken)
    simpa using hline c hc
termination_by text.length

theorem mem_of_mem_lines {text line : Text} (h : line ∈ text.lines) :
    (∀ c ∈ line, c ∈ text) ∧ line.IsLine := by
  induction text using induction_on_lines with
  | single only honly =>
    by_cases hnil : only = []
    · rw [hnil] at h
      cases h
    · rw [lines_of_isLine honly hnil, List.mem_singleton] at h
      subst h
      exact ⟨fun c hc => hc, honly⟩
  | broken front b rest hfront hb ih =>
    rw [lines_append_break hfront hb] at h
    rcases List.mem_cons.1 h with rfl | h
    · exact ⟨fun c hc => List.mem_append_left _ hc, hfront⟩
    · obtain ⟨hmem, hline⟩ := ih h
      exact ⟨fun c hc => List.mem_append_right _ (List.mem_cons_of_mem _ (hmem c hc)), hline⟩

/-- A plain text has the words of its lines, one line after the other. -/
theorem words_lines (text : Text) (hplain : text.IsPlain) :
    text.words = text.lines.flatMap words := by
  induction text using induction_on_lines with
  | single line hline =>
    by_cases hnil : line = []
    · subst hnil
      exact words_of_isGap isGap_nil
    · rw [lines_of_isLine hline hnil, List.flatMap_singleton]
  | broken line b rest hline hb ih =>
    obtain ⟨hfront, hback⟩ := isPlain_append_iff.1 hplain
    obtain ⟨hplainb, hrest⟩ := List.forall_mem_cons.1 hback
    rw [lines_append_break hline hb, List.flatMap_cons,
      words_append_blank hfront (isBlank_of_isBreak hplainb hb), ih hrest]

/-! ## Trimmed and joined lines -/

theorem exists_trim (line : Text) : ∃ front back, line = front ++ (line.trim ++ back) ∧
    (∀ c ∈ front, isWhite c = true) ∧ ∀ c ∈ back, isWhite c = true := by
  have hall : ∀ text : Text, ∀ c ∈ text.takeWhile isWhite, isWhite c = true := fun text c hc =>
    List.all_eq_true.1 List.all_takeWhile c hc
  let rest := line.dropWhile isWhite
  refine ⟨line.takeWhile isWhite, (rest.reverse.takeWhile isWhite).reverse, ?_, hall _, ?_⟩
  · unfold trim
    rw [← List.reverse_append, List.takeWhile_append_dropWhile, List.reverse_reverse,
      List.takeWhile_append_dropWhile]
  · intro c hc
    exact hall _ c (List.mem_reverse.1 hc)

theorem words_trim {line : Text} (hplain : line.IsPlain) :
    line.trim.IsPlain ∧ line.trim.words = line.words := by
  obtain ⟨front, back, hline, hfront, hback⟩ := exists_trim line
  have hparts := hplain
  rw [hline, isPlain_append_iff, isPlain_append_iff] at hparts
  obtain ⟨hplainf, hplaint, hplainb⟩ := hparts
  have hgapf : front.IsGap := fun c hc => isBlank_of_isWhite (hplainf c hc) (hfront c hc)
  have hgapb : back.IsGap := fun c hc => isBlank_of_isWhite (hplainb c hc) (hback c hc)
  refine ⟨hplaint, ?_⟩
  conv_rhs => rw [hline, words_gap_append hgapf]
  rcases back with _ | ⟨b, back⟩
  · rw [List.append_nil]
  · obtain ⟨hb, hgap⟩ := List.forall_mem_cons.1 hgapb
    rw [words_append_blank hplaint hb, words_of_isGap hgap, List.append_nil]

theorem words_intercalate {texts : List Text} (hplain : ∀ text ∈ texts, text.IsPlain) :
    IsPlain ([' '].intercalate texts) ∧ words ([' '].intercalate texts) = texts.flatMap words := by
  induction texts with
  | nil => exact ⟨by simp [IsPlain], words_of_isGap isGap_nil⟩
  | cons text texts ih =>
    obtain ⟨htext, hrest⟩ := List.forall_mem_cons.1 hplain
    rcases texts with _ | ⟨next, texts⟩
    · rw [List.intercalate_singleton, List.flatMap_singleton]
      exact ⟨htext, rfl⟩
    · obtain ⟨hjoined, hwords⟩ := ih hrest
      rw [List.intercalate_cons_cons, List.append_assoc, List.singleton_append, List.flatMap_cons,
        ← hwords]
      refine ⟨isPlain_append_iff.2 ⟨htext, List.forall_mem_cons.2 ⟨rfl, hjoined⟩⟩, ?_⟩
      exact words_append_blank htext rfl

end Text

/-! ## Files -/

namespace Source

/-- The lines of a file that say something, as they stand in it. -/
def sayingLines (content : Text) : List Text :=
  content.unifyBreaks.lines.filter fun line => !isSilent line

theorem mem_sayingLines_iff {content line : Text} :
    line ∈ sayingLines content ↔ line ∈ content.unifyBreaks.lines ∧ isSilent line = false := by
  rw [sayingLines, List.mem_filter, Bool.not_eq_true']

/-- A plain line that says nothing is blank, for no plain line is a comment. -/
theorem words_of_isSilent {line : Text} (hplain : line.IsPlain) (h : isSilent line = true) :
    line.words = [] := by
  obtain ⟨htrimmed, hwords⟩ := Text.words_trim hplain
  rw [← hwords]
  unfold isSilent at h
  rcases htrim : line.trim with _ | ⟨c, rest⟩
  · exact Text.words_of_isGap Text.isGap_nil
  · rw [htrim] at h htrimmed
    have hc := htrimmed c List.mem_cons_self
    rw [of_decide_eq_true h] at hc
    exact absurd hc (by decide)

theorem words_filter {lines : List Text} (hplain : ∀ line ∈ lines, line.IsPlain) :
    lines.flatMap Text.words = (lines.filter fun line => !isSilent line).flatMap Text.words := by
  induction lines with
  | nil => rfl
  | cons line lines ih =>
    obtain ⟨hline, hlines⟩ := List.forall_mem_cons.1 hplain
    rw [List.flatMap_cons, ih hlines]
    by_cases hsilent : isSilent line = true
    · rw [List.filter_cons_of_neg (by simp [hsilent]), words_of_isSilent hline hsilent]
      rfl
    · rw [List.filter_cons_of_pos (by simpa using hsilent), List.flatMap_cons]

theorem formulaText?_eq_some_iff {content text : Text} : formulaText? content = some text ↔
    speakingLines content ≠ [] ∧ [' '].intercalate (speakingLines content) = text := by
  unfold formulaText?
  split
  · simp_all
  · simp_all

theorem words_of_sayingLines {content text : Text} (htext : formulaText? content = some text)
    (hplain : ∀ line ∈ sayingLines content, line.IsPlain) :
    text.IsPlain ∧ text.words = (sayingLines content).flatMap Text.words := by
  obtain ⟨-, rfl⟩ := formulaText?_eq_some_iff.1 htext
  have htrimmed : ∀ line ∈ (sayingLines content).map Text.trim, line.IsPlain := by
    refine List.forall_mem_map.2 fun line hline => ?_
    exact (Text.words_trim (hplain line hline)).1
  obtain ⟨hjoined, hwords⟩ := Text.words_intercalate htrimmed
  refine ⟨hjoined, hwords.trans ?_⟩
  rw [List.flatMap_map]
  exact List.flatMap_congr fun line hline => (Text.words_trim (hplain line hline)).2

/-- A formula has the same words in a file as on the command line. In a file with a line that is
neither blank nor a comment, the text of the formula has the words of all such lines one after the
other, if these lines are plain. If the whole file is plain, it has the words of the file itself, so
that the two have the same formula under every limit, or fail for the same reason. -/
theorem words_formulaText {content : Text}
    (hspeaks : ∃ line ∈ content.unifyBreaks.lines, isSilent line = false) :
    ∃ text, formulaText? content = some text ∧
      ((∀ line ∈ content.unifyBreaks.lines, isSilent line = false → line.IsPlain) →
        (tokenize text 1 0).failure = none ∧
        (∀ line ∈ sayingLines content, (tokenize line 1 0).failure = none) ∧
        text.words = (sayingLines content).flatMap Text.words) ∧
      (content.IsPlain →
        (tokenize text 1 0).failure = none ∧ (tokenize content 1 0).failure = none ∧
        text.words = content.words ∧
        ∀ limit, (parse limit text).outcome.mapError ParseFailure.reason =
          (parse limit content).outcome.mapError ParseFailure.reason) := by
  obtain ⟨text, htext⟩ : ∃ text, formulaText? content = some text := by
    refine Option.ne_none_iff_exists'.1 fun hnone => ?_
    obtain ⟨line, hline, hsilent⟩ := hspeaks
    rw [Command.formulaText?_eq_none_iff.1 hnone line hline] at hsilent
    cases hsilent
  refine ⟨text, htext, fun hplain => ?_, fun hplain => ?_⟩
  · have hlines : ∀ line ∈ sayingLines content, line.IsPlain := by
      intro line hline
      obtain ⟨hmem, hsilent⟩ := mem_sayingLines_iff.1 hline
      exact hplain line hmem hsilent
    obtain ⟨hjoined, hwords⟩ := words_of_sayingLines htext hlines
    exact ⟨Text.failure_of_isPlain hjoined,
      fun line hline => Text.failure_of_isPlain (hlines line hline), hwords⟩
  · have hunified := Text.isPlain_unifyBreaks hplain
    have hlines : ∀ line ∈ content.unifyBreaks.lines, line.IsPlain := fun line hline c hc =>
      hunified c ((Text.mem_of_mem_lines hline).1 c hc)
    obtain ⟨hjoined, hwords⟩ := words_of_sayingLines htext fun line hline =>
      hlines line (mem_sayingLines_iff.1 hline).1
    have hsame : text.words = content.words := by
      rw [hwords, sayingLines, ← words_filter hlines, ← Text.words_lines _ hunified,
        Text.words_unifyBreaks]
    have hfailure := Text.failure_of_isPlain hjoined
    have hfailure' := Text.failure_of_isPlain hplain
    exact ⟨hfailure, hfailure', hsame, fun limit =>
      outcome_of_words_eq limit hfailure hfailure' hsame⟩

/-- A conjunction over three lines, with a comment in accents, a carriage return and a vertical tab
between them. -/
def overThreeLines : Text := "# é\n(a)\r&\x0b b \n".toList

/-- The three lines make up the text of a formula, and the file as a whole does not: its comment is
no part of a formula. Without the comment, the file has the same formula as its text. -/
theorem words_overThreeLines :
    formulaText? overThreeLines = some "(a) & b".toList ∧
      Text.words "(a) & b".toList = (sayingLines overThreeLines).flatMap Text.words ∧
      (parse none overThreeLines).outcome.isOk = false ∧
      (parse none "(a) & b".toList).outcome.mapError ParseFailure.reason =
        (parse none (overThreeLines.drop 4)).outcome.mapError ParseFailure.reason := by
  have hcommented : ∃ line ∈ overThreeLines.unifyBreaks.lines, isSilent line = false :=
    ⟨"(a)".toList, by decide +kernel, by decide +kernel⟩
  have hbare : ∃ line ∈ Text.lines (Text.unifyBreaks (overThreeLines.drop 4)),
      isSilent line = false := ⟨"(a)".toList, by decide +kernel, by decide +kernel⟩
  obtain ⟨text, htext, hlines, -⟩ := words_formulaText hcommented
  obtain ⟨text', htext', -, hwhole⟩ := words_formulaText hbare
  obtain rfl : text = "(a) & b".toList := Option.some.inj (htext.symm.trans (by decide +kernel))
  obtain rfl : text' = "(a) & b".toList := Option.some.inj (htext'.symm.trans (by decide +kernel))
  obtain ⟨-, -, hwords⟩ := hlines (by decide +kernel)
  obtain ⟨-, -, -, houtcome⟩ := hwhole (by decide +kernel)
  exact ⟨htext, hwords, by decide +kernel, houtcome none⟩

end Source

end Propositional
