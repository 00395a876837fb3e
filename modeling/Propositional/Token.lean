import Propositional.Lexeme

/-!
# Tokens and pulls

A token is a lexeme with its place in a source text. `pull` reads the first token at or after a
cursor, where the cursor may be any integer.

1. From a cursor that is not negative, blanks are skipped and the longest lexeme is taken.
2. A negative cursor counts from the end of the text. White space is skipped from there on; a
   run of blanks that reaches the end goes on at the start of the text. At any other character
   the lexeme is sought at the start of the text, while the index stays the negative one.
3. A cursor before the first character, or past the last, finds the end of the text.

Main statement: a pull makes progress. A token that is found starts at or after the cursor and ends
within the text (`pull_progress`), so pulling again and again comes to an end.
-/

namespace Propositional

/-- A lexeme with its place: the line it is counted to, its index and the index just past it. -/
structure Token where
  lexeme : Lexeme
  line : Int
  index : Int
  stop : Nat
  deriving DecidableEq

namespace Token

def text (t : Token) : Text := t.lexeme.text

def kind (t : Token) : Lexeme.Kind := t.lexeme.kind

/-- The cursor that the token leaves: its index plus its length. -/
def cursor (t : Token) : Int := t.index + t.text.length

end Token

/-- A character at which no lexeme starts. -/
structure ForeignCharacter where
  char : Char
  index : Int
  deriving DecidableEq

/-- The report of a foreign character. -/
def ForeignCharacter.message (e : ForeignCharacter) : String :=
  s!"Invalid character '{e.char}' at index {e.index}"

/-- What is found at a cursor. -/
inductive Pull where
  | token (t : Token)
  | finished
  | foreign (e : ForeignCharacter)
  deriving DecidableEq

/-! ## Pulling at a cursor -/

/-- The first token at or after a cursor that is not negative. -/
def pullAt (line : Int) (text : Text) (cursor : Nat) : Pull :=
  let rest : Text := text.drop cursor
  let start := cursor + rest.leadingBlanks
  match rest.skipBlanks with
  | [] => .finished
  | c :: tail =>
    match Lexeme.read? (c :: tail) with
    | some (x, _) => .token ⟨x, line, start, start + x.text.length⟩
    | none => .foreign ⟨c, start⟩

/-- The first token for a cursor that counts `back` characters from the end of the text. -/
def pullBack (line : Int) (text : Text) (back : Nat) : Pull :=
  if text.length < back then .finished
  else
    let rest : Text := text.drop (text.length - back)
    let start : Int := rest.leadingBlanks - (back : Int)
    match rest.skipBlanks with
    | [] => pullAt line text 0
    | c :: _ =>
      match Lexeme.read? text with
      | some (x, _) => .token ⟨x, line, start, x.text.length⟩
      | none => .foreign ⟨c, start⟩

/-- The first token at or after a cursor. -/
def pull (line : Int) (text : Text) : Int → Pull
  | .ofNat n => pullAt line text n
  | .negSucc n => pullBack line text (n + 1)

/-! ## Progress -/

theorem pullAt_progress {line : Int} {text : Text} {cursor : Nat} {t : Token}
    (h : pullAt line text cursor = .token t) :
    (cursor : Int) ≤ t.index ∧ t.index + t.text.length = t.stop ∧ t.stop ≤ text.length := by
  have hlen := Text.leadingBlanks_add_length_skipBlanks (text.drop cursor)
  rw [List.length_drop] at hlen
  unfold pullAt at h
  dsimp only at h
  split at h
  · cases h
  · rename_i c tail hskip
    split at h
    · rename_i x rest hread
      cases h
      have hread := congrArg List.length (Lexeme.text_append_of_read? hread)
      rw [List.length_append] at hread
      rw [hskip] at hlen
      have := x.length_text_pos
      simp only [Token.text]
      omega
    · cases h

theorem pullBack_progress {line : Int} {text : Text} {back : Nat} {t : Token}
    (h : pullBack line text back = .token t) :
    -(back : Int) ≤ t.index ∧ t.index + t.text.length ≤ t.stop ∧ t.stop ≤ text.length := by
  unfold pullBack at h
  split at h
  · cases h
  · rename_i hback
    have hlen := Text.leadingBlanks_add_length_skipBlanks (text.drop (text.length - back))
    rw [List.length_drop] at hlen
    dsimp only at h
    split at h
    · have := pullAt_progress h
      omega
    · rename_i c tail hskip
      split at h
      · rename_i x rest hread
        cases h
        have hread := congrArg List.length (Lexeme.text_append_of_read? hread)
        rw [List.length_append] at hread
        rw [hskip, List.length_cons] at hlen
        simp only [Token.text]
        omega
      · cases h

/-- A token found at a cursor starts there or later and ends within the text; its index plus its
length is its end, or lies before it if the cursor was negative. -/
theorem pull_progress {line : Int} {text : Text} {cursor : Int} {t : Token}
    (h : pull line text cursor = .token t) :
    cursor ≤ t.index ∧ t.cursor ≤ t.stop ∧ t.stop ≤ text.length := by
  unfold Token.cursor
  cases cursor with
  | ofNat n =>
    have := pullAt_progress h
    simp only [Int.ofNat_eq_natCast]
    omega
  | negSucc n =>
    have := pullBack_progress h
    omega

theorem Token.index_lt_cursor (t : Token) : t.index < t.cursor := by
  have := t.lexeme.length_text_pos
  simp only [Token.cursor, Token.text]
  omega

end Propositional
