import Propositional.Proofs.Layout
import Propositional.Proofs.Progress

/-!
# Pulling token by token

Pulls that each go on at the cursor the last one left deliver what a single stream delivers from the
first cursor on (`scan_eq_stream`): the same tokens, and in the end the same foreign character or,
where the stream ends, the end of the text.

1. `Token.cursor_eq_stop`: a pull computes the cursor it leaves from the index and the length of the
   token. From a cursor that is not negative on, this is the place the stream keeps.
2. `scan_eq_pulled`: so one more pull is one more token of the stream, and the rest is the same from
   there on.
3. `tokenize_stop`: a stream that is started at the end of a token delivers what is left behind that
   token. Therefore pulling may be taken up again at any cursor that was left.
-/

namespace Propositional

variable {text : Text} {start : Nat}

/-- A delivery without its first items. -/
def Delivery.drop {ε β : Type} (n : Nat) (d : Delivery ε β) : Delivery ε β :=
  ⟨d.items.drop n, d.failure⟩

/-- What pulls deliver where a stream delivers `d`: the tokens, each with its end, and the end of
the text unless the stream is cut short. -/
def pulled (text : Text) (d : Delivery ForeignCharacter Token) :
    Delivery ForeignCharacter (Option Token × Int) :=
  ⟨d.items.map (fun t => (some t, (t.stop : Int))) ++
    if d.failure.isNone then [(none, (text.length : Int))] else [], d.failure⟩

theorem pulled_cons (t : Token) (d : Delivery ForeignCharacter Token) :
    pulled text (d.cons t) = (pulled text d).cons (some t, (t.stop : Int)) := rfl

/-! ## One pull -/

section Scan

variable {cursor : Int}

theorem scan_of_finished (h : pull 1 text cursor = .finished) :
    scan text cursor = .cons (none, (text.length : Int)) .done := by
  have hnext : nextToken text cursor = .ok (none, (text.length : Int)) := by rw [nextToken, h]
  rw [scan]
  split <;> simp_all

theorem scan_of_foreign {e : ForeignCharacter} (h : pull 1 text cursor = .foreign e) :
    scan text cursor = .broken e := by
  have hnext : nextToken text cursor = .error e := by rw [nextToken, h]
  rw [scan]
  split <;> simp_all

theorem scan_of_token {t : Token} (h : pull 1 text cursor = .token t) :
    scan text cursor = .cons (some t, t.cursor) (scan text t.cursor) := by
  have hnext : nextToken text cursor = .ok (some t, t.cursor) := by rw [nextToken, h]
  rw [scan]
  split <;> simp_all

end Scan

/-- The cursor that a token leaves is its end, if it was pulled at a cursor that is not negative. -/
theorem Token.cursor_eq_stop {t : Token} (h : pull 1 text start = .token t) :
    t.cursor = t.stop :=
  (pullAt_progress h).2.1

/-! ## All pulls -/

theorem scan_eq_pulled (text : Text) (start : Nat) :
    scan text start = pulled text (tokenize text 1 start) := by
  cases h : pull 1 text start with
  | finished =>
    rw [scan_of_finished h, tokenize_of_finished h]
    rfl
  | foreign e =>
    rw [scan_of_foreign h, tokenize_of_foreign h]
    rfl
  | token t =>
    have hcursor := Token.cursor_eq_stop h
    have hprogress := pull_progress h
    have hindex := t.index_lt_cursor
    rw [scan_of_token h, tokenize_of_token h, pulled_cons, hcursor, scan_eq_pulled text t.stop]
termination_by text.length - start
decreasing_by omega

/-! ## Going on from a cursor -/

theorem tokenize_length (line : Int) (text : Text) : tokenize text line text.length = .done :=
  tokenize_of_finished (pull_of_gap List.drop_length fun _ hc => nomatch hc)

theorem exists_pull_of_getElem? {i : Nat} {t : Token}
    (ht : (tokenize text 1 start).items[i]? = some t) : ∃ u, pull 1 text start = .token u := by
  cases h : pull 1 text start with
  | finished => rw [tokenize_of_finished h] at ht; cases ht
  | foreign e => rw [tokenize_of_foreign h] at ht; cases ht
  | token u => exact ⟨u, rfl⟩

theorem tokenize_stop {i : Nat} {t : Token}
    (ht : (tokenize text 1 start).items[i]? = some t) :
    tokenize text 1 t.stop = (tokenize text 1 start).drop (i + 1) := by
  induction i generalizing start with
  | zero =>
    obtain ⟨u, hu⟩ := exists_pull_of_getElem? ht
    rw [tokenize_of_token hu] at ht ⊢
    cases ht
    rfl
  | succ i ih =>
    obtain ⟨u, hu⟩ := exists_pull_of_getElem? ht
    rw [tokenize_of_token hu] at ht ⊢
    exact ih ht

/-- Pulling from a cursor on delivers the tokens of the stream from there on with their ends, in
order, and then its foreign character or the end of the text. From each cursor that is left, the
stream and the pulls deliver the remaining part. -/
theorem scan_eq_stream (text : Text) (start : Nat) :
    scan text start = pulled text (tokenize text 1 start) ∧
    ∀ (i : Nat) (t? : Option Token) (cursor : Int),
      (scan text start).items[i]? = some (t?, cursor) →
        tokenize text 1 cursor = (tokenize text 1 start).drop (i + 1) ∧
        scan text cursor = pulled text ((tokenize text 1 start).drop (i + 1)) := by
  refine ⟨scan_eq_pulled text start, fun i t? cursor h => ?_⟩
  -- Either way the cursor is a place in the text, from which the stream delivers what is left.
  have hrest : ∃ place : Nat, cursor = place ∧
      tokenize text 1 place = (tokenize text 1 start).drop (i + 1) := by
    rw [scan_eq_pulled] at h
    obtain hlt | hle := Nat.lt_or_ge i (tokenize text 1 start).items.length
    · rw [pulled, List.getElem?_append_left (by simpa using hlt), List.getElem?_map] at h
      obtain ⟨t, ht, he⟩ := Option.map_eq_some_iff.1 h
      cases he
      exact ⟨t.stop, rfl, tokenize_stop ht⟩
    · rw [pulled, List.getElem?_append_right (by simpa using hle)] at h
      cases hf : (tokenize text 1 start).failure with
      | some e => simp [hf] at h
      | none =>
        rw [hf, Option.isNone_none, if_pos rfl, List.getElem?_singleton] at h
        split at h <;> cases h
        refine ⟨text.length, rfl, ?_⟩
        rw [tokenize_length, Delivery.drop, List.drop_of_length_le (by omega), hf]
        rfl
  obtain ⟨place, rfl, hplace⟩ := hrest
  exact ⟨hplace, by rw [scan_eq_pulled, hplace]⟩

/-- Behind the name in front of a character that is foreign, pulling is cut short at once. -/
theorem scan_nameThenForeign :
    (scan ['a', '$'] 0).items[0]? = some (some ⟨.identifier Progress.someName, 1, 0, 1⟩, 1) ∧
    tokenize ['a', '$'] 1 1 = .broken ⟨'$', 1⟩ ∧ scan ['a', '$'] 1 = .broken ⟨'$', 1⟩ := by
  have htoken : pull 1 ['a', '$'] (0 : Nat) =
      .token ⟨.identifier Progress.someName, 1, 0, 1⟩ := by decide
  have hforeign : pull 1 ['a', '$'] (1 : Nat) = .foreign ⟨'$', 1⟩ := by decide
  have hstream : tokenize ['a', '$'] 1 (0 : Nat) =
      ⟨[⟨.identifier Progress.someName, 1, 0, 1⟩], some ⟨'$', 1⟩⟩ := by
    rw [tokenize_of_token htoken, tokenize_of_foreign hforeign]
    rfl
  obtain ⟨hscan, hrest⟩ := scan_eq_stream ['a', '$'] 0
  rw [hstream] at hscan hrest
  have hfirst : (scan ['a', '$'] 0).items[0]? =
      some (some ⟨.identifier Progress.someName, 1, 0, 1⟩, 1) := by
    rw [show (0 : Int) = (0 : Nat) from rfl, hscan]
    rfl
  exact ⟨hfirst, hrest 0 _ 1 hfirst⟩

end Propositional
