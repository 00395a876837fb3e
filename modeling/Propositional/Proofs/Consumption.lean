import Propositional.Proofs.Canonical
import Propositional.Proofs.Steps
import Propositional.Proofs.Trace
import Propositional.Proofs.Words

/-!
# What a step consumes

A step of the grammar that delivers a tree consumes exactly the tokens of the tree, leaves the first
token behind them as the current one, and leaves the text and the depth as they were. What follows
the consumed tokens plays no part in this, unless it is a connective behind a proposition that is
one operand.

1. `Consumes`: a step goes over tokens. Steps go over tokens one after the other
   (`Consumes.trans`); a pull goes over one (`consumes_of_advance`).
2. `Descends.exists_consumes`: a descent through a tree consumes the lexemes of the tree. By
   induction on `Descends`.
3. `exists_descends`: the descent goes through a tree wherever its lexemes are ahead. By recursion
   on the tree.
4. `Calls`: the states in which a parse of a text calls its steps. Each of them stands before the
   rest of the tokens of the text (`Calls.standsIn`).
-/

namespace Propositional

open Parse Descent

section Consumes

variable {limit : Option Int} {room : Nat} {index : Int} {s s' s'' : ParseState}
  {es es' : List Event} {t : Token} {ts read read' rest : List Token} {f : Option ForeignCharacter}

/-! ## Going over tokens -/

/-- From `s` to `s'` the tokens `read` are consumed, with the tokens `rest` left ahead, after which
the stream breaks off at `f` or ends: the current token and those that are pulled are the consumed
ones and the one that is current then. -/
structure Consumes (s : ParseState) (es : List Event) (read rest : List Token)
    (f : Option ForeignCharacter) (s' : ParseState) : Prop where
  text_eq : s'.text = s.text
  depth_eq : s'.depth = s.depth
  ahead : Ahead s' rest f
  tokens_eq : s.current.toList ++ es.filterMap Event.token? = read ++ s'.current.toList

theorem Ahead.goes_on (h : Ahead s ts f) (hts : ts = []) : f = none := by
  subst hts
  cases f with
  | none => rfl
  | some e => exact h.elim

theorem Ahead.exists_cons (h : Ahead s ts f) (ht : s.current = some t) :
    ∃ rest, ts = t :: rest := by
  rw [h.current_eq] at ht
  exact List.head?_eq_some_iff.1 ht

theorem Consumes.trans (h : Consumes s es read (read' ++ rest) f s')
    (h' : Consumes s' es' read' rest f s'') :
    Consumes s (es ++ es') (read ++ read') rest f s'' where
  text_eq := h'.text_eq.trans h.text_eq
  depth_eq := h'.depth_eq.trans h.depth_eq
  ahead := h'.ahead
  tokens_eq := by
    rw [List.filterMap_append, ← List.append_assoc, h.tokens_eq, List.append_assoc, h'.tokens_eq,
      List.append_assoc]

theorem Consumes.current_eq_and_cursor_eq (h : Consumes s es read rest f s') :
    s'.current = rest.head? ∧
      s'.cursor = ((rest.head?.map Token.stop).getD s.text.length : Nat) := by
  have hahead := h.ahead
  refine ⟨hahead.current_eq, ?_⟩
  rcases rest with _ | ⟨t, rest⟩
  · obtain rfl := hahead.goes_on rfl
    rw [hahead.2, h.text_eq]
    rfl
  · exact hahead.2.1

theorem exists_advance (h : Ahead s (t :: ts) f) (hgoes : ts = [] → f = none) :
    ∃ es s', advance s = ⟨es, .ok ((), s')⟩ := by
  obtain ⟨e, hts, hf, -⟩ | ⟨s', hadvance, -⟩ := advance_cases h.2.1 h.2.2
  · rw [hgoes hts] at hf
    cases hf
  · exact ⟨_, s', hadvance⟩

theorem consumes_of_advance (h : Ahead s (t :: ts) f) (hadvance : advance s = ⟨es, .ok ((), s')⟩) :
    Consumes s es [t] ts f s' := by
  obtain ⟨e, -, -, hfails⟩ | ⟨s₁, hpulls, hahead, htext, hdepth⟩ := advance_cases h.2.1 h.2.2
  · cases hadvance.symm.trans hfails
  · cases hadvance.symm.trans hpulls
    have hpulled : (pulls s.text ts f).filterMap Event.token? = s'.current.toList := by
      rw [hahead.current_eq]
      unfold pulls
      split <;> rfl
    exact ⟨htext, hdepth, hahead, by rw [h.1, hpulled]; rfl⟩

/-! ## Groups -/

theorem enter_eq_ok_iff (hroom : s.depth < ceiling) :
    enter limit index s = ⟨es, .ok ((), s')⟩ ↔ Admits limit (s.depth + 1 : Nat) ∧
      es = [.entered (s.depth + 1) index] ∧ s' = { s with depth := s.depth + 1 } := by
  rw [← refusal_eq_none_iff (Nat.succ_pos _), refusal]
  obtain ⟨m, hlimit, henter⟩ | ⟨hlimit, henter⟩ := enter_cases limit index s
  · rw [hlimit, henter]
    constructor
    · rintro ⟨⟩
    · rintro ⟨⟨⟩, -⟩
  · rw [hlimit, henter]
    dsimp only
    rw [if_neg (by omega)]
    constructor
    · rintro ⟨⟩
      exact ⟨rfl, rfl, rfl⟩
    · rintro ⟨-, rfl, rfl⟩
      rfl

theorem closeGroup_eq_ok_iff :
    closeGroup limit s = ⟨es, .ok ((), s')⟩ ↔
      ∃ t, s.current = some t ∧ t.lexeme = .closing ∧ advance s = ⟨es, .ok ((), s')⟩ := by
  rcases hcurrent : s.current with _ | t
  · unfold closeGroup Operations.closeGroup
    dsimp only [operations]
    rw [current_bind, hcurrent]
    constructor
    · rintro ⟨⟩
    · rintro ⟨t, ⟨⟩, -⟩
  · rw [closeGroup_of_current limit hcurrent]
    constructor
    · intro h
      split at h
      · rename_i ht
        exact ⟨t, rfl, ht, h⟩
      · cases h
    · rintro ⟨t, ⟨⟩, ht, hadvance⟩
      rwa [if_pos ht]

theorem Consumes.group (depth depth' : Nat) (index : Int)
    (h : Consumes { s with depth := s.depth + 1 } es read rest f s') :
    Consumes s ([.entered depth index] ++ (es ++ [.left depth'])) read rest f
      { s' with depth := s'.depth - 1 } where
  text_eq := h.text_eq
  depth_eq := by
    show s'.depth - 1 = s.depth
    rw [h.depth_eq]
    rfl
  ahead := h.ahead.of_depth
  tokens_eq := by
    have hgroup : ([Event.entered depth index] ++ (es ++ [Event.left depth'])).filterMap
        Event.token? = es.filterMap Event.token? := by
      rw [List.singleton_append, List.filterMap_cons_none rfl, List.filterMap_append]
      exact List.append_nil _
    rw [hgroup]
    exact h.tokens_eq

/-! ## A descent consumes the lexemes of the tree -/

/-- A tree ends before tokens: a proposition that is one operand does unless a connective goes on
with it, and any other tree ends whatever follows. -/
def Node.EndsBefore : {c : Category} → Node Empty c → List Token → Prop
  | _, .bare _, rest => connective? rest.head? = none
  | _, _, _ => True

theorem Node.endsBefore_term (x : Term) (rest : List Token) : x.EndsBefore rest := by
  cases x <;> trivial

theorem Node.endsBefore_of_connective? {c : Category} (x : Node Empty c)
    (h : connective? rest.head? = none) : x.EndsBefore rest := by
  cases x with
  | bare term => exact h
  | _ => trivial

/-- A descent through a tree consumes the tokens ahead that have the lexemes of the tree, and no
others; the groups of the tree are admitted, and the tree ends before what follows. -/
theorem Descends.exists_consumes {c : Category} {x : Node Empty c}
    (h : Descends limit room s x es s') (hroom : room + s.depth = ceiling)
    (hadmits : Admits limit s.depth) (hahead : Ahead s ts f) :
    ∃ read rest, ts = read ++ rest ∧ read.map Token.lexeme = x.lexemes ∧
      Admits limit (s.depth + x.nesting : Nat) ∧ x.EndsBefore rest ∧
      Consumes s es read rest f s' := by
  induction h generalizing ts with
  | @identifier room s s' t n es hcurrent ht hadvance =>
    obtain ⟨rest, rfl⟩ := hahead.exists_cons hcurrent
    exact ⟨[t], rest, rfl, congrArg (· :: []) ht, hadmits, trivial,
      consumes_of_advance hahead hadvance⟩
  | @group room s s₁ s₂ s₃ s₄ t body entering pulled inside closing hcurrent ht henter hadvance _
      hclose ih =>
    obtain ⟨ts, rfl⟩ := hahead.exists_cons hcurrent
    obtain ⟨hdeeper, rfl, rfl⟩ := (enter_eq_ok_iff (by omega)).1 henter
    have hopens := consumes_of_advance hahead.of_depth hadvance
    have hdepth : s₂.depth = s.depth + 1 := hopens.depth_eq
    obtain ⟨inner, ts, rfl, hinner, hadmits', -, hover⟩ :=
      ih (by omega) (hdepth ▸ hdeeper) hopens.ahead
    obtain ⟨u, hu, hclosing, hadvance'⟩ := closeGroup_eq_ok_iff.1 hclose
    obtain ⟨rest, rfl⟩ := hover.ahead.exists_cons hu
    have hcloses := consumes_of_advance hover.ahead hadvance'
    rw [List.append_cons] at hopens ⊢
    have hgroup := (hopens.trans (hover.trans hcloses)).group (s.depth + 1) s₄.depth t.index
    refine ⟨[t] ++ (inner ++ [u]), rest, rfl, ?_, ?_, trivial, ?_⟩
    · simp [Node.lexemes, ht, hinner, hclosing]
    · rw [hdepth] at hadmits'
      rwa [Node.nesting, ← Nat.add_assoc, Nat.add_right_comm]
    · simpa only [List.append_assoc] using hgroup
  | @bare room s s' term es _ _ hop ih =>
    obtain ⟨read, rest, rfl, hread, hadmits', -, hover⟩ := ih hroom hadmits hahead
    refine ⟨read, rest, rfl, hread, hadmits', ?_, hover⟩
    rwa [hover.ahead.current_eq] at hop
  | @negation room s s₁ s' operand pulled es hneg hadvance _ ih =>
    obtain ⟨t, hcurrent, ht⟩ := Option.map_eq_some_iff.1 hneg
    obtain ⟨ts, rfl⟩ := hahead.exists_cons hcurrent
    have hpulls := consumes_of_advance hahead hadvance
    rw [← hpulls.depth_eq] at hroom hadmits ⊢
    obtain ⟨read, rest, rfl, hread, hadmits', -, hover⟩ := ih hroom hadmits hpulls.ahead
    refine ⟨[t] ++ read, rest, rfl, ?_, hadmits', trivial, hpulls.trans hover⟩
    simp [Node.lexemes, ht, hread]
  | @compound room s s₁ s₂ s' op left right es pulled es' _ _ hop hadvance _ ihl ihr =>
    obtain ⟨read, ts, rfl, hread, hadmits', -, hover⟩ := ihl hroom hadmits hahead
    rw [hover.ahead.current_eq] at hop
    rcases ts with _ | ⟨t, ts⟩
    · cases hop
    have ht := lexeme_of_connective? hop
    have hpulls := consumes_of_advance hover.ahead hadvance
    have hdepth : s₂.depth = s.depth := hpulls.depth_eq.trans hover.depth_eq
    rw [← hdepth] at hroom hadmits
    obtain ⟨read', rest, rfl, hread', hadmits'', -, hover'⟩ := ihr hroom hadmits hpulls.ahead
    refine ⟨read ++ ([t] ++ read'), rest, by simp, ?_, ?_, trivial, ?_⟩
    · simp [Node.lexemes, ht, hread, hread']
    · rw [hdepth] at hadmits''
      rcases Nat.le_total left.nesting right.nesting with hle | hle
      · rwa [Node.nesting, Nat.max_eq_right hle]
      · rwa [Node.nesting, Nat.max_eq_left hle]
    · exact hover.trans (hpulls.trans hover')

theorem Descends.consumes {c : Category} {x : Node Empty c} (h : Descends limit room s x es s')
    (hroom : room + s.depth = ceiling) (hadmits : Admits limit s.depth)
    (hahead : Ahead s (read ++ rest) f) (hread : read.map Token.lexeme = x.lexemes) :
    Consumes s es read rest f s' := by
  obtain ⟨read', rest', hts, hread', -, -, hover⟩ := h.exists_consumes hroom hadmits hahead
  have hlength : read.length = read'.length := by
    rw [← List.length_map, hread, ← hread', List.length_map]
  obtain ⟨rfl, rfl⟩ := List.append_inj hts hlength
  exact hover

/-! ## Where the descent goes through a tree -/

theorem Ahead.ne_negation {term : Term} (h : Ahead s (read ++ rest) f)
    (hread : read.map Token.lexeme = term.lexemes) :
    s.current.map Token.lexeme ≠ some .negation := by
  rw [h.current_eq, ← List.head?_map, List.map_append, hread]
  intro hneg
  obtain ⟨xs, hxs⟩ := List.head?_eq_some_iff.1 hneg
  exact term.lexemes_ne_negation _ _ hxs

theorem Node.lexemes_ne_nil : {c : Category} → (x : Node Empty c) → x.lexemes ≠ []
  | _, .bare term => term.lexemes_ne_nil
  | _, .identifier _ | _, .group _ | _, .negation _ | _, .compound _ _ _ => by simp [lexemes]

theorem Node.ahead_ne_nil {c : Category} (x : Node Empty c)
    (hread : read.map Token.lexeme = x.lexemes) : read ++ rest ≠ [] := by
  intro hnil
  obtain ⟨rfl, -⟩ := List.append_eq_nil_iff.1 hnil
  exact x.lexemes_ne_nil hread.symm

/-- The descent goes through a tree where its lexemes are ahead and it ends before what follows, as
long as its groups are admitted and the stream does not break off right behind it. -/
theorem exists_descends {limit : Option Int} : {c : Category} → (x : Node Empty c) → {room : Nat} →
    {s : ParseState} → {read rest : List Token} → {f : Option ForeignCharacter} →
    room + s.depth = ceiling → Admits limit (s.depth + x.nesting : Nat) →
    Ahead s (read ++ rest) f → read.map Token.lexeme = x.lexemes → (rest = [] → f = none) →
    x.EndsBefore rest → ∃ es s', Descends limit room s x es s'
  | _, .identifier n, room, s, read, rest, f => by
    intro _ _ hahead hread hgoes _
    obtain ⟨t, rfl, ht⟩ := List.map_eq_singleton_iff.1 hread
    obtain ⟨es, s', hadvance⟩ := exists_advance hahead hgoes
    exact ⟨es, s', .identifier hahead.1 ht hadvance⟩
  | _, .group body, room, s, read, rest, f => by
    intro hroom hadmits hahead hread hgoes _
    obtain ⟨t, _, rfl, ht, hread⟩ := List.map_eq_cons_iff.1 hread
    obtain ⟨inner, _, rfl, hinner, hlast⟩ := List.map_eq_append_iff.1 hread
    obtain ⟨u, rfl, hu⟩ := List.map_eq_singleton_iff.1 hlast
    have hdeeper : s.depth + (body.nesting + 1) = s.depth + 1 + body.nesting := by omega
    rw [Node.nesting, hdeeper] at hadmits
    have hceiling := hadmits.1
    obtain ⟨room, rfl⟩ : ∃ room', room = room' + 1 := ⟨room - 1, by omega⟩
    have henter : enter limit t.index s =
        ⟨[.entered (s.depth + 1) t.index], .ok ((), { s with depth := s.depth + 1 })⟩ :=
      (enter_eq_ok_iff (by omega)).2 ⟨hadmits.mono (by omega), rfl, rfl⟩
    rw [List.cons_append, List.append_assoc] at hahead
    have hentered : Ahead { s with depth := s.depth + 1 } (t :: (inner ++ ([u] ++ rest))) f :=
      hahead.of_depth
    obtain ⟨pulled, s₂, hadvance⟩ := exists_advance hentered (absurd · (by simp))
    have hopens := consumes_of_advance hentered hadvance
    have hdepth : s₂.depth = s.depth + 1 := hopens.depth_eq
    have hroom' : room + s₂.depth = ceiling := by omega
    rw [← hdepth] at hadmits
    obtain ⟨inside, s₃, hbody⟩ := exists_descends body hroom' hadmits hopens.ahead hinner
      (absurd · (by simp)) (body.endsBefore_of_connective? (by simp [connective?, hu]))
    have hover := hbody.consumes hroom' (hadmits.mono (by omega)) hopens.ahead hinner
    obtain ⟨closing, s₄, hadvance'⟩ := exists_advance hover.ahead hgoes
    exact ⟨_, _, .group hahead.1 ht henter hadvance hbody
      (closeGroup_eq_ok_iff.2 ⟨u, hover.ahead.1, hu, hadvance'⟩)⟩
  | _, .bare term, room, s, read, rest, f => by
    intro hroom hadmits hahead hread hgoes hend
    obtain ⟨es, s', hterm⟩ :=
      exists_descends term hroom hadmits hahead hread hgoes (term.endsBefore_term rest)
    have hover := hterm.consumes hroom (hadmits.mono (by omega)) hahead hread
    refine ⟨es, s', .bare (hahead.ne_negation hread) hterm ?_⟩
    rw [hover.ahead.current_eq]
    exact hend
  | _, .negation operand, room, s, read, rest, f => by
    intro hroom hadmits hahead hread hgoes _
    obtain ⟨t, read, rfl, ht, hread⟩ := List.map_eq_cons_iff.1 hread
    obtain ⟨pulled, s₁, hadvance⟩ := exists_advance hahead (absurd · (operand.ahead_ne_nil hread))
    have hpulls := consumes_of_advance hahead hadvance
    rw [← hpulls.depth_eq] at hroom hadmits
    obtain ⟨es, s', hoperand⟩ := exists_descends operand hroom hadmits hpulls.ahead hread hgoes
      (operand.endsBefore_term rest)
    exact ⟨_, s', .negation (by rw [hahead.1, Option.map_some, ht]) hadvance hoperand⟩
  | _, .compound op left right, room, s, read, rest, f => by
    intro hroom hadmits hahead hread hgoes _
    obtain ⟨read, _, rfl, hleft, hread⟩ := List.map_eq_append_iff.1 hread
    obtain ⟨t, read', rfl, ht, hright⟩ := List.map_eq_cons_iff.1 hread
    rw [Node.nesting] at hadmits
    rw [List.append_assoc, List.cons_append] at hahead
    obtain ⟨es, s₁, hterm⟩ := exists_descends left hroom (hadmits.mono (by omega)) hahead hleft
      (absurd · (by simp)) (left.endsBefore_term _)
    have hover := hterm.consumes hroom (hadmits.mono (by omega)) hahead hleft
    obtain ⟨pulled, s₂, hadvance⟩ :=
      exists_advance hover.ahead (absurd · (right.ahead_ne_nil hright))
    have hpulls := consumes_of_advance hover.ahead hadvance
    have hdepth : s₂.depth = s.depth := hpulls.depth_eq.trans hover.depth_eq
    rw [← hdepth] at hroom hadmits
    obtain ⟨es', s', hterm'⟩ := exists_descends right hroom (hadmits.mono (by omega)) hpulls.ahead
      hright hgoes (right.endsBefore_term rest)
    exact ⟨_, s', .compound (hahead.ne_negation hleft) hterm
      (by simp [connective?, hover.ahead.1, ht]) hadvance hterm'⟩

end Consumes

/-! ## The steps that a parse calls -/

/-- The states in which a parse of a text calls the step for the nodes of a category, with the room
that it has for groups: for the whole text, for an operand of a negation or of a connective, and for
the inside of a group. -/
inductive Calls (limit : Option Int) (text : Text) : Category → Nat → ParseState → Prop
  | whole {s : ParseState} {es : List Event} :
    advance ⟨text, 0, none, 0⟩ = ⟨es, .ok ((), s)⟩ → Calls limit text .proposition ceiling s
  | operand {room : Nat} {s s' : ParseState} {es : List Event} :
    Calls limit text .proposition room s → s.current.map Token.lexeme = some .negation →
      advance s = ⟨es, .ok ((), s')⟩ → Calls limit text .simple room s'
  | left {room : Nat} {s : ParseState} :
    Calls limit text .proposition room s → s.current.map Token.lexeme ≠ some .negation →
      Calls limit text .simple room s
  | right {room : Nat} {s s₁ s₂ : ParseState} {term : Term} {op : Connective}
      {es pulled : List Event} :
    Calls limit text .proposition room s → s.current.map Token.lexeme ≠ some .negation →
      step limit room .simple s = ⟨es, .ok (term, s₁)⟩ → connective? s₁.current = some op →
      advance s₁ = ⟨pulled, .ok ((), s₂)⟩ → Calls limit text .simple room s₂
  | body {room : Nat} {s s₁ s₂ : ParseState} {t : Token} {entering pulled : List Event} :
    Calls limit text .simple (room + 1) s → s.current = some t → t.lexeme = .opening →
      enter limit t.index s = ⟨entering, .ok ((), s₁)⟩ →
      advance s₁ = ⟨pulled, .ok ((), s₂)⟩ → Calls limit text .proposition room s₂

/-- A state stands in a text, with room for the groups that the ceiling leaves: the tokens ahead of
it are the last tokens of the text, and the groups that are open are admitted. -/
structure StandsIn (limit : Option Int) (text : Text) (room : Nat) (s : ParseState) : Prop where
  text_eq : s.text = text
  room_eq : room + s.depth = ceiling
  admits : Admits limit s.depth
  exists_ahead : ∃ past ts f, tokenize text 1 0 = ⟨past ++ ts, f⟩ ∧ Ahead s ts f

section Calls

variable {limit : Option Int} {text : Text} {c : Category} {room : Nat} {s s' : ParseState}
  {es : List Event} {x : Node Empty c}

theorem StandsIn.of_consumes {past read rest : List Token} {f : Option ForeignCharacter}
    (h : StandsIn limit text room s) (htokens : tokenize text 1 0 = ⟨past ++ (read ++ rest), f⟩)
    (hover : Consumes s es read rest f s') : StandsIn limit text room s' where
  text_eq := hover.text_eq.trans h.text_eq
  room_eq := by rw [hover.depth_eq, h.room_eq]
  admits := by rw [hover.depth_eq]; exact h.admits
  exists_ahead := ⟨past ++ read, rest, f, by rw [htokens, List.append_assoc], hover.ahead⟩

theorem StandsIn.advance {t : Token} (h : StandsIn limit text room s) (ht : s.current = some t)
    (hadvance : advance s = ⟨es, .ok ((), s')⟩) : StandsIn limit text room s' := by
  obtain ⟨past, ts, f, htokens, hahead⟩ := h.exists_ahead
  obtain ⟨rest, rfl⟩ := hahead.exists_cons ht
  have htokens' : tokenize text 1 0 = ⟨past ++ ([t] ++ rest), f⟩ := htokens
  exact h.of_consumes htokens' (consumes_of_advance hahead hadvance)

/-- Every step is called in a state that stands in the text. By induction on the calls. -/
theorem Calls.standsIn (h : Calls limit text c room s) : StandsIn limit text room s := by
  induction h with
  | @whole s es hadvance =>
    obtain ⟨⟨ts, f⟩, htokens⟩ : ∃ d, tokenize text 1 0 = d := ⟨_, rfl⟩
    obtain ⟨e, -, -, hfails⟩ | ⟨s', hpulls, hahead, htext, hdepth⟩ :=
      advance_cases (s := ⟨text, 0, none, 0⟩) (n := 0) rfl htokens
    · cases hadvance.symm.trans hfails
    · cases hadvance.symm.trans hpulls
      refine ⟨htext, ?_, ?_, [], ts, f, htokens, hahead⟩
      · rw [hdepth]
        rfl
      · rw [hdepth]
        exact admits_zero
  | @operand room s s' es _ hneg hadvance ih =>
    obtain ⟨t, ht, -⟩ := Option.map_eq_some_iff.1 hneg
    exact ih.advance ht hadvance
  | left _ _ ih => exact ih
  | @right room s s₁ s₂ term op es pulled _ _ hterm hop hadvance ih =>
    obtain ⟨past, ts, f, htokens, hahead⟩ := ih.exists_ahead
    obtain ⟨read, rest, rfl, -, -, -, hover⟩ :=
      (step_eq_ok_iff.1 hterm).exists_consumes ih.room_eq ih.admits hahead
    rcases hcurrent : s₁.current with _ | t
    · rw [hcurrent] at hop
      cases hop
    · exact (ih.of_consumes htokens hover).advance hcurrent hadvance
  | @body room s s₁ s₂ t entering pulled _ hcurrent _ henter hadvance ih =>
    have hroom := ih.room_eq
    obtain ⟨hdeeper, rfl, rfl⟩ := (enter_eq_ok_iff (by omega)).1 henter
    obtain ⟨past, ts, f, htokens, hahead⟩ := ih.exists_ahead
    have hentered : StandsIn limit text room { s with depth := s.depth + 1 } :=
      ⟨ih.text_eq, by rw [← hroom, Nat.add_right_comm]; rfl, hdeeper, past, ts, f, htokens,
        hahead.of_depth⟩
    exact hentered.advance hcurrent hadvance

/-- A step that a parse calls and that delivers a tree consumes exactly the tokens of the canonical
text of the tree. It leaves the first token behind them as the current one, with the cursor at the
end of it, or at the end of the text, and leaves the text and the depth as they were. At the same
depth before the same tokens, it delivers the same tree and consumes these tokens whatever follows
them, unless the next pull fails or a connective goes on with the tree. -/
theorem step_consumes_tree (hcall : Calls limit text c room s)
    (hstep : step limit room c s = ⟨es, .ok (x, s')⟩) :
    ∃ past read rest f, tokenize text 1 0 = ⟨past ++ (read ++ rest), f⟩ ∧
      Ahead s (read ++ rest) f ∧ read ≠ [] ∧
      (∃ canonical, x.render = .ok canonical ∧ (tokenize canonical 1 0).failure = none ∧
        read.map Token.word = canonical.words) ∧
      Consumes s es read rest f s' ∧ s'.text = text ∧ s'.current = rest.head? ∧
      s'.cursor = ((rest.head?.map Token.stop).getD text.length : Nat) ∧
      ∀ s₂ read₂ rest₂ f₂, s₂.depth = s.depth → Ahead s₂ (read₂ ++ rest₂) f₂ →
        read₂.map Token.word = read.map Token.word → (rest₂ = [] → f₂ = none) →
        x.EndsBefore rest₂ →
          ∃ es₂ s₂', step limit room c s₂ = ⟨es₂, .ok (x, s₂')⟩ ∧
            Consumes s₂ es₂ read₂ rest₂ f₂ s₂' := by
  obtain ⟨htext, hroom, hadmits, past, ts, f, htokens, hahead⟩ := hcall.standsIn
  obtain ⟨read, rest, rfl, hread, hdeeper, -, hover⟩ :=
    (step_eq_ok_iff.1 hstep).exists_consumes hroom hadmits hahead
  obtain ⟨hcurrent, hcursor⟩ := hover.current_eq_and_cursor_eq
  rw [htext] at hcursor
  refine ⟨past, read, rest, f, htokens, hahead, ?_, ?_, hover, hover.text_eq.trans htext, hcurrent,
    hcursor, ?_⟩
  · rintro rfl
    exact x.lexemes_ne_nil hread.symm
  · obtain ⟨us, hus, hlexemes⟩ := x.exists_tokens_text
    refine ⟨x.text, x.render_eq, by rw [hus], ?_⟩
    have hwords := congrArg (List.map Lexeme.word) (hread.trans hlexemes.symm)
    rw [List.map_map, List.map_map] at hwords
    rw [Text.words, hus]
    exact hwords
  · intro s₂ read₂ rest₂ f₂ hdepth hahead₂ hwords hgoes hend
    have hread₂ : read₂.map Token.lexeme = x.lexemes := (lexemes_eq_of_words hwords).trans hread
    rw [← hdepth] at hroom hdeeper hadmits
    obtain ⟨es₂, s₂', hdescends⟩ := exists_descends x hroom hdeeper hahead₂ hread₂ hgoes hend
    exact ⟨es₂, s₂', step_eq_ok_iff.2 hdescends, hdescends.consumes hroom hadmits hahead₂ hread₂⟩

/-- The state of a parse at the opening parenthesis that a text begins with. -/
def ParseState.atGroup (text : Text) : ParseState := ⟨text, 1, some ⟨.opening, 1, 0, 1⟩, 0⟩

/-- A group in front of a connective: the step for it leaves the connective as the current token,
and from a text with blanks that ends behind the group it delivers the same group. -/
theorem step_of_leftGroup :
    ∃ es s', Calls (some 1) "(a)&b".toList .simple ceiling (.atGroup "(a)&b".toList) ∧
      step (some 1) ceiling .simple (.atGroup "(a)&b".toList) =
        ⟨es, .ok (.group (.bare (.identifier Progress.someName)), s')⟩ ∧
      s'.current = some ⟨.connective .conjunction, 1, 3, 4⟩ ∧ s'.cursor = 4 ∧
      ∃ es₂ s₂', step (some 1) ceiling .simple (.atGroup "( a )".toList) =
        ⟨es₂, .ok (.group (.bare (.identifier Progress.someName)), s₂')⟩ ∧
        s₂'.current = none ∧ s₂'.cursor = 5 := by
  have hcall : Calls (some 1) "(a)&b".toList .simple ceiling (.atGroup "(a)&b".toList) := by
    have hpull : advance ⟨"(a)&b".toList, 0, none, 0⟩ =
        ⟨[.pulled ⟨.opening, 1, 0, 1⟩], .ok ((), .atGroup "(a)&b".toList)⟩ := rfl
    exact .left (.whole hpull) (by decide)
  have hahead : Ahead (.atGroup "(a)&b".toList)
      ([⟨.opening, 1, 0, 1⟩, ⟨.identifier Progress.someName, 1, 1, 2⟩, ⟨.closing, 1, 2, 3⟩] ++
        [⟨.connective .conjunction, 1, 3, 4⟩, ⟨.identifier ⟨['b'], by simp, by decide⟩, 1, 4, 5⟩])
      none := ⟨rfl, rfl, by decide +kernel⟩
  have hroom : ceiling + (ParseState.atGroup "(a)&b".toList).depth = ceiling := rfl
  have hadmits : Admits (some 1) (0 + 1 : Nat) := by
    refine ⟨by decide, ?_⟩
    rintro m ⟨⟩
    decide
  obtain ⟨es, s', hdescends⟩ := exists_descends (.group (.bare (.identifier Progress.someName)))
    hroom hadmits hahead rfl nofun trivial
  obtain ⟨hcurrent, hcursor⟩ :=
    (hdescends.consumes hroom admits_zero hahead rfl).current_eq_and_cursor_eq
  have hstep := step_eq_ok_iff.2 hdescends
  obtain ⟨past, read, rest, f, -, -, -, ⟨canonical, hrender, -, hwords⟩, -, -, -, -, hother⟩ :=
    step_consumes_tree hcall hstep
  rw [Node.render_eq] at hrender
  cases hrender
  obtain ⟨es₂, s₂', hstep₂, hover⟩ := hother (.atGroup "( a )".toList)
    [⟨.opening, 1, 0, 1⟩, ⟨.identifier Progress.someName, 1, 2, 3⟩, ⟨.closing, 1, 4, 5⟩] [] none
    rfl ⟨rfl, rfl, by decide +kernel⟩ (by rw [hwords]; decide +kernel) (fun _ => rfl) trivial
  obtain ⟨hcurrent₂, hcursor₂⟩ := hover.current_eq_and_cursor_eq
  exact ⟨es, s', hcall, hstep, hcurrent, hcursor, es₂, s₂', hstep₂, hcurrent₂, hcursor₂⟩

end Calls

end Propositional
