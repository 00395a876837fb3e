import Propositional.Parse.Session
import Propositional.Proofs.Isolation
import Propositional.Proofs.Parsers

/-!
# Parsers are as good as new

The parsers of a session are left as the last parse has left them: the lexer has some mark, and what
was written stays. A parse reads neither, so a parser that has been used answers and writes what a
new one with its settings does.

1. `Parser.parse_fst`, `Parser.writtenSince_parse`, `Parser.toSettings_parse`: what is parsed and
   what is written for it depend on the settings of the parser, and these are kept.
2. `Session.settings_answer`: a request changes the settings of the own parser if it asks for that,
   and never those of the shared one.
3. `Session.settings_after`: after a sequence of requests, the own parser has the settings in force,
   which are the limit and the level that were set last.

Hence `Session.serveAll_eq_alone`.
-/

namespace Propositional

/-! ## Parsers that have been used -/

namespace Parser

variable (p : Parser) (text : Text)

theorem writtenSince_self : p.writtenSince p = "" := by
  unfold writtenSince
  rw [← String.length_toList, List.drop_length]

theorem writtenSince_after (mark : Mark) (events : List Event) :
    (p.after mark events).writtenSince p = Log.writeAll p.level (events.map Event.entry) := by
  unfold writtenSince after
  rw [String.toList_append, ← String.length_toList, List.drop_left, String.ofList_toList]

/-- The mark of the lexer and what has been written before have no part in a parse. -/
theorem parse_fst :
    (p.parse text).1 = (Propositional.parse p.limit text).outcome.mapError .parse :=
  (p.parse_eq text).1

theorem writtenSince_parse :
    (p.parse text).2.writtenSince p = (Propositional.parse p.limit text).log p.level := by
  obtain ⟨-, mark, hafter⟩ := p.parse_eq text
  rw [hafter, writtenSince_after]
  rfl

theorem toSettings_parse : (p.parse text).2.toSettings = p.toSettings := by
  obtain ⟨-, mark, hafter⟩ := p.parse_eq text
  rw [hafter]
  rfl

end Parser

/-- What a new parser with given settings answers for a text, and what it writes. -/
def Settings.alone (settings : Settings) (text : Text) : SessionAnswer × String :=
  (parseWriting settings.limit (some settings.level) text).map .parsed id

theorem Settings.alone_eq (settings : Settings) (text : Text) :
    settings.alone text =
      (.parsed ((parse settings.limit text).outcome.mapError .parse),
        (parse settings.limit text).log settings.level) := by
  unfold alone
  rw [parseWriting_eq]
  rfl

/-! ## Settings in force -/

/-- The limit that a request sets, if it sets one. -/
def SessionRequest.limit? : SessionRequest → Option (Option Int)
  | .setLimit limit => some limit
  | _ => none

/-- The level that a request sets, if it sets one. -/
def SessionRequest.level? : SessionRequest → Option Log.Level
  | .setLevel level => some level
  | _ => none

namespace Settings

/-- The settings that are in force after some requests: the limit and the level that were set last,
or else those from before. -/
def inForce (settings : Settings) (rs : List SessionRequest) : Settings where
  limit := (rs.filterMap SessionRequest.limit?).getLast?.getD settings.limit
  level := (rs.filterMap SessionRequest.level?).getLast?.getD settings.level

theorem inForce_cons (settings : Settings) (r : SessionRequest) (rs : List SessionRequest) :
    settings.inForce (r :: rs) = (settings.inForce [r]).inForce rs := by
  cases r with
  | setLimit limit =>
    simp [inForce, SessionRequest.limit?, SessionRequest.level?, List.getLast?_cons]
  | setLevel level =>
    simp [inForce, SessionRequest.limit?, SessionRequest.level?, List.getLast?_cons]
  | _ => rfl

/-- The settings of a parse that is shared by all sessions. -/
def shared : Settings := ⟨some Parse.defaultLimit, .silent⟩

end Settings

namespace Session

/-! ## One request -/

/-- A request changes the settings of the own parser if it sets one, and never those of the shared
parser. -/
theorem settings_answer (s : Session) (r : SessionRequest) :
    (s.answer r).2.own.toSettings = s.own.toSettings.inForce [r] ∧
      (s.answer r).2.shared.toSettings = s.shared.toSettings := by
  cases r with
  | parse text => exact ⟨s.own.toSettings_parse text, rfl⟩
  | sharedParse text => exact ⟨rfl, s.shared.toSettings_parse text⟩
  | setLimit limit => exact ⟨rfl, rfl⟩
  | setLevel level => exact ⟨rfl, rfl⟩
  | _ =>
    -- a request for formulas that were parsed before, be they there or not
    unfold answer
    dsimp only
    split <;> exact ⟨rfl, rfl⟩

theorem serve_parse_eq (s : Session) (text : Text) :
    (s.serve (.parse text)).1 = s.own.toSettings.alone text := by
  rw [Settings.alone_eq, ← s.own.parse_fst, ← s.own.writtenSince_parse]
  rfl

/-- The own parser has no part in a shared parse, so nothing is logged of it. -/
theorem serve_sharedParse_eq (s : Session) (text : Text) :
    (s.serve (.sharedParse text)).1 = ((s.shared.toSettings.alone text).1, "") := by
  rw [Settings.alone_eq, ← s.shared.parse_fst, ← s.own.writtenSince_self]
  rfl

/-! ## Sequences of requests -/

/-- The session after a sequence of requests. -/
def after (s : Session) (rs : List SessionRequest) : Session :=
  rs.foldl (fun s r => (s.serve r).2) s

theorem settings_after (s : Session) (rs : List SessionRequest) :
    (s.after rs).own.toSettings = s.own.toSettings.inForce rs ∧
      (s.after rs).shared.toSettings = s.shared.toSettings := by
  induction rs generalizing s with
  | nil => exact ⟨rfl, rfl⟩
  | cons r rs ih =>
    obtain ⟨hown, hshared⟩ := s.settings_answer r
    obtain ⟨hown', hshared'⟩ := ih (s.serve r).2
    refine ⟨?_, hshared'.trans hshared⟩
    rw [Settings.inForce_cons, ← hown]
    exact hown'

theorem serveAll_getElem? (s : Session) {rs : List SessionRequest} {i : Nat} {r : SessionRequest}
    (hi : rs[i]? = some r) : (s.serveAll rs)[i]? = some ((s.after (rs.take i)).serve r).1 := by
  have hcons : ∀ (s : Session) r rs,
      s.serveAll (r :: rs) = (s.serve r).1 :: (s.serve r).2.serveAll rs := fun _ _ _ => rfl
  exact getElem?_answers hcons s hi

/-! ## Reuse -/

/-- The parsers of a session are as good as new. In any sequence of requests each parse is answered
and logged as by a new parser with the settings that are in force where it stands, and each shared
parse is answered as by a new parser with the default limit and without a log, with nothing
logged. -/
theorem serveAll_eq_alone (settings : Settings) (rs : List SessionRequest) (i : Nat) (text : Text) :
    (rs[i]? = some (.parse text) →
      ((start settings).serveAll rs)[i]? = some ((settings.inForce (rs.take i)).alone text)) ∧
    (rs[i]? = some (.sharedParse text) →
      ((start settings).serveAll rs)[i]? = some ((Settings.shared.alone text).1, "") ∧
        (Settings.shared.alone text).2 = "") := by
  obtain ⟨hown, hshared⟩ := (start settings).settings_after (rs.take i)
  refine ⟨fun hi => ?_, fun hi => ⟨?_, ?_⟩⟩
  · rw [serveAll_getElem? _ hi, serve_parse_eq, hown]
    rfl
  · rw [serveAll_getElem? _ hi, serve_sharedParse_eq, hshared]
    rfl
  · rw [Settings.alone_eq]
    exact Log.writeAll_silent _

/-- A parse that fails within two groups, settings under which one group is allowed and all is
logged, a formula with one group, and the first text again where it is shared. -/
def brokenThenGroup : List SessionRequest :=
  [.parse "((a".toList, .setLimit (some 1), .setLevel .debug, .parse "(a)".toList,
    .sharedParse "((a".toList]

/-- The formula with one group is parsed as if nothing had been parsed before. -/
theorem serveAll_brokenThenGroup :
    ((start ⟨none, .silent⟩).serveAll brokenThenGroup)[0]? =
        some (Settings.alone ⟨none, .silent⟩ "((a".toList) ∧
      ((start ⟨none, .silent⟩).serveAll brokenThenGroup)[3]? =
        some (Settings.alone ⟨some 1, .debug⟩ "(a)".toList) ∧
      ((start ⟨none, .silent⟩).serveAll brokenThenGroup)[4]? =
        some ((Settings.alone ⟨some 200, .silent⟩ "((a".toList).1, "") := by
  have hreuse := serveAll_eq_alone ⟨none, .silent⟩ brokenThenGroup
  refine ⟨(hreuse 0 _).1 rfl, (hreuse 3 _).1 rfl, ?_⟩
  exact ((hreuse 4 _).2 rfl).1

end Session

end Propositional
