import Propositional.Parse.Parser
import Propositional.Value

/-!
# Parser sessions

A session has a parser of its own and goes on with it from one request to the next. The settings of
this parser may be changed between parses. A shared parse goes to a parser that all sessions have in
common. Both parsers are left as the last parse has left them, also where it has failed.
-/

namespace Propositional

/-- A session: the parser of its own, the one that is shared, and for each request so far the
formula that it parsed, if any. -/
structure Session where
  own : Parser
  shared : Parser
  formulas : Array (Option Formula)

/-- A request to a session. -/
inductive SessionRequest where
  | parse (text : Text)
  | sharedParse (text : Text)
  | setLimit (limit : Option Int)
  | setLevel (level : Log.Level)
  | compare (a b : Nat)
  | recall (index : Nat)

/-- The answer to a request. -/
inductive SessionAnswer where
  | parsed (outcome : Except ParserFailure Formula)
  | limitSet (limit : Option Int)
  | levelSet (level : Log.Level)
  | compared (c : Comparison)
  | recalled (formula : Formula)
  | nothing (index : Nat)

/-- The formula that an answer holds, if a parse has succeeded. -/
def SessionAnswer.formula? : SessionAnswer → Option Formula
  | .parsed (.ok formula) => some formula
  | _ => none

/-- What a parser has written since it was an earlier one. -/
def Parser.writtenSince (p earlier : Parser) : String :=
  String.ofList (p.written.toList.drop earlier.written.length)

namespace Session

/-- A session at its start. The shared parser has the default limit and no log. -/
def start (settings : Settings) : Session :=
  ⟨.new settings.limit (some settings.level), .new (some Parse.defaultLimit) none, #[]⟩

/-- The formula that the request with a given number parsed. -/
def formula? (s : Session) (index : Nat) : Option Formula := s.formulas[index]?.join

/-- The answer to a request, with the session it leaves but for the formula that was parsed. -/
def answer (s : Session) : SessionRequest → SessionAnswer × Session
  | .parse text => ((s.own.parse text).map .parsed fun p => { s with own := p })
  | .sharedParse text => ((s.shared.parse text).map .parsed fun p => { s with shared := p })
  | .setLimit limit => (.limitSet limit, { s with own.limit := limit })
  | .setLevel level => (.levelSet level, { s with own.level := level })
  | .compare a b =>
    match s.formula? a, s.formula? b with
    | some x, some y => (.compared (Formula.compare x y), s)
    | none, _ => (.nothing a, s)
    | _, none => (.nothing b, s)
  | .recall index =>
    match s.formula? index with
    | some formula => (.recalled formula, s)
    | none => (.nothing index, s)

/-- The answer to a request with what is logged for it, and the session it leaves. -/
def serve (s : Session) (r : SessionRequest) : (SessionAnswer × String) × Session :=
  let (a, s') := s.answer r
  ((a, s'.own.writtenSince s.own), { s' with formulas := s.formulas.push a.formula? })

/-- The answers to a sequence of requests, with what is logged for each. -/
def serveAll (s : Session) : List SessionRequest → List (SessionAnswer × String)
  | [] => []
  | r :: rest => (s.serve r).1 :: (s.serve r).2.serveAll rest

end Session

end Propositional
