import Propositional.Token.Stream

/-!
# Sessions with several token streams

A session holds streams by name. A request starts a stream, advances it, closes it, or pulls one
token of any text.

Each stream keeps its own place, but all of them share a mark: a text and an index in it. A stream
leaves its text in the mark when it is first advanced, and its place when it stops, be it at the end
of the text, at a foreign character or because it is closed. The report of a foreign character takes
the index from the mark.

Main statements: a request puts a reader under the name it is about and under no other
(`Streams.live_put_of_ne`), and a pull of one token reports what `nextToken` does, whatever the mark
(`pullMarking_fst`).
-/

namespace Propositional

/-! ## Marks -/

/-- A text and an index in it, noted by the last stream that stopped. -/
structure Mark where
  text : Text
  index : Int
  deriving DecidableEq

/-- The report of a foreign character at the marked index. -/
def Mark.report (m : Mark) (c : Char) : ForeignCharacter := ⟨c, m.index⟩

/-- The index at which a stream has found the end of its text. A cursor outside the text stays where
it is. -/
def Stream.lastIndex (s : Stream) : Int :=
  if -(s.text.length : Int) ≤ s.cursor ∧ s.cursor ≤ s.text.length then s.text.length else s.cursor

/-! ## Readers -/

/-- A stream in a session, and whether it has been advanced yet. -/
structure Reader where
  stream : Stream
  advanced : Bool
  deriving DecidableEq

/-- What comes of advancing a reader: the result, the reader if it is still live, and the mark. -/
structure Advance where
  result : Except ForeignCharacter (Option Token)
  reader : Option Reader
  mark : Mark

namespace Reader

/-- A reader of a text from a cursor on. -/
def ofText (text : Text) (cursor : Int) : Reader := ⟨⟨text, cursor, 1⟩, false⟩

def advance (r : Reader) (m : Mark) : Advance :=
  match r.stream.next with
  | .token t =>
    ⟨.ok (some t), some ⟨r.stream.past t, true⟩,
      if r.advanced then m else { m with text := r.stream.text }⟩
  | .finished => ⟨.ok none, none, ⟨r.stream.text, r.stream.lastIndex⟩⟩
  | .foreign e =>
    let stopped : Mark := ⟨r.stream.text, e.index⟩
    ⟨.error (stopped.report e.char), none, stopped⟩

/-- The mark after a reader is closed. One that was never advanced leaves no mark. -/
def close (r : Reader) (m : Mark) : Mark :=
  if r.advanced then ⟨r.stream.text, r.stream.cursor⟩ else m

end Reader

/-- The mark after a reader, if there is one, is closed. -/
def Mark.afterClose (m : Mark) : Option Reader → Mark
  | none => m
  | some r => r.close m

/-- Pulls the first token at or after a cursor with a reader that is closed again. -/
def pullMarking (text : Text) (cursor : Int) (m : Mark) :
    Except ForeignCharacter (Option Token × Int) × Mark :=
  let a := (Reader.ofText text cursor).advance m
  (a.result.map fun
    | some t => (some t, t.cursor)
    | none => (none, text.length),
    a.mark.afterClose a.reader)

/-- What is pulled does not depend on the mark. -/
theorem pullMarking_fst (text : Text) (cursor : Int) (m : Mark) :
    (pullMarking text cursor m).1 = nextToken text cursor := by
  unfold pullMarking nextToken Reader.advance
  dsimp only [Reader.ofText, Stream.next]
  cases pull 1 text cursor <;> rfl

/-! ## Streams by name -/

/-- The streams of a session: the mark that they share, and the live ones by name. A stream that has
ended, failed or been closed is no longer live. -/
structure Streams where
  mark : Mark
  live : String → Option Reader

namespace Streams

def empty : Streams := ⟨⟨[], 0⟩, fun _ => none⟩

/-- The streams with a reader, or none, under a name, and with another mark. -/
def put (streams : Streams) (name : String) (r : Option Reader) (m : Mark) : Streams :=
  ⟨m, fun other => if other = name then r else streams.live other⟩

theorem live_put_self (streams : Streams) (name : String) (r : Option Reader) (m : Mark) :
    (streams.put name r m).live name = r := if_pos rfl

theorem live_put_of_ne {streams : Streams} {name other : String} {r : Option Reader} {m : Mark}
    (h : other ≠ name) : (streams.put name r m).live other = streams.live other := if_neg h

/-! ## Requests -/

/-- A request to a session. -/
inductive Request where
  | start (name : String) (text : Text) (cursor : Int)
  | advance (name : String)
  | close (name : String)
  | pull (text : Text) (cursor : Int)

/-- The answer to a request. -/
inductive Answer where
  | started
  | closed
  | advanced (result : Except ForeignCharacter (Option Token))
  | pulled (result : Except ForeignCharacter (Option Token × Int))

/-- Advances the stream with a given name. A stream that is not live delivers no token. -/
def advance (streams : Streams) (name : String) :
    Except ForeignCharacter (Option Token) × Streams :=
  match streams.live name with
  | none => (.ok none, streams)
  | some r =>
    let a := r.advance streams.mark
    (a.result, streams.put name a.reader a.mark)

/-- The answer to a request, with the session it leaves. A stream that is started takes the place of
the one with its name, which is closed. -/
def serve (streams : Streams) : Request → Answer × Streams
  | .start name text cursor =>
    (.started, streams.put name (some (.ofText text cursor))
      (streams.mark.afterClose (streams.live name)))
  | .advance name => ((streams.advance name).map .advanced id)
  | .close name => (.closed, streams.put name none (streams.mark.afterClose (streams.live name)))
  | .pull text cursor =>
    let a := pullMarking text cursor streams.mark
    (.pulled a.1, { streams with mark := a.2 })

theorem serve_advance_of_none {streams : Streams} {name : String} (h : streams.live name = none) :
    streams.serve (.advance name) = (.advanced (.ok none), streams) := by
  simp only [serve, advance, h]
  rfl

theorem serve_advance_of_some {streams : Streams} {name : String} {r : Reader}
    (h : streams.live name = some r) :
    streams.serve (.advance name) = (.advanced (r.advance streams.mark).result,
      streams.put name (r.advance streams.mark).reader (r.advance streams.mark).mark) := by
  simp only [serve, advance, h]
  rfl

/-- The answers to a sequence of requests. -/
def serveAll (streams : Streams) : List Request → List Answer
  | [] => []
  | r :: rest => (streams.serve r).1 :: (streams.serve r).2.serveAll rest

end Streams

end Propositional
