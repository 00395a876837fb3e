import Propositional.Parse.Event
import Propositional.Parse.Operations
import Propositional.Token.Stream

/-!
# Steps of a descent

A formula is parsed by descent with one token read ahead. `Descent β` is a step of it: from a state,
it records events and either fails or delivers a result with the state it leaves. The events stay
also when the step fails.

Main statement: a composite step succeeds exactly if its parts do, and its events are those of its
parts one after the other (`Descent.bind_eq_ok_iff`).
-/

namespace Propositional

/-- The state of a descent: the whole text, the cursor behind the current token, that token or none
at the end of the text, and the number of groups that are open. -/
structure ParseState where
  text : Text
  cursor : Int
  current : Option Token
  depth : Nat
  deriving DecidableEq

/-- What comes of a step: the events, and the failure or the result with the state it leaves. -/
structure Course (β : Type) where
  events : List Event
  outcome : Except ParseFailure (β × ParseState)

def Descent (β : Type) := ParseState → Course β

namespace Descent

variable {β γ : Type}

def result (b : β) : Descent β := fun s => ⟨[], .ok (b, s)⟩

def andThen (m : Descent β) (f : β → Descent γ) : Descent γ := fun s =>
  match (m s).outcome with
  | .error e => ⟨(m s).events, .error e⟩
  | .ok (b, s') => ⟨(m s).events ++ (f b s').events, (f b s').outcome⟩

instance : Monad Descent where
  pure := result
  bind := andThen

def fail (e : ParseFailure) : Descent β := fun _ => ⟨[], .error e⟩

def record (e : Event) : Descent Unit := fun s => ⟨[e], .ok ((), s)⟩

def current : Descent (Option Token) := fun s => ⟨[], .ok (s.current, s)⟩

/-- Pulls the next token. A failing pull is not recorded. -/
def advance : Descent Unit := fun s =>
  match nextToken s.text s.cursor with
  | .error e => ⟨[], .error (.foreign e)⟩
  | .ok (some t, cursor) =>
    ⟨[.pulled t], .ok ((), { s with cursor := cursor, current := some t })⟩
  | .ok (none, cursor) =>
    ⟨[.finished cursor], .ok ((), { s with cursor := cursor, current := none })⟩

/-- Opens a group whose parenthesis has a given index, unless more groups would be open than a limit
allows. -/
def enter (limit : Option Int) (index : Int) : Descent Unit := fun s =>
  let depth := s.depth + 1
  let exceeded := limit.filter fun m => m < (depth : Int)
  ⟨[.entered depth index],
    match exceeded with
    | some m => .error (.ofLimit m)
    | none => .ok ((), { s with depth := depth })⟩

def leave : Descent Unit := fun s =>
  ⟨[.left s.depth], .ok ((), { s with depth := s.depth - 1 })⟩

/-- The operations of a descent that records events. -/
def operations (limit : Option Int) : Operations Descent where
  current := current
  advance := advance
  enter := enter limit
  leave := leave
  fail := fail

/-! ## Composite steps -/

/-- A step that changes nothing succeeds with what it has, and records nothing. -/
theorem pure_eq_ok_iff {s s' : ParseState} {events : List Event} {b b' : β} :
    (pure b : Descent β) s = ⟨events, .ok (b', s')⟩ ↔ events = [] ∧ b = b' ∧ s = s' := by
  constructor
  · rintro ⟨⟩
    exact ⟨rfl, rfl, rfl⟩
  · rintro ⟨rfl, rfl, rfl⟩
    rfl

theorem pure_bind (b : β) (f : β → Descent γ) : (pure b : Descent β) >>= f = f b := rfl

/-- A composite step succeeds exactly if its parts do, one after the other. -/
theorem bind_eq_ok_iff {m : Descent β} {f : β → Descent γ} {s : ParseState} {events : List Event}
    {out : γ × ParseState} :
    (m >>= f) s = ⟨events, .ok out⟩ ↔
      ∃ b s' before after, m s = ⟨before, .ok (b, s')⟩ ∧ f b s' = ⟨after, .ok out⟩ ∧
        events = before ++ after := by
  change andThen m f s = _ ↔ _
  unfold andThen
  rcases hm : m s with ⟨before, e | ⟨b, s'⟩⟩
  · simp
  · constructor
    · intro h
      exact ⟨b, s', before, (f b s').events, rfl, congrArg (Course.mk _) (Course.mk.inj h).2,
        (Course.mk.inj h).1.symm⟩
    · rintro ⟨b', t, p, q, h, hq, rfl⟩
      cases h
      simp [hq]

end Descent

end Propositional
