import Propositional.Command.Input

/-!
# Sources

A run of the command has the text of a formula, or lacks it for one reason. Both depend on where the
text is to come from and on the files only.

1. `hasText_or_lacksText`: a source has a text, or there is a reason why it has none.
2. `HasText.ofOrigin_eq` and `LacksText.ofOrigin_eq`: the input is this text, or fails for this
   reason. So there is only one of them.
-/

namespace Propositional.Command

variable {find : Path → Found} {origin : Origin} {text : Text}

/-- A source has a text: an expression has itself, and a file what its lines hold that are neither
blank nor comments. -/
inductive HasText (find : Path → Found) : Origin → Text → Prop
  | expression (text : Text) : HasText find (.expression text) text
  | file {path content text : Text} {bytes : List UInt8} : find (.ofText path) = .file bytes →
    Text.Utf8.decode bytes = .ok content → Source.formulaText? content = some text →
      HasText find (.file (.proper path)) text

/-- A source has no text, for a reason: there is no such file, it cannot be read or decoded, or it
has only blank lines and comments. -/
inductive LacksText (find : Path → Found) : Origin → InputFailure → Prop
  | notFound {path : Text} : find (.ofText path) = .nothing →
    LacksText find (.file (.proper path)) (.notFound (.ofText path))
  | directory {path : Text} : find (.ofText path) = .directory →
    LacksText find (.file (.proper path)) (.unreadable .isDirectory (.ofText path))
  | unreadable {path : Text} {e : SystemError} : find (.ofText path) = .unreadable e →
    LacksText find (.file (.proper path)) (.unreadable e (.ofText path))
  | undecodable {path : Text} {bytes : List UInt8} {e : Text.Utf8.Failure} :
    find (.ofText path) = .file bytes → Text.Utf8.decode bytes = .error e →
      LacksText find (.file (.proper path)) (.undecodable e)
  | silent {path content : Text} {bytes : List UInt8} : find (.ofText path) = .file bytes →
    Text.Utf8.decode bytes = .ok content →
    (∀ line ∈ content.unifyBreaks.lines, Source.isSilent line = true) →
      LacksText find (.file (.proper path)) .empty
  | void : LacksText find (.file .void) .voidPath

theorem formulaText?_eq_none_iff {content : Text} : Source.formulaText? content = none ↔
    ∀ line ∈ content.unifyBreaks.lines, Source.isSilent line = true := by
  have hspeaking : Source.speakingLines content = [] ↔
      ∀ line ∈ content.unifyBreaks.lines, Source.isSilent line = true := by
    simp [Source.speakingLines]
  rw [← hspeaking, Source.formulaText?]
  split <;> simp_all

namespace Input

/-- The log entries on a text that was read from a source. -/
def entriesFor : Origin → Text → List Log.Entry
  | .file (.proper path), text =>
    [.info "Read proposition file"
      [("path", String.ofList (Path.ofText path).text), ("length", toString text.length)]]
  | _, _ => []

theorem ofBytes_of_decode {path : Path} {bytes : List UInt8} {content : Text}
    (h : Text.Utf8.decode bytes = .ok content) : ofBytes path bytes =
      match Source.formulaText? content with
      | none => .error .empty
      | some text => .ok ⟨text, [.info "Read proposition file"
          [("path", String.ofList path.text), ("length", toString text.length)]]⟩ := by
  rw [ofBytes, h]
  show (match Source.formulaText? content with
    | none => _
    | some text => _) = _
  cases Source.formulaText? content <;> rfl

end Input

theorem HasText.ofOrigin_eq (h : HasText find origin text) :
    Input.ofOrigin find origin = .ok ⟨text, Input.entriesFor origin text⟩ := by
  cases h with
  | expression => rfl
  | file hfind hdecode htext =>
    rw [Input.ofOrigin, hfind, Input.ofFound, Input.ofBytes_of_decode hdecode, htext]
    rfl

theorem LacksText.ofOrigin_eq {failure : InputFailure} (h : LacksText find origin failure) :
    Input.ofOrigin find origin = .error failure := by
  cases h with
  | notFound hfind | directory hfind | unreadable hfind =>
    rw [Input.ofOrigin, hfind]
    rfl
  | undecodable hfind hdecode =>
    rw [Input.ofOrigin, hfind, Input.ofFound, Input.ofBytes, hdecode]
    rfl
  | silent hfind hdecode hsilent =>
    rw [Input.ofOrigin, hfind, Input.ofFound, Input.ofBytes_of_decode hdecode,
      formulaText?_eq_none_iff.2 hsilent]
  | void => rfl

theorem hasText_or_lacksText (find : Path → Found) (origin : Origin) :
    (∃ text, HasText find origin text) ∨ ∃ failure, LacksText find origin failure := by
  cases origin with
  | expression text => exact .inl ⟨text, .expression text⟩
  | file path =>
    cases path with
    | void => exact .inr ⟨_, .void⟩
    | proper path =>
      cases hfind : find (.ofText path) with
      | nothing => exact .inr ⟨_, .notFound hfind⟩
      | directory => exact .inr ⟨_, .directory hfind⟩
      | unreadable e => exact .inr ⟨_, .unreadable hfind⟩
      | file bytes =>
        cases hdecode : Text.Utf8.decode bytes with
        | error e => exact .inr ⟨_, .undecodable hfind hdecode⟩
        | ok content =>
          cases htext : Source.formulaText? content with
          | none => exact .inr ⟨_, .silent hfind hdecode (formulaText?_eq_none_iff.1 htext)⟩
          | some text => exact .inl ⟨text, .file hfind hdecode htext⟩

end Propositional.Command
