import Propositional.Command.Arguments
import Propositional.Proofs.Numerals

/-!
# Limits that are read from arguments

A limit on open groups that comes from the arguments of the command can be written
(`Command.isWritable_of_readArguments`). No argument changes the limit of a draft but one that gives
it an integer that was read, or leaves it void (`Command.Draft.HasWritableLimit.read`).
-/

namespace Propositional

namespace Command

theorem exists_of_bind_eq_ok {ε β γ : Type} {x : Except ε β} {f : β → Except ε γ} {c : γ}
    (h : x >>= f = .ok c) : ∃ b, x = .ok b ∧ f b = .ok c := by
  cases x with
  | error e => cases h
  | ok b => exact ⟨b, rfl, h⟩

theorem mapError_eq_ok {ε ε' β : Type} {x : Except ε β} {f : ε → ε'} {b : β}
    (h : x.mapError f = .ok b) : x = .ok b := by
  cases x with
  | error e => cases h
  | ok b' =>
    cases h
    rfl

/-! ## Drafts -/

/-- The limit of a draft, if it is an integer, can be written. -/
def Draft.HasWritableLimit (d : Draft) : Prop :=
  ∀ m, d.maxDepth = some (.proper m) → Text.isWritable m = true

namespace Draft

variable {d d' : Draft}

theorem maxDepth_of_takeExpression {text : Text} (h : d.takeExpression text = .ok d') :
    d'.maxDepth = d.maxDepth := by
  unfold takeExpression at h
  split at h <;> cases h
  rfl

theorem maxDepth_of_takeFile {path : Given Text} (h : d.takeFile path = .ok d') :
    d'.maxDepth = d.maxDepth := by
  unfold takeFile at h
  split at h <;> cases h
  rfl

theorem HasWritableLimit.of_eq (hd : d.HasWritableLimit) (h : d'.maxDepth = d.maxDepth) :
    d'.HasWritableLimit := fun m hm => hd m (h ▸ hm)

theorem HasWritableLimit.takeProper {setting : Setting} {value : Text} (hd : d.HasWritableLimit)
    (h : d.takeProper setting value = .ok d') : d'.HasWritableLimit := by
  cases setting with
  | file => exact hd.of_eq (maxDepth_of_takeFile h)
  | format | output | debug =>
    obtain ⟨_, -, hd'⟩ := exists_of_bind_eq_ok h
    cases hd'
    exact hd
  | maxDepth =>
    obtain ⟨m, hm, hd'⟩ := exists_of_bind_eq_ok h
    cases hd'
    rintro _ ⟨⟩
    unfold integer at hm
    split at hm <;> cases hm
    exact Text.isWritable_of_integer? ‹_›

theorem HasWritableLimit.takeSetting {setting : Setting} {value : Text} (hd : d.HasWritableLimit)
    (h : d.takeSetting setting value = .ok d') : d'.HasWritableLimit := by
  unfold Draft.takeSetting at h
  split_ifs at h
  · cases setting with
    | file => exact hd.of_eq (maxDepth_of_takeFile h)
    | maxDepth =>
      cases h
      rintro m ⟨⟩
    | format | output | debug =>
      cases h
      exact hd
  · exact hd.takeProper h

theorem HasWritableLimit.takeSwitch {switch : Switch} (hd : d.HasWritableLimit)
    (h : d.takeSwitch switch = .ok d') : d'.HasWritableLimit := by
  cases switch with
  | stats =>
    cases h
    exact hd
  | help | version => cases h

theorem HasWritableLimit.read {arguments : List Argument} (hd : d.HasWritableLimit)
    (h : d.read arguments = .ok d') : d'.HasWritableLimit := by
  fun_induction Draft.read d arguments with
  | case1 =>
    cases h
    exact hd
  | case2 _ _ _ ih | case3 _ _ _ ih | case4 _ _ _ ih | case6 _ _ _ _ ih | case8 _ _ _ _ _ ih =>
    exact ih hd h
  | case5 _ _ _ _ ih | case7 _ _ _ _ _ ih =>
    obtain ⟨next, hnext, hread⟩ := exists_of_bind_eq_ok h
    exact ih next (hd.of_eq (maxDepth_of_takeExpression (mapError_eq_ok hnext))) hread
  | case9 _ _ _ _ ih | case10 _ _ _ _ ih =>
    obtain ⟨next, hnext, hread⟩ := exists_of_bind_eq_ok h
    exact ih next (hd.takeSetting (mapError_eq_ok hnext)) hread
  | case12 _ _ _ ih =>
    obtain ⟨next, hnext, hread⟩ := exists_of_bind_eq_ok h
    exact ih next (hd.takeSwitch hnext) hread
  | case11 | case13 | case14 | case15 => cases h

end Draft

/-- A limit that comes from arguments can be written. -/
theorem isWritable_of_readArguments {arguments : List Text} {o : Options} {m : Int}
    (h : readArguments arguments = .ok o) (hm : o.maxDepth = some (.proper m)) :
    Text.isWritable m = true := by
  obtain ⟨kinds, -, h⟩ := exists_of_bind_eq_ok h
  obtain ⟨d, hread, h⟩ := exists_of_bind_eq_ok h
  have hd : d.HasWritableLimit := Draft.HasWritableLimit.read (by rintro m ⟨⟩) hread
  have hoptions := mapError_eq_ok h
  unfold Draft.options at hoptions
  split at hoptions <;> cases hoptions
  exact hd m hm

end Command

end Propositional
