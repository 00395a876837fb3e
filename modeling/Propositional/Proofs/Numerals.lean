import Mathlib.Algebra.Order.Ring.Int
import Mathlib.Data.List.Induction
import Mathlib.Tactic.SplitIfs
import Propositional.Text.Numeral

/-!
# Numerals

The integers that can be written are those with an absolute value below a power of ten
(`Text.isWritable_iff`). An integer that is read from a text can be written again, since a numeral
has no more digits when it is read than when it is written (`Text.isWritable_of_integer?`).
-/

namespace Propositional

namespace Text

theorem isWritable_iff {i : Int} : isWritable i = true ↔ i.natAbs < 10 ^ maxDigits := by
  rw [isWritable, decide_eq_true_eq]
  exact Nat.length_toDigits_le_iff (by decide) (by decide)

/-! ## Integers that are read -/

theorem digitValue?_lt {c : Char} {d : Nat} (h : digitValue? c = some d) : d < 10 := by
  obtain ⟨z, hz, rfl⟩ := Option.map_eq_some_iff.1 h
  have hrange := List.find?_some hz
  simp only [Bool.and_eq_true, decide_eq_true_eq] at hrange
  omega

theorem lt_ten_of_digits? {text : Text} : ∀ {afterDigit : Bool} {digits : List Nat},
    digits? afterDigit text = some digits → ∀ d ∈ digits, d < 10 := by
  induction text with
  | nil =>
    intro afterDigit digits h
    cases afterDigit with
    | false => cases h
    | true =>
      cases h
      simp
  | cons c rest ih =>
    intro afterDigit digits h
    unfold digits? at h
    split_ifs at h
    · exact ih h
    · split at h
      · rename_i d hd
        obtain ⟨ds, hds, rfl⟩ := Option.map_eq_some_iff.1 h
        exact List.forall_mem_cons.2 ⟨digitValue?_lt hd, ih hds⟩
      · cases h

theorem ofDigits_lt {digits : List Nat} (h : ∀ d ∈ digits, d < 10) :
    ofDigits digits < 10 ^ digits.length := by
  induction digits using List.reverseRecOn with
  | nil => exact Nat.one_pos
  | append_singleton ds d ih =>
    obtain ⟨hds, hd⟩ := List.forall_mem_append.1 h
    have hlast := hd d (List.mem_singleton.2 rfl)
    have hfront := ih hds
    rw [ofDigits, List.foldl_append, ← ofDigits, List.length_append, Nat.pow_add]
    simp only [List.foldl_cons, List.foldl_nil, List.length_singleton, Nat.pow_one]
    omega

theorem lt_of_natural? {text : Text} {n : Nat} (h : natural? text = some n) :
    n < 10 ^ maxDigits := by
  unfold natural? at h
  split at h
  · rename_i digits hdigits
    split_ifs at h with hlength
    cases h
    exact Nat.lt_of_lt_of_le (ofDigits_lt (lt_ten_of_digits? hdigits))
      (Nat.pow_le_pow_right (by decide) hlength)
  · cases h

theorem isWritable_of_integer? {text : Text} {i : Int} (h : text.integer? = some i) :
    isWritable i = true := by
  have hdigits : ∀ {rest : Text} {k : Int},
      (do return ((← natural? rest : Nat) : Int)) = some k → k.natAbs < 10 ^ maxDigits := by
    intro rest k hk
    obtain ⟨n, hn, hcast⟩ := Option.bind_eq_some_iff.1 hk
    cases hcast
    exact lt_of_natural? hn
  rw [isWritable_iff]
  unfold integer? at h
  dsimp only at h
  split at h
  · obtain ⟨k, hk, rfl⟩ := Option.map_eq_some_iff.1 h
    rw [Int.natAbs_neg]
    exact hdigits hk
  · obtain ⟨k, hk, rfl⟩ := Option.map_eq_some_iff.1 h
    exact hdigits hk
  · obtain ⟨k, hk, rfl⟩ := Option.map_eq_some_iff.1 h
    exact hdigits hk

end Text

/-! ## A limit that cannot be written -/

/-- A limit with one digit too many. -/
@[irreducible] def unwritableLimit : Int := -(10 ^ Text.maxDigits)

theorem isWritable_unwritableLimit : Text.isWritable unwritableLimit = false := by
  have habs : unwritableLimit.natAbs = 10 ^ Text.maxDigits := by
    unfold unwritableLimit
    rw [Int.natAbs_neg, Int.natAbs_pow]
    exact congrArg (· ^ Text.maxDigits) (Int.natAbs_natCast 10)
  rw [← Bool.not_eq_true, Text.isWritable_iff, habs]
  exact Nat.lt_irrefl _

theorem unwritableLimit_neg : unwritableLimit < 0 := by
  have hpos : (0 : Int) < 10 ^ Text.maxDigits := Int.pow_pos (by decide)
  unfold unwritableLimit
  omega

end Propositional
