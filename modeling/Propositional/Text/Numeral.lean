import Propositional.Text.Basic

/-!
# Numerals

The integers that a user may write: an optional sign and decimal digits of any script, with single
underscores between digits and white space around the whole. A numeral has at most
`maxDigits` digits, whether it is read or written.
-/

namespace Propositional.Text

/-! ## Digits -/

/-- The code points of the digits zero; the digits one to nine of a script follow its zero. -/
def zeros : List Nat :=
  [
    0x30, 0x660, 0x6f0, 0x7c0, 0x966, 0x9e6, 0xa66, 0xae6, 0xb66, 0xbe6, 0xc66, 0xce6, 0xd66,
    0xde6, 0xe50, 0xed0, 0xf20, 0x1040, 0x1090, 0x17e0, 0x1810, 0x1946, 0x19d0, 0x1a80, 0x1a90,
    0x1b50, 0x1bb0, 0x1c40, 0x1c50, 0xa620, 0xa8d0, 0xa900, 0xa9d0, 0xa9f0, 0xaa50, 0xabf0,
    0xff10, 0x104a0, 0x10d30, 0x11066, 0x110f0, 0x11136, 0x111d0, 0x112f0, 0x11450, 0x114d0,
    0x11650, 0x116c0, 0x11730, 0x118e0, 0x11950, 0x11c50, 0x11d50, 0x11da0, 0x16a60, 0x16ac0,
    0x16b50, 0x1d7ce, 0x1d7d8, 0x1d7e2, 0x1d7ec, 0x1d7f6, 0x1e140, 0x1e2f0, 0x1e950, 0x1fbf0]

/-- The value of a decimal digit of any script. -/
def digitValue? (c : Char) : Option Nat :=
  (zeros.find? fun z => z ≤ c.toNat && c.toNat < z + 10).map (c.toNat - ·)

/-- A character is a decimal digit of some script. -/
def isDigit (c : Char) : Bool := (digitValue? c).isSome

/-! ## Integers -/

/-- The greatest number of digits of a numeral. -/
def maxDigits : Nat := 4300

/-- White space around a numeral: the blanks, and all white space outside ASCII. -/
def surroundsNumeral (c : Char) : Bool := isBlank c || (isWhite c && 0x80 ≤ c.toNat)

/-- The digits of a numeral without its sign. An underscore is accepted only between two digits,
which `afterDigit` keeps track of. -/
def digits? (afterDigit : Bool) : Text → Option (List Nat)
  | [] => if afterDigit then some [] else none
  | c :: rest =>
    if c = '_' then
      if afterDigit then digits? false rest else none
    else
      match digitValue? c with
      | some d => (digits? true rest).map (d :: ·)
      | none => none

/-- The number with given decimal digits. -/
def ofDigits (digits : List Nat) : Nat := digits.foldl (fun n d => 10 * n + d) 0

/-- The number that digits without a sign stand for. -/
def natural? (text : Text) : Option Nat :=
  match digits? false text with
  | some digits => if digits.length ≤ maxDigits then some (ofDigits digits) else none
  | none => none

/-- The integer that a text stands for. -/
def integer? (text : Text) : Option Int :=
  let core := ((text.dropWhile surroundsNumeral).reverse.dropWhile surroundsNumeral).reverse
  match core with
  | '-' :: rest => (natural? rest).map fun n => -(n : Int)
  | '+' :: rest => (natural? rest).map fun n => (n : Int)
  | rest => (natural? rest).map fun n => (n : Int)

/-- An integer can be written, because it does not have too many digits. -/
def isWritable (i : Int) : Bool := (Nat.toDigits 10 i.natAbs).length ≤ maxDigits

end Propositional.Text
