/-!
# Numerals

Numbers cross the boundary of the system as decimal numerals. `Numeral.read` takes an optional plus
sign and ASCII digits and refuses a value beyond a bound; the first fault from the left is the one
reported. `digits` and `padded` write numbers, the second with zeros up to a width.

Octets and code points are spelt in base sixteen, where the letters from `a` to `f` follow the
decimal digits. Letters of either case are read. `hexDigit?` reads a digit, `numeralIn?` a numeral
in any base up to sixteen, `hexDigits` writes a number.
-/

namespace ScopeGate.Text

inductive NumeralFault where
  | empty
  | notADigit
  | tooLarge
  deriving DecidableEq, Repr

def NumeralFault.message : NumeralFault → String
  | .empty => "cannot parse integer from empty string"
  | .notADigit => "invalid digit found in string"
  | .tooLarge => "number too large to fit in target type"

def digitValue? (c : Char) : Option Nat :=
  if '0' ≤ c ∧ c ≤ '9' then some (c.toNat - '0'.toNat) else none

def readDigits (bound : Nat) : Nat → List Char → Except NumeralFault Nat
  | acc, [] => .ok acc
  | acc, c :: cs =>
    match digitValue? c with
    | none => .error .notADigit
    | some d =>
      if 10 * acc + d ≤ bound then readDigits bound (10 * acc + d) cs else .error .tooLarge

/-- Reads a numeral of at most `bound`: an optional plus sign, then at least one digit. -/
def readNumeral (bound : Nat) : List Char → Except NumeralFault Nat
  | [] => .error .empty
  | '+' :: c :: cs => readDigits bound 0 (c :: cs)
  | cs => readDigits bound 0 cs

def digits (n : Nat) : List Char := Nat.toDigits 10 n

/-- The decimal digits of a number, with zeros in front up to a width. -/
def padded (width n : Nat) : List Char :=
  List.replicate (width - (digits n).length) '0' ++ digits n

example : readNumeral 65535 "+00080".toList = .ok 80 := by cbv
example : readNumeral 65535 "65536".toList = .error .tooLarge := by cbv
example : readNumeral 65535 "+".toList = .error .notADigit := by cbv

def hexDigits (n : Nat) : List Char := Nat.toDigits 16 n

def upperHexDigit (n : Nat) : Char := "0123456789ABCDEF".toList.getD (n % 16) '0'

def hexDigit? (c : Char) : Option Nat :=
  if '0' ≤ c ∧ c ≤ '9' then some (c.toNat - '0'.toNat)
  else if 'a' ≤ c ∧ c ≤ 'f' then some (c.toNat - 'a'.toNat + 10)
  else if 'A' ≤ c ∧ c ≤ 'F' then some (c.toNat - 'A'.toNat + 10)
  else none

def hexOctet? (b : UInt8) : Option Nat := hexDigit? (Char.ofNat b.toNat)

/-- Continues a numeral of value `acc` with further digits. -/
def continueIn? (base acc : Nat) : List Char → Option Nat
  | [] => some acc
  | c :: cs =>
    match hexDigit? c with
    | none => none
    | some d => if d < base then continueIn? base (base * acc + d) cs else none

/-- The value of a numeral. One without digits is zero. -/
def numeralIn? (base : Nat) (cs : List Char) : Option Nat := continueIn? base 0 cs

example : numeralIn? 16 "7F".toList = some 127 ∧ numeralIn? 8 "8".toList = none := by cbv

end ScopeGate.Text
