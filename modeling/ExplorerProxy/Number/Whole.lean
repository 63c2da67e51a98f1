/-!
# Whole numbers in texts

Reading an unsigned number of a given width: an optional plus sign and decimal
digits, nothing else. A text that is no such number and a number that is too
large are told apart. A sign alone is a wrong digit, and so is any minus sign.
-/

namespace ExplorerProxy.Number

set_option autoImplicit false

inductive WholeError where
  | empty
  | digit
  | tooLarge
  deriving DecidableEq, Repr

def WholeError.message : WholeError → String
  | .empty => "cannot parse integer from empty string"
  | .digit => "invalid digit found in string"
  | .tooLarge => "number too large to fit in target type"

def digit? (c : Char) : Option Nat :=
  if '0' ≤ c ∧ c ≤ '9' then some (c.toNat - '0'.toNat) else none

def hexDigit? (c : Char) : Option Nat :=
  if '0' ≤ c ∧ c ≤ '9' then some (c.toNat - '0'.toNat)
  else if 'a' ≤ c ∧ c ≤ 'f' then some (c.toNat - 'a'.toNat + 10)
  else if 'A' ≤ c ∧ c ≤ 'F' then some (c.toNat - 'A'.toNat + 10)
  else none

/-- Continues a number whose digits so far have the value `acc`. The first
fault, from the left, is the one reported. -/
def wholeFrom (limit : Nat) : Nat → List Char → Except WholeError Nat
  | acc, [] => .ok acc
  | acc, c :: cs =>
    match digit? c with
    | none => .error .digit
    | some d =>
      if limit < 10 * acc + d then .error .tooLarge else wholeFrom limit (10 * acc + d) cs

/-- Reads a number of at most `limit`. -/
def whole? (limit : Nat) (s : String) : Except WholeError Nat :=
  match s.toList with
  | [] => .error .empty
  | ['+'] => .error .digit
  | '+' :: cs => wholeFrom limit 0 cs
  | cs => wholeFrom limit 0 cs

/-- The largest value of an unsigned number of `n` bits. -/
def maxUnsigned (n : Nat) : Nat := Nat.pow 2 n - 1

def word64? (s : String) : Except WholeError UInt64 := (whole? (maxUnsigned 64) s).map UInt64.ofNat

def word32? (s : String) : Except WholeError UInt32 := (whole? (maxUnsigned 32) s).map UInt32.ofNat

end ExplorerProxy.Number
