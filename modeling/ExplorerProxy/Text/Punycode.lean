/-!
# Punycode

An ASCII form of texts with other characters. The ASCII characters of the text
come first and a hyphen ends them; then follow the other characters, sorted, as
numbers in base 36. Each number is the way from the last insertion to the next,
over all code points from U+0080 on and all places of the text so far.

The digits of a number come with the lowest first, and a digit below the threshold
of its place ends it. The thresholds adapt to the size of the last number.
-/

namespace ExplorerProxy.Text.Punycode

set_option autoImplicit false

def digit? (c : Char) : Option Nat :=
  if 'a' ≤ c ∧ c ≤ 'z' then some (c.toNat - 'a'.toNat)
  else if '0' ≤ c ∧ c ≤ '9' then some (26 + (c.toNat - '0'.toNat))
  else none

def threshold (bias place : Nat) : Nat := max 1 (min 26 (36 * (place + 1) - bias))

def biasOf (size : Nat) : Nat :=
  if 455 < size then 36 + biasOf (size / 35) else 36 * size / (size + 38)
termination_by size
decreasing_by omega

/-- The bias after a number that placed a character in a text of the given length. -/
def adapt (first : Bool) (number length : Nat) : Nat :=
  let damped := if first then number / 700 else number / 2
  biasOf (damped + damped / length)

structure Decoding where
  text : List Char
  /-- The code point of the last insertion, and the place after it. -/
  code : Nat
  index : Nat
  bias : Nat
  number : Nat
  weight : Nat
  place : Nat

def Decoding.start (ascii : List Char) : Decoding := ⟨ascii, 0x80, 0, 72, 0, 1, 0⟩

def Decoding.insert? (s : Decoding) (number : Nat) : Option Decoding :=
  let length := s.text.length + 1
  let code := s.code + (s.index + number) / length
  let index := (s.index + number) % length
  if code.isValidChar then
    some ⟨s.text.insertIdx index (Char.ofNat code), code, index + 1,
      adapt (s.index == 0) number length, 0, 1, 0⟩
  else none

def Decoding.next? (s : Decoding) (digit : Nat) : Option Decoding :=
  let number := s.number + digit * s.weight
  let t := threshold s.bias s.place
  if digit < t then s.insert? number
  else some { s with number, weight := s.weight * (36 - t), place := s.place + 1 }

def Decoding.run? (s : Decoding) : List Char → Option (List Char)
  | [] => if s.place = 0 then some s.text else none
  | c :: cs => (digit? c).bind fun d => (s.next? d).bind fun s => s.run? cs

/-- Decodes a text. Of several hyphens the last one ends the ASCII characters. -/
def decode? (cs : List Char) : Option (List Char) :=
  let digits := (cs.reverse.takeWhile (· != '-')).reverse
  match cs.reverse.dropWhile (· != '-') with
  | [] => (Decoding.start []).run? digits
  | [_] => none
  | _ :: ascii => (Decoding.start ascii.reverse).run? digits

end ExplorerProxy.Text.Punycode
