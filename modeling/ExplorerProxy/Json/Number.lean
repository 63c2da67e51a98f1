import ExplorerProxy.Json.Lexeme
import ExplorerProxy.Json.Value

/-!
# Numbers in JSON texts

A number is read as a significand of 64 bits and a power of ten. Without point
and exponent it is whole if it fits. Otherwise it becomes a floating-point number
by one rounded conversion of the significand and one rounded multiplication or
division, so the result need not be the nearest number to the written one.
-/

namespace ExplorerProxy.Json

set_option autoImplicit false

/-- A number as it is read, `significand * 10 ^ exponent`. -/
structure Scaled where
  significand : Nat
  exponent : Int
  deriving DecidableEq, Repr

def maxSignificand : Nat := UInt64.size - 1

/-- One more digit before the point. Once the significand is full, a digit only
raises the exponent. -/
def Scaled.addWhole (s : Scaled) (d : Nat) : Scaled :=
  if s.exponent = 0 ∧ 10 * s.significand + d ≤ maxSignificand then ⟨10 * s.significand + d, 0⟩
  else ⟨s.significand, s.exponent + 1⟩

/-- Digits after the point. Those that no longer fit are dropped. -/
def Scaled.addFraction : Scaled → List Nat → Scaled
  | s, [] => s
  | s, d :: ds =>
    if 10 * s.significand + d ≤ maxSignificand then
      Scaled.addFraction ⟨10 * s.significand + d, s.exponent - 1⟩ ds
    else s

/-- The largest decimal exponent that a text may hold, and the bound at which
exponents are cut. -/
def maxExponent : Nat := Nat.pow 2 31 - 1

/-- Adds to an exponent, within 32 bits. -/
def addExponent (a b : Int) : Int :=
  max (-Int.ofNat maxExponent - 1) (min (a + b) (Int.ofNat maxExponent))

/-- The power of ten nearest to `10 ^ n`. -/
def powerOfTen (n : Nat) : Float := Float.ofScientific 1 false n

/-- The magnitude of `f * 10 ^ exponent` after at most one rounded multiplication
or division, and before that divisions by `10 ^ 308` while the exponent is below
`-308`; none when it is out of range. Four such divisions reach zero. -/
def scaleFloat : Nat → Float → Int → Option Float
  | 0, f, _ => some f
  | n + 1, f, exponent =>
    if exponent.natAbs ≤ 308 then
      if 0 ≤ exponent then
        let g := f * powerOfTen exponent.toNat
        if g.isInf then none else some g
      else some (f / powerOfTen exponent.natAbs)
    else if f == 0.0 then some f
    else if 0 ≤ exponent then none
    else scaleFloat n (f / powerOfTen 308) (exponent + 308)

def Scaled.toFloat? (s : Scaled) (negative : Bool) : Option Float :=
  (scaleFloat 5 (UInt64.ofNat s.significand).toFloat s.exponent).map fun f =>
    if negative then -f else f

/-- The value of a number without point or exponent. Minus zero, and what does
not fit in 64 bits, are floating-point numbers. -/
def wholeValue (negative : Bool) (significand : Nat) : Json :=
  if !negative then .whole (Int.ofNat significand)
  else if 0 < significand ∧ significand ≤ Nat.pow 2 63 then .whole (-Int.ofNat significand)
  else .float (-(UInt64.ofNat significand).toFloat)

def floatValue (care : Care) (negative : Bool) (s : Scaled) : Except ReadError Json :=
  match care with
  | .skim => .ok .null
  | .strict =>
    match s.toFloat? negative with
    | some f => .ok (.float f)
    | none => .error .malformed

def isDigit (c : Char) : Bool := '0' ≤ c && c ≤ '9'

def digits (cs : List Char) : List Nat × List Char :=
  let (ds, rest) := cs.span isDigit
  (ds.map fun c => c.toNat - '0'.toNat, rest)

/-- The fault where a digit is missing. When skimming, the end of the text is no
fault of its own. -/
def missingDigit (care : Care) (cs : List Char) : ReadError :=
  match care, cs with
  | .strict, [] => .ended
  | _, _ => .malformed

/-- Applies the exponent with value `e` and the given sign. -/
def withExponent (care : Care) (negative : Bool) (s : Scaled) (down : Bool) (e : Nat) :
    Except ReadError Json :=
  if maxExponent < e then
    if care = .strict ∧ s.significand ≠ 0 ∧ !down then .error .malformed
    else .ok (.float (if negative then -0.0 else 0.0))
  else
    floatValue care negative
      ⟨s.significand, addExponent s.exponent (if down then -Int.ofNat e else Int.ofNat e)⟩

def exponentPart (care : Care) (negative : Bool) (s : Scaled) : Reader Json := fun cs =>
  let (down, cs) : Bool × List Char :=
    match cs with
    | '+' :: rest => (false, rest)
    | '-' :: rest => (true, rest)
    | _ => (false, cs)
  match digits cs with
  | ([], _) => .error (missingDigit care cs)
  | (ds, rest) =>
    let e := ds.foldl (fun e d => if maxExponent < e then e else 10 * e + d) 0
    (withExponent care negative s down e).map (·, rest)

def fractionPart (care : Care) (negative : Bool) (s : Scaled) : Reader Json := fun cs =>
  match digits cs with
  | ([], _) => .error (missingDigit care cs)
  | (ds, rest) =>
    match rest with
    | 'e' :: more | 'E' :: more => exponentPart care negative (s.addFraction ds) more
    | _ => (floatValue care negative (s.addFraction ds)).map (·, rest)

/-- Reads a number, after its minus sign if it has one. A zero is followed by no
other digit. -/
def number (care : Care) (negative : Bool) : Reader Json := fun cs =>
  match digits cs with
  | ([], _) => .error (missingDigit care cs)
  | (0 :: _ :: _, _) => .error .malformed
  | (ds, rest) =>
    let s := ds.foldl Scaled.addWhole ⟨0, 0⟩
    match rest with
    | '.' :: more => fractionPart care negative s more
    | 'e' :: more | 'E' :: more => exponentPart care negative s more
    | _ =>
      if s.exponent = 0 then .ok (wholeValue negative s.significand, rest)
      else (floatValue care negative s).map (·, rest)

end ExplorerProxy.Json
