/-!
# Decimal digits of binary floating-point numbers

A finite number of double precision is an integer times a power of two. Here it
is decoded from its bits, and its decimal texts are found in exact arithmetic on
natural numbers: the fewest digits that read back to the same number, and the
number rounded to a fixed count of fraction digits.
-/

namespace ExplorerProxy.Number

set_option autoImplicit false

/-- The magnitude `num / den` of a finite number. -/
structure Ratio where
  num : Nat
  den : Nat
  deriving DecidableEq, Repr

/-- `m * 2 ^ e` for a possibly negative exponent. -/
def Ratio.ofScaled (m : Nat) (e : Int) : Ratio :=
  if 0 ≤ e then ⟨m * Nat.pow 2 e.toNat, 1⟩ else ⟨m, Nat.pow 2 (-e).toNat⟩

/-- A finite number taken apart: its magnitude is `mantissa * 2 ^ exponent`. -/
structure Decoded where
  negative : Bool
  mantissa : Nat
  exponent : Int
  /-- The gap below the number is half the gap above it. -/
  narrowBelow : Bool
  deriving DecidableEq, Repr

def Decoded.ofBits (bits : UInt64) : Decoded :=
  let n := bits.toNat
  let fraction := n % Nat.pow 2 52
  let biased := n / Nat.pow 2 52 % Nat.pow 2 11
  if biased = 0 then ⟨n / Nat.pow 2 63 = 1, fraction, -1074, false⟩
  else
    ⟨n / Nat.pow 2 63 = 1, Nat.pow 2 52 + fraction, Int.ofNat biased - 1075,
      fraction = 0 ∧ 1 < biased⟩

def Decoded.magnitude (d : Decoded) : Ratio := .ofScaled d.mantissa d.exponent

def digitCount (n : Nat) : Nat := (Nat.toDigits 10 n).length

/-- The exponent of the leading decimal digit of a nonzero ratio whose
magnitude is at least `10 ^ -400`. -/
def Ratio.leading (r : Ratio) : Int :=
  Int.ofNat (digitCount (r.num * Nat.pow 10 400 / r.den)) - 401

/-- `r / 10 ^ k`. -/
def Ratio.unscale (r : Ratio) (k : Int) : Ratio :=
  if 0 ≤ k then ⟨r.num, r.den * Nat.pow 10 k.toNat⟩ else ⟨r.num * Nat.pow 10 (-k).toNat, r.den⟩

/-- The numbers that read back as `d` lie between these two ends, in quarters
of a unit of the mantissa. The ends themselves do so when the mantissa is even. -/
def Decoded.readsBack (d : Decoded) (candidate : Nat) (k : Int) : Bool :=
  let low :=
    (Ratio.ofScaled (4 * d.mantissa - (if d.narrowBelow then 1 else 2)) (d.exponent - 2)).unscale k
  let high := (Ratio.ofScaled (4 * d.mantissa + 2) (d.exponent - 2)).unscale k
  if d.mantissa % 2 = 0 then low.num ≤ candidate * low.den && candidate * high.den ≤ high.num
  else low.num < candidate * low.den && candidate * high.den < high.num

/-- Of the two neighbours of the number on the grid of multiples of `10 ^ k`, the
nearer one that reads back; of two that are equally near, the even one. -/
def Decoded.onGrid? (d : Decoded) (k : Int) : Option Nat :=
  let r := d.magnitude.unscale k
  let below := r.num / r.den
  let rest := r.num % r.den
  match d.readsBack below k, d.readsBack (below + 1) k with
  | false, false => none
  | true, false => some below
  | false, true => some (below + 1)
  | true, true =>
    if 2 * rest < r.den ∨ (2 * rest = r.den ∧ below % 2 = 0) then some below else some (below + 1)

/-- Tries grids from coarse to fine; `n` more grids remain after this one. -/
def Decoded.shortestFrom (d : Decoded) (k : Int) : Nat → Nat × Int
  | 0 => ((d.onGrid? k).getD 0, k)
  | n + 1 =>
    match d.onGrid? k with
    | some digits => (digits, k)
    | none => d.shortestFrom (k - 1) n

/-- The fewest significant digits that read back to a nonzero finite number,
as an integer and the power of ten of its last digit. Seventeen always suffice. -/
def Decoded.shortest (d : Decoded) : Nat × Int := d.shortestFrom d.magnitude.leading 16

/-- The ratio in units of `1 / 10 ^ places`, rounded to the nearest integer, a
half to the even neighbour. -/
def Ratio.rounded (r : Ratio) (places : Nat) : Nat :=
  let q := r.num * Nat.pow 10 places / r.den
  let rest := r.num * Nat.pow 10 places % r.den
  if r.den < 2 * rest ∨ (2 * rest = r.den ∧ q % 2 = 1) then q + 1 else q

def oneDecimal (x : Float) : String :=
  let n := ((Decoded.ofBits x.toBits).magnitude).rounded 1
  s!"{n / 10}.{n % 10}"

end ExplorerProxy.Number
