import ExplorerProxy.Json.Value
import ExplorerProxy.Number.Decimal

/-!
# Writing JSON

The compact text of a JSON value: no blanks, members in the order in which the
object lists them, and in strings the fewest escapes. A floating-point number is
written with the fewest digits that read back to it, positionally when its
magnitude is at least `10 ^ -5` and less than `10 ^ 16`, else with an exponent.
-/

namespace ExplorerProxy.Json

set_option autoImplicit false

/-- The text of a finite nonzero magnitude with `digits` as significant digits
and the point after the first `point` of them. -/
def placed (digits : List Char) (point : Int) : List Char :=
  if Int.ofNat digits.length ≤ point ∧ point ≤ 16 then
    digits ++ List.replicate (point.toNat - digits.length) '0' ++ ['.', '0']
  else if 0 < point ∧ point ≤ 16 then
    digits.take point.toNat ++ '.' :: digits.drop point.toNat
  else if -5 < point ∧ point ≤ 0 then
    '0' :: '.' :: (List.replicate (-point).toNat '0' ++ digits)
  else
    let exponent := point - 1
    let mark := ['e', if exponent < 0 then '-' else '+'] ++ Nat.toDigits 10 exponent.natAbs
    match digits with
    | d :: e :: more => d :: '.' :: e :: more ++ mark
    | _ => digits ++ mark

/-- The text of a floating-point number; one that is not finite is null. -/
def floatChars (x : Float) : List Char :=
  if x.isNaN || x.isInf then "null".toList
  else
    let d := Number.Decoded.ofBits x.toBits
    let sign := if d.negative then ['-'] else []
    if d.mantissa = 0 then sign ++ "0.0".toList
    else
      let (n, k) := d.shortest
      let all := Nat.toDigits 10 n
      let digits := (all.reverse.dropWhile (· == '0')).reverse
      sign ++ placed digits (Int.ofNat all.length + k)

def hexPair (n : Nat) : List Char := [Nat.digitChar (n / 16 % 16), Nat.digitChar (n % 16)]

def escaped (c : Char) : List Char :=
  match c with
  | '"' => ['\\', '"']
  | '\\' => ['\\', '\\']
  | '\n' => ['\\', 'n']
  | '\r' => ['\\', 'r']
  | '\t' => ['\\', 't']
  | '\x08' => ['\\', 'b']
  | '\x0c' => ['\\', 'f']
  | c => if c.toNat < 0x20 then ['\\', 'u', '0', '0'] ++ hexPair c.toNat else [c]

def stringChars (s : String) : List Char := '"' :: (s.toList.flatMap escaped ++ ['"'])

mutual

def chars : Json → List Char
  | .null => "null".toList
  | .bool b => (if b then "true" else "false").toList
  | .whole n => (toString n).toList
  | .float x => floatChars x
  | .string s => stringChars s
  | .array [] => ['[', ']']
  | .array (item :: items) => '[' :: (item.chars ++ moreItems items)
  | .object [] => ['\x7b', '\x7d']
  | .object ((key, value) :: members) =>
    '\x7b' :: (stringChars key ++ ':' :: (value.chars ++ moreMembers members))

def moreItems : List Json → List Char
  | [] => [']']
  | item :: items => ',' :: (item.chars ++ moreItems items)

def moreMembers : List (String × Json) → List Char
  | [] => ['\x7d']
  | (key, value) :: members =>
    ',' :: (stringChars key ++ ':' :: (value.chars ++ moreMembers members))

end

def write (v : Json) : String := String.ofList v.chars

end ExplorerProxy.Json
