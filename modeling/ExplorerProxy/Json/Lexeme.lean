import ExplorerProxy.Number.Whole

/-!
# The words of JSON texts

Reading what JSON texts are made of: blanks, fixed words and strings. A reader
takes the characters that are left and returns a value together with the
characters after it, or the kind of the first fault.

Reading is strict or only skims. A skimmed string may hold escapes that form no
character, and a skimmed number may be out of range: neither value is kept.
-/

namespace ExplorerProxy.Json

set_option autoImplicit false

inductive ReadError where
  | ended
  /-- The text is JSON so far, but not of the form that was asked for. -/
  | mismatch
  | malformed
  deriving DecidableEq, Repr, Inhabited

abbrev Reader (α : Type) := List Char → Except ReadError (α × List Char)

inductive Care where
  | strict
  | skim
  deriving DecidableEq, Repr

def isBlank (c : Char) : Bool := c == ' ' || c == '\t' || c == '\n' || c == '\r'

def skipBlanks (cs : List Char) : List Char := cs.dropWhile isBlank

def faultAt : List Char → ReadError
  | [] => .ended
  | _ => .malformed

def word : List Char → Reader Unit
  | [], cs => .ok ((), cs)
  | _ :: _, [] => .error .ended
  | w :: ws, c :: cs => if c = w then word ws cs else .error .malformed

inductive EscapeState where
  | outside
  | backslash
  /-- Inside the digits of a code unit: its value so far, the digits still to
  come, and the first half of a surrogate pair if one came before. -/
  | digits (lead : Option Nat) (value left : Nat)
  /-- After the first half of a surrogate pair. -/
  | lead (unit : Nat)
  | leadBackslash (unit : Nat)
  deriving DecidableEq, Repr

def fourBytesLeft (cs : List Char) : Bool :=
  4 ≤ (cs.take 4).foldl (fun n c => n + c.utf8Size) 0

def shortEscape? : Char → Option Char
  | '"' => some '"'
  | '\\' => some '\\'
  | '/' => some '/'
  | 'b' => some '\x08'
  | 'f' => some '\x0c'
  | 'n' => some '\n'
  | 'r' => some '\r'
  | 't' => some '\t'
  | _ => none

def pairChar (lead trail : Nat) : Char :=
  Char.ofNat (0x10000 + (lead - 0xd800) * 0x400 + (trail - 0xdc00))

/-- The state after the last digit of a code unit, and the character that is
complete with it. -/
def unitDone (care : Care) (lead : Option Nat) (unit : Nat) :
    Except ReadError (Option Char × EscapeState) :=
  if care = .skim then .ok (none, .outside)
  else
    match lead with
    | some l =>
      if 0xdc00 ≤ unit ∧ unit ≤ 0xdfff then .ok (some (pairChar l unit), .outside)
      else .error .malformed
    | none =>
      if 0xdc00 ≤ unit ∧ unit ≤ 0xdfff then .error .malformed
      else if 0xd800 ≤ unit ∧ unit ≤ 0xdbff then .ok (none, .lead unit)
      else .ok (some (Char.ofNat unit), .outside)

/-- Reads the rest of a string; `acc` holds its characters so far, the last first. -/
def stringFrom (care : Care) : EscapeState → List Char → List Char →
    Except ReadError (String × List Char)
  | _, _, [] => .error .ended
  | .outside, acc, c :: cs =>
    if c = '"' then .ok (String.ofList acc.reverse, cs)
    else if c = '\\' then stringFrom care .backslash acc cs
    else if c.toNat < 0x20 then .error .malformed
    else stringFrom care .outside (c :: acc) cs
  | .backslash, acc, c :: cs =>
    if c = 'u' then
      if fourBytesLeft cs then stringFrom care (.digits none 0 4) acc cs else .error .ended
    else
      match shortEscape? c with
      | some e => stringFrom care .outside (e :: acc) cs
      | none => .error .malformed
  | .digits lead value left, acc, c :: cs =>
    match Number.hexDigit? c with
    | none => .error .malformed
    | some d =>
      if 1 < left then stringFrom care (.digits lead (16 * value + d) (left - 1)) acc cs
      else
        match unitDone care lead (16 * value + d) with
        | .error e => .error e
        | .ok (done, state) => stringFrom care state (done.toList ++ acc) cs
  | .lead unit, acc, c :: cs =>
    if c = '\\' then stringFrom care (.leadBackslash unit) acc cs else .error .malformed
  | .leadBackslash unit, acc, c :: cs =>
    if c = 'u' then
      if fourBytesLeft cs then stringFrom care (.digits (some unit) 0 4) acc cs
      else .error .ended
    else .error .malformed

def stringRest (care : Care) : Reader String := stringFrom care .outside []

end ExplorerProxy.Json
