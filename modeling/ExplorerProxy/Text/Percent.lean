import ExplorerProxy.Number.Whole

/-!
# Percent-encoded text

A percent sign and two digits of base sixteen stand for a byte. A percent sign
that is not followed by two such digits stands for itself.
-/

namespace ExplorerProxy.Text

set_option autoImplicit false

def hexByte? (high low : UInt8) : Option UInt8 :=
  match Number.hexDigit? (Char.ofNat high.toNat), Number.hexDigit? (Char.ofNat low.toNat) with
  | some h, some l => some (UInt8.ofNat (16 * h + l))
  | _, _ => none

/-- Decodes every escape once; `acc` holds the bytes so far, the last first. -/
def percentDecodeFrom (acc : List UInt8) : List UInt8 → List UInt8
  | 0x25 :: high :: low :: rest =>
    match hexByte? high low with
    | some b => percentDecodeFrom (b :: acc) rest
    | none => percentDecodeFrom (0x25 :: acc) (high :: low :: rest)
  | b :: rest => percentDecodeFrom (b :: acc) rest
  | [] => acc.reverse

/-- Decodes every escape once. What an escape yields is not decoded again. -/
def percentDecode (bytes : List UInt8) : List UInt8 := percentDecodeFrom [] bytes

def utf8Bytes (s : String) : List UInt8 := s.toUTF8.toList

def ofUtf8? (bytes : List UInt8) : Option String := String.fromUTF8? ⟨bytes.toArray⟩

def percentDecode? (s : String) : Option String := ofUtf8? (percentDecode (utf8Bytes s))

def percentEscape (b : UInt8) : List Char :=
  ['%', (Nat.digitChar (b.toNat / 16)).toUpper, (Nat.digitChar (b.toNat % 16)).toUpper]

/-- Writes the bytes of a class as escapes, and the others, which are to be
ASCII, as themselves. -/
def percentEncode (escape : UInt8 → Bool) (bytes : List UInt8) : List Char :=
  bytes.flatMap fun b => if escape b then percentEscape b else [Char.ofNat b.toNat]

end ExplorerProxy.Text
