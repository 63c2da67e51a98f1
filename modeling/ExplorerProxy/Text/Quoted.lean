import ExplorerProxy.Text.Printable

/-!
# Quoted texts

The form in which messages quote a text that came from outside: between double
quotes, with a backslash before a quote or a backslash, short escapes for the
line characters and NUL, and the code point of every other unprintable character.
-/

namespace ExplorerProxy.Text

set_option autoImplicit false

def hexDigits (n : Nat) : List Char := Nat.toDigits 16 n

def quotedChar : Char → List Char
  | '"' => ['\\', '"']
  | '\\' => ['\\', '\\']
  | '\n' => ['\\', 'n']
  | '\r' => ['\\', 'r']
  | '\t' => ['\\', 't']
  | '\x00' => ['\\', '0']
  | c =>
    if isPrintable c then [c]
    else ['\\', 'u', '\x7b'] ++ hexDigits c.toNat ++ ['\x7d']

def quote (s : String) : String :=
  String.ofList ('"' :: (s.toList.flatMap quotedChar ++ ['"']))

end ExplorerProxy.Text
