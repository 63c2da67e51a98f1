/-!
# Blank characters

The Unicode property White_Space, and trimming by it. Configuration values are
trimmed by this set, and a link's token may contain no character of it.
-/

namespace ExplorerProxy.Text

set_option autoImplicit false

def isBlank (c : Char) : Bool :=
  let n := c.toNat
  (0x09 ≤ n && n ≤ 0x0d) || n == 0x20 || n == 0x85 || n == 0xa0 || n == 0x1680 ||
    (0x2000 ≤ n && n ≤ 0x200a) || n == 0x2028 || n == 0x2029 || n == 0x202f ||
    n == 0x205f || n == 0x3000

/-- Drops the members of a class from the end of a text. -/
def dropWhileEnd (p : Char → Bool) (cs : List Char) : List Char :=
  (cs.reverse.dropWhile p).reverse

def trimBlanks (s : String) : String :=
  String.ofList (dropWhileEnd isBlank (s.toList.dropWhile isBlank))

example : trimBlanks " \t5\u00a0\n" = "5" := by decide

end ExplorerProxy.Text
