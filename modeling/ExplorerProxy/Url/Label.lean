import ExplorerProxy.Text.Composition
import ExplorerProxy.Text.Direction
import ExplorerProxy.Text.DomainLetters
import ExplorerProxy.Text.Joining
import ExplorerProxy.Text.Punycode

/-!
# Labels of domain names

A name consists of labels with dots between them. A label that begins with `xn--` is
the encoded form of one with other characters than ASCII, and is read only if that one
is well formed.
-/

namespace ExplorerProxy.Label

set_option autoImplicit false

/-- The most characters in the code of a label, and in the label that it stands for. -/
def maxCode : Nat := 2000
def maxLength : Nat := 1000

def encodedMark : List Char := "xn--".toList

def isInternational (label : List Char) : Bool :=
  label.length ≤ maxLength &&
    label.all (fun c => c.toNat < 0x80 || Text.isDomainLetter c || Text.isJoiner c) &&
    !(label.head?.any fun c => (Text.mark? c).isSome) && !encodedMark.isPrefixOf label &&
    Text.joinersFit [] label && Text.isComposed label

def decode? (label : List Char) : Option (List Char) :=
  if encodedMark.isPrefixOf label then
    let code := label.drop encodedMark.length
    if code.isEmpty || code.getLast? == some '-' || maxCode < code.length then none
    else (Text.Punycode.decode? code).filter isInternational
  else some label

/-- Whether the labels form a name: each is well formed, and they agree in their
directions. -/
def areName (labels : List (List Char)) : Bool := (labels.mapM decode?).any Text.keepDirections

end ExplorerProxy.Label
