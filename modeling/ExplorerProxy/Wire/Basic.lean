import ExplorerProxy.Json.Shape
import ExplorerProxy.Json.Writer

/-!
# Wire values

A type of wire values has a JSON form: the shape of its texts, the JSON value
that is written for a value, and the value that such a JSON value stands for.
-/

namespace ExplorerProxy

set_option autoImplicit false

class Wire (α : Type) where
  shape : Json.Shape
  toJson : α → Json
  ofJson? : Json → Option α

namespace Wire

variable {α : Type} [Wire α]

def write (a : α) : String := (toJson a).write

def read (α : Type) [Wire α] (s : String) : Except Json.ReadError α :=
  match (shape α).read s with
  | .error e => .error e
  | .ok v =>
    match ofJson? v with
    | some a => .ok a
    | none => .error .mismatch

end Wire

end ExplorerProxy
