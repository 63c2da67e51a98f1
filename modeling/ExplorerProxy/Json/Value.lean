/-!
# JSON values

The values of JSON texts. A number is whole when it fits in 64 bits, with or
without a sign, and is a floating-point number otherwise. The members of an
object that was read are in the order of their keys, one for each key.
-/

namespace ExplorerProxy

set_option autoImplicit false

inductive Json where
  | null
  | bool (b : Bool)
  | whole (n : Int)
  | float (x : Float)
  | string (s : String)
  | array (items : List Json)
  | object (members : List (String × Json))
  deriving Inhabited, Repr

namespace Json

/-- Of neighbouring members with the same key, keeps the last. -/
def keepLast : List (String × Json) → List (String × Json)
  | a :: b :: rest => if a.1 = b.1 then keepLast (b :: rest) else a :: keepLast (b :: rest)
  | rest => rest

def ofMembers (members : List (String × Json)) : Json :=
  .object (keepLast (members.mergeSort fun a b => a.1 ≤ b.1))

def member? : Json → String → Option Json
  | .object members, key => members.lookup key
  | _, _ => none

end Json

end ExplorerProxy
