import ExplorerProxy.Json.Reader

/-!
# Shapes

A shape says what a JSON text should hold: a string, a number of 64 bits, one of
a few tags, or a record of named fields. Reading by a shape tells a text that is
not JSON from one that is JSON of another form, and reports the first fault.

A record is written as an object, in which unknown members are passed over, or as
the array of its fields in their order. A tag is a string, or the only key of an
object whose value is null.
-/

namespace ExplorerProxy.Json

set_option autoImplicit false

inductive Shape where
  | text
  | word
  | tag (tags : List String)
  | record (fields : List (String × Shape))
  deriving Repr

/-- The fault of a value of another form. A fault inside a string, number or
fixed word comes first. -/
def otherForm : List Char → ReadError
  | '[' :: _ => .mismatch
  | '\x7b' :: _ => .mismatch
  | c :: rest =>
    match scalar .strict c rest with
    | .ok _ => .mismatch
    | .error e => e
  | [] => .ended

def text : Reader String := fun cs =>
  match skipBlanks cs with
  | '"' :: rest => stringRest .strict rest
  | rest => .error (otherForm rest)

def unsigned : Reader Json := fun cs =>
  match skipBlanks cs with
  | [] => .error .ended
  | c :: rest =>
    if isDigit c then
      match number .strict false (c :: rest) with
      | .ok (.whole n, rest) => .ok (.whole n, rest)
      | .ok _ => .error .mismatch
      | .error e => .error e
    else .error (otherForm (c :: rest))

def oneOf (tags : List String) : Reader String := fun cs =>
  match text cs with
  | .error e => .error e
  | .ok (s, rest) => if s ∈ tags then .ok (s, rest) else .error .mismatch

def nullWord : Reader Unit := fun cs =>
  match skipBlanks cs with
  | 'n' :: rest => word "ull".toList rest
  | rest => .error (otherForm rest)

def mark (m : Char) : Reader Unit := fun cs =>
  match skipBlanks cs with
  | [] => .error .ended
  | c :: rest => if c = m then .ok ((), rest) else .error .malformed

def key : Reader String := fun cs =>
  match skipBlanks cs with
  | '"' :: rest => stringRest .strict rest
  | rest => .error (faultAt rest)

def tagged (tags : List String) : Reader Json := fun cs =>
  match skipBlanks cs with
  | '"' :: rest => (oneOf tags ('"' :: rest)).map fun (s, rest) => (.string s, rest)
  | '\x7b' :: rest => do
    let (s, rest) ← key rest
    if s ∉ tags then .error .mismatch
    else
      let ((), rest) ← mark ':' rest
      let ((), rest) ← nullWord rest
      let ((), rest) ← mark '\x7d' rest
      return (.string s, rest)
  | rest => .error (faultAt rest)

/-- Goes on to the next item of an array, if there is one; `first` when none has
been read yet. -/
def nextItem (first : Bool) (cs : List Char) : Except ReadError (Option (List Char)) :=
  match skipBlanks cs with
  | [] => .error .ended
  | ']' :: _ => .ok none
  | c :: rest =>
    if first then .ok (some (c :: rest))
    else if c = ',' then
      match skipBlanks rest with
      | [] => .error .ended
      | ']' :: _ => .error .malformed
      | rest => .ok (some rest)
    else .error .malformed

def fieldItems (first : Bool) :
    List (String × Reader Json) → List Char → Except ReadError (List (String × Json) × List Char)
  | [], cs => (mark ']' cs).map fun ((), rest) => ([], rest)
  | (name, reader) :: fields, cs => do
    let some cs ← nextItem first cs | .error .mismatch
    let (v, cs) ← reader cs
    let (vs, cs) ← fieldItems false fields cs
    return ((name, v) :: vs, cs)

/-- The found fields in the order of the record; a mismatch if one is missing. -/
def arrangeFields (found : List (String × Json)) :
    List (String × Reader Json) → Except ReadError (List (String × Json))
  | [] => .ok []
  | (name, _) :: fields =>
    match found.lookup name with
    | none => .error .mismatch
    | some v => (arrangeFields found fields).map ((name, v) :: ·)

/-- Reads the key of a member and the value after it, given the fields found so
far. A field that comes twice is a mismatch as soon as its key is read. The text has
fewer than `size` characters. -/
def fieldMember (size : Nat) (fields : List (String × Reader Json))
    (found : List (String × Json)) : Reader (List (String × Json)) := fun cs => do
  let (name, rest) ← key cs
  match fields.lookup name with
  | none =>
    let ((), rest) ← mark ':' rest
    let ((), rest) ← skim size rest
    return (found, rest)
  | some reader =>
    if (found.lookup name).isSome then .error .mismatch
    else
      let ((), rest) ← mark ':' rest
      let (v, rest) ← reader rest
      return ((name, v) :: found, rest)

/-- Reads the members of a record up to the closing brace, of which at most `n`
are left. -/
def fieldMembers (size : Nat) (fields : List (String × Reader Json)) :
    Nat → List (String × Json) → Reader (List (String × Json))
  | 0, _, cs => .error (faultAt cs)
  | n + 1, found, cs =>
    match fieldMember size fields found cs with
    | .error e => .error e
    | .ok (found, rest) =>
      match skipBlanks rest with
      | '\x7d' :: rest => .ok (found, rest)
      | ',' :: rest => fieldMembers size fields n found rest
      | rest => .error (faultAt rest)

/-- Reads a record; its fields come out in the order of the record. -/
def record (fields : List (String × Reader Json)) : Reader Json := fun cs =>
  match skipBlanks cs with
  | '[' :: rest => (fieldItems true fields rest).map fun (vs, rest) => (.object vs, rest)
  | '\x7b' :: rest => do
    let (found, rest) ←
      match skipBlanks rest with
      | [] => .error .ended
      | '\x7d' :: rest => .ok ([], rest)
      | rest => fieldMembers (rest.length + 1) fields (rest.length + 1) [] rest
    let vs ← arrangeFields found fields
    return (.object vs, rest)
  | rest => .error (otherForm rest)

mutual

def Shape.reader : Shape → Reader Json
  | .text => fun cs => (Json.text cs).map fun (s, rest) => (.string s, rest)
  | .word => unsigned
  | .tag tags => tagged tags
  | .record fields => Json.record (Shape.readers fields)

def Shape.readers : List (String × Shape) → List (String × Reader Json)
  | [] => []
  | (name, shape) :: fields => (name, shape.reader) :: Shape.readers fields

end

def Shape.read (shape : Shape) (s : String) : Except ReadError Json :=
  complete shape.reader s.toList

end ExplorerProxy.Json
