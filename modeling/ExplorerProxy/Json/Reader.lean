import ExplorerProxy.Json.Number

/-!
# Reading JSON

The value of a JSON text. Arrays and objects may be nested up to a fixed depth;
text that is only skimmed may be nested as deeply as it likes.
-/

namespace ExplorerProxy.Json

set_option autoImplicit false

/-- The most arrays and objects that may stand inside one another. -/
def maxDepth : Nat := 127

/-- Reads the items of an array after its bracket, up to its end; `n` bounds
their number, and `acc` holds those already read, the last first. -/
def itemsFrom (item : Reader Json) : Nat → List Json → Reader (List Json)
  | 0, _, cs => .error (faultAt cs)
  | n + 1, acc, cs =>
    match item cs with
    | .error e => .error e
    | .ok (v, rest) =>
      match skipBlanks rest with
      | ']' :: rest => .ok ((v :: acc).reverse, rest)
      | ',' :: rest => itemsFrom item n (v :: acc) rest
      | rest => .error (faultAt rest)

/-- Reads an array after its opening bracket; `n` bounds the number of its items. -/
def arrayRest (n : Nat) (item : Reader Json) : Reader Json := fun cs =>
  match skipBlanks cs with
  | [] => .error .ended
  | ']' :: rest => .ok (.array [], rest)
  | cs => (itemsFrom item n [] cs).map fun (items, rest) => (.array items, rest)

def keyColon (care : Care) : Reader String := fun cs =>
  match skipBlanks cs with
  | '"' :: rest =>
    match stringRest care rest with
    | .error e => .error e
    | .ok (key, rest) =>
      match skipBlanks rest with
      | ':' :: rest => .ok (key, rest)
      | rest => .error (faultAt rest)
  | rest => .error (faultAt rest)

/-- Reads the members of an object after its brace, up to its end; `n` bounds
their number, and `acc` holds those already read, the last first. -/
def membersFrom (item : Reader Json) :
    Nat → List (String × Json) → Reader (List (String × Json))
  | 0, _, cs => .error (faultAt cs)
  | n + 1, acc, cs =>
    match keyColon .strict cs with
    | .error e => .error e
    | .ok (key, rest) =>
      match item rest with
      | .error e => .error e
      | .ok (v, rest) =>
        match skipBlanks rest with
        | '\x7d' :: rest => .ok (((key, v) :: acc).reverse, rest)
        | ',' :: rest => membersFrom item n ((key, v) :: acc) rest
        | rest => .error (faultAt rest)

/-- Reads an object after its opening brace; `n` bounds the number of its members. -/
def objectRest (n : Nat) (item : Reader Json) : Reader Json := fun cs =>
  match skipBlanks cs with
  | [] => .error .ended
  | '\x7d' :: rest => .ok (.object [], rest)
  | cs => (membersFrom item n [] cs).map fun (members, rest) => (ofMembers members, rest)

def scalar (care : Care) (c : Char) : Reader Json := fun rest =>
  match c with
  | 'n' => (word "ull".toList rest).map fun r => (.null, r.2)
  | 't' => (word "rue".toList rest).map fun r => (.bool true, r.2)
  | 'f' => (word "alse".toList rest).map fun r => (.bool false, r.2)
  | '"' => (stringRest care rest).map fun (s, rest) => (.string s, rest)
  | '-' => number care true rest
  | _ => if isDigit c then number care false (c :: rest) else .error .malformed

/-- Reads a value, in which arrays and objects are nested up to the given depth; each of
them has at most `n` parts. -/
def value (n : Nat) : Nat → Reader Json
  | 0, cs =>
    match skipBlanks cs with
    | [] => .error .ended
    | c :: rest => scalar .strict c rest
  | depth + 1, cs =>
    match skipBlanks cs with
    | [] => .error .ended
    | '[' :: rest => arrayRest n (value n depth) rest
    | '\x7b' :: rest => objectRest n (value n depth) rest
    | c :: rest => scalar .strict c rest

inductive Bracket where
  | array
  | object
  deriving DecidableEq, Repr

/-- Passes over the rest of a value inside the given brackets, the innermost first;
`done` when an inner value has just ended, and otherwise one is to begin. Each step
takes a character, so that `n` bounds the steps. -/
def skimFrom : Nat → Bool → List Bracket → Reader Unit
  | 0, _, _, cs => .error (faultAt cs)
  | _ + 1, true, [], cs => .ok ((), cs)
  | n + 1, true, b :: outer, cs =>
    match b, skipBlanks cs with
    | .array, ']' :: rest => skimFrom n true outer rest
    | .object, '\x7d' :: rest => skimFrom n true outer rest
    | .array, ',' :: rest => skimFrom n false (b :: outer) rest
    | .object, ',' :: rest =>
      match keyColon .skim rest with
      | .error e => .error e
      | .ok (_, rest) => skimFrom n false (b :: outer) rest
    | _, rest => .error (faultAt rest)
  | n + 1, false, outer, cs =>
    match skipBlanks cs with
    | [] => .error .ended
    | '[' :: rest =>
      match skipBlanks rest with
      | [] => .error .ended
      | ']' :: rest => skimFrom n true outer rest
      | rest => skimFrom n false (.array :: outer) rest
    | '\x7b' :: rest =>
      match skipBlanks rest with
      | [] => .error .ended
      | '\x7d' :: rest => skimFrom n true outer rest
      | rest =>
        match keyColon .skim rest with
        | .error e => .error e
        | .ok (_, rest) => skimFrom n false (.object :: outer) rest
    | c :: rest =>
      match scalar .skim c rest with
      | .error e => .error e
      | .ok (_, rest) => skimFrom n true outer rest

/-- Passes over a value of any depth and keeps nothing of it; the text has fewer than
`n` characters. -/
def skim (n : Nat) : Reader Unit := skimFrom n false []

def complete {α : Type} (reader : Reader α) (cs : List Char) : Except ReadError α :=
  match reader cs with
  | .error e => .error e
  | .ok (v, rest) => if (skipBlanks rest).isEmpty then .ok v else .error .malformed

def readWithin (depth : Nat) (s : String) : Except ReadError Json :=
  let cs := s.toList
  complete (value cs.length depth) cs

def read (s : String) : Except ReadError Json := readWithin maxDepth s

end ExplorerProxy.Json
