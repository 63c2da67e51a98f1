import ExplorerProxy.Text.Alphanumeric
import ExplorerProxy.Text.Blank

/-!
# Files of variables

A file of variables holds lines `KEY=value`. Blank lines and lines that begin with
`#` are passed over, a `#` after a blank ends a value, and blanks at the end of a line
do not count. A value may be quoted, and a quoted value may run over several lines. In
single quotes every character stands for itself; elsewhere a backslash escapes the
next character, and `$NAME` stands for a variable. Reading stops at the first fault
and keeps what came before it.
-/

namespace ExplorerProxy.Dotenv

set_option autoImplicit false

inductive LineState where
  | plain
  | blank
  | escape
  | single
  | singleEscape
  | double
  | doubleEscape
  deriving DecidableEq, Repr

def LineState.next (q : LineState) (c : Char) : LineState :=
  match q with
  | .plain =>
    if Text.isBlank c && c != '\n' && c != '\r' then .blank
    else if c == '\\' then .escape
    else if c == '"' then .double
    else if c == '\'' then .single
    else .plain
  | .blank =>
    if c == '\\' then .escape
    else if c == '"' then .double
    else if c == '\'' then .single
    else .plain
  | .escape => .plain
  | .single => if c == '\\' then .singleEscape else if c == '\'' then .plain else .single
  | .singleEscape => .single
  | .double => if c == '\\' then .doubleEscape else if c == '"' then .plain else .double
  | .doubleEscape => .double

def chomp (back : List Char) : List Char :=
  match back with
  | '\n' :: '\r' :: rest => rest.reverse
  | '\n' :: rest => rest.reverse
  | rest => rest.reverse

def nextLine (cs : List Char) : List Char := (cs.dropWhile (· != '\n')).drop 1

/-- The first line of a text, none if it does not end, and what follows; `back` holds
its characters so far, the last first. -/
def lineFrom (q : LineState) (back : List Char) : List Char → Option (List Char) × List Char
  | [] => (if q = .plain then some back.reverse else none, [])
  | c :: cs =>
    if q = .blank ∧ c = '#' then (some back.reverse, nextLine (c :: cs))
    else if c = '\n' ∧ q.next c = .plain then (some (chomp (c :: back)), cs)
    else lineFrom (q.next c) (c :: back) cs

/-- The first line of a text and what follows. A comment is an empty line. -/
def firstLine (cs : List Char) : Option (List Char) × List Char :=
  match (cs.takeWhile (· != '\n')).dropWhile Text.isBlank with
  | '#' :: _ => (some [], nextLine cs)
  | _ => lineFrom .plain [] cs

inductive ValueState where
  | plain
  | double
  | single
  | escape (quoted : Bool)
  /-- In the name of a variable; `braced` when it stands in braces. -/
  | name (back : List Char) (braced quoted : Bool)
  | done
  deriving DecidableEq, Repr

abbrev Environment : Type := List (String × String)

/-- What a name stands for. With an equals sign in it, it is the beginning of the text
`KEY=value` up to some later equals sign, and stands for what follows that one. -/
def expansion? (env : Environment) (name : List Char) : Option (List Char) := do
  let value ← env.lookup (String.ofList (name.takeWhile (· != '=')))
  match name.dropWhile (· != '=') with
  | [] => some value.toList
  | _ :: rest => (rest ++ ['=']).isPrefixOf? value.toList

def expansion (env : Environment) (back : List Char) : List Char :=
  (expansion? env back.reverse).getD []

def inValue (quoted : Bool) : ValueState := if quoted then .double else .plain

/-- Reads a value; `out` holds its characters so far, the last first. -/
def valueFrom (env : Environment) : ValueState → List Char → List Char → Option (List Char)
  | .plain, out, [] => some out.reverse
  | .done, out, [] => some out.reverse
  | .escape false, out, [] => some out.reverse
  | .name back false false, out, [] => some (out.reverse ++ expansion env back)
  | _, _, [] => none
  | .done, out, c :: cs =>
    if c = ' ' ∨ c = '\t' then valueFrom env .done out cs
    else if c = '#' then some out.reverse
    else none
  | .escape quoted, out, c :: cs =>
    if ['\\', '\'', '"', '$', ' '].contains c then valueFrom env (inValue quoted) (c :: out) cs
    else if c = 'n' then valueFrom env (inValue quoted) ('\n' :: out) cs
    else none
  | .single, out, c :: cs =>
    if c = '\'' then valueFrom env .plain out cs else valueFrom env .single (c :: out) cs
  | .name back braced quoted, out, c :: cs =>
    if Text.isAlphanumeric c then valueFrom env (.name (c :: back) braced quoted) out cs
    else if braced then
      if c = '\x7d' then
        valueFrom env (inValue quoted) ((expansion env back).reverse ++ out) cs
      else valueFrom env (.name (c :: back) true quoted) out cs
    else if c = '\x7b' ∧ back = [] then valueFrom env (.name [] true quoted) out cs
    else if c = '$' then
      valueFrom env (.name [] false quoted) ((expansion env back).reverse ++ out) cs
    else valueFrom env (inValue quoted) (c :: ((expansion env back).reverse ++ out)) cs
  | .double, out, c :: cs =>
    if c = '$' then valueFrom env (.name [] false true) out cs
    else if c = '"' then valueFrom env .plain out cs
    else if c = '\\' then valueFrom env (.escape true) out cs
    else valueFrom env .double (c :: out) cs
  | .plain, out, c :: cs =>
    if c = '$' then valueFrom env (.name [] false false) out cs
    else if c = '\'' then valueFrom env .single out cs
    else if c = '"' then valueFrom env .double out cs
    else if c = '\\' then valueFrom env (.escape false) out cs
    else if c = ' ' ∨ c = '\t' then valueFrom env .done out cs
    else valueFrom env .plain (c :: out) cs

def inKey (c : Char) : Bool := c.isAlphanum || c == '_' || c == '.'

def key? (cs : List Char) : Option (String × List Char) :=
  match cs with
  | c :: _ =>
    if c.isAlpha || c == '_' then
      some (String.ofList (cs.takeWhile inKey), (cs.dropWhile inKey).dropWhile Text.isBlank)
    else none
  | [] => none

/-- The key of an assignment and what follows its equals sign. The word `export` may
stand before the key. -/
def keyEquals? (cs : List Char) : Option (String × List Char) := do
  let (key, rest) ← key? cs
  match rest with
  | '=' :: rest => some (key, rest)
  | _ =>
    if key = "export" then
      let (key, rest) ← key? rest
      match rest with
      | '=' :: rest => some (key, rest)
      | _ => none
    else none

/-- The assignment on a line, if there is one; none when the line is faulty. -/
def assignment? (env : Environment) (line : List Char) : Option (Option (String × String)) := do
  match (Text.dropWhileEnd Text.isBlank line).dropWhile Text.isBlank with
  | [] => some none
  | '#' :: _ => some none
  | cs =>
    let (key, rest) ← keyEquals? cs
    match rest.dropWhile Text.isBlank with
    | [] => some (some (key, ""))
    | '#' :: _ => some (some (key, ""))
    | value => (valueFrom env .plain [] value).map fun v => some (key, String.ofList v)

/-- Adds the variables of a text to an environment, whose own values win; `n` bounds
the number of lines. -/
def loadFrom : Nat → Environment → List Char → Environment
  | 0, env, _ => env
  | _, env, [] => env
  | n + 1, env, cs =>
    match firstLine cs with
    | (none, _) => env
    | (some line, rest) =>
      match assignment? env line with
      | none => env
      | some none => loadFrom n env rest
      | some (some (key, value)) =>
        if (env.lookup key).isSome then loadFrom n env rest
        else loadFrom n (env ++ [(key, value)]) rest

def load (env : Environment) (text : String) : Environment :=
  let cs :=
    match text.toList with
    | '\ufeff' :: rest => rest
    | cs => cs
  loadFrom (cs.length + 1) env cs

end ExplorerProxy.Dotenv
