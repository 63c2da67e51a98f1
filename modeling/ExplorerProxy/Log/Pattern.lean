import ExplorerProxy.Number.Whole
import ExplorerProxy.Text.Alphanumeric
import ExplorerProxy.Text.Blank

/-!
# Patterns of field values

A directive of a log filter may ask for the value of a field: a number, or a regular
expression. Events outside spans are never judged by values, so that all that counts
of an expression is whether it can be read. A directive ends the value at its first
closing brace; counted repetitions and whatever else stands in braces are therefore
never complete.

Two flags change what can be read. With the first, blanks and comments are passed
over. Without the second, characters are bytes: sets hold ASCII only, and nothing may
stand for a byte beyond it. Nesting is limited: the height of an expression counts its
repetitions, groups and sets inside one another, and each sequence, choice or union of
two or more parts.
-/

namespace ExplorerProxy.Log.Pattern

set_option autoImplicit false

/-- Whether a text is a decimal number without sign; there may be a point before,
between or after its digits, and an exponent. -/
def isDecimal (cs : List Char) : Bool :=
  let isDigit (c : Char) : Bool := '0' ≤ c && c ≤ '9'
  let inner := cs.takeWhile isDigit
  let (places, rest) :=
    match cs.dropWhile isDigit with
    | '.' :: rest => (rest.takeWhile isDigit, rest.dropWhile isDigit)
    | rest => ([], rest)
  let exponent :=
    match rest with
    | [] => true
    | e :: '+' :: ds => (e == 'e' || e == 'E') && !ds.isEmpty && ds.all isDigit
    | e :: '-' :: ds => (e == 'e' || e == 'E') && !ds.isEmpty && ds.all isDigit
    | e :: ds => (e == 'e' || e == 'E') && !ds.isEmpty && ds.all isDigit
  !(inner.isEmpty && places.isEmpty) && exponent

/-- Whether a text is a number after a plus sign. Without one, every number is also an
expression. -/
def isPlusNumber : List Char → Bool
  | '+' :: cs =>
    isDecimal cs || ["inf", "infinity", "nan"].contains (String.ofList (cs.map Char.toLower))
  | _ => false

structure Mode where
  /-- Blanks and comments are passed over. -/
  spaced : Bool
  /-- Characters are those of Unicode, not bytes. -/
  unicode : Bool
  deriving DecidableEq, Repr

/-- The text after its blanks and comments; `inComment` when it begins within one. -/
def afterBlanks (inComment : Bool) : List Char → List Char
  | [] => []
  | c :: cs =>
    if inComment then afterBlanks (c != '\n') cs
    else if Text.isBlank c then afterBlanks false cs
    else if c = '#' then afterBlanks true cs
    else c :: cs

def Mode.skip (m : Mode) (cs : List Char) : List Char :=
  if m.spaced then afterBlanks false cs else cs

/-- The character that counts after a hyphen in a set. Of a comment only the mark is
passed over here. -/
def Mode.peek (m : Mode) (cs : List Char) : Option Char :=
  if !m.spaced then cs.head?
  else
    let rest :=
      match cs.dropWhile Text.isBlank with
      | '#' :: rest => rest.dropWhile Text.isBlank
      | rest => rest
    rest.head? <|> cs.head?

def flagSays? (flag : Char) (flags : List Char) : Option Bool :=
  if (flags.takeWhile (· != '-')).contains flag then some true
  else if flags.contains flag then some false
  else none

def Mode.change (m : Mode) (flags : List Char) : Mode :=
  ⟨(flagSays? 'x' flags).getD m.spaced, (flagSays? 'u' flags).getD m.unicode⟩

/-- Some parts of an expression side by side: their number and the greatest of their
heights. -/
structure Parts where
  count : Nat
  height : Nat
  deriving DecidableEq, Repr

def Parts.none : Parts := ⟨0, 0⟩

def Parts.add (p : Parts) (height : Nat) : Parts := ⟨p.count + 1, max p.height height⟩

/-- The height of the whole. A single part is the whole itself. -/
def Parts.total (p : Parts) : Nat := if p.count ≤ 1 then p.height else p.height + 1

def maxHeight : Nat := 250

inductive Escape where
  | character (c : Char)
  | oneOf
  | place
  deriving DecidableEq, Repr

/-- Reads a number of so many digits in base sixteen; `n` is its value so far. -/
def hexDigits? (m : Mode) : Nat → Nat → List Char → Option (Nat × List Char)
  | 0, n, cs => some (n, cs)
  | _ + 1, _, [] => none
  | left + 1, n, c :: cs =>
    (Number.hexDigit? c).bind fun d => hexDigits? m left (16 * n + d) (m.skip cs)

/-- Reads a character by its code, of two, four or eight digits. A code of two digits
is a byte where characters are bytes. -/
def codePoint? (m : Mode) (digits : Nat) (cs : List Char) : Option (Escape × List Char) :=
  match hexDigits? m digits 0 (m.skip cs) with
  | none => none
  | some (n, rest) =>
    if !n.isValidChar || (!m.unicode && digits == 2 && 0x80 ≤ n) then none
    else some (.character (Char.ofNat n), rest)

/-- Reads an escape after its backslash. Boundaries of words are known only where
characters are bytes, and references to groups never. -/
def escape? (m : Mode) : List Char → Option (Escape × List Char)
  | [] => none
  | c :: cs =>
    match c with
    | 'x' => codePoint? m 2 cs
    | 'u' => codePoint? m 4 cs
    | 'U' => codePoint? m 8 cs
    | 'a' => some (.character '\x07', cs)
    | 'f' => some (.character '\x0c', cs)
    | 'n' => some (.character '\n', cs)
    | 'r' => some (.character '\r', cs)
    | 't' => some (.character '\t', cs)
    | 'v' => some (.character '\x0b', cs)
    | _ =>
      if c = 'p' ∨ c = 'P' then
        let cs := m.skip cs
        if m.unicode && cs.head?.any "CLMNPSZclmnpsz".toList.contains then some (.oneOf, cs.drop 1)
        else none
      else if "dsw".toList.contains c then some (.oneOf, cs)
      else if "DSW".toList.contains c then if m.unicode then some (.oneOf, cs) else none
      else if "Az".toList.contains c then some (.place, cs)
      else if "bB<>".toList.contains c then if m.unicode then none else some (.place, cs)
      else if c.toNat < 0x80 && !c.isAlphanum then some (.character c, cs)
      else none

def setNames : List String :=
  ["alnum", "alpha", "ascii", "blank", "cntrl", "digit", "graph", "lower", "print", "punct",
    "space", "upper", "word", "xdigit"]

/-- Reads a named set `[:name:]` or `[:^name:]` after its opening bracket; says whether
it is the complement that is named. -/
def namedSet? : List Char → Option (Bool × List Char)
  | ':' :: cs =>
    let other := cs.head? == some '^'
    let cs := if other then cs.drop 1 else cs
    match cs.dropWhile (· != ':') with
    | ':' :: ']' :: rest =>
      if setNames.contains (String.ofList (cs.takeWhile (· != ':'))) then some (other, rest)
      else none
    | _ => none
  | _ => none

/-- A set that is open: its items since the last operation between sets, and the height
of what stands before that operation. -/
structure OpenSet where
  operand : Option Nat
  items : Parts

def OpenSet.height (s : OpenSet) : Nat :=
  match s.operand with
  | none => s.items.total
  | some h => max h s.items.total + 1

/-- The hyphens that stand for themselves, with blanks and comments between them, and
the text after them. -/
def hyphens (m : Mode) (inComment : Bool) (count : Nat) : List Char → Nat × List Char
  | [] => (count, [])
  | c :: cs =>
    if inComment then hyphens m (c != '\n') count cs
    else if c = '-' then hyphens m false (count + 1) cs
    else if m.spaced ∧ Text.isBlank c then hyphens m false count cs
    else if m.spaced ∧ c = '#' then hyphens m true count cs
    else (count, c :: cs)

/-- Reads the beginning of a set after its bracket: a `^`, and the hyphens or the closing
bracket that stand for themselves there. No complement is a set of bytes. -/
def openSet? (m : Mode) (cs : List Char) : Option (OpenSet × List Char) :=
  let cs := m.skip cs
  let other := cs.head? == some '^'
  if other && !m.unicode then none
  else
    match hyphens m false 0 (if other then cs.drop 1 else cs) with
    | (0, ']' :: rest) => some (⟨none, ⟨1, 0⟩⟩, rest)
    | (n, rest) => some (⟨none, ⟨n, 0⟩⟩, rest)

def setItem? (m : Mode) (cs : List Char) : Option (Escape × List Char) :=
  let item :=
    match cs with
    | [] => none
    | '\\' :: cs => escape? m cs
    | c :: cs => some (.character c, cs)
  item.filter fun (e, _) =>
    match e with
    | .character c => m.unicode || c.toNat < 0x80
    | .oneOf => true
    | .place => false

/-- What follows an item or a range of a set. A hyphen makes no range before another one
or before the closing bracket. -/
def afterSetItem? (m : Mode) (cs : List Char) : Option (List Char) := do
  let (first, rest) ← setItem? m cs
  match m.skip rest with
  | [] => none
  | '-' :: more =>
    if m.peek more == some ']' || m.peek more == some '-' then some ('-' :: more)
    else
      let (last, rest) ← setItem? m (m.skip more)
      match first, last with
      | .character a, .character b => if a ≤ b then some rest else none
      | _, _ => none
  | rest => some rest

/-- Reads the rest of a set, inside the others that are open around it, and finds its
height; `n` bounds the items. -/
def setFrom? (m : Mode) : Nat → OpenSet → List OpenSet → List Char → Option (Nat × List Char)
  | 0, _, _, _ => none
  | n + 1, s, outer, cs =>
    match m.skip cs with
    | [] => none
    | ']' :: rest =>
      match outer with
      | [] => some (s.height + 1, rest)
      | o :: outer => setFrom? m n { o with items := o.items.add (s.height + 1) } outer rest
    | '[' :: rest =>
      match namedSet? rest with
      | some (other, rest) =>
        if other && !m.unicode then none
        else setFrom? m n { s with items := s.items.add 0 } outer rest
      | none =>
        match openSet? m rest with
        | some (inner, rest) => setFrom? m n inner (s :: outer) rest
        | none => none
    | c :: rest =>
      if ['&', '-', '~'].contains c ∧ rest.head? = some c then
        setFrom? m n ⟨some s.height, .none⟩ outer (rest.drop 1)
      else
        match afterSetItem? m (c :: rest) with
        | some rest => setFrom? m n { s with items := s.items.add 0 } outer rest
        | none => none

def isGroupName : List Char → Bool
  | [] => false
  | c :: cs =>
    (c == '_' || Text.isAlphabetic c) &&
      cs.all fun c => "_.[]".toList.contains c || Text.isAlphanumeric c

def areFlags (cs : List Char) : Bool :=
  cs.all "imsURux-".toList.contains && cs.eraseDups.length == cs.length &&
    cs.getLast? != some '-'

inductive Opening where
  | group (flags : List Char)
  | named (name : List Char)
  | flags (flags : List Char)
  deriving DecidableEq, Repr

def opening? (m : Mode) (cs : List Char) : Option (Opening × List Char) :=
  match m.skip cs with
  | '?' :: cs =>
    let named? (cs : List Char) : Option (Opening × List Char) :=
      let name := cs.takeWhile (· != '>')
      match cs.dropWhile (· != '>') with
      | _ :: rest => if isGroupName name then some (.named name, rest) else none
      | [] => none
    match cs with
    | 'P' :: '<' :: cs => named? cs
    | '<' :: cs => named? cs
    | _ =>
      let flags := cs.takeWhile fun c => c != ':' && c != ')'
      match cs.dropWhile fun c => c != ':' && c != ')' with
      | ':' :: rest => if areFlags flags then some (.group flags, rest) else none
      | _ :: rest => if areFlags flags && !flags.isEmpty then some (.flags flags, rest) else none
      | [] => none
  | cs => some (.group [], cs)

structure Level where
  mode : Mode
  /-- The choices before the last `|`. -/
  choices : Parts
  sequence : Parts
  last : Option Nat

def Level.start (m : Mode) : Level := ⟨m, .none, .none, none⟩

def Level.add (l : Level) (height : Nat) : Level :=
  { l with sequence := l.sequence.add height, last := some height }

def Level.height (l : Level) : Nat :=
  if l.choices.count = 0 then l.sequence.total else (l.choices.add l.sequence.total).total

/-- The height of the rest of an expression together with what came before it, if it can
be read: `l` is the innermost level, `outer` are those around it, and `names` are the
names of groups so far. Here `n` bounds the parts. -/
def heightFrom? : Nat → Level → List Level → List (List Char) → List Char → Option Nat
  | 0, _, _, _, _ => none
  | n + 1, l, outer, names, cs =>
    match l.mode.skip cs with
    | [] => if outer.isEmpty then some l.height else none
    | c :: cs =>
      if c = '*' ∨ c = '+' ∨ c = '?' then
        match l.last with
        | none => none
        | some h =>
          let rest := if cs.head? = some '?' then cs.drop 1 else cs
          let sequence : Parts := ⟨l.sequence.count, max l.sequence.height (h + 1)⟩
          heightFrom? n { l with sequence, last := some (h + 1) } outer names rest
      else if c = '\x7b' then none
      else if c = '|' then
        let choices := l.choices.add l.sequence.total
        heightFrom? n { l with choices, sequence := .none, last := none } outer names cs
      else if c = ')' then
        match outer with
        | [] => none
        | o :: outer => heightFrom? n (o.add (l.height + 1)) outer names cs
      else if c = '(' then
        match opening? l.mode cs with
        | some (.group flags, rest) =>
          heightFrom? n (.start (l.mode.change flags)) (l :: outer) names rest
        | some (.named name, rest) =>
          if names.contains name then none
          else heightFrom? n (.start l.mode) (l :: outer) (name :: names) rest
        | some (.flags flags, rest) =>
          let mode := l.mode.change flags
          heightFrom? n { l with mode, sequence := l.sequence.add 0, last := none } outer names rest
        | none => none
      else if c = '[' then
        match (openSet? l.mode cs).bind fun (s, rest) => setFrom? l.mode n s [] rest with
        | some (h, rest) => heightFrom? n (l.add h) outer names rest
        | none => none
      else if c = '\\' then
        match escape? l.mode cs with
        | some (_, rest) => heightFrom? n (l.add 0) outer names rest
        | none => none
      else if c = '.' ∧ !l.mode.unicode then none
      else heightFrom? n (l.add 0) outer names cs

def height? (cs : List Char) : Option Nat :=
  heightFrom? (cs.length + 1) (.start ⟨false, true⟩) [] [] cs

def isReadable (s : String) : Bool :=
  isPlusNumber s.toList || (height? s.toList).any (· ≤ maxHeight)

end ExplorerProxy.Log.Pattern
