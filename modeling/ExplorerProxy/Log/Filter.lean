import ExplorerProxy.Log.Event
import ExplorerProxy.Log.Pattern
import ExplorerProxy.Text.Blank
import ExplorerProxy.Text.Percent

/-!
# Log filters

Which events are printed. A filter is a list of directives with commas between them.
A directive is a level, or a path, a span in brackets and a level, all of which but
one may be missing. The brackets hold the name of a span, or a field in braces, or
both; a field may come with a value.

An event is judged by the most particular directive that is about it: the one with
the longest path that its own path starts with, and of these one with a field that
the event has; the last of several. Without one it is not printed. A directive that
names a span or a value says nothing about events outside spans.
-/

namespace ExplorerProxy.Log

set_option autoImplicit false

/-- One directive: events whose path starts with `path`, and which have the field, are
printed up to a verbosity, zero for none. -/
structure Directive where
  path : Option String
  field : Option String
  verbosity : Nat
  deriving DecidableEq, Repr

/-- The directives on events outside spans. -/
abbrev Filter : Type := List Directive

/-- The verbosity that a word stands for. No word at all stands for errors. -/
def verbosity? (word : String) : Option Nat :=
  let named :=
    [("", 1), ("off", 0), ("error", 1), ("warn", 2), ("info", 3), ("debug", 4), ("trace", 5)].lookup
      word.toLower
  match Number.word64? word with
  | .ok n => if n ≤ 5 then some n.toNat else none
  | .error _ => named

namespace Directive

def beginsPath (c : Char) : Bool :=
  c == '-' || c == ':' || c == '_' || Text.isAlphanumeric c

def width (cs : List Char) : Nat := (String.ofList cs).utf8ByteSize

def slice? (s : String) (start stop : Nat) : Option String :=
  Text.ofUtf8? (((Text.utf8Bytes s).take stop).drop start)

/-- The level after an equals sign, or none at all, which is the most talkative one; it
reaches from a position to the end of the text. -/
def level? (s : String) (start : Nat) : List Char → Option Nat
  | [] => some 5
  | '=' :: _ => do
    let word ← slice? s (start + 1) s.utf8ByteSize
    if word.isEmpty then some 5 else verbosity? word
  | _ => none

def isField (s : String) : Bool :=
  match s.toList.dropWhile (· != '=') with
  | [] => !s.isEmpty
  | _ :: value => Pattern.isReadable (String.ofList (value.takeWhile (· != '=')))

/-- Reads a directive from its bracket on, which stands at a position of the text. One
that names a span or a value counts as none. -/
def inBrackets? (s : String) (path : Option String) (start : Nat) (cs : List Char) :
    Option (Option Directive) := do
  let name := cs.takeWhile fun c => c != ']' && c != '\x7b'
  let start := start + 1 + width name
  match cs.dropWhile fun c => c != ']' && c != '\x7b' with
  | [] => none
  | ']' :: rest => (level? s (start + 1) rest).map fun _ => none
  | _ :: rest =>
    let field := rest.takeWhile (· != '\x7d')
    let stop := start + 1 + width field
    let field ← slice? s (start + 1) stop
    match rest.dropWhile (· != '\x7d') with
    | _ :: ']' :: rest =>
      let verbosity ← level? s (stop + 2) rest
      if !isField field then none
      else if name.isEmpty && !field.toList.contains '=' then
        some (some ⟨path, some field, verbosity⟩)
      else some none
    | _ => none

/-- Reads a directive. Its parts are found in the text without the blanks around it, but
taken from the same positions of the text as it stands. -/
def parse? (s : String) : Option (Option Directive) := do
  let cs := (Text.trimBlanks s).toList
  let isPath (c : Char) : Bool := c != '=' && c != '['
  let stop := width (cs.takeWhile isPath)
  if cs.head?.any fun c => c == '[' || beginsPath c then
    match cs.dropWhile isPath with
    | [] =>
      match verbosity? s with
      | some v => some (some ⟨none, none, v⟩)
      | none => some (some ⟨some s, none, 5⟩)
    | c :: rest =>
      let path ← slice? s 0 stop
      if c = '[' then inBrackets? s (if stop = 0 then none else some path) stop rest
      else (level? s stop (c :: rest)).map fun v => some ⟨some path, none, v⟩
  else none

def isAbout (d : Directive) (e : Event) : Bool :=
  d.path.all (fun path => path.toList.isPrefixOf e.topic.path.toList) &&
    d.field.all fun name => name == "message" || e.fields.any (·.name == name)

/-- Whether the second directive is at least as particular as the first one. -/
def yields (a b : Directive) : Bool :=
  let size (d : Directive) : Nat := (d.path.map fun path => path.utf8ByteSize + 1).getD 0
  if size a = size b then
    match a.field, b.field with
    | none, _ => true
    | some _, none => false
    | some x, some y => x ≤ y
  else size a < size b

end Directive

namespace Filter

/-- Reads a filter; nothing between two commas is no directive. A filter without
directives prints nothing. -/
def parse? (s : String) : Option Filter :=
  let parts := (s.toList.splitOn ',').filter fun part => !part.isEmpty
  (parts.mapM fun part => Directive.parse? (String.ofList part)).map fun ds => ds.filterMap id

/-- The filter that is used when none is given, or one that cannot be read. -/
def standard : Filter := [⟨some "scanproxy", none, 3⟩, ⟨some "tower_http", none, 3⟩]

def granted (f : Filter) (e : Event) : Nat :=
  let best := (f.filter fun d => d.isAbout e).foldl (fun best d =>
    match best with
    | none => some d
    | some b => if b.yields d then some d else some b) (none : Option Directive)
  (best.map Directive.verbosity).getD 0

def prints (f : Filter) (e : Event) : Bool := e.level.verbosity ≤ f.granted e

end Filter

end ExplorerProxy.Log
