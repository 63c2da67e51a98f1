import ExplorerProxy.Json.Value
import ExplorerProxy.Log.Event
import ExplorerProxy.Text.Quoted

/-!
# Log lines

An event is printed as a line of text, with colours, or as a JSON object. The time
is given by whoever prints.
-/

namespace ExplorerProxy.Log

set_option autoImplicit false

def styled (style : Nat) (s : String) : String := s!"\x1b[{style}m{s}\x1b[0m"

def bold : String → String := styled 1
def dim : String → String := styled 2
def italic : String → String := styled 3

def Level.colour : Level → Nat
  | .error => 31
  | .warn => 33
  | .info => 32
  | .debug => 34
  | .trace => 35

def Level.column (l : Level) : String :=
  styled l.colour (String.ofList (List.replicate (5 - l.capitals.length) ' ') ++ l.capitals)

def FieldValue.inLine : FieldValue → String
  | .text s => Text.quote s
  | v => v.plain

def Field.inLine (f : Field) : String := italic f.name ++ dim "=" ++ f.value.inLine

def Span.inLine (s : Span) : String :=
  bold s.name ++ bold "\x7b" ++ " ".intercalate (s.fields.map Field.inLine) ++ bold "\x7d" ++
    dim ":"

def Event.line (time : String) (e : Event) : String :=
  let spans := if e.spans.isEmpty then "" else String.join (e.spans.map Span.inLine) ++ " "
  let words := e.message :: e.fields.map Field.inLine
  dim time ++ " " ++ e.level.column ++ " " ++ spans ++ dim e.topic.path ++ dim ":" ++ " " ++
    " ".intercalate words

def FieldValue.toJson : FieldValue → Json
  | .text s => .string s
  | .shown s => .string s
  | .number n => .whole (Int.ofNat n)

def fieldMembers (fields : List Field) : List (String × Json) :=
  fields.map fun f => (f.name, f.value.toJson)

def Span.toJson (s : Span) : Json := .object (fieldMembers s.fields ++ [("name", .string s.name)])

/-- The spans of an event, the innermost also on its own; nothing outside spans. -/
def spanMembers (spans : List Span) : List (String × Json) :=
  match spans.getLast? with
  | none => []
  | some inner => [("span", inner.toJson), ("spans", .array (spans.map Span.toJson))]

def Event.toJson (e : Event) : Json :=
  .object ([
    ("level", .string e.level.capitals),
    ("fields", .object (("message", .string e.message) :: fieldMembers e.fields)),
    ("target", .string e.topic.path)] ++ spanMembers e.spans)

end ExplorerProxy.Log
