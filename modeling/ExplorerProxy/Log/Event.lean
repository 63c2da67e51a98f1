/-!
# Log events

What the parts of the proxy report as they work: a level, the part that speaks,
a message, named fields, and the spans of work that surround it. Events are
values. Which of them are printed, and how, is decided elsewhere.
-/

namespace ExplorerProxy.Log

set_option autoImplicit false

inductive Level where
  | error
  | warn
  | info
  | debug
  | trace
  deriving DecidableEq, Repr

namespace Level

def name : Level → String
  | .error => "error"
  | .warn => "warn"
  | .info => "info"
  | .debug => "debug"
  | .trace => "trace"

def capitals : Level → String
  | .error => "ERROR"
  | .warn => "WARN"
  | .info => "INFO"
  | .debug => "DEBUG"
  | .trace => "TRACE"

/-- Higher for what is more talkative: one for errors, five for traces. -/
def verbosity : Level → Nat
  | .error => 1
  | .warn => 2
  | .info => 3
  | .debug => 4
  | .trace => 5

end Level

inductive Topic where
  | program
  | startup
  | api
  | service
  | retry
  | cache
  | explorer
  | extraction
  deriving DecidableEq, Repr

def Topic.path : Topic → String
  | .program => "scanproxy"
  | .startup => "scanproxy::bootstrap"
  | .api => "scanproxy::api"
  | .service => "scanproxy::service"
  | .retry => "scanproxy::retry"
  | .cache => "scanproxy::cache::memory"
  | .explorer => "scanproxy::scraper"
  | .extraction => "scanproxy::scraper::extract"

/-- The value of a field. A text is quoted in log lines; a shown value is not. -/
inductive FieldValue where
  | text (s : String)
  | shown (s : String)
  | number (n : Nat)
  deriving DecidableEq, Repr

def FieldValue.plain : FieldValue → String
  | .text s => s
  | .shown s => s
  | .number n => toString n

structure Field where
  name : String
  value : FieldValue
  deriving DecidableEq, Repr

structure Span where
  name : String
  fields : List Field
  deriving DecidableEq, Repr

/-- One report. The spans are listed from the outermost in. -/
structure Event where
  level : Level
  topic : Topic
  message : String
  fields : List Field
  spans : List Span
  deriving DecidableEq, Repr

/-- The same event inside one more span, around those it already has. -/
def Event.within (span : Span) (e : Event) : Event :=
  { e with spans := span :: e.spans }

end ExplorerProxy.Log
