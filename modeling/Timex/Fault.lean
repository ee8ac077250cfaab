import Timex.Facet
import Timex.Granularity
import Timex.Temporal.Reading
import Timex.Value.Display

/-!
# Faults

A fault is a definitive answer about one token: what went wrong, at which stage, and
in which context. A stage sees resolved text only; `attach` records the raw token
later and keeps the text that the stage saw.
-/

namespace Timex

inductive Fault.Kind where
  | general
  | unrecognizedGranularity
  | ambiguousOrInvalidFormat
  | outOfRange
  | entityPayload
  deriving DecidableEq, Repr

/-- Named data, in order of first insertion. -/
abbrev Record := List (Text × Value)

namespace Record

/-- Sets a name: a present name keeps its place and gets the new value. -/
def set (r : Record) (name : Text) (value : Value) : Record :=
  if r.any fun e => e.1 == name then r.map fun e => if e.1 == name then (e.1, value) else e
  else r ++ [(name, value)]

/-- Sets all names of another record. -/
def setAll (r other : Record) : Record := other.foldl (fun r e => r.set e.1 e.2) r

end Record

structure Fault.Context where
  token : Text
  /-- The text that the failing stage saw, where it is not the token. -/
  resolved : Text
  stage : Text
  component : Text
  metadata : Record

namespace Fault.Context

/-- The context as one record. Metadata go last and win over the fixed names. -/
def record (c : Context) : Record :=
  let fixed : Record :=
    [("token".toList, .text c.token), ("stage".toList, .text c.stage),
     ("component".toList, .text c.component)]
  let fixed := if c.resolved.isEmpty then fixed else
    Record.set fixed "resolved".toList (.text c.resolved)
  fixed.setAll c.metadata

end Fault.Context

/-- `shown` is the text that stands for the fault. It is made from the rest when the
fault is made and whenever a token is attached. -/
structure Fault where
  kind : Fault.Kind
  message : Text
  context : Fault.Context
  shown : Text

namespace Fault

def bracketed (label content : Text) : Text := '[' :: label ++ content ++ [']']

/-- The token, the resolved text and the stage, as far as they are known, and the
message, with single spaces between them. -/
def format (context : Context) (message : Text) : Text :=
  let token := if context.token.isEmpty then [] else [bracketed "token:".toList context.token]
  let resolved := if context.resolved.isEmpty then []
    else [bracketed "resolved:".toList context.resolved]
  let stage := if context.stage.isEmpty then [] else [bracketed [] context.stage]
  Text.join ' ' (token ++ resolved ++ stage ++ [message])

def ofContext (kind : Kind) (message : Text) (context : Context) : Fault :=
  ⟨kind, message, context, format context message⟩

/-- Records the raw token. What stood in its place, if it was something else, becomes
the resolved text, unless there is one already. -/
def attach (f : Fault) (token : Text) : Fault :=
  let seen := f.context.token
  let resolved :=
    if !seen.isEmpty && seen != token && f.context.resolved.isEmpty then seen
    else f.context.resolved
  let context := { f.context with token := token, resolved := resolved }
  { f with context := context, shown := format context f.message }

/-- Stores one metadata entry. -/
def note (f : Fault) (name : Text) (value : Value) : Fault :=
  { f with context := { f.context with metadata := f.context.metadata.set name value } }

/-! ## Log entries -/

inductive Level where
  | debug
  | info
  | warning
  | error
  | critical
  deriving DecidableEq, Repr

/-- Whether the level is an error or worse, which asks for a trace of the fault. -/
def Level.isError : Level → Bool
  | .error | .critical => true
  | _ => false

structure LogEntry where
  level : Level
  kind : Kind
  message : Text
  context : Record
  traced : Bool

def log (f : Fault) (level : Level) : LogEntry :=
  ⟨level, f.kind, f.message, f.context.record, level.isError⟩

/-! ## The kinds of fault

The details are what a maker of the fault knows beside the fixed stage and component
of its kind. A given context replaces all of them. -/

structure Details where
  message : Option Text
  token : Text
  metadata : Record
  context : Option Context

def Details.ofToken (token : Text) : Details := ⟨none, token, [], none⟩

def build (kind : Kind) (message stage component : Text) (metadata : Record) (d : Details) : Fault :=
  ofContext kind message (d.context.getD ⟨d.token, [], stage, component, metadata.setAll d.metadata⟩)

def general (d : Details) (stage component : Text) : Fault :=
  build .general (d.message.getD []) stage component [] d

def unrecognized (d : Details) : Fault :=
  build .unrecognizedGranularity (d.message.getD "Token shape matches no granularity".toList)
    "classify".toList "classifier.classify".toList [] d

/-- The message that names every pattern tried. -/
def noPatternMessage (tried : List Text) : Text :=
  let names := commaSeparated tried
  "No pattern matched (tried: ".toList ++ (if names.isEmpty then "none".toList else names) ++ [')']

def ambiguous (d : Details) (granularity : Text) (tried : List Text) : Fault :=
  let message := d.message.getD []
  build .ambiguousOrInvalidFormat (if message.isEmpty then noPatternMessage tried else message)
    "parse".toList "parser.parse".toList
    [("granularity".toList, .text granularity), ("attempted".toList, .list (tried.map .text))] d

/-- The message for a field without a value, or with one outside its bounds. -/
def fieldMessage (field : Text) : Value → Text
  | .null => field ++ " is absent".toList
  | value => field ++ '=' :: value.quoted ++ " is out of range".toList

def outOfRange (d : Details) (field : Text) (value : Value) (facet : Option Text) : Fault :=
  let message := d.message.getD []
  build .outOfRange (if message.isEmpty then fieldMessage field value else message)
    "present".toList
    (match facet with
      | some name => "presenter.".toList ++ name
      | none => "presenter".toList)
    [("field".toList, .text field), ("value".toList, value),
     ("kind".toList, .text (facet.getD []))] d

def entityPayload (d : Details) : Fault :=
  build .entityPayload (d.message.getD "Invalid recognizer entity payload".toList)
    "entities".toList "entities.extract_timex_tokens".toList [] d

/-! ## Faults of the stages -/

def ofShape (t : Text) : Fault := unrecognized (Details.ofToken t)

/-- Empty where the default message stands. -/
def readingMessage (g : Granularity) : ReadingFailure.Reason → Text
  | .unexpectedTime => g.name.toList ++ " does not take a time part".toList
  | .missingTime => "missing time part".toList
  | .unmatched => []
  | .noSuchDay year month day =>
    "day ".toList ++ Text.decimal day ++ " does not exist in ".toList ++
      (match year with
        | some y => Text.decimal y
        | none => ['-', '-']) ++ '-' :: Text.zeroPadded 2 month

def ofReading (t : Text) (g : Granularity) (failure : ReadingFailure) : Fault :=
  ambiguous ⟨some (readingMessage g failure.reason), t, [], none⟩ g.name.toList
    (failure.tried.map String.toList)

/-! ## Equations -/

theorem shown_ofContext (kind : Kind) (message : Text) (context : Context) :
    (ofContext kind message context).shown = format context message := rfl

@[simp] theorem token_attach (f : Fault) (token : Text) : (f.attach token).context.token = token :=
  rfl

@[simp] theorem attach_attach (f : Fault) (token : Text) :
    (f.attach token).attach token = f.attach token := by
  simp [attach]

end Fault
end Timex
