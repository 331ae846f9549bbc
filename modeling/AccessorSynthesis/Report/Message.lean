import AccessorSynthesis.Report.Severity
import AccessorSynthesis.Source.Span

/-!
# Messages

What is said to the user. This file defines

* `Message` — a text with its severity and, perhaps, a place in the sources;
* `Diagnostic` — a finding about a declaration, which has a fixed text and severity;
* `Event` — a message, or a line that goes straight to the log, so that a list of events keeps the
  order between both.

Only messages of severity `error` are fatal.
-/

namespace AccessorSynthesis

/-- A text for the user. -/
structure Message where
  severity : Severity
  text : String
  span : Option Span
deriving DecidableEq

namespace Message

/-- Does the message keep class files from being generated? -/
def isFatal (message : Message) : Bool := message.severity = .error

/-- The message with its severity in front. -/
def line (message : Message) : String := message.severity.name ++ ": " ++ message.text

/-- What the log shows of a message, with its span behind it. -/
def logLine (message : Message) : LogLine where
  level := message.severity.level
  text :=
    match message.span with
    | some span => s!"{message.text} ({span.text})"
    | none => message.text

/-- A message about the course of the work. -/
def trace (text : String) : Message := ⟨.logging, "Trackable: " ++ text, none⟩

end Message

/-- What can be wrong with a declaration. -/
inductive Problem where
  /-- A declaration of this shape cannot carry the annotation. -/
  | unsupportedShape (mark : String)
  /-- The declaration already has a member of the accessor's name. -/
  | nameTaken (accessor : String)
deriving DecidableEq

/-- A problem and the place of the declaration that has it. -/
structure Diagnostic where
  problem : Problem
  span : Option Span
deriving DecidableEq

namespace Problem

/-- How serious the problem is. -/
def severity : Problem → Severity
  | .unsupportedShape _ => .error
  | .nameTaken _ => .warning

/-- What is said about the problem. -/
def text : Problem → String
  | .unsupportedShape mark => s!"@{mark} is not supported on data and inline classes!"
  | .nameTaken accessor =>
      s!"'{accessor}' is already declared on this class, no accessor was generated"

end Problem

/-- The message that reports a diagnostic. -/
def Diagnostic.message (diagnostic : Diagnostic) : Message :=
  ⟨diagnostic.problem.severity, diagnostic.problem.text, diagnostic.span⟩

/-- A message, or a line that goes straight to the log. -/
inductive Event where
  | message (message : Message)
  | log (line : LogLine)
deriving DecidableEq

namespace Event

/-- The messages among the events, in order. -/
def messages (events : List Event) : List Message :=
  events.filterMap fun
    | .message said => some said
    | .log _ => none

/-- The lines among the events, in order. -/
def logLines (events : List Event) : List LogLine :=
  events.filterMap fun
    | .message _ => none
    | .log line => some line

/-- What the log shows if messages go there as well. -/
def toLog (events : List Event) : List LogLine :=
  events.map fun
    | .message said => said.logLine
    | .log line => line

end Event

end AccessorSynthesis
