import AccessorSynthesis.Report.Message
import AccessorSynthesis.Source.Sources
import AccessorSynthesis.Text.Blank

/-!
# Messages beside their sources

A message with a span is shown below the line where the span starts, with the span underlined. This
file defines

* `Message.render` — the message as it is shown;
* `Diagnostics` — the messages of a compilation, and what `dump` writes to the log about them.

A message whose span lies in no source cannot be shown, and neither can one whose underline starts
too far to the right or is too long.
-/

namespace AccessorSynthesis

/-- Why a message cannot be shown. -/
inductive Unshown where
  /-- The span lies in no source. -/
  | unknownSource (span : Span)
  /-- A text would be filled up to more than `maxWidth` characters. -/
  | tooWide
deriving DecidableEq

/-- The text shown in place of a message that cannot be shown. -/
def Unshown.message : Unshown → String
  | .unknownSource span =>
      s!"the source of a diagnostic could not be determined (span: {span.text})"
  | .tooWide => "Formatting argument out of range"

/-- The largest number of characters that a text is filled up to. -/
def maxWidth : Nat := 65535

/-- A text that is filled with one character. -/
def filled (c : Char) (width : Nat) : Except Unshown String :=
  if width ≤ maxWidth then .ok (String.ofList (List.replicate width c)) else .error .tooWide

/-- How many characters to underline. A span of several lines gets three, and none gets fewer than
one. -/
def underlineLength (start stop : Position) : Nat :=
  if start.line = stop.line then max 1 (stop.column - start.column) else 3

/-- The message as it is shown: the place, the line, the underline and the text. -/
def Message.render (message : Message) (sources : Sources) : Except Unshown String :=
  match message.span with
  | none => .ok message.text
  | some span =>
      match sources.get? span.file with
      | none => .error (.unknownSource span)
      | some document =>
          let start := document.position span.start
          let stop := document.position span.stop
          match document.line? start.line with
          | none => .error (.unknownSource span)
          | some line => do
              let spaces ← filled ' ' start.column
              let carets ← filled '^' (underlineLength start stop)
              .ok ("At " ++ document.path ++ ":" ++ start.text ++ "\n"
                ++ String.ofList (trimEnd line) ++ "\n" ++ spaces ++ carets ++ "\n" ++ message.text)

/-- The messages of a compilation, in the order in which they were reported. -/
structure Diagnostics where
  messages : List Message

namespace Diagnostics

/-- Is there a fatal message? -/
def hasFatal (diagnostics : Diagnostics) : Bool := diagnostics.messages.any Message.isFatal

/-- The messages with their severities, each on a line of its own. -/
def text (diagnostics : Diagnostics) : String :=
  String.join (diagnostics.messages.map fun message => message.line ++ "\n")

/-- How many messages have a severity. -/
def count (diagnostics : Diagnostics) (severity : Severity) : Nat :=
  diagnostics.messages.countP fun message => message.severity = severity

/-- The log lines of the messages up to the first that cannot be shown, and why that one cannot. -/
def renderAll (sources : Sources) : List Message → List LogLine × Option Unshown
  | [] => ([], none)
  | message :: rest =>
      match message.render sources with
      | .error reason => ([], some reason)
      | .ok text =>
          let (lines, reason) := renderAll sources rest
          (⟨message.severity.level, text⟩ :: lines, reason)

/-- The last line of a complete dump. -/
def summary (diagnostics : Diagnostics) : LogLine where
  level := .info
  text :=
    s!"Completed with {diagnostics.count .warning} warnings and {diagnostics.count .error} errors"

/-- The log lines of all messages and of the summary, or those before the first message that cannot
be shown, and why that one cannot. -/
def dump (diagnostics : Diagnostics) (sources : Sources) : List LogLine × Option Unshown :=
  match renderAll sources diagnostics.messages with
  | (lines, some reason) => (lines, some reason)
  | (lines, none) => (lines ++ [diagnostics.summary], none)

end Diagnostics

end AccessorSynthesis
