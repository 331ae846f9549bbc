/-!
# Spans

A span is a range of bytes in one of the sources of a compilation. Nothing relates its ends to each
other or to the source.
-/

namespace AccessorSynthesis

/-- A range of bytes in the source with number `file`. -/
structure Span where
  start : Nat
  stop : Nat
  file : Nat
deriving DecidableEq

namespace Span

/-- How a span is written in messages. -/
def text (span : Span) : String := s!"{span.start}-{span.stop} in file {span.file}"

/-- The spans in ascending order of start, end and file. -/
def sort (spans : List Span) : List Span :=
  spans.mergeSort fun a b =>
    a.start < b.start || (a.start == b.start &&
      (a.stop < b.stop || (a.stop == b.stop && a.file ≤ b.file)))

end Span

end AccessorSynthesis
