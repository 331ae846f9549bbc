/-!
# Documents

A document is a source text with the path it was read from. This file defines

* `Document.lineStarts` — the table of lines: the byte offsets at which the lines start;
* `Document.position` — the line and column of a byte offset;
* `Document.line?` — a line of the text, with the line feed that ends it.

Lines and columns count from zero, and columns count characters. An offset inside a character has
column zero; an offset past the end has the position of the end.
-/

namespace AccessorSynthesis

/-- A line and a column, both counted from zero. -/
structure Position where
  line : Nat
  column : Nat
deriving DecidableEq

/-- How a position is written in messages, with line and column counted from one. -/
def Position.text (position : Position) : String := s!"{position.line + 1}:{position.column + 1}"

/-- How many characters a text has in front of a byte offset, behind `passed` others. Offsets inside
characters and past the end have no such number. -/
def indexOnto (passed : Nat) : List Char → Nat → Option Nat
  | [], offset => if offset = 0 then some passed else none
  | c :: rest, offset =>
      if offset = 0 then some passed
      else if offset < c.utf8Size then none
      else indexOnto (passed + 1) rest (offset - c.utf8Size)

/-- The characters between two byte offsets, which have to be in order and not inside characters. -/
def slice? (source : List Char) (start stop : Nat) : Option (List Char) := do
  let first ← indexOnto 0 source start
  let last ← indexOnto 0 source stop
  if stop < start then none else some ((source.drop first).take (last - first))

/-- Looks for a number between two places of an ascending table, by halving. The answer is the place
where it stands, or as an error the one where it would have to be inserted. -/
def searchBetween (table : Array Nat) (n low high : Nat) (bound : high ≤ table.size) :
    Except Nat Nat :=
  if h : low < high then
    let middle := low + (high - low) / 2
    have hmiddle : middle < high := by omega
    if table[middle] = n then .ok middle
    else if table[middle] < n then searchBetween table n (middle + 1) high bound
    else searchBetween table n low middle (by omega)
  else .error low
termination_by high - low

/-- Looks for a number in an ascending table. -/
def search (table : Array Nat) (n : Nat) : Except Nat Nat :=
  searchBetween table n 0 table.size (Nat.le_refl _)

/-- A source text and the path it was read from. -/
structure Document where
  path : String
  source : String
deriving DecidableEq

namespace Document

/-- The offsets behind the line feeds of a text that starts at `offset`, behind those `found` before
it. -/
def lineStartsOnto (found : Array Nat) (offset : Nat) : List Char → Array Nat
  | [] => found
  | c :: rest =>
      let next := offset + c.utf8Size
      lineStartsOnto (if c = '\n' then found.push next else found) next rest

/-- The offsets at which the lines behind the first one start. -/
def lineStarts (document : Document) : Array Nat :=
  lineStartsOnto #[] 0 document.source.toList

/-- The offset at which a line starts. -/
def lineStart? (document : Document) (number : Nat) : Option Nat :=
  if number = 0 then some 0 else document.lineStarts[number - 1]?

/-- The line of a byte offset. A line start belongs to the line that starts there. -/
def lineAt (document : Document) (offset : Nat) : Nat :=
  match search document.lineStarts offset with
  | .ok place => place + 1
  | .error place => place

/-- The position of a byte offset. -/
def position (document : Document) (offset : Nat) : Position :=
  let line := document.lineAt offset
  let start := (document.lineStart? line).getD 0
  let stop := min offset document.source.utf8ByteSize
  ⟨line, ((slice? document.source.toList start stop).map List.length).getD 0⟩

/-- The line with a number, counted from zero. -/
def line? (document : Document) (number : Nat) : Option (List Char) := do
  let start ← document.lineStart? number
  let stop := document.lineStarts[number]?.getD document.source.utf8ByteSize
  slice? document.source.toList start stop

end Document

end AccessorSynthesis
