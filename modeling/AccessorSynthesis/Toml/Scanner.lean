/-!
# Scanners

A scanner reads something from the front of a text and returns it with the rest of the text, or
fails. This file defines scanners of single characters and of lists with separators.

Scanners of lists carry a bound on the number of items. The length of the text is always enough,
since every item takes at least one character.
-/

namespace AccessorSynthesis
namespace Toml

/-- Reads something from the front of a text. -/
abbrev Scanner (α : Type) := StateT (List Char) Option α

namespace Scanner

variable {α : Type}

/-- The next character, which is not used up. -/
def peek : Scanner (Option Char) := fun text => some (text.head?, text)

/-- A character with a property. -/
def satisfying (p : Char → Bool) : Scanner Char
  | [] => none
  | c :: rest => if p c then some (c, rest) else none

/-- A given character. -/
def char (expected : Char) : Scanner Unit := do
  let _ ← satisfying (· == expected)

/-- Uses up a given character if it comes next, and says whether it did. -/
def accept (expected : Char) : Scanner Bool
  | [] => some (false, [])
  | c :: rest => if c = expected then some (true, rest) else some (false, c :: rest)

/-- Given characters, one after the other. -/
def word (expected : String) : Scanner Unit := fun text =>
  if expected.toList.isPrefixOf text then some ((), text.drop expected.length) else none

/-- As many characters with a property as there are. -/
def run (p : Char → Bool) : Scanner (List Char) := fun text =>
  some (text.takeWhile p, text.dropWhile p)

/-- What the scanner reads, or nothing if it fails. -/
def optional (scanner : Scanner α) : Scanner (Option α) := fun text =>
  match scanner text with
  | some (a, rest) => some (some a, rest)
  | none => some (none, text)

/-- What the first scanner reads, or else the second one. -/
def either (first second : Scanner α) : Scanner α := fun text =>
  match first text with
  | some result => some result
  | none => second text

/-! ## Blanks and line ends -/

/-- Is the character a space or a tab? -/
def isSpace (c : Char) : Bool := c == ' ' || c == '\t'

/-- May the character stand in a comment? -/
def isCommentChar (c : Char) : Bool :=
  c == '\t' || (0x20 ≤ c.toNat && c.toNat != 0x7f)

/-- Passes over spaces and tabs. -/
def spaces : Scanner Unit := do
  let _ ← run isSpace

/-- The end of a line. -/
def lineEnd : Scanner Unit
  | '\n' :: rest => some ((), rest)
  | '\r' :: '\n' :: rest => some ((), rest)
  | _ => none

/-- Passes over spaces and a comment up to the end of the line or of the text. -/
def endLine : Scanner Unit := do
  spaces
  if ← accept '#' then
    let _ ← run isCommentChar
  match ← peek with
  | none => return ()
  | some _ => lineEnd

/-- What follows blanks, line ends and comments. -/
def dropGap (inComment : Bool) : List Char → List Char
  | [] => []
  | '\r' :: '\n' :: rest => dropGap false rest
  | c :: rest =>
      if inComment && isCommentChar c then dropGap true rest
      else if isSpace c || c == '\n' then dropGap false rest
      else if c == '#' then dropGap true rest
      else c :: rest

/-- Passes over blanks, line ends and comments. -/
def gap : Scanner Unit := fun text => some ((), dropGap false text)

end Scanner

end Toml
end AccessorSynthesis
