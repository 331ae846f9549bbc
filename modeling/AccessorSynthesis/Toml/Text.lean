import AccessorSynthesis.Toml.Scanner

/-!
# Strings and keys

The four kinds of strings of TOML, and the parts of keys. A string between double quotes has
escapes, one between single quotes has none; a string between three quotes may have line ends, which
always count as single line feeds. A key is made of parts with dots between them.
-/

namespace AccessorSynthesis
namespace Toml
namespace Scanner

/-- Is the character a hexadecimal digit? -/
def isHexDigit (c : Char) : Bool :=
  c.isDigit || ('a' ≤ c && c ≤ 'f') || ('A' ≤ c && c ≤ 'F')

/-- The value of a digit of any base up to sixteen. -/
def digitValue (c : Char) : Nat :=
  if c.isDigit then c.toNat - '0'.toNat
  else if 'a' ≤ c then c.toNat - 'a'.toNat + 10
  else c.toNat - 'A'.toNat + 10

/-- The number that digits stand for. -/
def numberOf (base : Nat) (digits : List Char) : Nat :=
  digits.foldl (fun number digit => number * base + digitValue digit) 0

/-- The number that digits stand for, read only until it comes to `limit`. The digits behind that do
not count. -/
def numberUpTo (limit base : Nat) (digits : List Char) : Nat :=
  digits.foldl
    (fun number digit => if number < limit then number * base + digitValue digit else number) 0

/-- The character with a code point of `count` hexadecimal digits at the front of a text. -/
def codePoint? (count : Nat) (text : List Char) : Option Char :=
  let digits := text.take count
  let number := numberOf 16 digits
  if digits.length = count ∧ digits.all isHexDigit ∧ number.isValidChar then
    some (Char.ofNat number)
  else none

/-- The character that an escape stands for, and how many characters follow its backslash. -/
def escape? : List Char → Option (Char × Nat)
  | 'b' :: _ => some ('\x08', 1)
  | 't' :: _ => some ('\t', 1)
  | 'n' :: _ => some ('\n', 1)
  | 'f' :: _ => some ('\x0c', 1)
  | 'r' :: _ => some ('\r', 1)
  | '"' :: _ => some ('"', 1)
  | '\\' :: _ => some ('\\', 1)
  | 'u' :: rest => (codePoint? 4 rest).map (·, 5)
  | 'U' :: rest => (codePoint? 8 rest).map (·, 9)
  | _ => none

/-- May the character stand for itself in a string? -/
def isPlain (c : Char) : Bool := isCommentChar c

/-! ## Strings on one line -/

/-- The rest of a string between double quotes, behind the characters in `found`, which holds the
earlier ones in reverse. -/
def basicOnto (found : List Char) : Scanner String
  | [] => none
  | c :: rest =>
      if c = '"' then some (String.ofList found.reverse, rest)
      else if c = '\\' then
        match escape? rest with
        | some (escaped, count) => basicOnto (escaped :: found) (rest.drop count)
        | none => none
      else if isPlain c then basicOnto (c :: found) rest
      else none
termination_by text => text.length
decreasing_by all_goals (simp only [List.length_cons, List.length_drop]; omega)

/-- A string between double quotes. -/
def basicString : Scanner String := do
  char '"'
  basicOnto []

/-- A string between single quotes. -/
def literalString : Scanner String := do
  char '\''
  let text ← run fun c => isPlain c && c != '\''
  char '\''
  return String.ofList text

/-! ## Strings of several lines -/

/-- Ends a string behind three quotes. One or two more quotes still belong to it. -/
def closing (quote : Char) (found : List Char) : Scanner String
  | first :: second :: rest =>
      if first = quote ∧ second = quote then
        some (String.ofList (quote :: quote :: found).reverse, rest)
      else if first = quote then some (String.ofList (quote :: found).reverse, second :: rest)
      else some (String.ofList found.reverse, first :: second :: rest)
  | [only] =>
      if only = quote then some (String.ofList (quote :: found).reverse, [])
      else some (String.ofList found.reverse, [only])
  | [] => some (String.ofList found.reverse, [])

/-- Does the text begin with a line end, perhaps after blanks? -/
def startsWithLineEnd (text : List Char) : Bool :=
  match text.dropWhile isSpace with
  | '\n' :: _ => true
  | '\r' :: '\n' :: _ => true
  | _ => false

/-- The rest of a string between three quotes, behind the characters in `found`, which holds the
earlier ones in reverse. Between double quotes there are escapes; a backslash at the end of a line
takes away all blanks and line ends up to the next character, and `folding` says that this is going
on. -/
def longOnto (quote : Char) (folding : Bool) (found : List Char) : Scanner String
  | '\r' :: '\n' :: rest =>
      longOnto quote folding (if folding then found else '\n' :: found) rest
  | c :: rest =>
      if folding && (isSpace c || c == '\n') then longOnto quote true found rest
      else if c = quote then
        match rest with
        | second :: third :: rest =>
            if second = quote ∧ third = quote then closing quote found rest
            else longOnto quote false (c :: found) (second :: third :: rest)
        | _ => none
      else if c = '\\' ∧ quote = '"' then
        if startsWithLineEnd rest then longOnto quote true found rest
        else
          match escape? rest with
          | some (escaped, count) => longOnto quote false (escaped :: found) (rest.drop count)
          | none => none
      else if isPlain c || c == '\n' then longOnto quote false (c :: found) rest
      else none
  | [] => none
termination_by text => text.length
decreasing_by all_goals (simp only [List.length_cons, List.length_drop]; omega)

/-- A string between three quotes. A line end right behind the opening ones does not count. -/
def longString (quote : Char) : Scanner String := do
  word (String.ofList [quote, quote, quote])
  let _ ← optional lineEnd
  longOnto quote false []

/-- A string of any kind. -/
def string : Scanner String :=
  either (longString '"') <| either basicString <| either (longString '\'') literalString

/-! ## Keys -/

/-- May the character stand in a part of a key without quotes? -/
def isBareKeyChar (c : Char) : Bool := c.isAlphanum || c == '-' || c == '_'

/-- One part of a key. -/
def keyPart : Scanner String := do
  match ← peek with
  | some '"' => basicString
  | some '\'' => literalString
  | _ => do
      match ← run isBareKeyChar with
      | [] => failure
      | name => return String.ofList name

/-- The parts of a key behind those in `found`, which holds the earlier ones in reverse. -/
def keyOnto : (bound : Nat) → List String → Scanner (List String)
  | 0, _ => failure
  | bound + 1, found => do
      spaces
      let part ← keyPart
      spaces
      if ← accept '.' then keyOnto bound (part :: found) else return (part :: found).reverse

/-- The most parts that a key may have. -/
def maxKeyParts : Nat := 79

/-- A key with its parts, and the blanks around them. -/
def key : Scanner (List String) := keyOnto maxKeyParts []

end Scanner
end Toml
end AccessorSynthesis
