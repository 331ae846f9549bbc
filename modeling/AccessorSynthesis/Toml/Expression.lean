import AccessorSynthesis.Toml.Number

/-!
# Expressions

A TOML document is a list of entries and headers. This file defines scanners of

* values, whose arrays and inline tables nest only so deep;
* entries, which put a value under a key;
* headers, which say to which table the entries behind them belong;
* whole documents.
-/

namespace AccessorSynthesis
namespace Toml

/-- A line of a document, or several lines if a value takes them. -/
inductive Expression where
  | entry (key : List String) (value : Value)
  /-- The header of a table, or of an element of an array of tables. -/
  | header (isElement : Bool) (key : List String)

/-! ## Inline tables -/

/-- Puts a value into an inline table. Dotted keys may extend tables made by dotted keys only. -/
def insertInline (value : Value) : List String → Keyed Value → Option (Keyed Value)
  | [], _ => none
  | [name], entries =>
      match entries.find? name with
      | some _ => none
      | none => some (entries.append name value)
  | name :: path, entries =>
      match entries.find? name with
      | none => do return entries.append name (.table .dotted (← insertInline value path .empty))
      | some (.table .dotted inner) => do
          return entries.put name (.table .dotted (← insertInline value path inner))
      | some _ => none

namespace Scanner

/-! ## Values -/

/-- The items of an array behind those in `found`, which holds the earlier ones in reverse, up to
the closing bracket. -/
def itemsOnto (item : Scanner Value) : (bound : Nat) → List Value → Scanner (List Value)
  | 0, _ => failure
  | bound + 1, found => do
      gap
      if ← accept ']' then return found.reverse
      let value ← item
      gap
      if ← accept ',' then itemsOnto item bound (value :: found)
      else
        char ']'
        return (value :: found).reverse

/-- An entry: a key, an equals sign and a value. -/
def entry (item : Scanner Value) : Scanner (List String × Value) := do
  let key ← key
  char '='
  spaces
  return (key, ← item)

/-- The entries of an inline table that are added to `entries`, up to the closing brace. -/
def entriesOnto (item : Scanner Value) : (bound : Nat) → Keyed Value → Scanner (Keyed Value)
  | 0, _ => failure
  | bound + 1, entries => do
      let (key, value) ← entry item
      let entries ← StateT.lift (insertInline value key entries)
      spaces
      if ← accept ',' then entriesOnto item bound entries
      else
        char '\x7d'
        return entries

/-- An inline table behind its opening brace. -/
def inlineTable (item : Scanner Value) (bound : Nat) : Scanner Value := do
  spaces
  if ← accept '\x7d' then return .table .inline .empty
  return .table .inline (← entriesOnto item bound .empty)

/-- A value that is no array and no table. -/
def scalar : Scanner Value := do
  match ← peek with
  | some '"' | some '\'' => return .string (← string)
  | some 't' => do
      word "true"
      return .boolean true
  | some 'f' => do
      word "false"
      return .boolean false
  | _ => number

/-- A value. `depth` says how deep arrays and inline tables may still nest. -/
def value (bound : Nat) : (depth : Nat) → Scanner Value
  | 0 => scalar
  | depth + 1 => do
      if ← accept '[' then return .array (← itemsOnto (value bound depth) bound [])
      else if ← accept '\x7b' then inlineTable (value bound depth) bound
      else scalar

/-- How deep arrays and inline tables may nest. -/
def maxDepth : Nat := 79

/-! ## Documents -/

/-- The header of a table. -/
def header : Scanner Expression := do
  char '['
  if ← accept '[' then
    let key ← key
    word "]]"
    return .header true key
  else
    let key ← key
    char ']'
    return .header false key

/-- The expressions of a document behind those in `found`, which holds the earlier ones in
reverse. -/
def expressionsOnto (bound : Nat) : (lines : Nat) → List Expression → Scanner (List Expression)
  | 0, _ => failure
  | lines + 1, found => do
      spaces
      match ← peek with
      | none => return found.reverse
      | some '#' | some '\n' | some '\r' => do
          endLine
          expressionsOnto bound lines found
      | some '[' => do
          let expression ← header
          endLine
          expressionsOnto bound lines (expression :: found)
      | some _ => do
          let (key, value) ← entry (value bound maxDepth)
          endLine
          expressionsOnto bound lines (.entry key value :: found)

end Scanner

/-- The expressions of a document, which may begin with a byte order mark. -/
def expressions? (document : String) : Option (List Expression) :=
  let text :=
    match document.toList with
    | '\ufeff' :: rest => rest
    | text => text
  let bound := text.length + 1
  (Scanner.expressionsOnto bound bound [] text).map Prod.fst

end Toml
end AccessorSynthesis
