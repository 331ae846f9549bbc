import AccessorSynthesis.Text.Hexadecimal
import AccessorSynthesis.Text.Printable

/-!
# Quoted texts

A quoted text stands between double quotes. Quotes, backslashes, line ends, tabs and NUL are
escaped by letters, all other characters that are not printable by their code points.
-/

namespace AccessorSynthesis
namespace Quoted

/-- How a character is written between quotes. -/
def encodeChar (c : Char) : List Char :=
  if c = '"' then ['\\', '"']
  else if c = '\\' then ['\\', '\\']
  else if c = '\n' then ['\\', 'n']
  else if c = '\r' then ['\\', 'r']
  else if c = '\t' then ['\\', 't']
  else if c = '\x00' then ['\\', '0']
  else if isPrintable c then [c]
  else ['\\', 'u', '\x7b'] ++ (hexadecimal 1 c.toNat).toList ++ ['\x7d']

/-- The text between quotes. -/
def encode (text : String) : String :=
  String.ofList ('"' :: text.toList.flatMap encodeChar ++ ['"'])

end Quoted
end AccessorSynthesis
