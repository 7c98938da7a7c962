import PerArity.Text.Hex
import PerArity.Text.Printable

/-!
# Quoted text

Messages show a text that came from outside between quotes. The quotes are single unless that would
need an escape which double quotes avoid, and whatever could not be read back or not be seen is
escaped: the quote in use, the backslash, line breaks and tabs by letter, and every unprintable
character by the shortest of the forms `\xhh`, `\uhhhh` and `\Uhhhhhhhh`.
-/

namespace PerArity.Text

/-- The quote around a text: double exactly when the text holds single quotes and no double ones. -/
def quoteFor (s : List Char) : Char :=
  if '\x27' ∈ s ∧ '\x22' ∉ s then '\x22' else '\x27'

/-- The escape of a character by its code point. -/
def codeEscape (c : Char) : List Char :=
  if c.toNat < 0x100 then '\\' :: 'x' :: hexDigits 2 c.toNat
  else if c.toNat < 0x10000 then '\\' :: 'u' :: hexDigits 4 c.toNat
  else '\\' :: 'U' :: hexDigits 8 c.toNat

/-- One character of a text between the given quotes. -/
def quoteChar (quote c : Char) : List Char :=
  if c = quote ∨ c = '\\' then ['\\', c]
  else if c = '\n' then ['\\', 'n']
  else if c = '\r' then ['\\', 'r']
  else if c = '\t' then ['\\', 't']
  else if isPrintable c then [c]
  else codeEscape c

/-- A text between quotes. -/
def quoted (s : String) : String :=
  let quote := quoteFor s.toList
  String.ofList (quote :: s.toList.flatMap (quoteChar quote) ++ [quote])

end PerArity.Text
