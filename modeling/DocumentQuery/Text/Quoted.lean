import DocumentQuery.Text.Hex
import DocumentQuery.Text.Visible

/-!
# Quoted text for people

A text between double quotes in which every character that would not show is written as an escape:
five of them by a letter, the others by their code point in braces.
-/

namespace DocumentQuery.Text

/-- One character as it stands between the quotes. -/
def quotedChar (c : Char) : List Char :=
  if c = '"' then ['\\', '"']
  else if c = '\\' then ['\\', '\\']
  else if c = '\x00' then ['\\', '0']
  else if c = '\t' then ['\\', 't']
  else if c = '\n' then ['\\', 'n']
  else if c = '\r' then ['\\', 'r']
  else if isVisible c then [c]
  else '\\' :: 'u' :: '{' :: (hexChars c.toNat ++ ['}'])

/-- The text in double quotes with its escapes. -/
def quoted (s : String) : List Char := '"' :: (s.toList.flatMap quotedChar ++ ['"'])

end DocumentQuery.Text
