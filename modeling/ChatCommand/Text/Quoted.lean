/-
Quotations: a text between double quotes with every character made visible.

* `quotedChar`: how one character is shown;
* `quoted`: the whole quotation.
-/
import ChatCommand.Text.Visibility

namespace ChatCommand.Text

/-- The code point of a character in hexadecimal, between braces. -/
def codePointEscape (c : Char) : List Char :=
  '\\' :: 'u' :: Char.ofNat 0x7b :: (Nat.toDigits 16 c.toNat ++ [Char.ofNat 0x7d])

/-- A character as a quotation shows it: quotes, backslashes and the common controls behind a
backslash, what cannot be printed or joins its neighbour by its code point, all else as it is. -/
def quotedChar (c : Char) : List Char :=
  if c == '"' then ['\\', '"']
  else if c == '\\' then ['\\', '\\']
  else if c == '\n' then ['\\', 'n']
  else if c == '\t' then ['\\', 't']
  else if c == '\r' then ['\\', 'r']
  else if c == '\x00' then ['\\', '0']
  else if unprintableRanges.contains c.toNat || extenderRanges.contains c.toNat then
    codePointEscape c
  else [c]

/-- The text between double quotes with every character made visible. -/
def quoted (s : String) : String :=
  String.ofList ('"' :: (s.toList.flatMap quotedChar ++ ['"']))

end ChatCommand.Text
