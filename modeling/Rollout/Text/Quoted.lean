import Rollout.Text.Unprintable
import Rollout.Text.Extending
/-!
# Quoted texts

A message shows a text that it did not choose between double quotes, in a form in which every
character can be told apart: a quote and a backslash get a backslash, the common controls their
letter, and a character that shows nothing or melts into its neighbour its number in hexadecimal
digits between braces.
-/

namespace Rollout.Text

/-- A number in hexadecimal digits, in small letters and with no leading zero. -/
def hexDigits (n : Nat) : List Char := Nat.toDigits 16 n

/-- The quoted form of one character. -/
def quoteChar (c : Char) : List Char :=
  if c = '"' then ['\\', '"']
  else if c = '\\' then ['\\', '\\']
  else if c = '\n' then ['\\', 'n']
  else if c = '\r' then ['\\', 'r']
  else if c = '\t' then ['\\', 't']
  else if c = '\x00' then ['\\', '0']
  else if isExtending c || isUnprintable c then
    ['\\', 'u', '\x7b'] ++ hexDigits c.toNat ++ ['\x7d']
  else [c]

/-- The text between double quotes. -/
def quoted (s : String) : String :=
  String.ofList ('"' :: s.toList.flatMap quoteChar ++ ['"'])

end Rollout.Text
