import Quiescence.Text.Digits
import Quiescence.Text.Unprintable

/-! # Quoted text

Messages quote a text between double quotes. Quotes, backslashes and the common controls are escaped
by a letter, and every other unprintable character by its code point.
-/

namespace Quiescence.Text

/-- A character as it stands between quotes. -/
def quotedChar (c : Char) : String :=
  if c = '"' then "\\\""
  else if c = '\\' then "\\\\"
  else if c = '\n' then "\\n"
  else if c = '\r' then "\\r"
  else if c = '\t' then "\\t"
  else if c = '\x00' then "\\0"
  else if isUnprintable c then "\\u\x7b" ++ hex c.toNat ++ "\x7d"
  else c.toString

/-- The text between quotes. -/
def quoted (s : String) : String := "\"" ++ String.join (s.toList.map quotedChar) ++ "\""

end Quiescence.Text
