import InteractionKit.Text.Hex
import InteractionKit.Text.Hidden
/-
A text between double quotes, for messages: quotes, backslashes and hidden characters are written as escapes.
-/
namespace InteractionKit

/-- how one character is written between quotes -/
def quotedChar (c : Char) : String :=
  if c = '\x00' then "\\0"
  else if c = '\t' then "\\t"
  else if c = '\r' then "\\r"
  else if c = '\n' then "\\n"
  else if c = '"' then "\\\""
  else if c = '\\' then "\\\\"
  else if isHidden c then "\\u\x7b" ++ hex c.toNat ++ "\x7d"
  else c.toString

def quoted (s : String) : String := "\"" ++ String.join (s.toList.map quotedChar) ++ "\""

end InteractionKit
