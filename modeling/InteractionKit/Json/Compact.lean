import InteractionKit.Json.Basic
import InteractionKit.Text.Hex
/-
JSON text without spaces.

Strings escape the quote, the backslash and the controls below U+0020, and nothing else. A double is written as an
object that holds its bits, so that nothing is rounded.

- `Json.compact`: the text of any value.
- `Json.wire`: the text of a value that holds no double.
-/
namespace InteractionKit.Json

/-- how a character is written inside a JSON string -/
def escapeChar (c : Char) : String :=
  if c = '"' then "\\\""
  else if c = '\\' then "\\\\"
  else if c = '\x08' then "\\b"
  else if c = '\x0c' then "\\f"
  else if c = '\n' then "\\n"
  else if c = '\r' then "\\r"
  else if c = '\t' then "\\t"
  else if c.toNat < 0x20 then "\\u" ++ String.ofList (hexDigits 4 c.toNat)
  else c.toString

def compactString (s : String) : String := "\"" ++ String.join (s.toList.map escapeChar) ++ "\""

/-- the sixteen hexadecimal digits of a double, or `nan` -/
def floatName (x : Binary64) : String :=
  if x.isNaN then "nan" else String.ofList (hexDigits 16 x.bits.toNat)

mutual
/-- the text of a value -/
def compact : Json → String
  | null => "null"
  | bool b => if b then "true" else "false"
  | int n => toString n
  | float x => "\x7b\"$f64\":" ++ compactString (floatName x) ++ "\x7d"
  | str s => compactString s
  | arr xs => "[" ++ compactItems xs ++ "]"
  | obj ms => "\x7b" ++ compactMembers ms ++ "\x7d"
def compactItems : List Json → String
  | [] => ""
  | [x] => compact x
  | x :: xs => compact x ++ "," ++ compactItems xs
def compactMembers : Members → String
  | [] => ""
  | [(k, v)] => compactString k ++ ":" ++ compact v
  | (k, v) :: r => compactString k ++ ":" ++ compact v ++ "," ++ compactMembers r
end

/-- the text of a value that holds no double -/
def wire (v : Json) : Option String := if v.hasFloat then none else some v.compact

end InteractionKit.Json
