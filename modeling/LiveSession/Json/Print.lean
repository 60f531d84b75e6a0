import LiveSession.Decimal.Shortest
import LiveSession.Json.Value
/-!
# Writing JSON text

Two layouts of one value: `Value.compact`, with no whitespace at all, and `Value.pretty`, with
each array element and object member on a line of its own, indented two spaces per level, a
space after each colon, and empty containers written `[]` and `{}`.

A string is quoted with the short escapes for quote, backslash, backspace, form feed, newline,
carriage return and tab, and `\u00XX` with lowercase hex digits for the other control characters
below U+0020; every other character is written as it is. Floats take their shortest
round-tripping decimal text (`Decimal.floatText`).
-/

namespace LiveSession.Json

/-- The lowercase hex digit of a number below sixteen. -/
def hexDigitLower (n : Nat) : Char :=
  if n < 10 then Char.ofNat (48 + n) else Char.ofNat (87 + n)

/-- The escape of one character inside a quoted string. -/
def escapeChar (c : Char) : String :=
  if c == '"' then "\\\""
  else if c == '\\' then "\\\\"
  else if c == '\n' then "\\n"
  else if c == '\r' then "\\r"
  else if c == '\t' then "\\t"
  else if c.toNat == 8 then "\\b"
  else if c.toNat == 12 then "\\f"
  else if c.toNat < 32 then
    "\\u00" ++ String.singleton (hexDigitLower (c.toNat / 16)) ++
      String.singleton (hexDigitLower (c.toNat % 16))
  else String.singleton c

/-- A string as a quoted JSON string. -/
def quote (s : String) : String :=
  "\"" ++ String.join (s.toList.map escapeChar) ++ "\""

/-- The text of a number. -/
def Number.text : Number → String
  | .int i => toString i
  | .float f => Decimal.floatText f

/-- Two spaces per level. -/
def indent (n : Nat) : String := String.ofList (List.replicate (2 * n) ' ')

mutual

/-- The compact text of a value. -/
def Value.compact : Value → String
  | .null => "null"
  | .bool b => if b then "true" else "false"
  | .num n => n.text
  | .str s => quote s
  | .arr xs => "[" ++ compactItems xs ++ "]"
  | .obj ms => "\x7b" ++ compactMembers ms ++ "\x7d"

/-- Array elements, comma separated. -/
def compactItems : List Value → String
  | [] => ""
  | [x] => x.compact
  | x :: xs => x.compact ++ "," ++ compactItems xs

/-- Object members, comma separated. -/
def compactMembers : List (String × Value) → String
  | [] => ""
  | [(k, v)] => quote k ++ ":" ++ v.compact
  | (k, v) :: ms => quote k ++ ":" ++ v.compact ++ "," ++ compactMembers ms

end

mutual

/-- The pretty text of a value whose first line is already indented to `level`. -/
def Value.prettyAt (level : Nat) : Value → String
  | .arr [] => "[]"
  | .obj [] => "\x7b\x7d"
  | .arr xs => "[\n" ++ prettyItems (level + 1) xs ++ "\n" ++ indent level ++ "]"
  | .obj ms => "\x7b\n" ++ prettyMembers (level + 1) ms ++ "\n" ++ indent level ++ "\x7d"
  | v => v.compactLeaf

/-- Array elements, one per line. -/
def prettyItems (level : Nat) : List Value → String
  | [] => ""
  | [x] => indent level ++ x.prettyAt level
  | x :: xs => indent level ++ x.prettyAt level ++ ",\n" ++ prettyItems level xs

/-- Object members, one per line. -/
def prettyMembers (level : Nat) : List (String × Value) → String
  | [] => ""
  | [(k, v)] => indent level ++ quote k ++ ": " ++ v.prettyAt level
  | (k, v) :: ms => indent level ++ quote k ++ ": " ++ v.prettyAt level ++ ",\n" ++
      prettyMembers level ms

/-- The text of a value that holds no other value. -/
def Value.compactLeaf : Value → String
  | .null => "null"
  | .bool b => if b then "true" else "false"
  | .num n => n.text
  | .str s => quote s
  | _ => ""

end

/-- The pretty text of a value. -/
def Value.pretty (v : Value) : String := v.prettyAt 0

end LiveSession.Json
