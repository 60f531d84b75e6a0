/-!
# Writing TOML strings

A string is written in the first of these forms that can hold it as it is:

1. a basic string `"…"`, when it has no control characters other than tab, no backslash, no
   double quote and no line break;
2. a literal string `'…'`, when it has no control characters other than tab, no single quote and
   no line break;
3. a multi-line basic string `"""…"""`, when it has no control characters other than tab and
   line feed, no backslash and never three double quotes in a row;
4. a multi-line literal string `'''…'''`, when it has no such control characters and never three
   single quotes in a row;

and otherwise as a multi-line basic string if it has a line break, a basic string if not, with
escapes. In basic forms tab, backspace, form feed and carriage return take their short escapes,
other control characters `\uXXXX`, and in the one-line form also line feed, double quote and
backslash; the multi-line form escapes every third double quote of a run. A multi-line form
starts with a line break when the string has one.
-/

namespace LiveSession.Toml

/-- What decides a string's form. -/
structure StringMetrics where
  maxSingleQuotes : Nat
  maxDoubleQuotes : Nat
  escapeCodes : Bool
  backslash : Bool
  newline : Bool
  deriving Repr

/-- The running count while measuring: the longest runs so far and the current ones. -/
structure RunState where
  maxSingle : Nat
  maxDouble : Nat
  single : Nat
  double : Nat

/-- Measures one byte: a quote extends the run of its kind, and any other byte ends that run. -/
def RunState.step (st : RunState) (b : UInt8) : RunState :=
  let st := if b == 39 then { st with single := st.single + 1 }
    else { st with maxSingle := max st.maxSingle st.single, single := 0 }
  if b == 34 then { st with double := st.double + 1 }
  else { st with maxDouble := max st.maxDouble st.double, double := 0 }

/-- Whether a byte needs an escape code in every form. -/
def needsEscapeCode (b : UInt8) : Bool := (b < 0x20 && b != 9 && b != 10) || b == 0x7f

/-- The metrics of a string. -/
def StringMetrics.of (s : String) : StringMetrics :=
  let bytes := s.toUTF8.toList
  let st := bytes.foldl RunState.step ⟨0, 0, 0, 0⟩
  ⟨max st.maxSingle st.single, max st.maxDouble st.double, bytes.any needsEscapeCode,
    bytes.any (· == 92), bytes.any (· == 10)⟩

/-- The uppercase hex digit of a number below sixteen. -/
def hexDigitUpper (n : Nat) : Char := if n < 10 then Char.ofNat (48 + n) else Char.ofNat (55 + n)

/-- Four uppercase hex digits. -/
def hex4 (n : Nat) : String :=
  String.ofList [hexDigitUpper (n / 4096 % 16), hexDigitUpper (n / 256 % 16),
    hexDigitUpper (n / 16 % 16), hexDigitUpper (n % 16)]

/-- One character inside a basic string; `multiline` keeps line feeds and double quotes. -/
def basicChar (multiline : Bool) (c : Char) : String :=
  if c.toNat == 8 then "\\b"
  else if c == '\t' then "\\t"
  else if c == '\n' then (if multiline then "\n" else "\\n")
  else if c.toNat == 12 then "\\f"
  else if c == '\r' then "\\r"
  else if c == '"' then (if multiline then "\"" else "\\\"")
  else if c == '\\' then "\\\\"
  else if c.toNat < 0x20 || c.toNat == 0x7f then "\\u" ++ hex4 c.toNat
  else String.singleton c

/-- A basic string. -/
def basicString (s : String) : String :=
  "\"" ++ String.join (s.toList.map (basicChar false)) ++ "\""

/-- The body of a multi-line basic string: every third double quote in a row is escaped, so
that no three of them stand together, and the count starts again after it. -/
def mlBasicBody (run : Nat) : List Char → String
  | [] => ""
  | c :: cs =>
    if c == '"' then
      if run + 1 ≥ 3 then "\\\"" ++ mlBasicBody 0 cs else "\"" ++ mlBasicBody (run + 1) cs
    else basicChar true c ++ mlBasicBody 0 cs

/-- A multi-line basic string. -/
def mlBasicString (s : String) (newline : Bool) : String :=
  "\"\"\"" ++ (if newline then "\n" else "") ++ mlBasicBody 0 s.toList ++ "\"\"\""

/-- A string in the first form that holds it. -/
def stringRepr (s : String) : String :=
  let m := StringMetrics.of s
  if !m.escapeCodes && !m.backslash && m.maxDoubleQuotes == 0 && !m.newline then basicString s
  else if !m.escapeCodes && m.maxSingleQuotes == 0 && !m.newline then "'" ++ s ++ "'"
  else if !m.escapeCodes && !m.backslash && m.maxDoubleQuotes ≤ 2 then mlBasicString s m.newline
  else if !m.escapeCodes && m.maxSingleQuotes ≤ 2 then
    "'''" ++ (if m.newline then "\n" else "") ++ s ++ "'''"
  else if m.newline then mlBasicString s true
  else basicString s

end LiveSession.Toml
