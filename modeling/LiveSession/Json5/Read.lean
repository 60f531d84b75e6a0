import LiveSession.Json.Value
import LiveSession.Decimal.Nearest
import LiveSession.Json5.Identifier
/-!
# Reading JSON5

JSON5 extends JSON with comments (`//` to the end of the line, `/* … */`), a wider set of
blanks, trailing commas in arrays and objects, unquoted identifier keys, single-quoted strings
with more escapes and line continuations, and numbers with a leading `+`, hexadecimal digits,
a bare leading or trailing decimal point, `Infinity` and `NaN`.

A document reads into a JSON value. A number without a point or exponent is an integer, which
must fit in 64 signed bits (hexadecimal ones in 32 unsigned bits); other numbers are doubles,
where `Infinity` and `NaN` stand for no number and read as `null`, and a finite literal that
rounds past the largest double is refused. A repeated key keeps its first position and its last
value. Errors are not described: a document either reads or it does not.

Each reader takes the remaining characters and returns what it read with the rest.
-/

namespace LiveSession.Json5

open LiveSession.Json

/-- A reader: a value and the rest of the input, or none when the input does not start with
one. -/
abbrev Reader (α : Type) := List Char → Option (α × List Char)

/-- Whether a character ends a line. -/
def isLineTerminator (c : Char) : Bool :=
  c == '\n' || c == '\r' || c.toNat == 0x2028 || c.toNat == 0x2029

/-- Whether a character is a space separator. -/
def isSpaceSeparator (c : Char) : Bool :=
  let n := c.toNat
  n == 0x20 || n == 0xA0 || n == 0x1680 || (0x2000 ≤ n && n ≤ 0x200A) || n == 0x202F ||
    n == 0x205F || n == 0x3000

/-- Whether a character is a blank between tokens. -/
def isBlank (c : Char) : Bool :=
  c == '\t' || c.toNat == 0x0B || c.toNat == 0x0C || c.toNat == 0xFEFF || isSpaceSeparator c ||
    isLineTerminator c

/-- The rest after a block comment's closing mark, or none when it is not closed. -/
def afterBlockComment : List Char → Option (List Char)
  | '*' :: '/' :: rest => some rest
  | _ :: rest => afterBlockComment rest
  | [] => none

/-- Skips blanks and comments. An unclosed block comment is left in place, where no token can
start. -/
def skipTrivia (cs : List Char) : (fuel : Nat) → List Char
  | 0 => cs
  | fuel + 1 =>
    match cs with
    | '/' :: '*' :: body =>
      match afterBlockComment body with
      | some rest => skipTrivia rest fuel
      | none => cs
    | '/' :: '/' :: body => skipTrivia (body.dropWhile (fun c => !isLineTerminator c)) fuel
    | c :: rest => if isBlank c then skipTrivia rest fuel else cs
    | [] => []

/-- Skips blanks and comments to the next token. -/
def trivia (cs : List Char) : List Char := skipTrivia cs (cs.length + 1)

/-- The rest after a fixed word. -/
def word (w : String) : Reader Unit := fun cs =>
  if w.toList.isPrefixOf cs then some ((), cs.drop w.length) else none

/-- The value of a hexadecimal digit. -/
def hexDigit? (c : Char) : Option Nat :=
  if '0' ≤ c && c ≤ '9' then some (c.toNat - '0'.toNat)
  else if 'a' ≤ c && c ≤ 'f' then some (c.toNat - 'a'.toNat + 10)
  else if 'A' ≤ c && c ≤ 'F' then some (c.toNat - 'A'.toNat + 10)
  else none

/-- The value of a run of hexadecimal digits. -/
def hexValue (ds : List Char) : Nat :=
  ds.foldl (fun acc c => 16 * acc + (hexDigit? c).getD 0) 0

/-- Exactly `n` hexadecimal digits and their value. -/
def hexDigits (n : Nat) : Reader Nat := fun cs =>
  let ds := cs.take n
  if ds.length == n && ds.all (fun c => (hexDigit? c).isSome) then some (hexValue ds, cs.drop n)
  else none

/-! ## Strings -/

/-- The character of a one-letter escape. -/
def singleEscape? (c : Char) : Option Char :=
  match c with
  | '\'' => some '\'' | '"' => some '"' | '\\' => some '\\'
  | 'b' => some '\x08' | 'f' => some '\x0C' | 'n' => some '\n'
  | 'r' => some '\r' | 't' => some '\t' | 'v' => some '\x0B'
  | _ => none

/-- Whether a code point is a leading or trailing surrogate. -/
def isHighSurrogate (n : Nat) : Bool := 0xD800 ≤ n && n ≤ 0xDBFF
def isLowSurrogate (n : Nat) : Bool := 0xDC00 ≤ n && n ≤ 0xDFFF

/-- The character of a surrogate pair. The pair's offset bit for U+10000 is set rather than
added, `((hi - 0xD800) << 10) | ((lo - 0xDC00) + 0x10000)`: a leading surrogate whose offset
has bit 6 set gives the same character as the one without it. -/
def surrogatePair (hi lo : Nat) : Nat := ((hi - 0xD800) * 0x400) ||| (lo - 0xDC00 + 0x10000)

/-- Skips line continuations, a backslash and a line end each. -/
def skipContinuations (cs : List Char) : (fuel : Nat) → List Char
  | 0 => cs
  | fuel + 1 =>
    match cs with
    | '\\' :: '\r' :: '\n' :: rest => skipContinuations rest fuel
    | '\\' :: c :: rest => if isLineTerminator c then skipContinuations rest fuel else cs
    | _ => cs

/-- What a `\u` escape adds: one character, two escapes when they form a surrogate pair. A lone
surrogate is refused. In a string (`inString`) line continuations may stand between the two
escapes of a pair, since they add nothing. -/
def unicodeEscape (inString : Bool) : Reader Char := fun cs => do
  let (n, rest) ← hexDigits 4 cs
  if isHighSurrogate n then
    let rest := if inString then skipContinuations rest (rest.length + 1) else rest
    match rest with
    | '\\' :: 'u' :: more =>
      let (m, rest) ← hexDigits 4 more
      if isLowSurrogate m then pure (Char.ofNat (surrogatePair n m), rest)
      else none
    | _ => none
  else if isLowSurrogate n then none
  else pure (Char.ofNat n, rest)

/-- What follows a backslash in a string: the characters it stands for (none for a line
continuation). -/
def escapeBody : Reader (List Char) := fun cs =>
  match cs with
  | [] => none
  | '\r' :: '\n' :: rest => some ([], rest)
  | c :: rest =>
    if isLineTerminator c then some ([], rest)
    else match singleEscape? c with
      | some e => some ([e], rest)
      | none =>
        if c == '0' then some (['\x00'], rest)
        else if c == 'x' then (hexDigits 2 rest).map fun (n, r) => ([Char.ofNat n], r)
        else if c == 'u' then (unicodeEscape true rest).map fun (ch, r) => ([ch], r)
        else if '1' ≤ c && c ≤ '9' then none
        else some ([c], rest)

/-- The body of a string up to its closing quote. -/
def stringBody (quote : Char) (acc : List Char) (cs : List Char) : (fuel : Nat) →
    Option (String × List Char)
  | 0 => none
  | fuel + 1 =>
    match cs with
    | [] => none
    | c :: rest =>
      if c == quote then some (String.ofList acc.reverse, rest)
      else if c == '\\' then
        match escapeBody rest with
        | some (out, more) => stringBody quote (out.reverse ++ acc) more fuel
        | none => none
      else if isLineTerminator c then none
      else stringBody quote (c :: acc) rest fuel

/-- A string in double or single quotes. -/
def string : Reader String := fun cs =>
  match cs with
  | q :: rest => if q == '"' || q == '\'' then stringBody q [] rest (rest.length + 1) else none
  | [] => none

/-! ## Identifiers -/

/-- The characters of an identifier after its first, each a character of the class or a `\u`
escape, which stands for any character. -/
def identifierRest (acc : List Char) (cs : List Char) : (fuel : Nat) →
    Option (List Char × List Char)
  | 0 => some (acc, cs)
  | fuel + 1 =>
    match cs with
    | '\\' :: 'u' :: rest => do
      let (c, more) ← unicodeEscape false rest
      identifierRest (c :: acc) more fuel
    | c :: rest => if isIdentifierPart c then identifierRest (c :: acc) rest fuel else some (acc, cs)
    | [] => some (acc, [])

/-- An identifier, its escapes read. -/
def identifier : Reader String := fun cs => do
  let (first, rest) ← match cs with
    | '\\' :: 'u' :: rest => unicodeEscape false rest
    | c :: rest => if isIdentifierStart c then some (c, rest) else none
    | [] => none
  let (all, rest) ← identifierRest [first] rest (rest.length + 1)
  pure (String.ofList all.reverse, rest)

/-! ## Numbers -/

/-- Whether a character is a decimal digit. -/
def isDigit (c : Char) : Bool := '0' ≤ c && c ≤ '9'

/-- The decimal value of a run of digits. -/
def digitValue (ds : List Char) : Nat :=
  ds.foldl (fun acc c => 10 * acc + (c.toNat - '0'.toNat)) 0

/-- An exponent part `e`, an optional sign and digits, as written. -/
def exponentPart : Reader (List Char) := fun cs =>
  match cs with
  | e :: rest =>
    if e == 'e' || e == 'E' then
      let (sign, rest) := match rest with
        | s :: more => if s == '+' || s == '-' then ([s], more) else ([], rest)
        | [] => ([], [])
      let ds := rest.takeWhile isDigit
      if ds.isEmpty then none else some (e :: sign ++ ds, rest.drop ds.length)
    else none
  | [] => none

/-- An optional exponent part. -/
def optExponent (cs : List Char) : List Char × List Char :=
  (exponentPart cs).getD ([], cs)

/-- A decimal integer part: `0` alone or digits not starting with `0`. -/
def integerPart : Reader (List Char) := fun cs =>
  match cs with
  | '0' :: rest => some (['0'], rest)
  | c :: _ => if isDigit c then let ds := cs.takeWhile isDigit; some (ds, cs.drop ds.length)
    else none
  | [] => none

/-- A decimal literal: an integer part with an optional fraction, or a fraction alone, each
with an optional exponent. -/
def decimalLiteral : Reader (List Char) := fun cs =>
  match integerPart cs with
  | some (ip, '.' :: rest) =>
    let fs := rest.takeWhile isDigit
    let (ex, rest) := optExponent (rest.drop fs.length)
    some (ip ++ '.' :: fs ++ ex, rest)
  | some (ip, rest) =>
    let (ex, rest) := optExponent rest
    some (ip ++ ex, rest)
  | none =>
    match cs with
    | '.' :: rest =>
      let fs := rest.takeWhile isDigit
      if fs.isEmpty then none
      else
        let (ex, rest) := optExponent (rest.drop fs.length)
        some ('.' :: fs ++ ex, rest)
    | _ => none

/-- The text of a number token: a sign, then hexadecimal digits, a decimal literal,
`Infinity` or `NaN`. -/
def numberToken : Reader (List Char) := fun cs =>
  let (sign, body) := match cs with
    | s :: rest => if s == '+' || s == '-' then ([s], rest) else ([], cs)
    | [] => ([], [])
  let hex : Option (List Char × List Char) := match body with
    | '0' :: x :: rest =>
      if x == 'x' || x == 'X' then
        let ds := rest.takeWhile fun c => (hexDigit? c).isSome
        if ds.isEmpty then none else some ('0' :: x :: ds, rest.drop ds.length)
      else none
    | _ => none
  let lit : Option (List Char × List Char) := match hex with
    | some r => some r
    | none => match decimalLiteral body with
      | some r => some r
      | none => match word "Infinity" body with
        | some (_, rest) => some ("Infinity".toList, rest)
        | none => match word "NaN" body with
          | some (_, rest) => some ("NaN".toList, rest)
          | none => none
  lit.map fun (t, rest) => (sign ++ t, rest)

/-- The least and greatest 64-bit signed integers, `-2^63` and `2^63 - 1`. -/
def i64Min : Int := -9223372036854775808
def i64Max : Int := 9223372036854775807

/-- Reads a signed decimal integer text that must fit in 64 signed bits. -/
def decimalInteger (t : List Char) : Option Int :=
  let (negative, ds) := match t with
    | '-' :: ds => (true, ds)
    | '+' :: ds => (false, ds)
    | _ => (false, t)
  if ds.isEmpty || !ds.all isDigit then none
  else
    let v : Int := if negative then -(digitValue ds : Int) else digitValue ds
    if i64Min ≤ v && v ≤ i64Max then some v else none

/-- The double a decimal literal text stands for; none past the largest double, and none for a
signed hexadecimal literal, which is no decimal text. -/
def decimalDouble (t : List Char) : Option Float :=
  let (negative, body) := match t with
    | '-' :: ds => (true, ds)
    | '+' :: ds => (false, ds)
    | _ => (false, t)
  if body.contains 'x' || body.contains 'X' then none else
  let whole := body.takeWhile isDigit
  let rest := body.drop whole.length
  let (frac, rest) := match rest with
    | '.' :: more => let fs := more.takeWhile isDigit; (fs, more.drop fs.length)
    | _ => ([], rest)
  let exp : Int := match rest with
    | _ :: '-' :: ds => -(digitValue ds : Int)
    | _ :: '+' :: ds => digitValue ds
    | _ :: ds => digitValue ds
    | [] => 0
  Decimal.nearestDouble negative (digitValue (whole ++ frac)) (exp - frac.length)

/-- The value of a number token: an integer when it has neither point nor exponent (a
hexadecimal one fitting in 32 unsigned bits, a decimal one in 64 signed bits), `null` for
`Infinity`, `-Infinity`, `NaN` and `-NaN`, else a finite double. The forms `+Infinity` and
`+NaN` count as integer texts, and so are refused. -/
def numberValue (t : List Char) : Option Value :=
  let s := String.ofList t
  let isHex := t.length > 2 && (t.take 2 == ['0', 'x'] || t.take 2 == ['0', 'X'])
  let special := s == "Infinity" || s == "-Infinity" || s == "NaN" || s == "-NaN"
  let isInt := !t.contains '.' && (isHex || (!t.contains 'e' && !t.contains 'E')) && !special
  if isInt then
    if isHex then
      let v := hexValue (t.drop 2)
      if v < 4294967296 then some (Value.int v) else none
    else (decimalInteger t).map Value.int
  else if special then some .null
  else (decimalDouble t).map Value.float

/-! ## Values -/

mutual

/-- A value: `null`, a boolean, a string, a number, an object or an array. -/
def value (cs : List Char) : (fuel : Nat) → Option (Value × List Char)
  | 0 => none
  | fuel + 1 =>
    match cs with
    | '{' :: rest => members (trivia rest) [] fuel
    | '[' :: rest => items (trivia rest) [] fuel
    | _ =>
      match word "null" cs with
      | some (_, rest) => some (.null, rest)
      | none =>
      match word "true" cs with
      | some (_, rest) => some (.bool true, rest)
      | none =>
      match word "false" cs with
      | some (_, rest) => some (.bool false, rest)
      | none =>
      match string cs with
      | some (s, rest) => some (.str s, rest)
      | none => do
        let (t, rest) ← numberToken cs
        let v ← numberValue t
        pure (v, rest)

/-- The members of an object after its opening brace (and any blanks). A closing brace may
come first, after a member, or after a trailing comma. -/
def members (cs : List Char) (acc : List (String × Value)) :
    (fuel : Nat) → Option (Value × List Char)
  | 0 => none
  | fuel + 1 =>
    match cs with
    | '}' :: rest => some (.obj acc, rest)
    | _ => do
      let (k, rest) ← match string cs with
        | some r => some r
        | none => identifier cs
      let rest := trivia rest
      let rest ← match rest with
        | ':' :: more => some (trivia more)
        | _ => none
      let (v, rest) ← value rest fuel
      let acc := setMember k v acc
      match trivia rest with
      | ',' :: more => members (trivia more) acc fuel
      | '}' :: more => some (.obj acc, more)
      | _ => none

/-- The items of an array after its opening bracket (and any blanks). -/
def items (cs : List Char) (acc : List Value) :
    (fuel : Nat) → Option (Value × List Char)
  | 0 => none
  | fuel + 1 =>
    match cs with
    | ']' :: rest => some (.arr acc.reverse, rest)
    | _ => do
      let (v, rest) ← value cs fuel
      match trivia rest with
      | ',' :: more => items (trivia more) (v :: acc) fuel
      | ']' :: more => some (.arr (v :: acc).reverse, more)
      | _ => none

end

/-- Reads a whole JSON5 document, or none when it is not one. -/
def read (text : String) : Option Value := do
  let cs := trivia text.toList
  let (v, rest) ← value cs (2 * cs.length + 2)
  if (trivia rest).isEmpty then some v else none

end LiveSession.Json5
