import LiveSession.Json.Value
/-!
# Reading JSON text

`readValue` reads one JSON document from UTF-8 bytes, strictly: no comments, no trailing commas,
no leading zeros, only the escapes of the JSON grammar, surrogate escapes only in pairs, and
containers nested fewer than 128 deep.

Numbers are read the way a fast single-pass reader does. Digits accumulate into a 64-bit
significand; the digits that no longer fit are dropped, each one dropped before the point
raising the decimal exponent. A number with neither point nor exponent is an integer when it fits
(a non-negative one below `2^64`, a negative one down to `-2^63`; `-0` is the float `-0.0`), and
a float otherwise. A float is the significand converted to binary and then multiplied or divided
by a power of ten from a table up to `10^308`, dividing by `10^308` repeatedly when the exponent
lies further below; a product that overflows is the error "number out of range".

Every error carries the line (from one) and the byte column at which it was noticed: either the
position after the bytes already consumed, or one byte further when the offending byte was only
looked at.
-/

namespace LiveSession.Json

/-- What went wrong while reading. -/
inductive Fault where
  | eofWhileParsingList
  | eofWhileParsingObject
  | eofWhileParsingString
  | eofWhileParsingValue
  | expectedColon
  | expectedListCommaOrEnd
  | expectedObjectCommaOrEnd
  | expectedSomeIdent
  | expectedSomeValue
  | invalidEscape
  | invalidNumber
  | numberOutOfRange
  | controlCharacterWhileParsingString
  | keyMustBeAString
  | loneLeadingSurrogateInHexEscape
  | trailingComma
  | trailingCharacters
  | unexpectedEndOfHexEscape
  | recursionLimitExceeded
  deriving Repr, DecidableEq

/-- The wording of a fault. -/
def Fault.text : Fault → String
  | .eofWhileParsingList => "EOF while parsing a list"
  | .eofWhileParsingObject => "EOF while parsing an object"
  | .eofWhileParsingString => "EOF while parsing a string"
  | .eofWhileParsingValue => "EOF while parsing a value"
  | .expectedColon => "expected `:`"
  | .expectedListCommaOrEnd => "expected `,` or `]`"
  | .expectedObjectCommaOrEnd => "expected `,` or `\x7d`"
  | .expectedSomeIdent => "expected ident"
  | .expectedSomeValue => "expected value"
  | .invalidEscape => "invalid escape"
  | .invalidNumber => "invalid number"
  | .numberOutOfRange => "number out of range"
  | .controlCharacterWhileParsingString =>
      "control character (\\u0000-\\u001F) found while parsing a string"
  | .keyMustBeAString => "key must be a string"
  | .loneLeadingSurrogateInHexEscape => "lone leading surrogate in hex escape"
  | .trailingComma => "trailing comma"
  | .trailingCharacters => "trailing characters"
  | .unexpectedEndOfHexEscape => "unexpected end of hex escape"
  | .recursionLimitExceeded => "recursion limit exceeded"

/-- A reading error and where it was noticed. -/
structure ReadError where
  fault : Fault
  line : Nat
  column : Nat
  deriving Repr, DecidableEq

/-- The error as a message: the fault, then `at line L column C`. -/
def ReadError.text (e : ReadError) : String :=
  e.fault.text ++ " at line " ++ toString e.line ++ " column " ++ toString e.column

/-- The unread bytes and the position reached. -/
structure Cursor where
  rest : List UInt8
  line : Nat
  column : Nat

namespace Cursor

/-- A cursor at the start of a text. -/
def start (bytes : List UInt8) : Cursor := ⟨bytes, 1, 0⟩

/-- The next byte, not consumed. -/
def peek (c : Cursor) : Option UInt8 := c.rest.head?

/-- Consumes one byte. -/
def next (c : Cursor) : Cursor :=
  match c.rest with
  | [] => c
  | b :: bs => if b == 10 then ⟨bs, c.line + 1, 0⟩ else ⟨bs, c.line, c.column + 1⟩

/-- Consumes `n` bytes. -/
def skip (c : Cursor) : Nat → Cursor
  | 0 => c
  | n + 1 => (c.next).skip n

/-- An error at the position reached. -/
def fail (c : Cursor) (f : Fault) : ReadError := ⟨f, c.line, c.column⟩

/-- An error one byte further than the position reached, as when the next byte was looked at. -/
def failAhead (c : Cursor) (f : Fault) : ReadError :=
  match c.rest with
  | [] => ⟨f, c.line, c.column⟩
  | b :: _ => if b == 10 then ⟨f, c.line + 1, 0⟩ else ⟨f, c.line, c.column + 1⟩

/-- Skips spaces, tabs, newlines and carriage returns. -/
def skipBlank (c : Cursor) : Cursor :=
  go c c.rest.length
where
  go (c : Cursor) : Nat → Cursor
    | 0 => c
    | n + 1 => match c.peek with
      | some b => if b == 32 || b == 10 || b == 9 || b == 13 then go c.next n else c
      | none => c

end Cursor

/-- What a reading step yields: a value and the cursor after it, or an error. -/
abbrev Step (α : Type) := Except ReadError (α × Cursor)

/-- Whether a byte is an ASCII digit. -/
def isDigit (b : UInt8) : Bool := 48 ≤ b && b ≤ 57

/-- The largest 64-bit unsigned integer, `2^64 - 1`. -/
def u64Max : Nat := 18446744073709551615

/-- The largest 32-bit signed integer, `2^31 - 1`. -/
def i32Max : Int := 2147483647

/-- Clamps to the 32-bit signed range, as saturating arithmetic does. -/
def saturate32 (i : Int) : Int := max (-2147483648) (min i32Max i)

/-- The powers of ten `10^0 … 10^308` as doubles. -/
def pow10 (k : Nat) : Float := Float.ofScientific 1 false k

/-- Scales a significand by a power of ten as the reader does: one multiplication or division
by a tabled power, after dividing by `10^308` while the exponent lies below the table. -/
def scaleFloat (f : Float) (exponent : Int) : (fuel : Nat) → Option Float
  | 0 => some f
  | fuel + 1 =>
    if exponent.natAbs ≤ 308 then
      if 0 ≤ exponent then
        let g := f * pow10 exponent.toNat
        if g.isInf then none else some g
      else some (f / pow10 exponent.natAbs)
    else if f == 0 then some f
    else if 0 ≤ exponent then none
    else scaleFloat (f / pow10 308) (exponent + 308) fuel

/-- The float `±significand · 10^exponent`, or the "number out of range" error. -/
def floatOfParts (c : Cursor) (positive : Bool) (significand : Nat) (exponent : Int) :
    Step Number :=
  match scaleFloat (Float.ofNat significand) exponent 8000000 with
  | some f => .ok (.float (if positive then f else -f), c)
  | none => .error (c.fail .numberOutOfRange)

/-- Consumes a run of digits. -/
def skipDigits (c : Cursor) : (fuel : Nat) → Cursor
  | 0 => c
  | fuel + 1 => match c.peek with
    | some b => if isDigit b then skipDigits c.next fuel else c
    | none => c

/-- Reads the exponent after `e` or `E` (the cursor is on the letter). -/
def readExponent (c : Cursor) (positive : Bool) (significand : Nat) (start : Int) : Step Number :=
  let c := c.next
  let (positiveExp, c) := match c.peek with
    | some 43 => (true, c.next)
    | some 45 => (false, c.next)
    | _ => (true, c)
  match c.peek with
  | none => .error (c.fail .eofWhileParsingValue)
  | some b =>
    let c := c.next
    if !isDigit b then .error (c.fail .invalidNumber)
    else
      let rec digits (c : Cursor) (exp : Nat) : (fuel : Nat) → Step Number
        | 0 => .error (c.fail .invalidNumber)
        | fuel + 1 => match c.peek with
          | some d =>
            if isDigit d then
              let c := c.next
              let e := exp * 10 + (d - 48).toNat
              if (e : Int) > i32Max then
                if significand != 0 && positiveExp then .error (c.fail .numberOutOfRange)
                else .ok (.float (if positive then 0.0 else -0.0), skipDigits c c.rest.length)
              else digits c e fuel
            else finish c positiveExp exp
          | none => finish c positiveExp exp
      digits c (b - 48).toNat (c.rest.length + 1)
where
  finish (c : Cursor) (positiveExp : Bool) (exp : Nat) : Step Number :=
    let final := if positiveExp then saturate32 (start + exp) else saturate32 (start - exp)
    floatOfParts c positive significand final

/-- After the digits that fit, whether an exponent follows. -/
def afterDigits (c : Cursor) (positive : Bool) (significand : Nat) (exponent : Int) :
    Step Number :=
  match c.peek with
  | some 101 | some 69 => readExponent c positive significand exponent
  | _ => floatOfParts c positive significand exponent

/-- Reads the fraction after the point (the cursor is on the point). -/
def readFraction (c : Cursor) (positive : Bool) (significand : Nat) (before : Int) :
    Step Number :=
  go c.next significand 0 (c.rest.length + 1)
where
  go (c : Cursor) (sig : Nat) (after : Int) : (fuel : Nat) → Step Number
    | 0 => .error (c.fail .invalidNumber)
    | fuel + 1 => match c.peek with
      | some d =>
        if isDigit d then
          let s := sig * 10 + (d - 48).toNat
          if s > u64Max then afterDigits (skipDigits c c.rest.length) positive sig (before + after)
          else go c.next s (after - 1) fuel
        else done c sig after
      | none => done c sig after
  done (c : Cursor) (sig : Nat) (after : Int) : Step Number :=
    if after == 0 then
      match c.peek with
      | some _ => .error (c.failAhead .invalidNumber)
      | none => .error (c.failAhead .eofWhileParsingValue)
    else afterDigits c positive sig (before + after)

/-- Reads the digits of an integer part that no longer fit: each raises the exponent. -/
def readLongInteger (c : Cursor) (positive : Bool) (significand : Nat) : Step Number :=
  go c 0 (c.rest.length + 1)
where
  go (c : Cursor) (exponent : Int) : (fuel : Nat) → Step Number
    | 0 => .error (c.fail .invalidNumber)
    | fuel + 1 => match c.peek with
      | some 46 => readFraction c positive significand exponent
      | some 101 | some 69 => readExponent c positive significand exponent
      | some d => if isDigit d then go c.next (exponent + 1) fuel
          else floatOfParts c positive significand exponent
      | none => floatOfParts c positive significand exponent

/-- After the integer digits: a fraction, an exponent, or the end of an integer. -/
def readNumberTail (c : Cursor) (positive : Bool) (significand : Nat) : Step Number :=
  match c.peek with
  | some 46 => readFraction c positive significand 0
  | some 101 | some 69 => readExponent c positive significand 0
  | _ =>
    if positive then .ok (.int significand, c)
    else if significand == 0 || significand > 9223372036854775808 then
      .ok (.float (-(Float.ofNat significand)), c)
    else .ok (.int (-(significand : Int)), c)

/-- Reads a number whose sign is already consumed. -/
def readNumber (c : Cursor) (positive : Bool) : Step Number :=
  match c.peek with
  | none => .error (c.fail .eofWhileParsingValue)
  | some b =>
    let c := c.next
    if b == 48 then
      match c.peek with
      | some d => if isDigit d then .error (c.failAhead .invalidNumber)
          else readNumberTail c positive 0
      | none => readNumberTail c positive 0
    else if isDigit b then
      let rec go (c : Cursor) (sig : Nat) : (fuel : Nat) → Step Number
        | 0 => .error (c.fail .invalidNumber)
        | fuel + 1 => match c.peek with
          | some d =>
            if isDigit d then
              let s := sig * 10 + (d - 48).toNat
              if s > u64Max then readLongInteger c positive sig
              else go c.next s fuel
            else readNumberTail c positive sig
          | none => readNumberTail c positive sig
      go c (b - 48).toNat (c.rest.length + 1)
    else .error (c.fail .invalidNumber)

/-- The value of a hex digit. -/
def hexValue (b : UInt8) : Option Nat :=
  if 48 ≤ b && b ≤ 57 then some (b - 48).toNat
  else if 97 ≤ b && b ≤ 102 then some ((b - 97).toNat + 10)
  else if 65 ≤ b && b ≤ 70 then some ((b - 65).toNat + 10)
  else none

/-- Reads four hex digits. -/
def readHex4 (c : Cursor) : Step Nat :=
  match c.rest with
  | a :: b :: d :: e :: _ =>
    let c := c.skip 4
    match hexValue a, hexValue b, hexValue d, hexValue e with
    | some x, some y, some z, some w => .ok (((x * 16 + y) * 16 + z) * 16 + w, c)
    | _, _, _, _ => .error (c.fail .invalidEscape)
  | _ => .error ((c.skip c.rest.length).fail .eofWhileParsingString)

/-- The UTF-8 bytes of a code point. -/
def utf8Bytes (n : Nat) : List UInt8 :=
  (String.singleton (Char.ofNat n)).toUTF8.toList

/-- Reads the rest of a `\u` escape, pairing a leading surrogate with a trailing one. -/
def readUnicodeEscape (c : Cursor) : Except ReadError (List UInt8 × Cursor) := do
  let (n, c) ← readHex4 c
  if 0xDC00 ≤ n && n ≤ 0xDFFF then throw (c.fail .loneLeadingSurrogateInHexEscape)
  if n < 0xD800 || n > 0xDBFF then return (utf8Bytes n, c)
  match c.peek with
  | none => throw (c.fail .eofWhileParsingString)
  | some b =>
    if b != 92 then throw (c.next.fail .unexpectedEndOfHexEscape)
    let c := c.next
    match c.peek with
    | none => throw (c.fail .eofWhileParsingString)
    | some u =>
      if u != 117 then throw (c.next.fail .unexpectedEndOfHexEscape)
      let (n2, c) ← readHex4 c.next
      if n2 < 0xDC00 || n2 > 0xDFFF then throw (c.fail .loneLeadingSurrogateInHexEscape)
      return (utf8Bytes (((n - 0xD800) * 1024 + (n2 - 0xDC00)) + 0x10000), c)

/-- Reads an escape after its backslash. -/
def readEscape (c : Cursor) : Step (List UInt8) :=
  match c.peek with
  | none => .error (c.fail .eofWhileParsingString)
  | some b =>
    let c := c.next
    if b == 34 then .ok ([34], c)
    else if b == 92 then .ok ([92], c)
    else if b == 47 then .ok ([47], c)
    else if b == 98 then .ok ([8], c)
    else if b == 102 then .ok ([12], c)
    else if b == 110 then .ok ([10], c)
    else if b == 114 then .ok ([13], c)
    else if b == 116 then .ok ([9], c)
    else if b == 117 then readUnicodeEscape c
    else .error (c.fail .invalidEscape)

/-- Decodes UTF-8 bytes known to be well formed. -/
def decodeUtf8 (bytes : List UInt8) : String :=
  (String.fromUTF8? ⟨bytes.toArray⟩).getD ""

/-- Reads a string body after its opening quote. -/
def readString (c : Cursor) : Step String :=
  go c #[] (c.rest.length + 1)
where
  go (c : Cursor) (acc : Array UInt8) : (fuel : Nat) → Step String
    | 0 => .error (c.fail .eofWhileParsingString)
    | fuel + 1 => match c.peek with
      | none => .error (c.fail .eofWhileParsingString)
      | some b =>
        if b == 34 then .ok (decodeUtf8 acc.toList, c.next)
        else if b == 92 then
          match readEscape c.next with
          | .ok (bs, c') => go c' (acc ++ bs.toArray) fuel
          | .error e => .error e
        else if b < 32 then .error (c.next.fail .controlCharacterWhileParsingString)
        else go c.next (acc.push b) fuel

/-- Reads the rest of a literal word. -/
def readWord (c : Cursor) : List UInt8 → Except ReadError Cursor
  | [] => .ok c
  | w :: ws => match c.peek with
    | none => .error (c.fail .eofWhileParsingValue)
    | some b => if b == w then readWord c.next ws else .error (c.next.fail .expectedSomeIdent)

mutual

/-- Reads one value; `depth` is how many more containers may be opened. -/
def readAny (depth : Nat) (c : Cursor) : (fuel : Nat) → Step Value
  | 0 => .error (c.fail .recursionLimitExceeded)
  | fuel + 1 =>
    let c := c.skipBlank
    match c.peek with
    | none => .error (c.failAhead .eofWhileParsingValue)
    | some b =>
      if b == 110 then (readWord c.next [117, 108, 108]).map fun c => (.null, c)
      else if b == 116 then (readWord c.next [114, 117, 101]).map fun c => (.bool true, c)
      else if b == 102 then (readWord c.next [97, 108, 115, 101]).map fun c => (.bool false, c)
      else if b == 45 then (readNumber c.next false).map fun (n, c) => (.num n, c)
      else if isDigit b then (readNumber c true).map fun (n, c) => (.num n, c)
      else if b == 34 then (readString c.next).map fun (s, c) => (.str s, c)
      else if b == 91 then
        if depth ≤ 1 then .error (c.failAhead .recursionLimitExceeded)
        else readItems (depth - 1) c.next true #[] fuel
      else if b == 123 then
        if depth ≤ 1 then .error (c.failAhead .recursionLimitExceeded)
        else readMembers (depth - 1) c.next true [] fuel
      else .error (c.failAhead .expectedSomeValue)

/-- Reads array elements up to and including the closing bracket. -/
def readItems (depth : Nat) (c : Cursor) (first : Bool) (acc : Array Value) :
    (fuel : Nat) → Step Value
  | 0 => .error (c.fail .recursionLimitExceeded)
  | fuel + 1 =>
    let c := c.skipBlank
    match c.peek with
    | none => .error (c.failAhead .eofWhileParsingList)
    | some 93 => .ok (.arr acc.toList, c.next)
    | some b =>
      let start : Except ReadError Cursor :=
        if b == 44 && !first then
          let c := c.next.skipBlank
          match c.peek with
          | some 93 => .error (c.failAhead .trailingComma)
          | none => .error (c.failAhead .eofWhileParsingValue)
          | some _ => .ok c
        else if first then .ok c
        else .error (c.failAhead .expectedListCommaOrEnd)
      match start with
      | .error e => .error e
      | .ok c =>
        match readAny depth c fuel with
        | .ok (v, c) => readItems depth c false (acc.push v) fuel
        | .error e => .error e

/-- Reads object members up to and including the closing brace. -/
def readMembers (depth : Nat) (c : Cursor) (first : Bool) (acc : List (String × Value)) :
    (fuel : Nat) → Step Value
  | 0 => .error (c.fail .recursionLimitExceeded)
  | fuel + 1 =>
    let c := c.skipBlank
    match c.peek with
    | none => .error (c.failAhead .eofWhileParsingObject)
    | some 125 => .ok (.obj acc, c.next)
    | some b =>
      let start : Except ReadError Cursor :=
        if b == 44 && !first then .ok c.next.skipBlank
        else if first then .ok c
        else .error (c.failAhead .expectedObjectCommaOrEnd)
      match start with
      | .error e => .error e
      | .ok c =>
        match c.peek with
        | none => .error (c.failAhead .eofWhileParsingValue)
        | some 125 => .error (c.failAhead .trailingComma)
        | some 34 =>
          match readString c.next with
          | .error e => .error e
          | .ok (key, c) =>
            let c := c.skipBlank
            match c.peek with
            | none => .error (c.failAhead .eofWhileParsingObject)
            | some 58 =>
              match readAny depth c.next fuel with
              | .ok (v, c) => readMembers depth c false (setMember key v acc) fuel
              | .error e => .error e
            | some _ => .error (c.failAhead .expectedColon)
        | some _ => .error (c.failAhead .keyMustBeAString)

end

/-- Reads one JSON document from bytes; only blanks may follow it. -/
def readBytes (bytes : List UInt8) : Except ReadError Value :=
  match readAny 128 (Cursor.start bytes) (2 * bytes.length + 2) with
  | .error e => .error e
  | .ok (v, c) =>
    let c := c.skipBlank
    match c.peek with
    | some _ => .error (c.failAhead .trailingCharacters)
    | none => .ok v

/-- Reads one JSON document from a string. -/
def readValue (s : String) : Except ReadError Value :=
  readBytes s.toUTF8.toList

end LiveSession.Json
