import LiveSession.Decimal.Nearest
import LiveSession.Toml.Value
/-!
# Reading TOML documents

`readDocument` reads a TOML 1.0 document into its root table, or fails. It follows the grammar
strictly: bare keys of letters, digits, `_` and `-`; the four kinds of strings with their
escapes; decimal, hexadecimal, octal and binary integers within 64 bits; floats; booleans;
date-times with range checks; arrays that may span lines; and inline tables on one line.

Tables follow the definition rules. A `[table]` header may define a table once, or take over a
table that an earlier header only created on its way; an `[[array]]` header appends a table to
an array of tables, and later headers and keys reach into its last element. A dotted key creates
tables on its way that no header may define later, and cannot reach into a table a header
defined. Inline tables and arrays are complete values that nothing may extend. A key is defined
at most once in its table.
-/

namespace LiveSession.Toml

/-- A table under construction: its entries, and whether it was only created on the way to
something else (`implicit`) and by a dotted key (`dotted`). -/
inductive Item where
  | value (v : Value)
  | table (implicit dotted : Bool) (entries : List (String × Item))
  | tables (elems : List (List (String × Item)))
  deriving Inhabited

/-- The entries of a table under construction. -/
abbrev Body := List (String × Item)

/-- How a table came to be: only created on the way, and by a dotted key. -/
structure Flags where
  implicit : Bool
  dotted : Bool

/-- Replaces the entry of a key in place. -/
def replaceEntry (k : String) (i : Item) : Body → Body
  | [] => []
  | (k', j) :: rest => if k' == k then (k', i) :: rest else (k', j) :: replaceEntry k i rest

/-- Applies `f` to the table at `path`, creating missing tables on the way; an array of tables
is entered at its last element. With `dotted`, only tables created on the way may be entered. -/
def modifyAt (dotted : Bool) (f : Flags → Body → Option (Flags × Body)) :
    List String → Flags → Body → Option (Flags × Body)
  | [], flags, body => f flags body
  | k :: ks, flags, body =>
    match body.lookup k with
    | none => do
      let (fl, b) ← modifyAt dotted f ks ⟨true, dotted⟩ []
      pure (flags, body ++ [(k, .table fl.implicit fl.dotted b)])
    | some (.value _) => none
    | some (.tables elems) => do
      let last ← elems.getLast?
      let (_, b) ← modifyAt dotted f ks ⟨false, false⟩ last
      pure (flags, replaceEntry k (.tables (elems.dropLast ++ [b])) body)
    | some (.table imp dot entries) =>
      if dotted && !imp then none
      else do
        let (fl, b) ← modifyAt dotted f ks ⟨imp, dot⟩ entries
        pure (flags, replaceEntry k (.table fl.implicit fl.dotted b) body)

mutual

/-- A finished item as a value. -/
def Item.toValue : Item → Value
  | .value v => v
  | .table _ _ entries => .table (bodyToValues entries)
  | .tables elems => .arr (tablesToValues elems)

/-- Finished entries as values. -/
def bodyToValues : Body → List (String × Value)
  | [] => []
  | (k, i) :: rest => (k, i.toValue) :: bodyToValues rest

/-- Finished tables of an array as values. -/
def tablesToValues : List Body → List Value
  | [] => []
  | b :: bs => .table (bodyToValues b) :: tablesToValues bs

end

/-- Whether a character may appear in a comment or a literal string. -/
def isTextChar (c : Char) : Bool := c == '\t' || (c.toNat ≥ 0x20 && c.toNat != 0x7f)

/-- Whether a character may appear in a bare key. -/
def isBareKeyChar (c : Char) : Bool := c.isAlphanum || c == '_' || c == '-'

/-- Skips spaces and tabs. -/
def skipSpace (cs : List Char) : List Char := cs.dropWhile fun c => c == ' ' || c == '\t'

/-- Skips a comment if one starts here, failing on a character comments may not hold. -/
def skipComment : List Char → Option (List Char)
  | '#' :: rest =>
    let body := rest.takeWhile (· != '\n')
    let body := if body.getLast? == some '\r' then body.dropLast else body
    if body.all isTextChar then some (rest.drop body.length) else none
  | cs => some cs

/-- Consumes a line end, or accepts the end of the text. -/
def lineEnd : List Char → Option (List Char)
  | [] => some []
  | '\n' :: rest => some rest
  | '\r' :: '\n' :: rest => some rest
  | _ => none

/-- The rest of a line after a statement: blanks, an optional comment and the line end. -/
def endOfStatement (cs : List Char) : Option (List Char) := do
  let cs ← skipComment (skipSpace cs)
  lineEnd cs

/-- The value of a hex digit. -/
def hexVal (c : Char) : Option Nat :=
  if '0' ≤ c && c ≤ '9' then some (c.toNat - 48)
  else if 'a' ≤ c && c ≤ 'f' then some (c.toNat - 87)
  else if 'A' ≤ c && c ≤ 'F' then some (c.toNat - 55)
  else none

/-- The number written by hex digits. -/
def hexNumber (cs : List Char) : Option Nat :=
  cs.foldlM (fun acc c => (hexVal c).map (acc * 16 + ·)) 0

/-- Reads the escape after a backslash in a basic string. -/
def readEscape : List Char → Option (Char × List Char)
  | 'b' :: r => some (Char.ofNat 8, r)
  | 't' :: r => some ('\t', r)
  | 'n' :: r => some ('\n', r)
  | 'f' :: r => some (Char.ofNat 12, r)
  | 'r' :: r => some ('\r', r)
  | '"' :: r => some ('"', r)
  | '\\' :: r => some ('\\', r)
  | 'u' :: r => do
    let n ← hexNumber (r.take 4)
    if r.length < 4 || (0xD800 ≤ n && n ≤ 0xDFFF) then none
    else some (Char.ofNat n, r.drop 4)
  | 'U' :: r => do
    let n ← hexNumber (r.take 8)
    if r.length < 8 || (0xD800 ≤ n && n ≤ 0xDFFF) || n > 0x10FFFF then none
    else some (Char.ofNat n, r.drop 8)
  | _ => none

/-- Whether a character may appear as it is in a basic string. -/
def isBasicChar (c : Char) : Bool := c != '"' && c != '\\' && isTextChar c

/-- Reads a one-line basic string after its opening quote. -/
def readBasic (acc : List Char) (cs : List Char) : (fuel : Nat) → Option (String × List Char)
  | 0 => none
  | fuel + 1 =>
    match cs with
    | [] => none
    | '"' :: rest => some (String.ofList acc.reverse, rest)
    | '\\' :: rest => do
      let (c, rest') ← readEscape rest
      readBasic (c :: acc) rest' fuel
    | c :: rest => if isBasicChar c then readBasic (c :: acc) rest fuel else none

/-- Reads a one-line literal string after its opening quote. -/
def readLiteral (cs : List Char) : Option (String × List Char) :=
  let body := cs.takeWhile (· != '\'')
  match cs.drop body.length with
  | '\'' :: rest => if body.all isTextChar then some (String.ofList body, rest) else none
  | _ => none

/-- Drops one line end at the start, as after the opening of a multi-line string. -/
def dropFirstNewline : List Char → List Char
  | '\n' :: rest => rest
  | '\r' :: '\n' :: rest => rest
  | cs => cs

/-- Skips the blanks and line ends after a line-ending backslash; at least one line end must
come before anything else. -/
def skipLineContinuation (cs : List Char) : Option (List Char) :=
  let afterSpace := skipSpace cs
  match lineEnd afterSpace with
  | some rest =>
    if afterSpace.isEmpty then none
    else some (rest.dropWhile fun c => c == ' ' || c == '\t' || c == '\n' || c == '\r')
  | none => none

/-- The number of quote characters `q` at the start. -/
def quoteRun (q : Char) (cs : List Char) : Nat := (cs.takeWhile (· == q)).length

/-- Reads a multi-line basic string body after its opening quotes. A line end inside the
body, `\n` or `\r\n`, is read as a single `\n`. -/
def readMlBasic (acc : List Char) (cs : List Char) : (fuel : Nat) → Option (String × List Char)
  | 0 => none
  | fuel + 1 =>
    match cs with
    | [] => none
    | '"' :: _ =>
      let n := quoteRun '"' cs
      if n < 3 then readMlBasic (List.replicate n '"' ++ acc) (cs.drop n) fuel
      else if n ≤ 5 then
        some (String.ofList (List.replicate (n - 3) '"' ++ acc).reverse, cs.drop n)
      else none
    | '\\' :: rest =>
      match skipLineContinuation rest with
      | some rest' => readMlBasic acc rest' fuel
      | none => do
        let (c, rest') ← readEscape rest
        readMlBasic (c :: acc) rest' fuel
    | '\r' :: '\n' :: rest => readMlBasic ('\n' :: acc) rest fuel
    | '\n' :: rest => readMlBasic ('\n' :: acc) rest fuel
    | c :: rest => if isBasicChar c then readMlBasic (c :: acc) rest fuel else none

/-- Reads a multi-line literal string body after its opening quotes; line ends read as
`\n` as in a basic one. -/
def readMlLiteral (acc : List Char) (cs : List Char) : (fuel : Nat) → Option (String × List Char)
  | 0 => none
  | fuel + 1 =>
    match cs with
    | [] => none
    | '\'' :: _ =>
      let n := quoteRun '\'' cs
      if n < 3 then readMlLiteral (List.replicate n '\'' ++ acc) (cs.drop n) fuel
      else if n ≤ 5 then
        some (String.ofList (List.replicate (n - 3) '\'' ++ acc).reverse, cs.drop n)
      else none
    | '\r' :: '\n' :: rest => readMlLiteral ('\n' :: acc) rest fuel
    | '\n' :: rest => readMlLiteral ('\n' :: acc) rest fuel
    | c :: rest => if isTextChar c then readMlLiteral (c :: acc) rest fuel else none

/-- Reads one key part: bare, basic-quoted or literal-quoted. -/
def readSimpleKey (cs : List Char) : Option (String × List Char) :=
  match cs with
  | '"' :: rest => readBasic [] rest (rest.length + 1)
  | '\'' :: rest => readLiteral rest
  | _ =>
    let k := cs.takeWhile isBareKeyChar
    if k.isEmpty then none else some (String.ofList k, cs.drop k.length)

/-- How deep a document may nest: a key of this many parts, or this many arrays and inline
tables inside each other, is refused. -/
def nestingLimit : Nat := 80

/-- Reads a dotted key: its parts in order. A key of `nestingLimit` parts or more is refused. -/
def readKey (cs : List Char) : Option (List String × List Char) :=
  (go [] cs (cs.length + 1)).bind fun (ks, rest) =>
    if ks.length < nestingLimit then some (ks, rest) else none
where
  go (acc : List String) (cs : List Char) : (fuel : Nat) → Option (List String × List Char)
    | 0 => none
    | fuel + 1 => do
      let (k, rest) ← readSimpleKey cs
      let after := skipSpace rest
      match after with
      | '.' :: more => go (k :: acc) (skipSpace more) fuel
      | _ => some ((k :: acc).reverse, rest)

/-- Whether a character is an ASCII digit. -/
def isDigit (c : Char) : Bool := '0' ≤ c && c ≤ '9'

/-- The digits of a run with single underscores between digits, if well formed. -/
def digitsWithUnderscores (ok : Char → Bool) (cs : List Char) : Option (List Char) :=
  match cs with
  | [] => none
  | c :: _ =>
    if !ok c || cs.getLast? == some '_' then none
    else
      let pairsOk := (cs.zip cs.tail).all fun (a, b) => !(a == '_' && b == '_')
      if pairsOk && cs.all (fun c => ok c || c == '_') then some (cs.filter (· != '_')) else none

/-- The value of digits in a base. -/
def digitsValue (base : Nat) (cs : List Char) : Nat :=
  cs.foldl (fun acc c => acc * base + ((hexVal c).getD 0)) 0

/-- The least 64-bit signed integer, `-2^63`. -/
def i64Min : Int := -9223372036854775808

/-- The largest 64-bit signed integer, `2^63 - 1`. -/
def i64Max : Int := 9223372036854775807

/-- Reads an integer token. -/
def integerOf (tok : List Char) : Option Int :=
  let inRange (i : Int) : Option Int := if i64Min ≤ i && i ≤ i64Max then some i else none
  match tok with
  | '0' :: 'x' :: rest => do inRange (digitsValue 16 (← digitsWithUnderscores (hexVal · |>.isSome) rest))
  | '0' :: 'o' :: rest => do inRange (digitsValue 8 (← digitsWithUnderscores (fun c => '0' ≤ c && c ≤ '7') rest))
  | '0' :: 'b' :: rest => do inRange (digitsValue 2 (← digitsWithUnderscores (fun c => c == '0' || c == '1') rest))
  | _ =>
    let (neg, body) := match tok with
      | '-' :: r => (true, r)
      | '+' :: r => (false, r)
      | r => (false, r)
    match body with
    | ['0'] => some 0
    | '0' :: _ => none
    | _ => do
      let ds ← digitsWithUnderscores isDigit body
      let n : Int := digitsValue 10 ds
      inRange (if neg then -n else n)

/-- Whether a token is a float: a decimal integer part, then a fraction, an exponent or both,
or `inf` or `nan` with an optional sign. -/
def isFloatToken (tok : List Char) : Bool :=
  let body := match tok with
    | '-' :: r => r
    | '+' :: r => r
    | r => r
  if body == ['i', 'n', 'f'] || body == ['n', 'a', 'n'] then true
  else
    let intPart := body.takeWhile fun c => isDigit c || c == '_'
    let rest := body.drop intPart.length
    let intOk := match intPart with
      | ['0'] => true
      | '0' :: _ => false
      | _ => (digitsWithUnderscores isDigit intPart).isSome
    let expOk (e : List Char) : Bool :=
      let e := match e with
        | '-' :: r => r
        | '+' :: r => r
        | r => r
      (digitsWithUnderscores isDigit e).isSome
    intOk && match rest with
      | '.' :: more =>
        let frac := more.takeWhile fun c => isDigit c || c == '_'
        let tail := more.drop frac.length
        (digitsWithUnderscores isDigit frac).isSome && match tail with
          | [] => true
          | c :: e => (c == 'e' || c == 'E') && expOk e
      | c :: e => (c == 'e' || c == 'E') && expOk e
      | [] => false

/-- The float a float token denotes, or none for a decimal one that rounds past the largest
double upward. A decimal float rounding past the largest double downward is negative infinity:
only the upward overflow is refused. -/
def floatOf (tok : List Char) : Option Float :=
  let clean := tok.filter (· != '_')
  let (neg, body) := match clean with
    | '-' :: r => (true, r)
    | '+' :: r => (false, r)
    | r => (false, r)
  if body == ['i', 'n', 'f'] then some (if neg then -(1.0 / 0.0) else 1.0 / 0.0)
  else if body == ['n', 'a', 'n'] then some (0.0 / 0.0)
  else
    let intPart := body.takeWhile isDigit
    let rest := body.drop intPart.length
    let (frac, rest) := match rest with
      | '.' :: more => (more.takeWhile isDigit, more.drop (more.takeWhile isDigit).length)
      | r => ([], r)
    let exp : Int := match rest with
      | _ :: e => match e with
        | '-' :: ds => -(digitsValue 10 ds : Int)
        | '+' :: ds => digitsValue 10 ds
        | ds => digitsValue 10 ds
      | [] => 0
    match Decimal.nearestDouble neg (digitsValue 10 (intPart ++ frac)) (exp - frac.length) with
    | some f => some f
    | none => if neg then some (-(1.0 / 0.0)) else none

/-- Exactly `n` digits at the start, as a number. -/
def fixedDigits (n : Nat) (cs : List Char) : Option (Nat × List Char) :=
  let ds := cs.take n
  if ds.length == n && ds.all isDigit then some (digitsValue 10 ds, cs.drop n) else none

/-- The days of a month. -/
def daysInMonth (year month : Nat) : Nat :=
  if month == 2 then
    if (year % 4 == 0 && year % 100 != 0) || year % 400 == 0 then 29 else 28
  else if month == 4 || month == 6 || month == 9 || month == 11 then 30
  else 31

/-- Reads `YYYY-MM-DD`. -/
def readDate (cs : List Char) : Option (List Char) := do
  let (y, cs) ← fixedDigits 4 cs
  let cs ← match cs with | '-' :: r => some r | _ => none
  let (m, cs) ← fixedDigits 2 cs
  let cs ← match cs with | '-' :: r => some r | _ => none
  let (d, cs) ← fixedDigits 2 cs
  if 1 ≤ m && m ≤ 12 && 1 ≤ d && d ≤ daysInMonth y m then some cs else none

/-- Reads `HH:MM:SS` with an optional fraction. -/
def readTime (cs : List Char) : Option (List Char) := do
  let (h, cs) ← fixedDigits 2 cs
  let cs ← match cs with | ':' :: r => some r | _ => none
  let (m, cs) ← fixedDigits 2 cs
  let cs ← match cs with | ':' :: r => some r | _ => none
  let (s, cs) ← fixedDigits 2 cs
  if h > 23 || m > 59 || s > 60 then none
  else match cs with
    | '.' :: r =>
      let ds := r.takeWhile isDigit
      if ds.isEmpty then none else some (r.drop ds.length)
    | _ => some cs

/-- Reads an optional time offset. -/
def readOffset (cs : List Char) : Option (List Char) :=
  match cs with
  | 'Z' :: r => some r
  | 'z' :: r => some r
  | c :: r =>
    if c == '+' || c == '-' then do
      let (h, r) ← fixedDigits 2 r
      let r ← match r with | ':' :: x => some x | _ => none
      let (m, r) ← fixedDigits 2 r
      if h > 23 || m > 59 then none else some r
    else some cs
  | [] => some cs

/-- Reads a date-time, local date, local date-time or local time, giving its text. -/
def readDateTime (cs : List Char) : Option (Value × List Char) :=
  let text (rest : List Char) : Value := .datetime (String.ofList (cs.take (cs.length - rest.length)))
  if (cs.drop 2).head? == some ':' then do
    let rest ← readTime cs
    some (text rest, rest)
  else do
    let rest ← readDate cs
    match rest with
    | c :: more =>
      if (c == 'T' || c == 't' || (c == ' ' && (more.drop 2).head? == some ':' &&
          (more.take 2).all isDigit)) then do
        let r ← readTime more
        let r ← readOffset r
        some (text r, r)
      else some (text rest, rest)
    | [] => some (text rest, rest)

/-- Whether a value may start like a date or time: digits then `-` at the fifth place or `:` at
the third. -/
def looksLikeDateTime (cs : List Char) : Bool :=
  ((cs.take 4).all isDigit && cs.length ≥ 5 && (cs.drop 4).head? == some '-') ||
  ((cs.take 2).all isDigit && cs.length ≥ 3 && (cs.drop 2).head? == some ':')

/-- Reads a number or boolean token, or a date-time. -/
def readScalar (cs : List Char) : Option (Value × List Char) :=
  if looksLikeDateTime cs then readDateTime cs
  else
    let tok := cs.takeWhile fun c => c.isAlphanum || c == '_' || c == '+' || c == '-' || c == '.'
    let rest := cs.drop tok.length
    if tok == ['t', 'r', 'u', 'e'] then some (.bool true, rest)
    else if tok == ['f', 'a', 'l', 's', 'e'] then some (.bool false, rest)
    else match integerOf tok with
      | some i => some (.int i, rest)
      | none => if isFloatToken tok then (floatOf tok).map fun f => (.float f, rest) else none

/-- Skips blanks, comments and line ends, as between array elements. -/
def skipArraySpace (cs : List Char) : (fuel : Nat) → Option (List Char)
  | 0 => some cs
  | fuel + 1 =>
    let cs := skipSpace cs
    match cs with
    | '#' :: _ => do
      let r ← skipComment cs
      match lineEnd r with
      | some r' => if r'.length < cs.length then skipArraySpace r' fuel else some r
      | none => none
    | '\n' :: r => skipArraySpace r fuel
    | '\r' :: '\n' :: r => skipArraySpace r fuel
    | _ => some cs

/-- Adds a key path and value to an inline table under construction. -/
def inlineInsert (path : List String) (v : Value) (body : Body) : Option Body :=
  match path.reverse with
  | [] => none
  | k :: revPrefix =>
    let pre := revPrefix.reverse
    let insert (fl : Flags) (b : Body) : Option (Flags × Body) :=
      if fl.dotted == pre.isEmpty then none
      else if (b.lookup k).isSome then none
      else some (fl, b ++ [(k, .value v)])
    (modifyInline pre insert ⟨false, false⟩ body).map (·.2)
where
  modifyInline : List String → (Flags → Body → Option (Flags × Body)) → Flags → Body →
      Option (Flags × Body)
    | [], f, flags, body => f flags body
    | k :: ks, f, flags, body =>
      match body.lookup k with
      | none => do
        let (fl, b) ← modifyInline ks f ⟨true, true⟩ []
        pure (flags, body ++ [(k, .table fl.implicit fl.dotted b)])
      | some (.table imp dot entries) => do
        let (fl, b) ← modifyInline ks f ⟨imp, dot⟩ entries
        pure (flags, replaceEntry k (.table fl.implicit fl.dotted b) body)
      | some _ => none

mutual

/-- Reads a value found inside `depth` arrays and inline tables; one more level of those must
stay below `nestingLimit`. -/
def readValue (depth : Nat) (cs : List Char) : (fuel : Nat) → Option (Value × List Char)
  | 0 => none
  | fuel + 1 =>
    match cs with
    | '"' :: '"' :: '"' :: rest =>
      let body := dropFirstNewline rest
      (readMlBasic [] body (body.length + 1)).map fun (s, r) => (.str s, r)
    | '"' :: rest => (readBasic [] rest (rest.length + 1)).map fun (s, r) => (.str s, r)
    | '\'' :: '\'' :: '\'' :: rest =>
      let body := dropFirstNewline rest
      (readMlLiteral [] body (body.length + 1)).map fun (s, r) => (.str s, r)
    | '\'' :: rest => (readLiteral rest).map fun (s, r) => (.str s, r)
    | '[' :: rest => if depth + 1 < nestingLimit then readArray (depth + 1) [] rest fuel else none
    | '{' :: rest =>
      if depth + 1 < nestingLimit then readInline (depth + 1) [] true (skipSpace rest) fuel
      else none
    | _ => readScalar cs

/-- Reads array elements after the opening bracket. -/
def readArray (depth : Nat) (acc : List Value) (cs : List Char) :
    (fuel : Nat) → Option (Value × List Char)
  | 0 => none
  | fuel + 1 => do
    let cs ← skipArraySpace cs (cs.length + 1)
    match cs with
    | ']' :: rest => some (.arr acc.reverse, rest)
    | _ => do
      let (v, rest) ← readValue depth cs fuel
      let rest ← skipArraySpace rest (rest.length + 1)
      match rest with
      | ',' :: more => readArray depth (v :: acc) more fuel
      | ']' :: more => some (.arr (v :: acc).reverse, more)
      | _ => none

/-- Reads inline table entries after the opening brace. -/
def readInline (depth : Nat) (body : Body) (first : Bool) (cs : List Char) : (fuel : Nat) →
    Option (Value × List Char)
  | 0 => none
  | fuel + 1 =>
    match cs with
    | '}' :: rest => if first then some (Value.table [], rest) else none
    | _ => do
      let (path, rest) ← readKey cs
      let rest := skipSpace rest
      let rest ← match rest with | '=' :: r => some (skipSpace r) | _ => none
      let (v, rest) ← readValue depth rest fuel
      let body ← inlineInsert path v body
      match skipSpace rest with
      | ',' :: more => readInline depth body false (skipSpace more) fuel
      | '}' :: more => some (.table (bodyToValues body), more)
      | _ => none

end

/-- The state of a document being read: its root table and the path of the current table. -/
structure DocState where
  root : Body
  current : List String

/-- Defines a key path in the current table. -/
def DocState.keyval (st : DocState) (path : List String) (v : Value) : Option DocState :=
  match path.reverse with
  | [] => none
  | k :: revPrefix =>
    let pre := revPrefix.reverse
    let insert (fl : Flags) (b : Body) : Option (Flags × Body) :=
      if fl.dotted == pre.isEmpty then none
      else if (b.lookup k).isSome then none
      else some (fl, b ++ [(k, .value v)])
    let inner (fl : Flags) (b : Body) : Option (Flags × Body) := modifyAt true insert pre fl b
    (modifyAt false inner st.current ⟨false, false⟩ st.root).map fun (_, r) => { st with root := r }

/-- A `[table]` header. -/
def DocState.header (st : DocState) (path : List String) : Option DocState :=
  match path.reverse with
  | [] => none
  | k :: revPrefix =>
    let define (fl : Flags) (b : Body) : Option (Flags × Body) :=
      match b.lookup k with
      | none => some (fl, b ++ [(k, .table false false [])])
      | some (.table true false entries) => some (fl, replaceEntry k (.table false false entries) b)
      | some _ => none
    (modifyAt false define revPrefix.reverse ⟨false, false⟩ st.root).map fun (_, r) =>
      ⟨r, path⟩

/-- An `[[array]]` header. -/
def DocState.arrayHeader (st : DocState) (path : List String) : Option DocState :=
  match path.reverse with
  | [] => none
  | k :: revPrefix =>
    let append (fl : Flags) (b : Body) : Option (Flags × Body) :=
      match b.lookup k with
      | none => some (fl, b ++ [(k, .tables [[]])])
      | some (.tables elems) => some (fl, replaceEntry k (.tables (elems ++ [[]])) b)
      | some _ => none
    (modifyAt false append revPrefix.reverse ⟨false, false⟩ st.root).map fun (_, r) =>
      ⟨r, path⟩

/-- Reads one line's statement, giving the state and the text after it. -/
def readStatement (st : DocState) (cs : List Char) : Option (DocState × List Char) :=
  let cs := skipSpace cs
  match cs with
  | '#' :: _ | '\n' :: _ | '\r' :: _ => do
    let rest ← endOfStatement cs
    some (st, rest)
  | '[' :: '[' :: rest => do
    let (path, r) ← readKey (skipSpace rest)
    let r ← match skipSpace r with | ']' :: ']' :: x => some x | _ => none
    let st ← st.arrayHeader path
    some (st, ← endOfStatement r)
  | '[' :: rest => do
    let (path, r) ← readKey (skipSpace rest)
    let r ← match skipSpace r with | ']' :: x => some x | _ => none
    let st ← st.header path
    some (st, ← endOfStatement r)
  | _ => do
    let (path, r) ← readKey cs
    let r ← match skipSpace r with | '=' :: x => some (skipSpace x) | _ => none
    let (v, r) ← readValue 0 r (r.length + 1)
    let st ← st.keyval path v
    some (st, ← endOfStatement r)

/-- Reads statements until the text ends. -/
def readStatements (st : DocState) (cs : List Char) : (fuel : Nat) → Option DocState
  | 0 => none
  | fuel + 1 =>
    if cs.isEmpty then some st
    else do
      let (st', rest) ← readStatement st cs
      if rest.length < cs.length then readStatements st' rest fuel else none

/-- Reads a TOML document into its root table. -/
def readDocument (text : String) : Option Value :=
  let cs := match text.toList with
    | c :: rest => if c.toNat == 0xFEFF then rest else c :: rest
    | [] => []
  (readStatements ⟨[], []⟩ cs (cs.length + 1)).map fun st => .table (bodyToValues st.root)

end LiveSession.Toml
