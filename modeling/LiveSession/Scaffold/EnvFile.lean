import LiveSession.Files.Tree
import LiveSession.Text.Blank
import LiveSession.Text.Alphanumeric
import LiveSession.Scaffold.Error
/-!
# Env files

An env file holds `KEY=value` lines. Reading it has two layers.

Lines are cut so that a quoted value may span several physical lines: a line ends at a line
feed only when no quote is open and no backslash is pending, a line that starts (after blanks)
with `#` is empty, and a `#` right after a blank outside quotes cuts the line there. Text that
ends while a quote, an escape or a trailing blank is still open is an error naming all of it.

Each line is then read as an optional `export`, a key of ASCII letters, digits, `_` and `.`
(not starting with a digit or `.`), `=`, and a value. In a value, single quotes keep text as it
is; double quotes allow the escapes `\\`, `\'`, `\"`, `\$`, `\ ` and `\n`; `$NAME` and
`${NAME}` outside single quotes are replaced by the process environment or, failing that, by
the value of an earlier key; and an unquoted blank may be followed only by blanks and a comment.
Errors give the line (or the value) and the position where reading stopped.
-/

namespace LiveSession.Scaffold

open LiveSession.Files

/-- The process environment seen by substitutions. -/
def processEnvironment : List (String × String) :=
  [("PATH", "/usr/local/bin:/usr/bin:/bin"), ("TZ", "UTC"), ("LANG", "C")]

/-- An error reading an env file: the line (or value) and the position, or an I/O error. -/
inductive EnvError where
  | lineParse (line : String) (index : Nat)
  | io (message : String)
  deriving DecidableEq, Repr

/-- The error as shown. -/
def EnvError.display : EnvError → String
  | .lineParse l i => "Error parsing line: '" ++ l ++ "', error at line index: " ++ toString i
  | .io m => m

/-- Where the line cutter is. -/
inductive CutState where
  | complete
  | escape
  | strongOpen
  | strongOpenEscape
  | weakOpen
  | weakOpenEscape
  | comment
  | whiteSpace
  deriving DecidableEq, Repr

/-- The state after one character. -/
def CutState.step (s : CutState) (c : Char) : CutState :=
  match s with
  | .whiteSpace =>
    if c == '#' then .comment else if c == '\\' then .escape
    else if c == '"' then .weakOpen else if c == '\'' then .strongOpen else .complete
  | .escape => .complete
  | .complete =>
    if Text.isBlank c && c != '\n' && c != '\r' then .whiteSpace
    else if c == '\\' then .escape
    else if c == '"' then .weakOpen else if c == '\'' then .strongOpen else .complete
  | .weakOpen => if c == '\\' then .weakOpenEscape else if c == '"' then .complete else .weakOpen
  | .weakOpenEscape => .weakOpen
  | .strongOpen =>
    if c == '\\' then .strongOpenEscape else if c == '\'' then .complete else .strongOpen
  | .strongOpenEscape => .strongOpen
  | .comment => .comment

/-- Runs the cutter over a chunk: the final state and, when a comment starts, the number of
characters before it. -/
def CutState.run (s : CutState) : List Char → Nat → CutState × Option Nat
  | [], _ => (s, none)
  | c :: cs, i =>
    let s' := s.step c
    if s' == .comment then (s', some i) else s'.run cs (i + 1)

/-- Splits bytes into chunks that each end after a line feed (the last may not). -/
def byteChunks (bytes : List UInt8) : (fuel : Nat) → List (List UInt8)
  | 0 => []
  | fuel + 1 =>
    if bytes.isEmpty then []
    else
      let line := bytes.takeWhile (· != 10)
      let rest := bytes.drop line.length
      match rest with
      | [] => [line]
      | _ :: more => (line ++ [10]) :: byteChunks more fuel

/-- Drops one trailing line feed and then one carriage return. -/
def dropLineEnd (s : String) : String :=
  if s.endsWith "\n" then
    let s := String.ofList s.toList.dropLast
    if s.endsWith "\r" then String.ofList s.toList.dropLast else s
  else s

/-- Cuts the chunks of a file into logical lines, stopping at the first error. -/
def cutLines (chunks : List (List UInt8)) : List (Except EnvError String) :=
  go chunks "" .complete
where
  go : List (List UInt8) → String → CutState → List (Except EnvError String)
    | [], buf, st => if st == .complete then [] else [.error (.lineParse buf buf.utf8ByteSize)]
    | chunk :: rest, buf, st =>
      match Tree.utf8? chunk with
      | none => [.error (.io invalidUtf8)]
      | some text =>
        let buf' := buf ++ text
        if (Text.trimStart buf').startsWith "#" then .ok "" :: go rest "" .complete
        else
          let (st', cut) := st.run text.toList 0
          match st' with
          | .complete => .ok (dropLineEnd buf') :: go rest "" .complete
          | .comment => .ok (buf ++ String.ofList (text.toList.take (cut.getD 0))) ::
              go rest "" .complete
          | _ => go rest buf' st'

/-- The state of reading a value. -/
structure ValueState where
  strong : Bool := false
  weak : Bool := false
  escaped : Bool := false
  expectingEnd : Bool := false
  /-- Reading a `$NAME`: none, plain, or inside braces. -/
  subst : Nat := 0
  name : String := ""
  output : String := ""

/-- The value a substitution stands for. -/
def substitute (known : List (String × Option String)) (name : String) : String :=
  match processEnvironment.lookup name with
  | some v => if name.isEmpty then "" else v
  | none => ((known.lookup name).getD none).getD ""

/-- Reads a value, substituting with the earlier keys `known`. -/
def parseValue (known : List (String × Option String)) (input : String) :
    Except EnvError String :=
  let fail (i : Nat) : Except EnvError String := .error (.lineParse input i)
  let rec go (st : ValueState) : List Char → Nat → Except EnvError ValueState
    | [], _ => .ok st
    | c :: cs, i =>
      if st.expectingEnd then
        if c == ' ' || c == '\t' then go st cs (i + 1)
        else if c == '#' then .ok st
        else .error (.lineParse input i)
      else if st.escaped then
        if c == '\\' || c == '\'' || c == '"' || c == '$' || c == ' ' then
          go { st with output := st.output.push c, escaped := false } cs (i + 1)
        else if c == 'n' then go { st with output := st.output.push '\n', escaped := false } cs (i + 1)
        else .error (.lineParse input i)
      else if st.strong then
        if c == '\'' then go { st with strong := false } cs (i + 1)
        else go { st with output := st.output.push c } cs (i + 1)
      else if st.subst != 0 then
        if Text.isAlphanumeric c then go { st with name := st.name.push c } cs (i + 1)
        else if st.subst == 1 then
          if c == '{' && st.name.isEmpty then go { st with subst := 2 } cs (i + 1)
          else
            let out := st.output ++ substitute known st.name
            if c == '$' then go { st with output := out, name := "", subst := 1 } cs (i + 1)
            else go { st with output := out.push c, name := "", subst := 0 } cs (i + 1)
        else if c == '}' then
          go { st with output := st.output ++ substitute known st.name, name := "", subst := 0 }
            cs (i + 1)
        else go { st with name := st.name.push c } cs (i + 1)
      else if c == '$' then go { st with subst := 1 } cs (i + 1)
      else if st.weak then
        if c == '"' then go { st with weak := false } cs (i + 1)
        else if c == '\\' then go { st with escaped := true } cs (i + 1)
        else go { st with output := st.output.push c } cs (i + 1)
      else if c == '\'' then go { st with strong := true } cs (i + 1)
      else if c == '"' then go { st with weak := true } cs (i + 1)
      else if c == '\\' then go { st with escaped := true } cs (i + 1)
      else if c == ' ' || c == '\t' then go { st with expectingEnd := true } cs (i + 1)
      else go { st with output := st.output.push c } cs (i + 1)
  match go {} input.toList 0 with
  | .error e => .error e
  | .ok st =>
    if st.subst == 2 || st.strong || st.weak then
      fail (if input.utf8ByteSize == 0 then 0 else input.utf8ByteSize - 1)
    else .ok (st.output ++ substitute known st.name)

/-- Whether a character may start a key. -/
def isKeyStart (c : Char) : Bool := ('a' ≤ c && c ≤ 'z') || ('A' ≤ c && c ≤ 'Z') || c == '_'

/-- Whether a character may continue a key. -/
def isKeyChar (c : Char) : Bool := isKeyStart c || ('0' ≤ c && c ≤ '9') || c == '.'

/-- Reads one logical line: nothing for a blank or comment line, else a key and its value. -/
def parseLine (known : List (String × Option String)) (line : String) :
    Except EnvError (Option (String × String × Option String)) :=
  let fail (pos : Nat) := Except.error (EnvError.lineParse line pos)
  let skipWs (cs : List Char) (pos : Nat) : List Char × Nat :=
    let ws := cs.takeWhile Text.isBlank
    (cs.drop ws.length, pos + (String.ofList ws).utf8ByteSize)
  let readKey (cs : List Char) (pos : Nat) : Except EnvError (String × List Char × Nat) :=
    match cs with
    | c :: _ =>
      if isKeyStart c then
        let k := cs.takeWhile isKeyChar
        .ok (String.ofList k, cs.drop k.length, pos + k.length)
      else fail pos
    | [] => fail pos
  let expectEq (cs : List Char) (pos : Nat) : Option (List Char × Nat) :=
    match cs with
    | '=' :: rest => some (rest, pos + 1)
    | _ => none
  let cs := (Text.trimEnd line).toList
  let (cs, pos) := skipWs cs 0
  if cs.isEmpty || cs.head? == some '#' then .ok none
  else do
    let (key, cs, pos) ← readKey cs pos
    let (cs, pos) := skipWs cs pos
    let (key, cs, pos) ← if key == "export" then
        match expectEq cs pos with
        | some (cs, pos) => pure (key, cs, pos)
        | none => do
          let (k, cs, pos) ← readKey cs pos
          let (cs, pos) := skipWs cs pos
          match expectEq cs pos with
          | some (cs, pos) => pure (k, cs, pos)
          | none => fail pos
      else match expectEq cs pos with
        | some (cs, pos) => pure (key, cs, pos)
        | none => fail pos
    let (cs, _) := skipWs cs pos
    if cs.isEmpty || cs.head? == some '#' then return some (key, "", none)
    let v ← parseValue known (String.ofList cs)
    return some (key, v, some v)

/-- Reads all pairs of an env file's bytes, stopping at the first error. -/
def parseEnv (bytes : List UInt8) : Except EnvError (List (String × String)) :=
  let lines := cutLines (byteChunks bytes (bytes.length + 1))
  go lines [] []
where
  go : List (Except EnvError String) → List (String × Option String) → List (String × String) →
      Except EnvError (List (String × String))
    | [], _, acc => .ok acc.reverse
    | .error e :: _, _, _ => .error e
    | .ok line :: rest, known, acc =>
      match parseLine known line with
      | .error e => .error e
      | .ok none => go rest known acc
      | .ok (some (k, v, stored)) => go rest ((k, stored) :: known) ((k, v) :: acc)

/-- Loads an env file: missing unless it is a regular file, invalid when it does not read. -/
def loadEnvFile (t : Tree) (path : String) : Except PreflightError (List (String × String)) :=
  match t.node? path with
  | some (.file bytes) => match parseEnv bytes with
    | .ok pairs => .ok pairs
    | .error e => .error (.envFileInvalid path e.display)
  | _ => .error (.envFileMissing path)

/-- Loads an env file when one is given; none gives no pairs. -/
def loadOptionalEnvFile (t : Tree) : Option String →
    Except PreflightError (List (String × String))
  | some p => loadEnvFile t p
  | none => .ok []

end LiveSession.Scaffold
