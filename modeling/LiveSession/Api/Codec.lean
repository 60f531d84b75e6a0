import LiveSession.Json.Print
import LiveSession.Files.Tree
import LiveSession.Scaffold.Error
/-!
# Requests and answers

The library's operations are offered as a JSON interface: a request is an object naming its
operation in `op`, and an answer is `{"ok": value}` on success or an error object. A request the
interface cannot use is the error `bad_input` with a message naming the problem.

File trees travel as objects from relative paths to contents: a string is a file's text,
`{"hex": …}` a file's bytes, and `null` or `{"dir": true}` a directory. The same form lists a
tree back, with `null` for directories and `{"hex": …}` for content that is not UTF-8.
-/

namespace LiveSession.Api

open LiveSession.Json LiveSession.Files

/-- An answer: a value on success, an error object otherwise. -/
abbrev Answer := Except Value Value

/-- The error object for a request that cannot be used. -/
def badInput (msg : String) : Value :=
  obj [("error", .str "bad_input"), ("message", .str msg)]

/-- An error object of a given kind with a message. -/
def errorWith (kind msg : String) : Value :=
  obj [("error", .str kind), ("message", .str msg)]

/-- The answer line for an answer. -/
def Answer.toJson : Answer → Value
  | .ok v => obj [("ok", v)]
  | .error e => e

/-- A required string field. -/
def reqStr (req : Value) (f : String) : Except Value String :=
  match req.get? f with
  | some (.str s) => .ok s
  | _ => .error (badInput ("missing string field `" ++ f ++ "`"))

/-- A required natural-number field. -/
def reqNat (req : Value) (f : String) : Except Value Nat :=
  match req.getNat? f with
  | some n => .ok n
  | none => .error (badInput ("missing integer field `" ++ f ++ "`"))

/-- A required integer field. -/
def reqInt (req : Value) (f : String) : Except Value Int :=
  match req.get? f with
  | some (.num (.int i)) => .ok i
  | _ => .error (badInput ("missing integer field `" ++ f ++ "`"))

/-- A required array field. -/
def reqArr (req : Value) (f : String) : Except Value (List Value) :=
  match req.getArr? f with
  | some xs => .ok xs
  | none => .error (badInput ("missing array field `" ++ f ++ "`"))

/-- An optional string field: absent or `null` is none. -/
def optStr (req : Value) (f : String) : Option String := req.getStr? f

/-- A natural-number field with a default. -/
def natOr (req : Value) (f : String) (d : Nat) : Nat := (req.getNat? f).getD d

/-- A boolean field with a default. -/
def boolOr (req : Value) (f : String) (d : Bool) : Bool := (req.getBool? f).getD d

/-- A string field with a default. -/
def strOr (req : Value) (f : String) (d : String) : String := (req.getStr? f).getD d

/-- The value of a hex digit, either case. -/
def hexDigit? (c : Char) : Option Nat :=
  if '0' ≤ c && c ≤ '9' then some (c.toNat - 48)
  else if 'a' ≤ c && c ≤ 'f' then some (c.toNat - 87)
  else if 'A' ≤ c && c ≤ 'F' then some (c.toNat - 55)
  else none

/-- Bytes from pairs of hex digits; anything unreadable is dropped. -/
def hexBytes : List Char → List UInt8
  | a :: b :: rest => match hexDigit? a, hexDigit? b with
    | some x, some y => UInt8.ofNat (x * 16 + y) :: hexBytes rest
    | _, _ => hexBytes rest
  | _ => []

/-- Two lowercase hex digits per byte. -/
def hexText (bytes : List UInt8) : String :=
  String.join (bytes.map fun b =>
    String.singleton (hexDigitLower (b.toNat / 16)) ++ String.singleton (hexDigitLower (b.toNat % 16)))

/-- A file's content as given in a request: text, or `{"hex": …}` bytes. -/
def contentBytes? : Value → Option (List UInt8)
  | .str s => some s.toUTF8.toList
  | v => match v.getStr? "hex" with
    | some h => some (hexBytes h.toList)
    | none => none

/-- The node a request gives for one path. -/
def nodeOf (v : Value) : Node :=
  match contentBytes? v with
  | some b => .file b
  | none => .dir

/-- Adds the entries of a request's tree under a directory. -/
def plant (t : Tree) (base : String) : Value → Tree
  | .obj ms => ms.foldl (fun t (p, v) => t.put (Path.join base p) (nodeOf v)) (t.put base .dir)
  | _ => t.put base .dir

/-- A file's content in an answer: its text, or `{"hex": …}` when it is not UTF-8. -/
def contentJson (bytes : List UInt8) : Value :=
  match Tree.utf8? bytes with
  | some s => .str s
  | none => obj [("hex", .str (hexText bytes))]

/-- A tree below a directory in answer form. -/
def listing (t : Tree) (dir : String) : Value :=
  .obj ((t.below dir).map fun (p, n) => match n with
    | .file b => (p, contentJson b)
    | .dir => (p, .null))

/-- The content of a path in answer form: `null` when it is not a regular file. -/
def fileJson (t : Tree) (p : String) : Value :=
  match t.node? p with
  | some (.file b) => contentJson b
  | _ => .null

/-- The error object of a preflight error. -/
def preflightJson (e : Scaffold.PreflightError) : Value :=
  let base := [("error", Value.str e.variant), ("message", .str e.display),
    ("domain_kind", .str "preflight")]
  match e with
  | .missingDependencies fw missing =>
    obj (base ++ [("framework", .str fw), ("missing", Value.strs missing)])
  | _ => obj base

/-- The error object of a synthesis error. -/
def synthesisJson (e : Scaffold.SynthesisError) : Value :=
  let base := [("error", Value.str e.variant), ("message", .str e.display),
    ("domain_kind", .str "synthesis")]
  match e with
  | .unknownVariable n o => obj (base ++ [("name", .str n), ("offset", Value.nat o)])
  | _ => obj base

end LiveSession.Api
