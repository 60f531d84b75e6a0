import LiveSession.Json.Print
import LiveSession.Text.Printable
/-!
# Typed reading of JSON values

Decoders from `Value` to typed data, failing with the messages of a self-describing decoder:
`invalid type: <found>, expected <wanted>` when the value has the wrong shape,
`invalid value: ...` when it has the right shape but not a representable value (a negative
number for an unsigned field), `missing field` and `invalid length` for records.

A record is read either from an object, by member name (unknown members are ignored, and the
members present are checked in the order they appear before any missing one is reported), or from
an array, by position (a missing trailing element is an error unless the field has a default, and
surplus elements are an error).
-/

namespace LiveSession.Json

/-- What a decoder found instead of what it wanted. -/
inductive Found where
  | null
  | bool (b : Bool)
  | unsigned (n : Nat)
  | signed (i : Int)
  | float (f : Float)
  | str (s : String)
  | seq
  | map

/-- The hex digits of a number, lowercase, without leading zeros. -/
def hexLower (n : Nat) : String := String.ofList (Nat.toDigits 16 n)

/-- A string quoted for debugging: quote, backslash and the common control characters take short
escapes, other unprintable characters `\u{hex}`. -/
def debugQuote (s : String) : String :=
  "\"" ++ String.join (s.toList.map fun c =>
    if c == '"' then "\\\""
    else if c == '\\' then "\\\\"
    else if c == '\n' then "\\n"
    else if c == '\r' then "\\r"
    else if c == '\t' then "\\t"
    else if c.toNat == 0 then "\\0"
    else if Text.debugPrintable c then String.singleton c
    else "\\u" ++ "\x7b" ++ hexLower c.toNat ++ "\x7d") ++ "\""

/-- How a found value is named in a message. -/
def Found.text : Found → String
  | .null => "null"
  | .bool b => "boolean `" ++ (if b then "true" else "false") ++ "`"
  | .unsigned n => "integer `" ++ toString n ++ "`"
  | .signed i => "integer `" ++ toString i ++ "`"
  | .float f => "floating point `" ++ Number.text (.float f) ++ "`"
  | .str s => "string " ++ debugQuote s
  | .seq => "sequence"
  | .map => "map"

/-- What a value is, for a message. -/
def Value.found : Value → Found
  | .null => .null
  | .bool b => .bool b
  | .num (.int i) => if 0 ≤ i then .unsigned i.toNat else .signed i
  | .num (.float f) => .float f
  | .str s => .str s
  | .arr _ => .seq
  | .obj _ => .map

/-- Why a value could not be decoded. -/
inductive DecodeError where
  | invalidType (found : Found) (wanted : String)
  | invalidValue (found : Found) (wanted : String)
  | invalidLength (n : Nat) (wanted : String)
  | missingField (name : String)
  | custom (message : String)

/-- The message of a decoding error. -/
def DecodeError.text : DecodeError → String
  | .invalidType f w => "invalid type: " ++ f.text ++ ", expected " ++ w
  | .invalidValue f w => "invalid value: " ++ f.text ++ ", expected " ++ w
  | .invalidLength n w => "invalid length " ++ toString n ++ ", expected " ++ w
  | .missingField name => "missing field `" ++ name ++ "`"
  | .custom m => m

/-- A decoder from JSON values. -/
abbrev Decoder (α : Type) := Value → Except DecodeError α

namespace Decoder

/-- Any value, kept as it is. -/
def any : Decoder Value := fun v => .ok v

/-- A boolean. -/
def bool : Decoder Bool
  | .bool b => .ok b
  | v => .error (.invalidType v.found "a boolean")

/-- A string. -/
def string : Decoder String
  | .str s => .ok s
  | v => .error (.invalidType v.found "a string")

/-- An unsigned 64-bit integer. -/
def u64 : Decoder Nat
  | .num (.int i) => if 0 ≤ i then .ok i.toNat else .error (.invalidValue (.signed i) "u64")
  | v => .error (.invalidType v.found "u64")

/-- A signed 64-bit integer. -/
def i64 : Decoder Int
  | .num (.int i) =>
    if i < 9223372036854775808 then .ok i else .error (.invalidValue (.unsigned i.toNat) "i64")
  | v => .error (.invalidType v.found "i64")

/-- An optional value: `null` is none. -/
def option (d : Decoder α) : Decoder (Option α)
  | .null => .ok none
  | v => (d v).map some

/-- An array whose elements all decode. -/
def list (d : Decoder α) : Decoder (List α)
  | .arr xs => xs.mapM d
  | v => .error (.invalidType v.found "a sequence")

end Decoder

/-- What an absent record field means. -/
inductive Presence where
  /-- The field must be given. -/
  | required
  /-- An absent member is none; a short array is still an error. -/
  | optional
  /-- An absent member or element takes the default. -/
  | defaulted
  deriving DecidableEq

/-- One field of a record: its name, how it is checked, and what its absence means. -/
structure FieldSpec where
  name : String
  check : Value → Option DecodeError
  presence : Presence

/-- A field checked by a decoder. -/
def FieldSpec.of (name : String) (d : Decoder α) (presence : Presence) : FieldSpec :=
  ⟨name, fun v => match d v with
    | .ok _ => none
    | .error e => some e, presence⟩

/-- Checks the members of an object that name fields, in the order they appear. -/
def checkMembers (fields : List FieldSpec) : List (String × Value) → Except DecodeError Unit
  | [] => .ok ()
  | (k, v) :: rest =>
    match fields.find? (·.name == k) with
    | some f => match f.check v with
      | some e => .error e
      | none => checkMembers fields rest
    | none => checkMembers fields rest

/-- Collects array elements for the fields in order. -/
def collectItems (record : String) (count : Nat) :
    List FieldSpec → List Value → Nat → Except DecodeError (List (Option Value))
  | [], _, _ => .ok []
  | f :: fs, x :: xs, i => match f.check x with
    | some e => .error e
    | none => (collectItems record count fs xs (i + 1)).map (some x :: ·)
  | f :: fs, [], i =>
    if f.presence = .defaulted then (collectItems record count fs [] (i + 1)).map (none :: ·)
    else .error (.invalidLength i ("struct " ++ record ++ " with " ++ toString count ++ " elements"))

/-- Reads the raw members of a record, one per field in order (`none` when absent), after
checking every given member with its field's decoder. -/
def readRecord (record : String) (fields : List FieldSpec) : Decoder (List (Option Value))
  | .obj ms => do
    checkMembers fields ms
    fields.mapM fun f => match ms.lookup f.name with
      | some v => .ok (some v)
      | none => if f.presence = .required then .error (.missingField f.name) else .ok none
  | .arr xs => do
    let got ← collectItems record fields.length fields xs 0
    if xs.length > fields.length then
      .error (.invalidLength xs.length "fewer elements in array")
    else .ok got
  | v => .error (.invalidType v.found ("struct " ++ record))

/-- Decodes a raw member that is known to decode, falling back to the default when absent. -/
def member (raw : List (Option Value)) (i : Nat) (d : Decoder α) (dflt : α) : α :=
  match raw.getD i none with
  | some v => match d v with
    | .ok a => a
    | .error _ => dflt
  | none => dflt

end LiveSession.Json
