/-!
# TOML values

The values of a TOML document once read: strings, 64-bit integers, floats, booleans, date-times
(kept as their text), arrays and tables, with table keys in the order they were first defined.
-/

namespace LiveSession.Toml

/-- A TOML value. -/
inductive Value where
  | str (s : String)
  | int (i : Int)
  | float (f : Float)
  | bool (b : Bool)
  | datetime (text : String)
  | arr (items : List Value)
  | table (entries : List (String × Value))
  deriving Inhabited

/-- The entry `key` of a table value. -/
def Value.get? (v : Value) (key : String) : Option Value :=
  match v with
  | .table kvs => kvs.lookup key
  | _ => none

end LiveSession.Toml
