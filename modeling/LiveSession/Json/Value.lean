/-!
# JSON values

A JSON document as the session protocol carries it. Numbers keep apart integers, which the
readers produce within the 64-bit ranges, and finite binary floats. An object keeps its members in
the order they were first written: writing a member that is already present replaces its value in
place, so a document read with a repeated key keeps the key's first position and its last value.
-/

namespace LiveSession.Json

/-- A JSON number: an integer or a finite binary float. -/
inductive Number where
  | int (i : Int)
  | float (f : Float)
  deriving Inhabited

/-- A JSON value; object members are kept in insertion order. -/
inductive Value where
  | null
  | bool (b : Bool)
  | num (n : Number)
  | str (s : String)
  | arr (items : List Value)
  | obj (members : List (String × Value))
  deriving Inhabited

namespace Value

/-- A natural number as a JSON integer. -/
def nat (n : Nat) : Value := .num (.int n)

/-- An integer as a JSON integer. -/
def int (i : Int) : Value := .num (.int i)

/-- A float as a JSON number. -/
def float (f : Float) : Value := .num (.float f)

/-- An optional value, with `null` for none. -/
def opt (v : Option Value) : Value := v.getD .null

/-- An optional string, with `null` for none. -/
def optStr (s : Option String) : Value := opt (s.map .str)

/-- A list of strings as a JSON array. -/
def strs (xs : List String) : Value := .arr (xs.map .str)

end Value

/-- Writes `key := v` into an ordered member list: in place when the key is present, at the end
otherwise. -/
def setMember (key : String) (v : Value) : List (String × Value) → List (String × Value)
  | [] => [(key, v)]
  | (k, w) :: rest => if k == key then (k, v) :: rest else (k, w) :: setMember key v rest

/-- Builds an object from members given in order, later repeats replacing earlier values. -/
def membersOf (kvs : List (String × Value)) : List (String × Value) :=
  kvs.foldl (fun acc (k, v) => setMember k v acc) []

namespace Value

/-- The member `key` of an object, if the value is an object that has it. -/
def get? (v : Value) (key : String) : Option Value :=
  match v with
  | .obj ms => ms.lookup key
  | _ => none

/-- The member `key`, present and not `null`. -/
def getSome? (v : Value) (key : String) : Option Value :=
  match v.get? key with
  | some .null => none
  | r => r

/-- The string member `key`, if present and a string. -/
def getStr? (v : Value) (key : String) : Option String :=
  match v.get? key with
  | some (.str s) => some s
  | _ => none

/-- The boolean member `key`, if present and a boolean. -/
def getBool? (v : Value) (key : String) : Option Bool :=
  match v.get? key with
  | some (.bool b) => some b
  | _ => none

/-- The natural-number member `key`, if present and a non-negative integer. -/
def getNat? (v : Value) (key : String) : Option Nat :=
  match v.get? key with
  | some (.num (.int i)) => if 0 ≤ i then some i.toNat else none
  | _ => none

/-- The array member `key`, if present and an array. -/
def getArr? (v : Value) (key : String) : Option (List Value) :=
  match v.get? key with
  | some (.arr xs) => some xs
  | _ => none

/-- Whether the value is `null`. -/
def isNull : Value → Bool
  | .null => true
  | _ => false

/-- Adds or replaces the member `key` of an object; other values are left as they are. -/
def set (v : Value) (key : String) (w : Value) : Value :=
  match v with
  | .obj ms => .obj (setMember key w ms)
  | other => other

end Value

/-- An object from members given in order. -/
def obj (kvs : List (String × Value)) : Value := .obj (membersOf kvs)

end LiveSession.Json
