/-!
# Sets of code points

A `CodeSet` is a set of Unicode code points given by inclusive ranges. The character classes of
the readers and printers (letters, marks, what a debugging string escapes) are such sets, large
enough that they are written packed: hex ranges `a-b`, or single points `a`, separated by
blanks. A packed set is read once, when first used.
-/

namespace LiveSession.Text

/-- A set of code points: the union of its inclusive ranges. -/
structure CodeSet where
  /-- The ranges `(lo, hi)`, each holding the points from `lo` to `hi`. -/
  ranges : Array (Nat × Nat)

namespace CodeSet

/-- The value of a lowercase hex numeral, if it is one. -/
def hexValue (s : String) : Option Nat :=
  s.toList.foldl (fun acc c => acc.bind fun n =>
    if '0' ≤ c && c ≤ '9' then some (16 * n + (c.toNat - '0'.toNat))
    else if 'a' ≤ c && c ≤ 'f' then some (16 * n + (c.toNat - 'a'.toNat + 10))
    else none) (if s.isEmpty then none else some 0)

/-- One packed range: `a-b`, or `a` for the single point. -/
def readRange (s : String) : Option (Nat × Nat) :=
  match s.splitOn "-" with
  | [a] => (hexValue a).map fun n => (n, n)
  | [a, b] => do pure (← hexValue a, ← hexValue b)
  | _ => none

/-- The set written in packed form; pieces that are not ranges are skipped. -/
def ofPacked (s : String) : CodeSet :=
  ⟨((s.splitOn " ").filterMap readRange).toArray⟩

/-- Whether a code point lies in the set. -/
def containsNat (s : CodeSet) (n : Nat) : Bool :=
  s.ranges.any fun (lo, hi) => lo ≤ n && n ≤ hi

/-- Whether a character lies in the set. -/
def contains (s : CodeSet) (c : Char) : Bool := s.containsNat c.toNat

end CodeSet

end LiveSession.Text
