/-!
# Shortest decimal text of a binary float

A finite double is `m · 2^e` for a natural significand `m`. Every real number strictly between
the midpoints to its two neighbouring doubles reads back to it (the midpoints themselves do when
`m` is even, since a tie goes to the even significand).

`Binary.shortest` finds the fewest decimal digits inside that interval: for `k = 1, 2, …` it
looks at the two neighbours of the value on the grid of `k`-digit decimals, and the first grid on
which one of them lies in the interval wins; when both do, the nearer wins, and an exact tie goes
to the even last digit. Seventeen digits always suffice, so the search is a bounded loop.

`Binary.text` lays the digits out: positionally while the decimal point falls at most sixteen
digits to the right of the first digit and at most four zeros follow the point, otherwise with
an exponent mark `e` and an explicit sign on the exponent.
-/

namespace LiveSession.Decimal

/-- A finite non-zero double `mantissa · 2^exponent`, and whether the gap to the next double
below is half the gap above, as happens at a power of two above the least normal exponent. -/
structure Binary where
  mantissa : Nat
  exponent : Int
  lowerHalf : Bool
  deriving Repr, DecidableEq

/-- The sign, zero-ness and magnitude of a finite double read off its bits. -/
structure Parts where
  negative : Bool
  zero : Bool
  magnitude : Binary
  deriving Repr, DecidableEq

/-- Splits the bits of a finite double into sign and magnitude. -/
def Parts.ofBits (bits : UInt64) : Parts :=
  let frac := (bits &&& 0xFFFFFFFFFFFFF).toNat
  let biased := ((bits >>> 52) &&& 0x7FF).toNat
  let negative := (bits >>> 63) == 1
  if biased = 0 then
    ⟨negative, frac = 0, ⟨frac, -1074, false⟩⟩
  else
    ⟨negative, false, ⟨frac + 4503599627370496, (biased : Int) - 1075, frac = 0 ∧ biased > 1⟩⟩

namespace Binary

/-- `10 ^ q` times `t`, compared with the fraction `n / d`, for an integer power `q`. -/
def cmpScaled (t : Nat) (q : Int) (n d : Nat) : Ordering :=
  if 0 ≤ q then compare (t * Nat.pow 10 q.toNat * d) n
  else compare (t * d) (n * Nat.pow 10 (-q).toNat)

/-- The value as a fraction `4·num / den4` together with the ends of its rounding interval
over the same denominator. -/
structure Scaled where
  value : Nat
  low : Nat
  high : Nat
  den : Nat

/-- The value and its rounding interval over a common power-of-two denominator. -/
def scaled (b : Binary) : Scaled :=
  let num := if 0 ≤ b.exponent then b.mantissa * Nat.pow 2 b.exponent.toNat else b.mantissa
  let den := if 0 ≤ b.exponent then 1 else Nat.pow 2 (-b.exponent).toNat
  let gap := if 0 ≤ b.exponent then Nat.pow 2 b.exponent.toNat else 1
  ⟨4 * num, 4 * num - (if b.lowerHalf then 1 else 2) * gap, 4 * num + 2 * gap, 4 * den⟩

/-- The decimal exponent of the leading digit: the greatest `E` with `10^E ≤ value`. -/
def leadingExponent (s : Scaled) : Int :=
  let guess : Int := ((Nat.toDigits 10 s.value).length : Int) - (Nat.toDigits 10 s.den).length
  let e1 := if cmpScaled 1 guess s.value s.den == .gt then guess - 1 else guess
  if cmpScaled 1 (e1 + 1) s.value s.den == .gt then e1 else e1 + 1

/-- Whether `t · 10^q` lies in the rounding interval (ends included when `closed`). -/
def inInterval (s : Scaled) (closed : Bool) (t : Nat) (q : Int) : Bool :=
  let lo := cmpScaled t q s.low s.den
  let hi := cmpScaled t q s.high s.den
  if closed then lo != .lt && hi != .gt else lo == .gt && hi == .lt

/-- The largest `t` with `t · 10^q ≤ value`. -/
def gridFloor (s : Scaled) (q : Int) : Nat :=
  if 0 ≤ q then s.value / (s.den * Nat.pow 10 q.toNat) else s.value * Nat.pow 10 (-q).toNat / s.den

/-- Of `t` and `t + 1` on the grid `10^q`, the one nearer the value; a tie goes to the even one. -/
def nearer (s : Scaled) (t : Nat) (q : Int) : Nat :=
  match cmpScaled (2 * t + 1) q (2 * s.value) s.den with
  | .gt => t
  | .lt => t + 1
  | .eq => if t % 2 == 0 then t else t + 1

/-- The candidate on the grid of `k`-digit decimals, if one lies in the interval. -/
def onGrid (s : Scaled) (closed : Bool) (e : Int) (k : Nat) : Option (Nat × Int) :=
  let q := e - (k : Int) + 1
  let t := gridFloor s q
  let below := inInterval s closed t q
  let above := inInterval s closed (t + 1) q
  if below && above then some (nearer s t q, q)
  else if below then some (t, q)
  else if above then some (t + 1, q)
  else none

/-- Removes trailing zero digits, moving them into the exponent. -/
def dropZeros (t : Nat) (q : Int) : (fuel : Nat) → Nat × Int
  | 0 => (t, q)
  | fuel + 1 => if t ≠ 0 ∧ t % 10 = 0 then dropZeros (t / 10) (q + 1) fuel else (t, q)

/-- The first grid, from one digit up to `k`, that holds a candidate. -/
def search (s : Scaled) (closed : Bool) (e : Int) : List Nat → Option (Nat × Int)
  | [] => none
  | k :: ks => (onGrid s closed e k).orElse fun _ => search s closed e ks

/-- The fewest decimal digits `t` and exponent `q` such that `t · 10^q` reads back to the value;
`(mantissa, exponent)` in binary when no grid up to seventeen digits has one, which cannot happen
for a double. -/
def shortest (b : Binary) : Nat × Int :=
  let s := b.scaled
  let e := leadingExponent s
  match search s (b.mantissa % 2 == 0) e (List.range' 1 17) with
  | some (t, q) => dropZeros t q 20
  | none => (b.mantissa, 0)

end Binary

/-- Where digits stop being written positionally and how an exponent is marked. -/
structure Layout where
  /-- Most digits before the decimal point that are still written positionally. -/
  maxPositional : Nat
  /-- Most zeros after the point, before the first digit, still written positionally. -/
  maxLeadingZeros : Nat
  /-- Written before a non-negative exponent. -/
  plusSign : String
  deriving Repr

/-- Positional up to sixteen integer digits and four leading zeros; a plus sign on
non-negative exponents. -/
def Layout.standard : Layout := ⟨16, 4, "+"⟩

/-- The decimal digits of a natural number. -/
def digitText (n : Nat) : String := String.ofList (Nat.toDigits 10 n)

/-- A string of `n` zeros. -/
def zeros (n : Nat) : String := String.ofList (List.replicate n '0')

/-- Lays out `t · 10^q` (with `t` free of trailing zeros) by the layout's rules. -/
def Layout.render (l : Layout) (t : Nat) (q : Int) : String :=
  let ds := digitText t
  let len : Int := ds.length
  let kk := len + q
  if 0 ≤ q ∧ kk ≤ l.maxPositional then
    ds ++ zeros q.toNat ++ ".0"
  else if 0 < kk ∧ kk ≤ l.maxPositional then
    String.ofList (ds.toList.take kk.toNat) ++ "." ++ String.ofList (ds.toList.drop kk.toNat)
  else if -(l.maxLeadingZeros : Int) ≤ kk ∧ kk ≤ 0 then
    "0." ++ zeros (-kk).toNat ++ ds
  else
    let exp := kk - 1
    let expText := if exp < 0 then "-" ++ digitText (-exp).toNat else l.plusSign ++ digitText exp.toNat
    let mant := match ds.toList with
      | [d] => String.singleton d
      | d :: rest => String.singleton d ++ "." ++ String.ofList rest
      | [] => "0"
    mant ++ "e" ++ expText

/-- The shortest text of a finite double under the standard layout; zero is `0.0` or `-0.0`. -/
def floatText (f : Float) : String :=
  let p := Parts.ofBits f.toBits
  let sign := if p.negative then "-" else ""
  if p.zero then sign ++ "0.0"
  else
    let (t, q) := p.magnitude.shortest
    sign ++ Layout.standard.render t q

end LiveSession.Decimal
