import SearchWire.Binary

/-!
# Shortest decimal text

The decimal text of a double-precision number has the fewest significant digits that still read
back as that number, and among those the nearest to it.

A finite positive number is `m * 2 ^ q`. The reals that round to it form an interval around it,
whose ends belong to it exactly when `m` is even. For `1, 2, …, 17` digits the two neighbours of the
number on the grid of decimals with that many digits are tried in exact arithmetic; the first grid
with a neighbour inside the interval gives the digits. Seventeen digits are always enough.
-/

namespace SearchWire.Decimal

/-- The positive number `m * 2 ^ q`; `narrow` says that the next smaller number is only half as far
away as the next greater one. -/
structure Scaled where
  m : Nat
  q : Int
  narrow : Bool

/-- The value of the bits without the sign, for a finite number other than zero. -/
def Scaled.ofBits (x : Binary64) : Scaled :=
  let fraction : Nat := x.magnitude % Binary64.fractionCount
  let exponent : Nat := x.magnitude / Binary64.fractionCount
  if exponent = 0 then ⟨fraction, -1074, false⟩
  else ⟨Binary64.fractionCount + fraction, (exponent : Int) - 1075, fraction = 0 && exponent ≠ 1⟩

/-- The numerator and the denominator of `a * 2 ^ q / 10 ^ k`. -/
def ratio (a : Nat) (q k : Int) : Nat × Nat :=
  (a * Nat.pow 2 q.toNat * Nat.pow 10 (-k).toNat, Nat.pow 2 (-q).toNat * Nat.pow 10 k.toNat)

/-- Whether `d * 10 ^ k` rounds to `x`: it lies between the midpoints to the two neighbours of `x`,
or on one of them if `x` has an even `m`. -/
def Scaled.contains (x : Scaled) (d : Nat) (k : Int) : Bool :=
  let (low, den) := ratio (4 * x.m - if x.narrow then 1 else 2) (x.q - 2) k
  let (high, _) := ratio (4 * x.m + 2) (x.q - 2) k
  if x.m % 2 = 0 then low ≤ d * den && d * den ≤ high else low < d * den && d * den < high

/-- The multiple of `10 ^ k` that rounds to `x` and is nearest to it, as its count of `10 ^ k`; a
tie goes to the greater one. -/
def Scaled.nearestOnGrid? (x : Scaled) (k : Int) : Option Nat :=
  let (num, den) := ratio x.m x.q k
  let below := num / den
  let nearer := if 2 * (num % den) < den then below else below + 1
  let farther := if nearer = below then below + 1 else below
  if x.contains nearer k then some nearer
  else if x.contains farther k then some farther
  else none

/-- The number of decimal digits in front of the point, zero or less for a number below one. -/
def Scaled.magnitude (x : Scaled) : Int :=
  let (num, den) := ratio x.m x.q 0
  if den ≤ num then (Nat.toDigits 10 (num / den)).length
  else
    let (num, den) := ratio x.m x.q (-400)
    (Nat.toDigits 10 (num / den)).length - 400

/-- The fewest digits that read back as `x`, with the power of ten that they count. -/
def Scaled.shortest (x : Scaled) : Nat × Int :=
  let grids := (List.range 17).map fun n : Nat => x.magnitude - (n + 1 : Nat)
  let found := grids.findSome? fun k => (x.nearestOnGrid? k).map (·, k)
  found.getD (0, 0)

/-- The text of `d * 10 ^ k` in full, without an exponent and without a zero at its end behind the
point. -/
def positional (d : Nat) (k : Int) : List Char :=
  let digits := Nat.toDigits 10 d
  if 0 ≤ k then digits ++ List.replicate k.toNat '0'
  else
    let places := (-k).toNat
    let padded := List.replicate (places + 1 - digits.length) '0' ++ digits
    let whole := padded.take (padded.length - places)
    let behind := (padded.drop (padded.length - places)).reverse.dropWhile (· = '0')
    if behind.isEmpty then whole else whole ++ '.' :: behind.reverse

/-- The text of a double-precision number: `NaN`, `inf`, or the shortest digits that read back,
written in full, with a minus sign in front when the sign bit is set. -/
def shortest (x : Binary64) : String :=
  if x.isNaN then "NaN"
  else
    let sign := if x.isNegative then "-" else ""
    if x.magnitude = Binary64.infinityMagnitude then sign ++ "inf"
    else if x.magnitude = 0 then sign ++ "0"
    else
      let (d, k) := (Scaled.ofBits x).shortest
      sign ++ String.ofList (positional d k)

end SearchWire.Decimal
