/-!
Double-precision numbers, exactly: a decimal is rounded to the nearest of them, and written back
with the fewest digits that still round to the same number. All arithmetic is on natural numbers.
-/

namespace Regulatory.Number

/-- A value of the 64-bit binary format. A finite one is `significand * 2 ^ exponent`, where the
significand has at most 53 bits and the exponent is at least -1074. -/
inductive Binary64 where
  | finite (negative : Bool) (significand : Nat) (exponent : Int)
  | infinite (negative : Bool)
  | nan
deriving DecidableEq, Repr

/-- The fraction `num / den`, for a positive `den`. -/
structure Fraction where
  num : Nat
  den : Nat
deriving DecidableEq, Repr

namespace Fraction

/-- The fraction times a power of a positive base. -/
def scale (x : Fraction) (base : Nat) (exponent : Int) : Fraction :=
  ⟨x.num * Nat.pow base exponent.toNat, x.den * Nat.pow base (-exponent).toNat⟩

/-- The nearest whole number. A half goes to the even neighbour. -/
def round (x : Fraction) : Nat :=
  let below := x.num / x.den
  let rest := 2 * (x.num % x.den)
  if rest < x.den then below
  else if x.den < rest then below + 1
  else below + below % 2

/-- The whole part of the binary logarithm of a positive fraction. -/
def log2 (x : Fraction) : Int :=
  let guess : Int := (Nat.log2 x.num : Int) - Nat.log2 x.den
  let scaled := (⟨1, 1⟩ : Fraction).scale 2 guess
  if scaled.num * x.den ≤ x.num * scaled.den then guess else guess - 1

end Fraction

namespace Binary64

def minExponent : Int := -1074

def maxExponent : Int := 971

/-- The least significand of a number that is not subnormal, `2 ^ 52`. -/
def leastNormal : Nat := 0x10000000000000

/-- The number nearest to `digits * 10 ^ exponent`. Exponents far out of range are settled by the
number of digits, so that no huge power is computed. -/
def ofDecimal (negative : Bool) (digits : Nat) (exponent : Int) : Binary64 :=
  let top : Int := (Nat.toDigits 10 digits).length + exponent
  if digits = 0 || top < -330 then finite negative 0 minExponent
  else if 310 < top then infinite negative
  else
    let x := (⟨digits, 1⟩ : Fraction).scale 10 exponent
    let q := max minExponent (x.log2 - 52)
    let m := (x.scale 2 (-q)).round
    let rounded : Nat × Int := if m = 2 * leastNormal then (leastNormal, q + 1) else (m, q)
    if maxExponent < rounded.2 then infinite negative else finite negative rounded.1 rounded.2

/-- The ends of the interval of what rounds to `m * 2 ^ q`, in units of `2 ^ (q - 2)`. Below a
power of two the neighbour is nearer. -/
def roundingInterval (m : Nat) (q : Int) : Nat × Nat :=
  (4 * m - (if m = leastNormal ∧ minExponent < q then 1 else 2), 4 * m + 2)

/-- The multiple of `10 ^ g` next to `m * 2 ^ q` that rounds to it, if there is one. Of two the
nearer is taken, or else the greater. The ends of the interval count if `m` is even. -/
def onGrid? (m : Nat) (q g : Int) : Option Nat :=
  let ends := roundingInterval m q
  -- The ratio of the two units, so that `x` units of the interval are `x * s / t` of the grid.
  let ratio := ((⟨1, 1⟩ : Fraction).scale 2 (q - 2)).scale 10 (-g)
  let s := ratio.num
  let t := ratio.den
  let below := 4 * m * s / t
  let reaches (a b : Nat) : Bool := if m % 2 = 0 then a ≤ b else a < b
  let low := below ≠ 0 && reaches (ends.1 * s) (below * t)
  let high := reaches ((below + 1) * t) (ends.2 * s)
  match low, high with
  | true, true =>
    if 4 * m * s - below * t < (below + 1) * t - 4 * m * s then some below else some (below + 1)
  | true, false => some below
  | false, true => some (below + 1)
  | false, false => none

/-- The shortest decimal that rounds to `m * 2 ^ q`, as digits and an exponent of ten. The coarsest
grid with a point in the interval gives the fewest digits. -/
def shortest (m : Nat) (q : Int) : Nat × Int :=
  go 650 309
where
  go : Nat → Int → Nat × Int
    | 0, g => (0, g)
    | fuel + 1, g =>
      match onGrid? m q g with
      | some digits => (digits, g)
      | none => go fuel (g - 1)

/-- A decimal written without an exponent. -/
def positional (digits : Nat) (exponent : Int) : String :=
  let ds := Nat.toDigits 10 digits
  let zeros (n : Nat) := List.replicate n '0'
  let places := (-exponent).toNat
  if places = 0 then String.ofList (ds ++ zeros exponent.toNat)
  else if places < ds.length then
    String.ofList (ds.take (ds.length - places) ++ '.' :: ds.drop (ds.length - places))
  else String.ofList ('0' :: '.' :: zeros (places - ds.length) ++ ds)

/-- The number written with as few digits as tell it apart, and always with a point if it is
finite. -/
def text : Binary64 → String
  | nan => "NaN"
  | infinite negative => (if negative then "-" else "") ++ "inf"
  | finite negative m q =>
    let decimal := if m = 0 then (0, 0) else shortest m q
    let written := positional decimal.1 decimal.2
    (if negative then "-" else "") ++ written ++ (if written.contains '.' then "" else ".0")

end Binary64

end Regulatory.Number
