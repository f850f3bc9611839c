import MonitorSync.Decimal.Power
set_option autoImplicit false

/-!
# Double precision numbers

A finite double is a sign, a significand and a binary exponent. Everything is exact arithmetic on
natural numbers: a decimal text is read by rounding a quotient, and a double is written with the
fewest digits that read back.

## Main definitions

* `Binary64` — a finite double
* `Binary64.round` — the double nearest to a quotient, ties to the even significand
* `Binary64.ofDigits` — reading a decimal significand and exponent
* `Binary64.shortest` — the fewest decimal digits within the rounding interval
* `Binary64.toText` — the written form, positional from `1e-5` up to `1e16`
-/

namespace MonitorSync

/-- The finite double `(-1)^negative * significand * 2^exponent`. A normalized value has its
significand in `[2^52, 2^53)`, or below `2^52` with the least exponent `-1074`; zero has the
least exponent too. -/
structure Binary64 where
  negative : Bool
  significand : Nat
  exponent : Int
deriving DecidableEq, Repr

namespace Binary64

/-- The least exponent of a double. -/
def minExponent : Int := -1074

/-- The greatest exponent of a double. -/
def maxExponent : Int := 971

/-- Zero of the given sign. -/
def zero (negative : Bool) : Binary64 := ⟨negative, 0, minExponent⟩

/-- Whether the value is a zero of either sign. -/
def isZero (x : Binary64) : Bool := x.significand = 0

/-- Whether the significand has its full width, which fails for zero and for values below
`2^-1022`. -/
def isNormal (x : Binary64) : Bool := twoPow 52 ≤ x.significand

/-- Numeric equality: as identity, except that the two zeros are equal. -/
def equal (x y : Binary64) : Bool := x == y || (x.isZero && y.isZero)

/-- The quotient rounded to the nearest natural number, ties to even. -/
def roundDiv (num den : Nat) : Nat :=
  let q := num / den
  let r := num % den
  if 2 * r < den then q
  else if den < 2 * r then q + 1
  else if q % 2 = 0 then q else q + 1

/-- The value `num / den` divided by `2^e`, as a quotient of naturals. -/
def scaled (num den : Nat) (e : Int) : Nat × Nat :=
  if 0 ≤ e then (num, den * twoPow e.toNat) else (num * twoPow (-e).toNat, den)

/-- The double nearest to `num / den`, ties to the even significand; none above the range. -/
def round (negative : Bool) (num den : Nat) : Option Binary64 :=
  if num = 0 then some (zero negative)
  else
    let guess : Int := (Nat.log2 num : Int) - Nat.log2 den - 52
    let floorAt (e : Int) : Nat := let s := scaled num den e; s.1 / s.2
    let fitted := if floorAt guess < twoPow 52 then guess - 1 else guess
    let e := max fitted minExponent
    let s := scaled num den e
    let m := roundDiv s.1 s.2
    let (m, e) := if m = twoPow 53 then (twoPow 52, e + 1) else (m, e)
    if maxExponent < e then none else some ⟨negative, m, e⟩

/-- The double as a quotient of naturals, without its sign. -/
def ratio (x : Binary64) : Nat × Nat :=
  if 0 ≤ x.exponent then (x.significand * twoPow x.exponent.toNat, 1)
  else (x.significand, twoPow (-x.exponent).toNat)

/-- The double nearest to a natural number. -/
def ofNat (n : Nat) : Option Binary64 := round false n 1

/-- The double nearest to an integer. -/
def ofInt (n : Int) : Option Binary64 := round (n < 0) n.natAbs 1

/-- The greatest power of ten that scales a significand in one step. -/
def maxPower : Nat := 308

/-- The rounded product or quotient of a double with a rounded power of ten. -/
def scaleByPower (x : Binary64) (up : Bool) (power : Nat) : Option Binary64 := do
  let p ← ofNat (tenPow power)
  let (n, d) := x.ratio
  let (pn, pd) := p.ratio
  if up then round x.negative (n * pn) (d * pd) else round x.negative (n * pd) (d * pn)

/-- Reads `significand * 10^exponent`. The significand is rounded first and then scaled by one
rounded power of ten, after as many divisions by `10^308` as bring the exponent into range; a
result above the range is refused. -/
def ofDigits (negative : Bool) (significand : Nat) (exponent : Int) : Option Binary64 := do
  let x ← round negative significand 1
  if x.isZero then return x
  if 0 ≤ exponent then
    if (maxPower : Int) < exponent then none else x.scaleByPower true exponent.toNat
  else
    let e := (-exponent).toNat
    if e ≤ maxPower then x.scaleByPower false e
    else
      let y ← x.scaleByPower false maxPower
      if e ≤ 2 * maxPower then y.scaleByPower false (e - maxPower)
      else return zero negative

/-- Order of two doubles by value; the zeros are equal. -/
def compare (x y : Binary64) : Ordering :=
  let (xn, xd) := x.ratio
  let (yn, yd) := y.ratio
  let xv : Int := if x.negative then -(xn : Int) else xn
  let yv : Int := if y.negative then -(yn : Int) else yn
  Ord.compare (xv * yd) (yv * xd)

/-- The number of decimal digits of `n`, one for zero. -/
def digitCount (n : Nat) : Nat := (Nat.toDigits 10 n).length

/-- The decimal exponent of the grid on which `count` digits of the value `num / den` stand: the
value is below `10^(grid + count)`, and for a positive value at least a tenth of it. -/
def gridFor (num den count : Nat) : Int :=
  let guess : Int := (digitCount num : Int) - digitCount den
  let atLeast : Bool :=
    if 0 ≤ guess then decide (den * tenPow guess.toNat ≤ num)
    else decide (den ≤ num * tenPow (-guess).toNat)
  (if atLeast then guess + 1 else guess) - count

/-- The digits and grid exponent of the shortest decimal that rounds to the positive double `x`:
on each grid from one digit up, the two neighbours of the value are tried, the nearer first. -/
def shortest (x : Binary64) : Nat × Int :=
  let m := x.significand
  let (num, den) := (Binary64.mk false (4 * m) x.exponent).ratio
  -- the interval of values that round to `x`, in quarters of a unit of the significand
  let below := if m = twoPow 52 && x.exponent ≠ minExponent then 4 * m - 1 else 4 * m - 2
  let (low, _) := (Binary64.mk false below x.exponent).ratio
  let (high, _) := (Binary64.mk false (4 * m + 2) x.exponent).ratio
  let closed := m % 2 = 0
  let inside (digits : Nat) (grid : Int) : Bool :=
    -- `digits * 10^grid * 4 * den` against `low`, `high`
    let (a, b) := if 0 ≤ grid then (digits * tenPow grid.toNat, 1)
      else (digits, tenPow (-grid).toNat)
    let v := 4 * a * den
    if closed then decide (low * b ≤ v) && decide (v ≤ high * b)
    else decide (low * b < v) && decide (v < high * b)
  let rec search : Nat → Nat → Nat × Int
    | 0, _ => (m, 0)
    | tries + 1, count =>
      let grid := gridFor num (4 * den) count
      let (a, b) := if 0 ≤ grid then (num, 4 * den * tenPow grid.toNat)
        else (num * tenPow (-grid).toNat, 4 * den)
      let q := a / b
      let nearer := roundDiv a b
      let other := if nearer = q then q + 1 else q
      if nearer ≠ 0 && inside nearer grid then (nearer, grid)
      else if other ≠ 0 && inside other grid then (other, grid)
      else search tries (count + 1)
  search 17 1

/-- Removes the zeros at the end of a digit text that stand left of the grid. -/
def trimZeros (digits : Nat) (grid : Int) : Nat × Int :=
  let text := Nat.toDigits 10 digits
  let kept := (text.reverse.dropWhile (· = '0')).reverse
  let dropped := text.length - kept.length
  (digits / tenPow dropped, grid + dropped)

/-- The written form of a double: the shortest digits, positional while the leading digit stands
for `10^-5` up to `10^15` and with `.0` when integral, else in scientific form with a sign on a
positive exponent. -/
def toText (x : Binary64) : String :=
  let sign := if x.negative then "-" else ""
  if x.isZero then sign ++ "0.0"
  else
    let (d, g) := x.shortest
    let (d, g) := trimZeros d g
    let digits := Nat.toDigits 10 d
    let lead : Int := g + digits.length - 1
    let body :=
      if -5 ≤ lead && lead ≤ 15 then
        if 0 ≤ g then String.ofList (digits ++ List.replicate g.toNat '0') ++ ".0"
        else if 0 ≤ lead then
          let whole := lead.toNat + 1
          String.ofList (digits.take whole) ++ "." ++ String.ofList (digits.drop whole)
        else "0." ++ String.ofList (List.replicate ((-lead).toNat - 1) '0' ++ digits)
      else
        let tail := digits.drop 1
        let mantissa := String.ofList (digits.take 1) ++
          (if tail.isEmpty then "" else "." ++ String.ofList tail)
        mantissa ++ "e" ++ (if 0 ≤ lead then "+" else "") ++ toString lead
    sign ++ body

end Binary64

end MonitorSync
