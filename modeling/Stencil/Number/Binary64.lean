/-!
# Binary floating-point numbers

Double precision numbers, as exact values. A decimal number is read as the double nearest to it,
of two equally near ones the even one (`ofDecimal?`); or its digits are, and the double that they
make is scaled by powers of ten, where every step rounds (`ofScaled?`). A double is written with the
fewest digits that read back as the same double; a `FloatStyle` says which of two such decimals is
taken, and whether numbers that would take many zeros have an exponent.
-/

namespace Stencil

/-- A double: a finite one is its mantissa times a power of two. -/
inductive Binary64 where
  | nan
  | infinite (negative : Bool)
  | finite (negative : Bool) (mantissa : Nat) (exponent : Int)
deriving Repr, DecidableEq

/-- Which of two equally near decimals stands for a number: the one away from zero, or the one with
an even last digit. -/
inductive Tie where
  | away
  | toEven
deriving Repr, DecidableEq

/-- Whether a tie between a number of units and the next one goes to the next one. -/
def Tie.goesUp (tie : Tie) (floor : Nat) : Bool :=
  match tie with
  | away => true
  | toEven => floor % 2 = 1

/-- How doubles are written. -/
structure FloatStyle where
  tie : Tie
  /-- Whether large and small numbers have an exponent. -/
  exponents : Bool
deriving Repr, DecidableEq

namespace Binary64

/-! ### Reading -/

/-- The least exponent. -/
def minExponent : Int := -1074

/-- The greatest exponent. -/
def maxExponent : Int := 971

/-- The least mantissa of a double above the least exponent. The mantissas go up to its double. -/
def implicitBit : Nat := 4503599627370496

/-- The quotient of two numbers, rounded to the nearest integer, a half to the even neighbour. -/
def roundDiv (num den : Nat) : Nat :=
  let floor := num / den
  let twice := 2 * (num % den)
  if twice > den ∨ twice = den ∧ floor % 2 = 1 then floor + 1 else floor

/-- A fraction that is multiplied by a power of a base, as numerator and denominator. -/
def scale (base num den : Nat) (exponent : Int) : Nat × Nat :=
  match exponent with
  | .ofNat e => (num * base.pow e, den)
  | .negSucc e => (num, den * base.pow (e + 1))

/-- The double nearest to a fraction, or `none` if that is beyond the greatest one. -/
def ofFraction? (negative : Bool) (num den : Nat) : Option Binary64 :=
  if num = 0 then some (finite negative 0 minExponent)
  else
    -- Two bit lengths bound the quotient within a factor of two each, so the estimate gives a
    -- mantissa of 53 bits or of 54, and in the latter case the next exponent is the right one.
    let estimate : Int := (Nat.log2 num : Int) - Nat.log2 den - 53
    let first := max estimate minExponent
    let mantissaAt (exponent : Int) : Nat :=
      let (n, d) := scale 2 num den (-exponent)
      roundDiv n d
    let exponent := if mantissaAt first ≥ implicitBit * 2 then first + 1 else first
    let mantissa := mantissaAt exponent
    -- Rounding up may have carried into one more bit.
    let (mantissa, exponent) :=
      if mantissa = implicitBit * 2 then (implicitBit, exponent + 1) else (mantissa, exponent)
    if exponent > maxExponent then none else some (finite negative mantissa exponent)

/-- The double nearest to a number of digits and a power of ten, or `none` if that is beyond the
greatest one. The first two cases only keep the powers small. -/
def ofDecimal? (negative : Bool) (digits : Nat) (exponent : Int) : Option Binary64 :=
  let magnitude : Int := (Nat.toDigits 10 digits).length + exponent
  if digits = 0 ∨ magnitude < -400 then some (finite negative 0 minExponent)
  else if magnitude > 400 then none
  else
    let (num, den) := scale 10 digits 1 exponent
    ofFraction? negative num den

/-! ### Scaling -/

/-- The greatest power of ten that is below the greatest double. -/
def maxPower : Nat := 308

/-- A finite double times or over a power of ten up to the greatest, which is rounded to a double
itself; `none` if the result is beyond the greatest double. -/
def scaledOnce? (x : Binary64) (up : Bool) (power : Nat) : Option Binary64 := do
  let finite negative mantissa exponent := x | none
  let finite _ m e ← ofFraction? false (Nat.pow 10 power) 1 | none
  let (num, den) := scale 2 mantissa 1 exponent
  let (n, d) := scale 2 m 1 e
  if up then ofFraction? negative (num * n) (den * d) else ofFraction? negative (num * d) (den * n)

/-- Whether a double is zero. -/
def isZero : Binary64 → Bool
  | finite _ mantissa _ => mantissa = 0
  | _ => false

/-- A finite double times a power of ten, or `none` if that is beyond the greatest double. What is
to become very small is scaled down by the greatest power first, as often as it takes. -/
def scaled? (x : Binary64) (power : Int) : Option Binary64 :=
  if power.natAbs ≤ maxPower then x.scaledOnce? (0 ≤ power) power.natAbs
  else if x.isZero then some x
  else if 0 < power then none
  else (x.scaledOnce? false maxPower).bind (·.scaled? (power + maxPower))
termination_by power.natAbs
decreasing_by simp only [maxPower] at *; omega

/-- The double that a number of digits makes when it is scaled by a power of ten. -/
def ofScaled? (negative : Bool) (digits : Nat) (power : Int) : Option Binary64 :=
  (ofFraction? negative digits 1).bind (·.scaled? power)

/-! ### Writing -/

/-- The ends of the interval of numbers that are nearest to a double, as numerators over a common
denominator, with the numerator of the double itself between them. -/
def neighbourhood (mantissa : Nat) (exponent : Int) : Nat × Nat × Nat × Nat :=
  let (num, den) := scale 2 (4 * mantissa) 4 exponent
  let (unit, _) := scale 2 1 4 exponent
  let below := if mantissa = implicitBit ∧ exponent > minExponent then unit else 2 * unit
  (num - below, num, num + 2 * unit, den)

/-- The least power of ten above a fraction that is not zero, searched for from one below. -/
def decimalMagnitude (num den : Nat) : Nat → Int → Int
  | 0, magnitude => magnitude
  | fuel + 1, magnitude =>
    let (n, d) := scale 10 num den (-magnitude)
    if n < d then magnitude else decimalMagnitude num den fuel (magnitude + 1)

/-- The digits and the power of ten of the shortest decimal number nearest to a double that is not
zero. Of two decimals of one length the nearer is taken. -/
def shortest (tie : Tie) (mantissa : Nat) (exponent : Int) : Nat × Int :=
  let (low, num, high, den) := neighbourhood mantissa exponent
  let guess : Int := ((Nat.log2 num : Int) - Nat.log2 den) * 3 / 10 - 2
  let magnitude := decimalMagnitude num den 400 guess
  let inside (digits : Nat) (power : Int) : Bool :=
    let (n, d) := scale 10 digits 1 power
    if mantissa % 2 = 0 then low * d ≤ n * den && n * den ≤ high * d
    else low * d < n * den && n * den < high * d
  -- The decimals with `count` digits next to the double on either side, the nearer one first.
  let candidate (count : Nat) : Option (Nat × Int) :=
    let power := magnitude - count
    let (n, d) := scale 10 num den (-power)
    let floor := n / d
    let up := 2 * (n % d) > d ∨ 2 * (n % d) = d ∧ tie.goesUp floor
    let nearFirst := if up then [floor + 1, floor] else [floor, floor + 1]
    (nearFirst.find? (inside · power)).map fun digits =>
      if digits = Nat.pow 10 count then (Nat.pow 10 (count - 1), power + 1) else (digits, power)
  -- Seventeen digits always suffice.
  ((List.range 17).findSome? fun i => candidate (i + 1)).getD (0, 0)

/-- Digits and a power of ten in positional notation, with a digit on both sides of the point. -/
def positional (digits : Nat) (power : Int) : String :=
  match power with
  | .ofNat e => toString (digits * Nat.pow 10 e) ++ ".0"
  | .negSucc e =>
    let places := e + 1
    let fraction := Nat.toDigits 10 (digits % Nat.pow 10 places)
    toString (digits / Nat.pow 10 places) ++ "." ++
      String.ofList (List.replicate (places - fraction.length) '0' ++ fraction)

/-- Digits and a power of ten with one digit before the point and an exponent. A number of one
digit has no point. -/
def exponential (digits : Nat) (power : Int) : String :=
  let (first, rest) := (Nat.toDigits 10 digits).splitAt 1
  let exponent := power + rest.length
  String.ofList first ++ (if rest.isEmpty then "" else "." ++ String.ofList rest) ++ "e" ++
    (if exponent < 0 then "" else "+") ++ toString exponent

/-- Digits and a power of ten, in positional notation from a hundred thousandth up to ten to the
sixteenth, else with an exponent. -/
def compact (digits : Nat) (power : Int) : String :=
  let magnitude : Int := (Nat.toDigits 10 digits).length + power
  if -5 < magnitude ∧ magnitude ≤ 16 then positional digits power else exponential digits power

/-- How a double is written. -/
def text (style : FloatStyle) : Binary64 → String
  | nan => "NaN"
  | infinite negative => if negative then "-inf" else "inf"
  | finite negative mantissa exponent =>
    let sign := if negative then "-" else ""
    if mantissa = 0 then sign ++ "0.0"
    else
      let (digits, power) := shortest style.tie mantissa exponent
      sign ++ if style.exponents then compact digits power else positional digits power

end Binary64

end Stencil
