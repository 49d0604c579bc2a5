/-!
Floating point numbers taken apart. A finite number is an exact binary fraction
`± mantissa · 2 ^ exponent`; everything that has to be exact (comparison with an
integer, remainders, rounding a quotient) is done on that fraction in integer
arithmetic.
-/

namespace Scad

variable (negative : Bool) (num den : Nat)

inductive Binary64 where
  | nan
  | infinite (negative : Bool)
  | finite (negative : Bool) (mantissa : Nat) (exponent : Int)
  deriving DecidableEq, Repr

namespace Binary64

def leastExponent : Int := -1074

def precision : Nat := 53

def greatestExponent : Int := 971

def hiddenBit : Nat := Nat.pow 2 52

def ofBits (bits : Nat) : Binary64 :=
  let negative := Nat.pow 2 63 ≤ bits
  let field := bits / hiddenBit % 2048
  let fraction := bits % hiddenBit
  if field = 2047 then
    if fraction = 0 then infinite negative else nan
  else if field = 0 then finite negative fraction leastExponent
  else finite negative (hiddenBit + fraction) (field - 1075)

def ofFloat (x : Float) : Binary64 := ofBits x.toBits.toNat

def signBit : Nat := if negative then Nat.pow 2 63 else 0

/-- The pattern of `± mantissa · 2 ^ exponent` for a mantissa of at most
`precision` bits, which is full unless the exponent is the least one. Too
large a number becomes infinite. -/
def toBits : Binary64 → Nat
  | nan => 2047 * hiddenBit + Nat.pow 2 51
  | infinite negative => signBit negative + 2047 * hiddenBit
  | finite negative mantissa exponent =>
    if mantissa < hiddenBit then signBit negative + mantissa
    else if greatestExponent < exponent then signBit negative + 2047 * hiddenBit
    else signBit negative + (exponent + 1075).toNat * hiddenBit + (mantissa - hiddenBit)

def toFloat (b : Binary64) : Float := Float.ofBits (UInt64.ofNat b.toBits)

/-- Round `num / den` to an integer; a half goes to the even neighbour. -/
def roundDiv : Nat :=
  let q := num / den
  let r := 2 * (num % den)
  if den < r || (r == den && q % 2 == 1) then q + 1 else q

def scaled (exponent : Int) : Nat × Nat :=
  (num * Nat.pow 2 (-exponent).toNat, den * Nat.pow 2 exponent.toNat)

/-- The number nearest to `± num / den`, a tie going to the even mantissa. -/
def ofRatio : Binary64 :=
  if num = 0 || den = 0 then finite negative 0 leastExponent
  else
    let magnitude : Int := (Nat.log2 num : Int) - Nat.log2 den
    let e := max (magnitude - precision) leastExponent
    let (n, d) := scaled num den e
    let e := if n / d < Nat.pow 2 precision then e else e + 1
    let (n, d) := scaled num den e
    let m := roundDiv n d
    let (m, e) := if m = Nat.pow 2 precision then (hiddenBit, e + 1) else (m, e)
    if greatestExponent < e then infinite negative else finite negative m e

/-- The nearest number to an integer, or `none` if it is beyond the largest. -/
def ofInt? (n : Int) : Option Float :=
  match ofRatio (n < 0) n.natAbs 1 with
  | infinite _ => none
  | b => some b.toFloat

/-- The nearest number to a quotient of integers, or `none` if it is beyond the
largest. A zero has the sign of the divisor. -/
def ofQuotient? (a b : Int) : Option Float :=
  match ofRatio (decide (a < 0) != decide (b < 0)) a.natAbs b.natAbs with
  | infinite _ => none
  | q => some q.toFloat

/-! ## Exact comparison -/

def whole (mantissa : Nat) (exponent : Int) (shift : Nat) : Int :=
  let n : Int := mantissa * Nat.pow 2 (exponent + shift).toNat
  if negative then -n else n

def compareInt : Binary64 → Int → Option Ordering
  | nan, _ => none
  | infinite true, _ => some .lt
  | infinite false, _ => some .gt
  | finite negative m e, n =>
    let shift := (-e).toNat
    some (compare (whole negative m e shift) (n * Nat.pow 2 shift))

/-! ## Whole numbers -/

def floor : Bool → Nat → Int → Int
  | negative, m, e => Int.fdiv (whole negative m e (-e).toNat) (Nat.pow 2 (-e).toNat)

def ceil : Bool → Nat → Int → Int
  | negative, m, e => -(Int.fdiv (-(whole negative m e (-e).toNat)) (Nat.pow 2 (-e).toNat))

/-- The nearest whole number, a half going to the even one; the sign stays,
also on zero. -/
def roundWhole : Binary64 → Binary64
  | finite negative m e =>
    ofRatio negative (roundDiv (m * Nat.pow 2 e.toNat) (Nat.pow 2 (-e).toNat)) 1
  | b => b

/-! ## Remainder -/

/-- The remainder of two magnitudes, in units of `2 ^ min e₁ e₂`. -/
def magnitudeRem (m₁ : Nat) (e₁ : Int) (m₂ : Nat) (e₂ : Int) : Nat × Int :=
  let e := min e₁ e₂
  ((m₁ * Nat.pow 2 (e₁ - e).toNat) % (m₂ * Nat.pow 2 (e₂ - e).toNat), e)

/-- The number `± m · 2 ^ e`, rounded if the mantissa is too long. -/
def ofScaled (m : Nat) (e : Int) : Binary64 :=
  ofRatio negative (m * Nat.pow 2 e.toNat) (Nat.pow 2 (-e).toNat)

/-- `x - y · trunc (x / y)`, exactly, with the sign of `x`. -/
def truncRem : Binary64 → Binary64 → Binary64
  | finite s m₁ e₁, finite _ m₂ e₂ =>
    if m₂ = 0 then nan
    else
      let (m, e) := magnitudeRem m₁ e₁ m₂ e₂
      ofScaled s m e
  | finite s m e, infinite _ => finite s m e
  | _, _ => nan

def isZero : Binary64 → Bool
  | finite _ m _ => m == 0
  | _ => false

def isNegative : Binary64 → Bool
  | finite s _ _ | infinite s => s
  | nan => false

/-- The remainder that has the sign of the divisor, for a divisor other than
zero. -/
def floorRem (x y : Float) : Float :=
  let r := truncRem (ofFloat x) (ofFloat y)
  match r with
  | nan => r.toFloat
  | _ =>
    if r.isZero then (finite (ofFloat y).isNegative 0 leastExponent).toFloat
    else if (ofFloat y).isNegative != r.isNegative then r.toFloat + y
    else r.toFloat

/-- Split a positive integer into `f · 2 ^ e` with `1/2 ≤ f < 1`, rounding `f`. -/
def splitExponent (n : Nat) : Float × Int :=
  let bits := Nat.log2 n + 1
  match ofRatio false n (Nat.pow 2 bits) with
  | finite s m e =>
    if m = hiddenBit && e = -52 then ((finite s m (e - 1)).toFloat, bits + 1)
    else ((finite s m e).toFloat, bits)
  | b => (b.toFloat, bits)

end Binary64
end Scad
