import Scad.Number.Shortest

/-!
Decimal texts of numbers: the text under which the language shows a number, and
fixed, scientific and general notation with a given number of places.
-/

namespace Scad

structure NumberLayout where
  positionalFrom : Int
  positionalBelow : Int
  wholeSuffix : String
  exponentDigits : Nat

variable (layout : NumberLayout) (places : Nat) (alternate : Bool) (mark : Char) (m : Nat)

/-- The language shows numbers from `0.0001` up to `10 ^ 16` positionally, keeps
`.0` on whole ones, and writes exponents with a sign and two digits. -/
def NumberLayout.shown : NumberLayout := ⟨-4, 16, ".0", 2⟩

namespace Decimal

def digitChars (n : Nat) : List Char := (Nat.repr n).toList

def zeros (n : Nat) : List Char := List.replicate n '0'

def padded (width n : Nat) : List Char :=
  let ds := digitChars n
  zeros (width - ds.length) ++ ds

def exponentText (e : Int) : List Char :=
  mark :: (if e < 0 then '-' else '+') :: padded layout.exponentDigits e.natAbs

def scientific (d : Decimal) : List Char :=
  match digitChars d.digits with
  | [] => []
  | [c] => c :: exponentText layout 'e' d.exponent
  | c :: cs => c :: '.' :: (cs ++ exponentText layout 'e' d.exponent)

def positional (d : Decimal) : List Char :=
  let ds := digitChars d.digits
  if d.exponent < 0 then '0' :: '.' :: (zeros (-d.exponent - 1).toNat ++ ds)
  else
    let whole := d.exponent.toNat + 1
    if ds.length ≤ whole then ds ++ zeros (whole - ds.length) ++ layout.wholeSuffix.toList
    else ds.take whole ++ '.' :: ds.drop whole

def render (d : Decimal) : List Char :=
  if layout.positionalFrom ≤ d.exponent && d.exponent < layout.positionalBelow then
    d.positional layout
  else d.scientific layout

end Decimal

namespace Binary64

def signText (negative : Bool) : List Char := if negative then ['-'] else []

/-- The text under which a number is shown: the fewest digits that read back. -/
def shown : Binary64 → List Char
  | nan => "nan".toList
  | infinite negative => signText negative ++ "inf".toList
  | finite negative m e =>
    signText negative ++
      if m = 0 then "0.0".toList else (Decimal.shortest m e).render .shown

end Binary64

def showFloat (x : Float) : String := String.ofList (Binary64.ofFloat x).shown

/-! ## A given number of places

These take a magnitude `m · 2 ^ e`; the sign is the caller's. -/

namespace Places

/-- `m · 2 ^ e · 10 ^ p`, rounded to an integer. -/
def roundAt (e p : Int) : Nat :=
  Binary64.roundDiv (m * Nat.pow 2 e.toNat * Nat.pow 10 p.toNat)
    (Nat.pow 2 (-e).toNat * Nat.pow 10 (-p).toNat)

def withPoint (n : Nat) : List Char :=
  let ds := Decimal.padded (places + 1) n
  let whole := ds.length - places
  if places = 0 then (if alternate then ds ++ ['.'] else ds)
  else ds.take whole ++ '.' :: ds.drop whole

/-- No number has more places after the point than this, or more significant
digits, that are not zero. -/
def exactPlaces : Nat := 1074

def fixed (e : Int) : List Char :=
  let kept := min places exactPlaces
  withPoint kept alternate (roundAt m e kept) ++ Decimal.zeros (places - kept)

/-- The value rounded to `places + 1` significant digits, with the decimal
exponent after rounding. -/
def significant (e : Int) : Nat × Int :=
  if m = 0 then (0, 0)
  else
    let k := Decimal.magnitude m e
    let n := roundAt m e (places - k)
    if Decimal.digitCount n = places + 2 then (n / 10, k + 1) else (n, k)

def exponentLayout : NumberLayout := ⟨0, 0, "", 2⟩

def scientific (e : Int) : List Char :=
  let kept := min places exactPlaces
  let (n, k) := significant kept m e
  withPoint kept alternate n ++ Decimal.zeros (places - kept) ++
    Decimal.exponentText exponentLayout mark k

def dropTrailing (cs : List Char) : List Char :=
  match (cs.reverse.dropWhile (· == '0')) with
  | '.' :: rest => rest.reverse
  | rest => rest.reverse

/-- General notation: `digits` significant digits, positional for small
exponents, without trailing zeros unless `alternate`. -/
def general (digits : Nat) (alternate : Bool) (mark : Char) (m : Nat) (e : Int) : List Char :=
  let digits := max digits 1
  let kept := min (digits - 1) exactPlaces
  let (n, k) := significant kept m e
  if -4 ≤ k && k < digits then
    let text := fixed ((digits - 1 : Nat) - k).toNat alternate m e
    if alternate || !text.contains '.' then text else dropTrailing text
  else
    let body := withPoint kept alternate n ++ Decimal.zeros (digits - 1 - kept)
    let body := if alternate || !body.contains '.' then body else dropTrailing body
    body ++ Decimal.exponentText exponentLayout mark k

end Places
end Scad
