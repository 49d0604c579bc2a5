import Scad.Number.Binary64

/-!
The shortest decimal that reads back as a given number. For one digit, two
digits, and so on, the two neighbours of the value on that decimal grid are
tested against the interval of reals that round to the value; the first grid
with a hit wins, and of two hits the nearer.
-/

namespace Scad

/-- A decimal `d.ddd · 10 ^ exponent`, its digits read as one integer without
trailing zeros. -/
structure Decimal where
  digits : Nat
  exponent : Int
  deriving DecidableEq, Repr

namespace Decimal

/-- Compare `c · 10 ^ p` with `b · 2 ^ q`. -/
def compareBinary (c : Nat) (p : Int) (b : Nat) (q : Int) : Ordering :=
  compare (c * Nat.pow 10 p.toNat * Nat.pow 2 (-q).toNat)
    (b * Nat.pow 2 q.toNat * Nat.pow 10 (-p).toNat)

/-- Does `c · 10 ^ p` round to `m · 2 ^ e`? The ends of the interval count if
the mantissa is even. Below a power of two the numbers lie twice as dense. -/
def readsBack (m : Nat) (e : Int) (c : Nat) (p : Int) : Bool :=
  let low := if m = Binary64.hiddenBit && Binary64.leastExponent < e then 4 * m - 1 else 4 * m - 2
  let high := 4 * m + 2
  match compareBinary c p low (e - 2), compareBinary c p high (e - 2) with
  | .gt, .lt => true
  | .eq, _ | _, .eq => m % 2 == 0
  | _, _ => false

/-- The largest `k` with `10 ^ k ≤ m · 2 ^ e`, searched from a guess that is at
most two too large. -/
def magnitude (m : Nat) (e : Int) : Int :=
  let guess := ((Nat.log2 m + e + 1) * 30103).fdiv 100000 + 1
  if compareBinary 1 guess m e != .gt then guess
  else if compareBinary 1 (guess - 1) m e != .gt then guess - 1
  else guess - 2

/-- The point of the grid `10 ^ p` nearest to `m · 2 ^ e` that reads back. -/
def onGrid (m : Nat) (e p : Int) : Option Nat :=
  let num := m * Nat.pow 2 e.toNat * Nat.pow 10 (-p).toNat
  let den := Nat.pow 2 (-e).toNat * Nat.pow 10 p.toNat
  let below := num / den
  let lowHit := below != 0 && readsBack m e below p
  let highHit := readsBack m e (below + 1) p
  if lowHit && highHit then some (Binary64.roundDiv num den)
  else if lowHit then some below
  else if highHit then some (below + 1)
  else none

def dropZeros : (fuel : Nat) → Nat → Nat
  | 0, n => n
  | fuel + 1, n => if n != 0 && n % 10 == 0 then dropZeros fuel (n / 10) else n

def digitCountFrom : (fuel : Nat) → Nat → Nat
  | 0, _ => 1
  | fuel + 1, n => if n < 10 then 1 else digitCountFrom fuel (n / 10) + 1

def digitCount (n : Nat) : Nat := digitCountFrom (Nat.log2 n + 1) n

/-- Search the grids with `places`, `places + 1`, … digits. -/
def search (m : Nat) (e k : Int) : (fuel places : Nat) → Decimal
  | 0, _ => ⟨m, 0⟩
  | fuel + 1, places =>
    let p := k - (places - 1 : Nat)
    match onGrid m e p with
    | some c => ⟨dropZeros 20 c, p + (digitCount c - 1 : Nat)⟩
    | none => search m e k fuel (places + 1)

/-- The shortest decimal that reads back as `m · 2 ^ e`, for `0 < m`. -/
def shortest (m : Nat) (e : Int) : Decimal := search m e (magnitude m e) 17 1

end Decimal
end Scad
