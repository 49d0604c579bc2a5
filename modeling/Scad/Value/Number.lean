import Scad.Number.Binary64
import Scad.World.Basic

/-!
Arithmetic on the numbers of the language: integers of unbounded size and
floating point numbers. Where an integer meets a floating point number it is
rounded to one, which fails if it is too large; comparison rounds nothing.
-/

namespace Scad

inductive Num where
  | int (n : Int)
  | float (x : Float)

namespace Num

def toFloat : Num → Except Fault Float
  | int n =>
    match Binary64.ofInt? n with
    | some x => .ok x
    | none => .error .integerTooLarge
  | float x => .ok x

/-- Apply one operation to two integers, the other if either number is a
floating point number. -/
def arith (onInt : Int → Int → Int) (onFloat : Float → Float → Float) (a b : Num) :
    Except Fault Num :=
  match a, b with
  | int m, int n => .ok (int (onInt m n))
  | _, _ => do
    let x ← a.toFloat
    let y ← b.toFloat
    return float (onFloat x y)

def add : Num → Num → Except Fault Num := arith (· + ·) (· + ·)

def sub : Num → Num → Except Fault Num := arith (· - ·) (· - ·)

def mul : Num → Num → Except Fault Num := arith (· * ·) (· * ·)

/-- A quotient is always a floating point number. -/
def div (a b : Num) : Except Fault Num :=
  match a, b with
  | int m, int n =>
    if n = 0 then .error .divisionByZero
    else
      match Binary64.ofQuotient? m n with
      | some q => .ok (float q)
      | none => .error .quotientTooLarge
  | _, _ => do
    let x ← a.toFloat
    let y ← b.toFloat
    if y == 0 then throw .floatDivisionByZero
    return float (x / y)

/-- The remainder has the sign of the divisor. -/
def mod (a b : Num) : Except Fault Num :=
  match a, b with
  | int m, int n => if n = 0 then .error .moduloByZero else .ok (int (Int.fmod m n))
  | _, _ => do
    let x ← a.toFloat
    let y ← b.toFloat
    if y == 0 then throw .floatModuloByZero
    return float (Binary64.floorRem x y)

def neg : Num → Num
  | int n => int (-n)
  | float x => float (-x)

def abs : Num → Num
  | int n => int n.natAbs
  | float x => float x.abs

def compareFloat (x y : Float) : Option Ordering :=
  if x < y then some .lt
  else if y < x then some .gt
  else if x == y then some .eq
  else none

/-- Exact comparison; `none` if either is not a number. -/
def compare : Num → Num → Option Ordering
  | int m, int n => some (Ord.compare m n)
  | int m, float y => ((Binary64.ofFloat y).compareInt m).map Ordering.swap
  | float x, int n => (Binary64.ofFloat x).compareInt n
  | float x, float y => compareFloat x y

/-- The whole number below or above; integers stay. -/
def toWhole (round : Bool → Nat → Int → Int) : Num → Except Fault Int
  | int n => .ok n
  | float x =>
    match Binary64.ofFloat x with
    | .nan => .error .nanToInteger
    | .infinite _ => .error .infinityToInteger
    | .finite s m e => .ok (round s m e)

def floor : Num → Except Fault Int := toWhole Binary64.floor

def ceil : Num → Except Fault Int := toWhole Binary64.ceil

/-- Toward zero. -/
def trunc : Num → Except Fault Int :=
  toWhole fun s m e => if s then Binary64.ceil s m e else Binary64.floor s m e

end Num

def Value.num? : Value → Option Num
  | int n => some (.int n)
  | bool b => some (.int (if b then 1 else 0))
  | float x => some (.float x)
  | nan _ => some (.float Binary64.nan.toFloat)
  | _ => none

def Value.codePoint (v : Value) : Run CodePoint :=
  match v.int? with
  | none => throw .typeMismatch
  | some n =>
    if n < -(Nat.pow 2 31) || Nat.pow 2 31 ≤ n then throw .charTooWide
    else Run.demand .charOutOfRange (CodePoint.ofInt? n)

def Run.number : Num → Run Value
  | .int n => return .int n
  | .float x => newFloat x

end Scad
