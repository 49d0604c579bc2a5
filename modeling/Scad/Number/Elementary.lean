import Scad.Fault
import Scad.Number.Binary64

/-!
Elementary functions on floating point numbers. A result that is not a number,
from an argument that is one, lies outside the function's domain; an infinite
result from a finite argument is out of range, or outside the domain for a
function that cannot grow so large.
-/

namespace Scad
namespace Elementary

variable (x : Float)

def pi : Float := 3.141592653589793

def check (mayOverflow : Bool) (x r : Float) : Except Fault Float :=
  if r.isNaN && !x.isNaN then .error .mathDomain
  else if r.isInf && x.isFinite then .error (if mayOverflow then .mathRange else .mathDomain)
  else .ok r

def sqrt : Except Fault Float := check false x x.sqrt
def exp : Except Fault Float := check true x x.exp
def sin : Except Fault Float := check false x x.sin
def cos : Except Fault Float := check false x x.cos
def tan : Except Fault Float := check false x x.tan
def asin : Except Fault Float := check false x x.asin
def acos : Except Fault Float := check false x x.acos
def atan : Except Fault Float := check false x x.atan

def log : Except Fault Float :=
  if x.isNaN then .ok x
  else if x ≤ 0 then .error .mathDomain
  else .ok x.log

def logInt (n : Int) : Except Fault Float :=
  if n ≤ 0 then .error .mathDomain
  else
    match Binary64.ofInt? n with
    | some x => .ok x.log
    | none =>
      let (f, e) := Binary64.splitExponent n.toNat
      match Binary64.ofInt? e with
      | some e => .ok (f.log + Float.log 2 * e)
      | none => .error .integerTooLarge

end Elementary
end Scad
