import Scad.Script.Expr
import Scad.Value.Operator

/-!
The operators of the script language. Where the two languages have an operator
in common it means the same, but nothing is changed in place here.
-/

namespace Scad
namespace Script
namespace Operator

/-! ## Division and powers -/

def floorQuotient (x y : Float) : Float :=
  let q := ((x - Binary64.floorRem x y) / y).round
  if q == 0 then (if x / y < 0 || (1 / (x / y)) < 0 then -0.0 else 0.0) else q

def floorDivide (a b : Value) : Run Value := do
  match a.num?, b.num? with
  | some (.int m), some (.int n) =>
    if n = 0 then throw .floorDivisionByZero
    return .int (Int.fdiv m n)
  | some m, some n => do
    let x ← Run.lift m.toFloat
    let y ← Run.lift n.toFloat
    if y == 0 then throw .floatFloorDivisionByZero
    Run.newFloat (floorQuotient x y)
  | _, _ => throw .typeMismatch

/-- Powers with more bits than this are not computed. -/
def powerLimit : Nat := Nat.pow 2 26

def isWhole (x : Float) : Bool := x.floor == x

/-- A power of floating point numbers. A root of a negative number is not
real. -/
def floatPower (x y : Float) : Run Value := do
  if x == 0 && y < 0 then throw .zeroToNegativePower
  if x < 0 && x.isFinite && y.isFinite && !isWhole y then return .foreign "complex"
  let r := Float.pow x y
  if x.isFinite && y.isFinite && !r.isFinite then throw .powerTooLarge
  Run.newFloat r

def power (a b : Value) : Run Value := do
  match a.num?, b.num? with
  | some (.int m), some (.int n) =>
    if n < 0 then floatPower (← Run.lift (Num.toFloat (.int m))) (← Run.lift (Num.toFloat (.int n)))
    else if m.natAbs ≤ 1 then
      return .int (if n = 0 then 1 else if n % 2 = 0 then m * m else m)
    else if powerLimit < (Nat.log2 m.natAbs + 1) * n.toNat then throw .outOfMemory
    else return .int (Int.pow m n.toNat)
  | some m, some n => do floatPower (← Run.lift m.toFloat) (← Run.lift n.toFloat)
  | _, _ => throw .typeMismatch

/-! ## Bits -/

/-- Combine two whole numbers bit by bit, negative ones in two's complement.
Truth values stay truth values. -/
def bitwise (onBool : Bool → Bool → Bool) (onInt : Int → Int → Int) (a b : Value) : Run Value :=
  match a, b with
  | .bool x, .bool y => return .bool (onBool x y)
  | _, _ => do
    return .int (onInt (← Run.demand .typeMismatch a.int?) (← Run.demand .typeMismatch b.int?))

def bitNot (n : Int) : Int := -n - 1

def bitAnd (m n : Int) : Int := Value.common.bitAnd m n

def bitOr (m n : Int) : Int := bitNot (bitAnd (bitNot m) (bitNot n))

def bitXor (m n : Int) : Int := bitAnd (bitOr m n) (bitNot (bitAnd m n))

/-- Shifts by more than this are not computed. -/
def shiftLimit : Nat := Nat.pow 2 32

def shift (left : Bool) (a b : Value) : Run Value := do
  let m ← Run.demand .typeMismatch a.int?
  let n ← Run.demand .typeMismatch b.int?
  if n < 0 then throw .negativeShift
  else if left then
    if m = 0 then return .int 0
    else if shiftLimit < n.toNat then throw .outOfMemory
    else return .int (m * Nat.pow 2 n.toNat)
  else if Nat.log2 m.natAbs < n.toNat then return .int (if m < 0 then -1 else 0)
  else return .int (Int.fdiv m (Nat.pow 2 n.toNat))

def binary (op : BinaryOp) (a b : Value) : Run Value :=
  match op with
  | .add => a.plus b
  | .sub => a.minus b
  | .mul => a.times b
  | .matMul => throw .typeMismatch
  | .div => a.divide b
  | .floorDiv => floorDivide a b
  | .mod => a.modulo b
  | .pow => power a b
  | .shiftLeft => shift true a b
  | .shiftRight => shift false a b
  | .bitAnd => bitwise (· && ·) bitAnd a b
  | .bitOr => bitwise (· || ·) bitOr a b
  | .bitXor => bitwise (· != ·) bitXor a b

def unary (op : UnaryOp) (a : Value) : Run Value := do
  match op with
  | .not => return .bool !(← a.truth)
  | .minus => a.negate
  | .plus => Run.number (← Run.demand .typeMismatch a.num?)
  | .invert => return .int (bitNot (← Run.demand .typeMismatch a.int?))

/-! ## Comparison -/

def beginsWith (front : Text) (t : Text) : Bool := t.take front.length == front

def findPart (part : Text) (i : Nat) : Text → Option Nat
  | [] => if part.isEmpty then some i else none
  | p :: t => if beginsWith part (p :: t) then some i else findPart part (i + 1) t

def isMember (v : Value) : List Value → Run Bool
  | [] => return false
  | w :: ws => do
    if ← (if w.same v then pure true else w.equal v) then return true
    isMember v ws

def contains (container v : Value) : Run Bool := do
  match container, v with
  | .str t, .str part => return (findPart part 0 t).isSome
  | .str _, _ => throw .typeMismatch
  | .dict entries, .str k => return ((Text.toString? k).bind (Table.find? · entries)).isSome
  | .dict _, _ => if v.isKey then return false else throw .typeMismatch
  | _, _ => isMember v (← container.items)

/-- Are two values one object? Small numbers and short texts exist once. -/
def isSame (a b : Value) : Bool :=
  match a, b with
  | .undef, .undef => true
  | .bool x, .bool y => x == y
  | .int m, .int n => m == n && -5 ≤ m && m ≤ 256
  | .str [], .str [] => true
  | .str [p], .str [q] => p == q && p.toNat < 256
  | .tuple [], .tuple [] => true
  | .native f, .native g => f == g
  | _, _ => a.same b

def compare (op : CompareOp) (a b : Value) : Run Bool := do
  match op with
  | .equal => a.equal b
  | .notEqual => return !(← a.equal b)
  | .less => Value.related .less a b
  | .lessEq => Value.related .lessEq a b
  | .greater => Value.related .greater a b
  | .greaterEq => Value.related .greaterEq a b
  | .same => return isSame a b
  | .notSame => return !(isSame a b)
  | .within => contains b a
  | .notWithin => return !(← contains b a)

/-! ## Evaluation -/

section

variable {m : Type → Type} [Monad m] [MonadLiftT Run m] (eval : Expr → m Value)

/-- Operands up to the first one that decides. -/
def logic (isAnd : Bool) : List Expr → m Value
  | [] => return .bool false
  | [e] => eval e
  | e :: es => do
    let v ← eval e
    if (← v.truth) == isAnd then logic isAnd es else return v

def comparison (left : Value) : List (CompareOp × Expr) → m Bool
  | [] => return true
  | (op, e) :: rest => do
    let right ← eval e
    if ← compare op left right then comparison right rest else return false

end

/-- Expressions that stand for themselves; `other` is the fault of all others. -/
def constant (other : Fault) : Expr → Run Value
  | .none => return .undef
  | .bool b => return .bool b
  | .int n => return .int n
  | .real x => Run.newFloat x
  | .imaginary _ => return .foreign "complex"
  | .ellipsis => return .foreign "ellipsis"
  | _ => throw other

/-! ## Cutting -/

def bound? : Value → Run (Option Int)
  | .undef => return none
  | v => return some (← Run.demand .typeMismatch v.int?)

/-- A bound as a place between `low` and `high`; negative ones count from the
end. -/
def clamp (length : Nat) (low high : Int) (n : Int) : Int :=
  let n := if n < 0 then n + length else n
  max low (min high n)

def cutItems {α : Type} (start stop : Option Int) (step : Int) (items : List α) : List α :=
  let length := items.length
  if 0 < step then
    let a := clamp length 0 length (start.getD 0)
    let b := clamp length 0 length (stop.getD length)
    let chosen := (items.take b.toNat).drop a.toNat
    chosen.zipIdx.filterMap fun (x, i) => if i % step.toNat = 0 then some x else none
  else
    let a := match start with
      | some n => clamp length (-1) (length - 1) n
      | none => length - 1
    let b := match stop with
      | some n => clamp length (-1) (length - 1) n
      | none => -1
    let chosen := ((items.take (a + 1).toNat).drop (b + 1).toNat).reverse
    chosen.zipIdx.filterMap fun (x, i) => if i % step.natAbs = 0 then some x else none

def cut (v start stop step : Value) : Run Value := do
  let sequence ← match v with
    | .str _ | .tuple _ => pure true
    | _ => pure (← v.listItems?).isSome
  if !sequence then throw .typeMismatch
  let n := (← bound? step).getD 1
  let a ← bound? start
  let b ← bound? stop
  if n = 0 then throw .zeroStep
  match v with
  | .str t => return .str (cutItems a b n t)
  | .tuple items => return .tuple (cutItems a b n items)
  | _ => Run.newList (cutItems a b n ((← v.listItems?).getD []))

end Operator
end Script
end Scad
