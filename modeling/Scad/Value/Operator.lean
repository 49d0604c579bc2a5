import Scad.Value.Compare
import Scad.Value.Format

/-!
The operators of the language. `plus` and `times` make a new value; `addTo` and
`timesTo` are what `+` and `*` in a program do: a list on the left is changed in
place, and everyone who holds it sees the change.
-/

namespace Scad

open Run

variable (a b : Value)

/-! ## Shapes -/

def Run.newShape (made : Record) : Run Value := return .shape (← newIdent) made

def Run.joinShapes (name : String) (a b : Record) : Run Value :=
  newShape (.shape name [a, b] [])

namespace Value

/-- More items than this do not fit into memory. -/
def sizeLimit : Nat := Nat.pow 2 32

/-- `items`, `n` times over; none at all if `n` is negative. -/
def repeated {α : Type} (n : Int) (items : List α) : Run (List α) := do
  if !isIndex n then throw .countTooWide
  else if sizeLimit < n.toNat * items.length then throw .outOfMemory
  else return (List.replicate n.toNat items).flatten

def repeatText (n : Int) (s : Text) : Run Value := str <$> repeated n s

def repeatTuple (n : Int) (items : List Value) : Run Value := tuple <$> repeated n items

def plus : Run Value := do
  match a.num?, b.num? with
  | some m, some n => number (← lift (m.add n))
  | _, _ =>
    match a, b with
    | str s, str t => return str (s ++ t)
    | tuple as, tuple bs => return tuple (as ++ bs)
    | shape _ m, shape _ n => joinShapes "+" m n
    | _, _ =>
      match ← a.listItems?, ← b.listItems? with
      | some as, some bs => newList (as ++ bs)
      | _, _ => throw .typeMismatch

def minus : Run Value := do
  match a.num?, b.num? with
  | some m, some n => number (← lift (m.sub n))
  | _, _ =>
    match a, b with
    | shape _ m, shape _ n => joinShapes "-" m n
    | _, _ => throw .typeMismatch

def common : Run Value := do
  match a, b with
  | shape _ m, shape _ n => joinShapes "&" m n
  | bool x, bool y => return bool (x && y)
  | _, _ =>
    let m ← demand .typeMismatch a.int?
    let n ← demand .typeMismatch b.int?
    return int (bitAnd m n)
where
  /-- Bitwise, with negative numbers in two's complement. -/
  bitAnd (m n : Int) : Int :=
    if m < 0 then
      if n < 0 then -(((-m - 1).toNat ||| (-n - 1).toNat : Nat) : Int) - 1
      else (n.toNat - (n.toNat &&& (-m - 1).toNat) : Nat)
    else if n < 0 then (m.toNat - (m.toNat &&& (-n - 1).toNat) : Nat)
    else (m.toNat &&& n.toNat : Nat)

def timesSequence (v : Value) (n : Int) : Run Value := do
  match v with
  | str s => repeatText n s
  | tuple items => repeatTuple n items
  | _ => newList (← repeated n (← demand .typeMismatch (← v.listItems?)))

def times : Run Value := do
  match a.num?, b.num? with
  | some m, some n => number (← lift (m.mul n))
  | _, _ =>
    match b.int?, a.int? with
    | some n, _ => timesSequence a n
    | _, some n => timesSequence b n
    | _, _ => throw .typeMismatch

def divide : Run Value := do
  match a.num?, b.num? with
  | some m, some n => number (← lift (m.div n))
  | _, _ => throw .typeMismatch

/-- `a % b`, which fills in `b` if `a` is a text. -/
def modulo : Run Value := do
  match a with
  | str s => return str (← Format.fill s b)
  | _ =>
    match a.num?, b.num? with
    | some m, some n => number (← lift (m.mod n))
    | _, _ => throw .typeMismatch

def negate (a : Value) : Run Value :=
  match a.num? with
  | some m => number m.neg
  | none => throw .typeMismatch

/-- `a += b`: a list takes up the items of whatever has items. -/
def addTo : Run Value := do
  match a with
  | list cell => do
    let more ← b.items
    setList cell ((← listItems cell) ++ more)
    return a
  | node cell =>
    match ← a.listItems? with
    | none => throw .typeMismatch
    | some children =>
      setNodeChildren cell (children ++ (← b.items))
      return a
  | _ => plus a b

/-- `a *= b`: a list repeats itself. -/
def timesTo : Run Value := do
  match a with
  | list cell =>
    match b.int? with
    | none => throw .typeMismatch
    | some n =>
      setList cell (← repeated n (← listItems cell))
      return a
  | node cell =>
    match ← a.listItems?, b.int? with
    | some children, some n =>
      setNodeChildren cell (← repeated n children)
      return a
    | _, _ => throw .typeMismatch
  | _ => times a b

/-! ## Numbers expected -/

def toFloat (v : Value) : Run Float :=
  match v.num? with
  | some n => lift n.toFloat
  | none => throw .typeMismatch

/-- `a ^ b`, always a floating point number. -/
def power : Run Value := do
  let x ← a.toFloat
  let y ← b.toFloat
  let r := Float.pow x y
  if x.isFinite && y.isFinite && !r.isFinite then
    if r.isNaN || x == 0 then throw .mathDomain else throw .mathRange
  newFloat r

end Value
end Scad
