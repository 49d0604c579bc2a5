import Scad.Session.Environment

/-!
Values as a host program gives them.
-/

namespace Scad

inductive Datum where
  | undef
  | bool (b : Bool)
  | int (n : Int)
  | numeral (s : String)
  | float (x : Float)
  | str (s : Text)
  | list (items : List Datum)
  | tuple (items : List Datum)
  | host (h : Host)
  | box (args : List Datum)
  | circle (r : Datum)
  | node (text rule : String) (nth : Int)
  deriving Inhabited

def findNode (text rule : String) (nth : Int) : Run Tree := do
  Value.itemAt .list ((← Environment.parseText text).select rule) (.int nth)

def readNumeral (s : String) : Run Value :=
  match Numeral.int? s with
  | some n => return .int n
  | none => throw (.numeralTooLong (Numeral.digitCount s))

mutual

def Datum.enter : Datum → Run Value
  | .undef => return .undef
  | .bool b => return .bool b
  | .int n => return .int n
  | .numeral s => readNumeral s
  | .float x => Run.newFloat x
  | .str s => return .str s
  | .list items => do Run.newList (← Datum.enterAll items)
  | .tuple items => do return .tuple (← Datum.enterAll items)
  | .host h => return .host h
  | .box args => do Run.construct "Box" (← Datum.enterAll args) []
  | .circle r => do Run.construct "Circle" [← Datum.enter r] []
  | .node text rule nth => do (← findNode text rule nth).adopt

def Datum.enterAll : List Datum → Run (List Value)
  | [] => return []
  | d :: ds => do
    let v ← Datum.enter d
    return v :: (← Datum.enterAll ds)

end

def Datum.enterNamed : List (String × Datum) → Run (List (String × Value))
  | [] => return []
  | (name, d) :: ds => do
    let v ← d.enter
    return (name, v) :: (← Datum.enterNamed ds)

end Scad
