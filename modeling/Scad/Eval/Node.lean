import Scad.Value.Freeze
import Scad.Value.Sequence

/-!
Looking into a value that serves as a parse node. A node that programs hold may
change while it is being evaluated, and may have children that are no nodes, so
every look at it is a look at its present state.
-/

namespace Scad
namespace Node

def ruleName : Value → Run String
  | .code t => return t.rule
  | .node cell => do
    match ← Run.nodeCell cell with
    | .leaf rule _ _ | .inner rule _ => return rule
  | _ => throw .noAttribute

def child (i : Int) (n : Value) : Run Value := n.item (.int i)

def reaches (i : Nat) (n : Value) : Run Bool := return i < (← n.size)

def word (n : Value) : Run Text :=
  match n with
  | .code _ | .node _ => n.display
  | _ => throw .noAttribute

def wordAt (i : Int) (n : Value) : Run Text := do word (← child i n)

def checkArity (low high : Nat) (n : Value) : Run Unit := do
  let k ← n.size
  if k < low || high < k then throw .arity

def hasOneChild (n : Value) : Run Bool := do
  match ← n.listItems? with
  | some [_] => return true
  | _ => return false

/-- A fault in a node is reported with an outline of the node, which needs
parse nodes all the way down. -/
def checkOutlineWith : (fuel : Nat) → Value → Run Unit
  | 0, _ => throw .tooDeep
  | _ + 1, .code _ => return ()
  | fuel + 1, .node cell => do
    match ← Run.nodeCell cell with
    | .leaf .. => return ()
    | .inner _ children => children.forM (checkOutlineWith fuel)
  | _ + 1, _ => throw .noAttribute

def checkOutline (n : Value) : Run Unit := checkOutlineWith nestingLimit n

/-- A node may grow while it is evaluated, but not without end. -/
def growthLimit : Nat := 1000000

/-- More rounds than a loop over the children takes. -/
def rounds (n : Value) : Run Nat := return (← n.size) + growthLimit

/-- More steps than there are wrappers around the core of a node. -/
def depth : Value → Nat
  | .code t => t.height
  | _ => growthLimit

end Node
end Scad
