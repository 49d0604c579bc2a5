import Scad.Value.Show

/-!
Taking values out of the world, and parse trees into it. A whole number that is
too long to be written cannot be taken out.
-/

namespace Scad

def Tree.record : Tree → Record
  | .leaf rule text _ => .node rule text
  | .node rule ts => .node rule (textAll ts)

namespace Value

def nodeText : (fuel : Nat) → Value → Run String
  | 0, _ => throw .tooDeep
  | fuel + 1, node cell => do
    match ← Run.nodeCell cell with
    | .leaf _ text _ => return text
    | .inner _ children => return String.join (← children.mapM (nodeText fuel))
  | _ + 1, _ => throw .noAttribute

def paramNames : Params Value → List String × List String
  | .named required optional => (required, optional.map Prod.fst)
  | .other _ => ([], [])

def freezeWith : (fuel : Nat) → Value → Run Record
  | 0, _ => throw .tooDeep
  | _ + 1, undef => return .undef
  | _ + 1, bool b => return .bool b
  | _ + 1, int n => if isWritable n then return .int n else throw .integerTooLong
  | _ + 1, float x => return .float x
  | _ + 1, nan _ => return .float Binary64.nan.toFloat
  | _ + 1, str s => return .str s
  | fuel + 1, list cell => do
    return .list (← (← Run.listItems cell).mapM (freezeWith fuel))
  | fuel + 1, tuple items => return .tuple (← items.mapM (freezeWith fuel))
  | fuel + 1, dict entries => do
    return .dict (← entries.mapM fun (k, v) => do return (k, ← freezeWith fuel v))
  | fuel + 1, node cell => do
    match ← Run.nodeCell cell with
    | .leaf rule text _ => return .node rule text
    | .inner rule _ => return .node rule (← nodeText fuel (node cell))
  | _ + 1, code t => return t.record
  | _ + 1, shape _ made => return made
  | fuel + 1, axis _ origin direction => do
    return .axis (← freezeWith fuel origin) (← freezeWith fuel direction)
  | _ + 1, function _ _ name params _ =>
    let (required, optional) := paramNames params
    return .function name required optional
  | fuel + 1, range _ start stop step => do
    return .range (← freezeWith fuel start) (← freezeWith fuel stop) (← freezeWith fuel step)
  | _ + 1, statement _ child =>
    return .object (if child.isSome then .parentStatement else .statement)
  | _ + 1, scope id => do
    match (← Run.scope id).kind with
    | .block => return .object .scope
    | .special | .main => return .object .specialScope
  | _ + 1, host _ | _ + 1, invoke _ | _ + 1, pick .. | _ + 1, unbuilt | _ + 1, native _
  | _ + 1, method .. => return .callable
  | _ + 1, pending _ | _ + 1, foreign _ => return .object .pending

def freeze (v : Value) : Run Record := freezeWith nestingLimit v

end Value

/-! ## Parse trees as values -/

namespace Tree

mutual

/-- Put a parse tree into cells, so that it can be held as a value. -/
def adopt : Tree → Run Value
  | .leaf rule text pos => Run.newNode (.leaf rule text pos)
  | .node rule ts => do Run.newNode (.inner rule (← adoptAll ts))

def adoptAll : List Tree → Run (List Value)
  | [] => return []
  | t :: ts => do
    let v ← adopt t
    return v :: (← adoptAll ts)

end

end Tree
end Scad
