import Scad.Eval.Task

/-!
The trace: a line for each construction step, in which shapes and axes appear
under numbers given in the order of their first use.
-/

namespace Scad
namespace Trace

variable (tracer : FrameId)

def origin : Value := .tuple [.int 0, .int 0, .int 0]

def axisName? (o d : Value) : Run (Option String) := do
  if !(← o.equal origin) then return none
  if ← d.equal (.tuple [.int 1, .int 0, .int 0]) then return some "Axis.X"
  if ← d.equal (.tuple [.int 0, .int 1, .int 0]) then return some "Axis.Y"
  if ← d.equal (.tuple [.int 0, .int 0, .int 1]) then return some "Axis.Z"
  return none

def number (ident : Nat) : Run (Nat × Bool) := do
  let f ← Run.frame tracer
  match f.traced.lookup ident with
  | some n => return (n, false)
  | none =>
    let n := f.nextTrace
    Run.modifyFrame tracer fun f =>
      { f with traced := (ident, n) :: f.traced, nextTrace := n + 1 }
    return (n, true)

def label (n : Nat) : String := "o_" ++ Nat.repr n

/-- How an object appears in a line. An axis that is not a coordinate axis gets
a line of its own first, and appears with its parts from then on. -/
def name (v : Value) : Run String := do
  match v with
  | .axis ident o d =>
    match ← axisName? o d with
    | some s => return s
    | none =>
      let (n, new) ← number tracer ident
      if new then
        Run.print (label n ++ " = Axis" ++ (← v.shown) ++ "\n" : String)
        return label n
      else return "o_(" ++ Nat.repr n ++ ", " ++ (← v.shown) ++ ")"
  | .shape ident _ => return label (← number tracer ident).1
  | _ => v.shown

def names : List Value → Run (List String)
  | [] => return []
  | v :: vs => do
    let s ← name tracer v
    return s :: (← names vs)

def namedParts : List (String × Value) → Run (List String)
  | [] => return []
  | (k, v) :: rest => do
    let s ← name tracer v
    return (k ++ "=" ++ s) :: (← namedParts rest)

def isWord (v : Value) (word : String) : Run Bool := v.equal (.str word)

/-- Write one line: what came out, how it was made, and from what. -/
def line (parts : List Value) (named : List (String × Value)) : Run Unit := do
  match parts with
  | result :: op :: parts =>
    let start : String := (← name tracer result) ++ " = "
    if ← isWord op "_add" then
      Run.print (start ++ String.intercalate " + " (← names tracer parts) ++ "\n" : String)
    else if (← isWord op "_inter") || (← isWord op "_diff") then
      Run.print (start ++ String.intercalate " & " (← names tracer parts) ++ "\n" : String)
    else
      let start ← match Table.find? "_obj" named with
        | none | some .undef => pure start
        | some obj => do pure (start ++ (← name tracer obj) ++ ".")
      let args ← names tracer parts
      let more ← namedParts tracer (Table.remove "_obj" named)
      let list : String := "(" ++ String.intercalate ", " (args ++ more) ++ ")\n"
      Run.print (Text.ofString start ++ (← op.display) ++ Text.ofString list)
  | _ => throw (.tooFewToUnpackRest 2 parts.length)

end Trace

namespace Eval

/-- Trace a step if the environment asks for it. -/
def trace (perform : Perform) (env : FrameId) (parts : List Value)
    (named : List (String × Value)) : Run Unit := do
  if ← (← perform (.read env "$trace")).truth then
    match (← get).tracer with
    | none => throw .noCurrentEnvironment
    | some tracer => Trace.line tracer parts named

end Eval
end Scad
