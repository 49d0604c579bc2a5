import Scad.Eval.Build

/-!
Loops over the block after a call. The loop variables are set in the scope
around the block, the last named one outermost, and the results of all rounds
are joined.
-/

namespace Scad
namespace Eval

variable (perform : Perform)

/-- What a loop needs to know in every round. -/
structure Loop where
  env : FrameId
  body : ScopeId
  inner : FrameId
  /-- Keep what the rounds have in common instead of joining them. -/
  intersect : Bool

namespace Loop

/-- Set a loop variable in the scope around the block, if that scope can hold
one. -/
def setVariable (l : Loop) (name : String) (v : Value) : Run Unit := do
  match (← Run.scope l.body).parents with
  | [] => throw .noAttribute
  | outer :: _ =>
    match (← Run.scope outer).kind with
    | .block => throw .noAttribute
    | .special | .main =>
      Run.modifyScope outer fun s => { s with vars := s.vars.put name (.value v) }

def round (l : Loop) (soFar : Value) : Run Value := do
  let new ← buildScope perform l.inner l.body
  if !l.intersect then unite perform l.env soFar new
  else
    match soFar, new with
    | _, .undef => return soFar
    | .undef, _ => return new
    | _, _ =>
      let both ← soFar.common new
      trace perform l.env [both, .str "_inter", soFar, new] []
      return both

def countUp (start stop : Int) : List Value :=
  (List.range (stop - start).toNat).map fun (i : Nat) => .int (start + i)

/-- The steps of a range: the step is only added to the end. -/
def rangeItems (env : FrameId) (start stop step : Value) : Run (List Value) := do
  let step ← if step.isNumber then pure step else perform (.eval env step)
  let start ← perform (.eval env start)
  let stop ← (← perform (.eval env stop)).plus step
  let first ← Run.demand .typeMismatch start.int?
  return countUp first (← Run.demand .typeMismatch stop.int?)

/-- Run through a list, looking at it again before every round. -/
def overList (items : Run (List Value)) (f : Value → Value → Run Value) :
    (fuel : Nat) → (i : Nat) → Value → Run Value
  | 0, _, _ => throw .tooDeep
  | fuel + 1, i, soFar => do
    match (← items)[i]? with
    | none => return soFar
    | some v => overList items f fuel (i + 1) (← f soFar v)

def overItems (f : Value → Value → Run Value) : List Value → Value → Run Value
  | [], soFar => return soFar
  | v :: vs, soFar => do overItems f vs (← f soFar v)

/-- Run the loop for all values of the variables, the first one in the list
outermost. -/
def run (l : Loop) : List (String × Value) → Value → Run Value
  | [], soFar => l.round perform soFar
  | (name, stepper) :: rest, soFar => do
    let next (soFar v : Value) : Run Value := do
      l.setVariable name v
      run l rest soFar
    match stepper with
    | .tuple items => overItems next items soFar
    | .range _ start stop step =>
      overItems next (← rangeItems perform l.env start stop step) soFar
    | _ =>
      match ← stepper.listItems? with
      | none => throw .noAttribute
      | some items =>
        overList (do return (← stepper.listItems?).getD []) next (items.length + Node.growthLimit) 0
          soFar

end Loop

def forModule (env : FrameId) (intersect : Value) (loopVars : List (String × Value)) :
    Run Value := do
  if loopVars.isEmpty then throw .noLoopVariables
  match (← Run.frame env).child with
  | some (.scope body) =>
    let inner ← Run.newFrame body env
    let l : Loop := ⟨env, body, inner, ← intersect.truth⟩
    l.run perform loopVars.reverse .undef
  | _ => throw .malformed

end Eval
end Scad
