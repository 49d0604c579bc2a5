import Scad.Eval.Node
import Scad.Scope.Declare
import Scad.Value.Operator

/-!
What evaluation is asked to do. Every part of the evaluator is an ordinary
function of a `Perform`, which carries out a task; the parts are tied together
in one place, where a bound on the nesting of tasks makes evaluation total.
-/

namespace Scad

inductive Task where
  | eval (env : FrameId) (n : Value)
  | read (env : FrameId) (name : String)
  /-- Find the value that goes by a key instead of a name. -/
  | readKey (env : FrameId) (key : Value)
  | apply (env : FrameId) (name : String) (args : Args)
  | call (env : FrameId) (callee : Value) (args : Args)
  | instantiate (env : FrameId) (name : String) (args : Args)
  | build (env : FrameId)
  | buildOne (env : FrameId) (item : Value)

abbrev Perform := Task → Run Value

structure Signature where
  params : List (String × Option Value) := []
  /-- More arguments than parameters are allowed. -/
  rest : Bool := false
  /-- Named arguments other than the parameters are allowed. -/
  named : Bool := false

/-- Arguments matched with parameters: one value for each parameter, and what
is left over. -/
structure Bound where
  values : List Value
  rest : List Value
  named : List (String × Value)

namespace Signature

/-- The parameters that the named arguments fill. -/
def fillNamed (s : Signature) :
    Table Value → List (String × Value) → List (String × Value) →
      Except Fault (Table Value × List (String × Value))
  | filled, left, [] => .ok (filled, left)
  | filled, left, (name, v) :: more =>
    if s.params.any (·.1 == name) then
      if filled.has name then .error .typeMismatch
      else fillNamed s (filled ++ [(name, v)]) left more
    else if s.named then fillNamed s filled (left ++ [(name, v)]) more
    else .error .typeMismatch

def finish (filled : Table Value) : List (String × Option Value) → Except Fault (List Value)
  | [] => .ok []
  | (name, standard) :: more => do
    match (filled.find? name).or standard with
    | some v => return v :: (← finish filled more)
    | none => throw .typeMismatch

def bind (s : Signature) (args : Args) : Except Fault Bound := do
  let names := s.params.map Prod.fst
  let extra := args.positional.drop names.length
  if !s.rest && !extra.isEmpty then throw .typeMismatch
  let (filled, left) ← s.fillNamed (names.zip args.positional) [] args.named
  return ⟨← finish filled s.params, extra, left⟩

def required (names : List String) : Signature := { params := names.map (·, none) }

def optional (params : List (String × Value)) : Signature :=
  { params := params.map fun (name, v) => (name, some v) }

end Signature

def Run.construct (name : String) (args : List Value) (named : List (String × Value)) :
    Run Value := do
  let args ← args.mapM Value.freeze
  let named ← (Table.sorted named).mapM fun (k, v) => do return (k, ← v.freeze)
  Run.newShape (.shape name args named)

end Scad
