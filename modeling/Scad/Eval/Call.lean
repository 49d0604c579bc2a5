import Scad.Builtin.Function
import Scad.Builtin.Module

/-!
Calls. Arguments are matched with the parameters of a function or module in an
environment of its own; parameters that get no argument take their default,
which is bound as it stands in the source, or, if their name begins with `$`,
the value that the caller sees.
-/

namespace Scad
namespace Eval

variable (perform : Perform) (env : FrameId) (name : String) (args : Args)

/-- The names of the receiver and of the callee cannot be named arguments. -/
def checkNames : Run Unit :=
  if args.named.any (fun (k, _) => k == "self" || k == "name") then throw .typeMismatch
  else return ()

def bindPositional (bound : Table Value) : List String → List Value → Run (Table Value)
  | _, [] => return bound
  | [], _ :: _ => throw .unboundName
  | name :: names, v :: vs => bindPositional (bound.put name v) names vs

/-- Parameters without an argument: only a `$` name can still get a value. -/
def bindMissing (bound : Table Value) : List String → Run (Table Value)
  | [] => return bound
  | name :: names => do
    if bound.has name then bindMissing bound names
    else if isDynamicName name then
      let v ← (perform (.read env name)).orIfUnknown (throw .unboundName)
      bindMissing (bound.put name v) names
    else throw .unboundName

def setAll : List (String × Value) → Run Unit
  | [] => return ()
  | (name, v) :: rest => do
    Run.setValue env name v
    setAll rest

def bindParams (params : Params Value) (args : Args) : Run Unit := do
  match params with
  | .named required optional =>
    let names := required ++ Table.names optional
    let bound ← bindPositional (Table.merge optional args.named) names args.positional
    setAll env (← bindMissing perform env bound names)
  | .other v =>
    let _ ← v.item (.int 1)
    throw .typeMismatch

def callFunction (scope : ScopeId) (params : Params Value) (body : Value) (args : Args) :
    Run Value := do
  let inner ← Run.newFrame scope env
  bindParams perform inner params args
  perform (.eval inner body)

def callValue (v : Value) (args : Args) : Run Value := do
  match v with
  | .function _ scope _ params body => callFunction perform env scope params body args
  | .host h =>
    if h.takesEnvironment then callHost perform h (some env) args
    else Run.within env (callHost perform h none args)
  | _ => Run.within env (callPlain perform v args)

/-- What a function's name stands for in an environment. A name that no scope
knows may still be one of the environment's own values. -/
def findCallee : Run Callee := do
  let f ← Run.frame env
  (Run.lookupFunction f.scope name).orIfUnknown
    ((Callee.value <$> perform (.read env name)).orIfUnknown (throw (.unknownName name)))

def applyFunction : Run Value := do
  checkNames args
  match ← findCallee perform env name with
  | .builtin f => callBuiltin perform env f args
  | .deferred scope body =>
    let v ← evalIn perform env scope body
    callValue perform env v args
  | .value v => callValue perform env v args

def instantiateModule : Run Value := do
  checkNames args
  let f ← Run.frame env
  match ← Run.lookupModule f.scope name with
  | .builtin m => buildBuiltin perform env m args
  | .module _ params body =>
    let inner ← Run.newFrame body env
    bindParams perform inner params args
    perform (.build inner)
  | .value v => callValue perform env v args

end Eval
end Scad
