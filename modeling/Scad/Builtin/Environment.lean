import Scad.Eval.Stream

/-!
Operations on the environment, callable from a program by name.
-/

namespace Scad
namespace Eval

variable (perform : Perform) (env : FrameId)

def setDynamic (name node : Value) : Run Unit := do
  if !(← startsDynamic name) then throw .notDynamicName
  let v ← perform (.eval env node)
  match name with
  | .str t =>
    match Text.toString? t with
    | some s => Run.setValue env s v
    | none => setKey env name v
  | _ => setKey env name v

/-- Call what goes by a name that is itself a value. -/
def applyName (name : Value) (args : Args) : Run Value := do
  match name with
  | .str t =>
    match Text.toString? t with
    | some s => perform (.apply env s args)
    | none => perform (.call env (← perform (.readKey env name)) args)
  | _ =>
    if !name.isKey then throw .typeMismatch
    perform (.call env (← perform (.readKey env name)) args)

/-- Build the module that goes by a name that is itself a value. Modules have
no names but texts. -/
def instantiateName (name : Value) (args : Args) : Run Value := do
  match name with
  | .str t =>
    match Text.toString? t with
    | some s => perform (.instantiate env s args)
    | none => throw (.unknownName t)
  | _ => if name.isKey then throw .unknownKey else throw .typeMismatch

def EnvOperation.signature : EnvOperation → Signature
  | .build | .childUnion | .resetChild => {}
  | .buildOne => .required ["b"]
  | .eval => .required ["node"]
  | .func | .mod => { params := [("name", none)], rest := true, named := true }
  | .oneChild => .required ["i"]
  | .setVar => .required ["name", "n"]
  | .trace => { rest := true, named := true }
  | .var => .required ["name"]

def runOperation (op : EnvOperation) (args : Args) : Run Value := do
  let b ← Run.lift ((EnvOperation.signature op).bind args)
  match op, b.values with
  | .build, _ => perform (.build env)
  | .buildOne, [item] => perform (.buildOne env item)
  | .childUnion, _ => childUnion perform env
  | .eval, [v] => perform (.eval env v)
  | .func, [name] => applyName perform env name ⟨b.rest, b.named⟩
  | .mod, [name] => instantiateName perform env name ⟨b.rest, b.named⟩
  | .oneChild, [i] => oneChild perform env i
  | .resetChild, _ => resetChild env; return .undef
  | .setVar, [name, n] => setDynamic perform env name n; return .undef
  | .trace, _ => trace perform env b.rest b.named; return .undef
  | .var, [name] => readName perform env name
  | _, _ => throw .typeMismatch

end Eval
end Scad
