import Scad.Eval.Task

/-!
Reading variables. A value is computed once for each table of values and kept.
A name that begins with `$` is first asked of the caller, so such names follow
the calls; all other names follow the text.
-/

namespace Scad
namespace Eval

open Run

variable (perform : Perform) (env : FrameId) (key : Value) (name : String)

def isDynamicName : Bool := name.toList.head? == some '$'

def childCount : Run Value := do
  match (← frame env).child with
  | none => return .int 0
  | some (.scope id) => return .int (← scope id).work.length
  | some _ => throw .noAttribute

/-- A host function with its arguments. One that takes the environment gets it
as a value only when the interpreter passes it. -/
def callHost (h : Host) (given : Option FrameId) (args : Args) : Run Value := do
  let bind (s : Signature) : Run Bound := lift (s.bind args)
  match h with
  | .number n => let _ ← bind {}; return .int n
  | .nothing => let _ ← bind {}; return .undef
  | .sum =>
    match (← bind (.required ["a", "b"])).values with
    | [a, b] => a.plus b
    | _ => throw .typeMismatch
  | .currentFacets =>
    let _ ← bind {}
    match (← get).current with
    | some c => perform (.read c "$fn")
    | none => throw .noCurrentEnvironment
  | .box =>
    match (← bind (.optional [("x", .int 1)])).values with
    | [x] => construct "Box" [x, x, x] []
    | _ => throw .typeMismatch
  | .collect =>
    newList [← newList args.positional, .dict args.named]
  | .countArguments =>
    match given with
    | some env =>
      let b ← bind { rest := true }
      let facets ← perform (.read env "$fn")
      newList [.int b.rest.length, facets]
    | none =>
      let b ← bind { params := [("env", none)], rest := true }
      match b.values with
      | [e] =>
        let facets ← e.item (.str "$fn")
        newList [.int b.rest.length, facets]
      | _ => throw .typeMismatch
  | .successor =>
    match (← bind (.required ["x"])).values with
    | [x] => x.plus (.int 1)
    | _ => throw .typeMismatch
  | .noSolid =>
    let _ ← bind (.optional [("size", .int 1), ("center", .bool false)])
    return Value.undef

/-- Take one element after the other. -/
def pickAll : List Value → Value → Run Value
  | [], v => return v
  | i :: rest, v => do pickAll rest (← v.item i)

def callPlain (v : Value) (args : Args) : Run Value := do
  let single : Run (List Value) := return (← lift ((Signature.required ["x"]).bind args)).values
  match v with
  | .host h => callHost perform h none args
  | .invoke _ =>
    match ← single with
    | [.host h] => callHost perform h none ⟨[], []⟩
    | _ => throw .typeMismatch
  | .pick _ indices =>
    match ← single with
    | [x] => pickAll indices x
    | _ => throw .typeMismatch
  | _ => throw .typeMismatch

def evalIn (scope : ScopeId) (body : Value) : Run Value := do
  let inner ← newFrame scope env
  perform (.eval inner body)

/-- The value that a definition gives in an environment. A host function is
called. -/
def define : VarDef → Run Value
  | .expr scope body => evalIn perform env scope body
  | .value (.host h) =>
    if h.takesEnvironment then callHost perform h (some env) ⟨[], []⟩
    else within env (callHost perform h none ⟨[], []⟩)
  | .value v =>
    if v.isCallable then within env (callPlain perform v ⟨[], []⟩) else return v

/-- Where a variable is defined, seen from an environment. -/
def findDefinition : Run VarDef := do
  let f ← frame env
  match name.toList with
  | [] => throw (.outOfRange .string)
  | '$' :: _ =>
    let asked : Run VarDef := match f.caller with
      | some caller => VarDef.value <$> perform (.read caller name)
      | none => throw (.unknownName name)
    asked.orIfUnknown (lookupVar f.scope name)
  | _ => lookupVar f.scope name

def readVariable : Run Value := do
  if name = "$children" then childCount env
  else
    match ← slot env name with
    | some (.known v) => return v
    | some .busy => throw (.recursiveVariable (Quoted.write name))
    | none =>
      let d ← findDefinition perform env name
      setSlot env name .busy
      let v ← (define perform env d).orUndo (clearSlot env name)
      setValue env name v
      return v

/-! ## Keys

A value other than a text may be looked up too, if it can be a key. No scope
declares such a name, so it is known only where it was set, and to whoever is
called from there if it begins with `$`. -/

def findKey : List (Value × Slot) → Run (Option Slot)
  | [] => return none
  | (other, s) :: rest => do
    if ← (if other.same key then pure true else other.equal key) then return some s
    else findKey rest

/-- Put a value under a key; an equal key keeps its place. -/
def putKey (s : Slot) : List (Value × Slot) → Run (List (Value × Slot))
  | [] => return [(key, s)]
  | (other, t) :: rest => do
    if ← (if other.same key then pure true else other.equal key) then return (other, s) :: rest
    else return (other, t) :: (← putKey s rest)

def setKey (key v : Value) : Run Unit := do
  if !key.isKey then throw .typeMismatch
  let keyed ← putKey key (.known v) (← slots env).keyed
  modifySlots env fun t => { t with keyed := keyed }

def unknownKey : Value → Fault
  | .str t => .unknownName t
  | _ => .unknownKey

def startsDynamic : Run Bool := do (← key.item (.int 0)).equal (.str "$")

def readKey : Run Value := do
  if ← key.equal (.str "$children") then return ← childCount env
  if !key.isKey then throw .typeMismatch
  match ← findKey key (← slots env).keyed with
  | some (.known v) => return v
  | some .busy => throw (.recursiveVariable (← key.shown))
  | none =>
    if !(← startsDynamic key) then throw (unknownKey key)
    match (← frame env).caller with
    | none => throw (unknownKey key)
    | some caller =>
      let v ← define perform env (.value (← perform (.readKey caller key)))
      setKey env key v
      return v

def readName (name : Value) : Run Value :=
  match name with
  | .str t =>
    match Text.toString? t with
    | some s => perform (.read env s)
    | none => perform (.readKey env name)
  | _ => perform (.readKey env name)

end Eval
end Scad
