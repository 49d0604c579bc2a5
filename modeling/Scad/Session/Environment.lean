import Scad.Eval.Expression
import Scad.Syntax.Parser

/-!
Top-level environments, and what a host program can do with one.

A top-level environment stands on three scopes: what is built in, what programs
declare, and what the host sets. The host's settings come first, and a program
cannot change them.
-/

namespace Scad
namespace Environment

variable (env : FrameId) (name : String) (v : Value)

def builtins : Scope :=
  { funcs := BuiltinFunction.table.map fun (name, f) => (name, .builtin f)
    mods := BuiltinModule.table.map fun (name, m) => (name, .builtin m) }

def initialValues : Table Slot :=
  [("$fn", .int 999), ("$fa", .float 0.001), ("$fs", .float 0.001), ("$t", .int 0),
    ("$children", .int 0), ("$preview", .bool false), ("$trace", .bool false)].map
    fun (name, v) => (name, .known v)

def create : Run FrameId := do
  let outer ← Run.newScope builtins
  let declared ← Run.innerScope outer .block
  let main ← Run.innerScope declared .main
  modifyGet fun w =>
    (w.frames.size,
      { w with
        frames := w.frames.push { scope := main, caller := none, table := w.tables.size }
        tables := w.tables.push { named := initialValues } })

def scopeOf : Run ScopeId := return (← Run.frame env).scope

def parseText (text : String) : Run Tree :=
  match parse text with
  | .ok t => return t
  | .error (.noMatch pos) => throw (.noMatch pos)
  | .error .exhausted => throw .tooDeep

/-- Take up the declarations and the work of a program. -/
def load (text : String) : Run Unit := do
  let t ← parseText text
  let _ ← declare (← scopeOf env) t

def workItem (i : Int) : Run Value := do
  Value.itemAt .list (← Run.scope (← scopeOf env)).work (.int i)

/-- Evaluate a tree as if inside a block that is an item of work. -/
def evalInside (item : Value) (t : Tree) : Run Value := do
  match item with
  | .scope id => Eval.perform (.eval (← Run.newFrame id env) (.code t))
  | _ => throw .malformed

/-! ## Settings of the host -/

def firstChar : Run Char :=
  match name.toList with
  | c :: _ => return c
  | [] => throw (.outOfRange .string)

def setOwnVar : Run Unit := do
  Run.modifyScope (← scopeOf env) fun s => { s with vars := s.vars.put name (.value v) }

def setOwnFunc : Run Unit := do
  Run.modifyScope (← scopeOf env) fun s => { s with funcs := s.funcs.put name (.value v) }

def setOwnMod : Run Unit := do
  Run.modifyScope (← scopeOf env) fun s => { s with mods := s.mods.put name (.value v) }

def setVar : Run Unit := do
  if (← firstChar name) = '$' then Run.setValue env name v else setOwnVar env name v

/-- Declare a variable by a parse node, unless it is declared. -/
def addVar (node : Value) : Run Unit := do
  if (← firstChar name) = '$' then throw .dynamicName
  Run.addVar (← scopeOf env) name node

def addFunc : Run Unit := do
  Run.addFunc (← scopeOf env) name (.value v)

def addMod : Run Unit := do
  Run.addMod (← scopeOf env) name (.value v)

/-! ## Tracing -/

/-- Begin to trace; the result is what to restore at the end. -/
def startTrace : Run (Option FrameId) := do
  let before := (← get).tracer
  modify fun w => { w with tracer := some env }
  Run.setValue env "$trace" (.bool true)
  return before

def stopTrace (before : Option FrameId) : Run Unit := do
  modify fun w => { w with tracer := before }
  Run.setValue env "$trace" (.bool false)
  Run.modifyFrame env fun f => { f with traced := [] }

/-- Begin to trace in place of a trace that may be on. The old one ends after
the new one has begun. -/
def renewTrace (old : Option (Option FrameId)) : Run (Option FrameId) := do
  let before ← startTrace env
  match old with
  | some oldBefore => stopTrace env oldBefore
  | none => pure ()
  return before

/-! ## Looking at an environment -/

def typeName : Run String := do
  match v with
  | .undef => return "NoneType"
  | .bool _ => return "bool"
  | .int _ => return "int"
  | .float _ | .nan _ => return "float"
  | .str _ => return "str"
  | .list _ => return "list"
  | .tuple _ => return "tuple"
  | .dict _ => return "dict"
  | .node cell =>
    match ← Run.nodeCell cell with
    | .leaf .. => return "Terminal"
    | .inner .. => return "NonTerminal"
  | .code (.leaf ..) => return "Terminal"
  | .code (.node ..) => return "NonTerminal"
  | .shape _ made => return made.maker
  | .axis .. => return "Axis"
  | .function .. => return "Function"
  | .range .. => return "ForStep"
  | .statement _ child => return if child.isSome then "ParentStatement" else "Statement"
  | .scope id =>
    match (← Run.scope id).kind with
    | .block => return "StaticEnv_"
    | .special | .main => return "SpecialEnv_"
  | .host _ | .invoke _ => return "function"
  | .pick .. => return "partial"
  | .unbuilt => return "type"
  | .native _ | .method .. => return "builtin_function_or_method"
  | .foreign type => return type
  | .pending _ => return "generator"

/-- The values known in an environment, in ascending order of their names. Keys
that are no names have no place in that order. -/
def values : Run (List (String × Record)) := do
  let slots ← Run.slots env
  if !slots.keyed.isEmpty then throw .typeMismatch
  (Table.sorted slots.named).mapM fun (name, s) => do
    match s with
    | .known v => return (name, ← v.freeze)
    | .busy => return (name, .callable)

def nameRecord (names : List String) : Record := .list (names.map fun (s : String) => .str s)

def scopeNames (s : Scope) : Record :=
  .list [nameRecord s.vars.sortedNames, nameRecord s.funcs.sortedNames,
    nameRecord s.mods.sortedNames]

/-- The scope of what programs declare, next to the host's own. -/
def declaredScope (own : Scope) : Run Scope :=
  match own.parents with
  | p :: _ => Run.scope p
  | [] => pure default

/-- Values, the host's names, the programs' names, and the types of the work. -/
def describe : Run Record := do
  let own ← Run.scope (← scopeOf env)
  let declared ← declaredScope own
  let work ← own.work.mapM typeName
  return .dict [("vars", .dict (← values env)), ("own", scopeNames own),
    ("parsed", scopeNames declared), ("work", nameRecord work)]

end Environment
end Scad
