import Scad.Fault
import Scad.Builtin.Name
import Scad.World.Table

/-!
The state of an interpreter. It holds the cells of lists and parse nodes, the
scopes that the declaration pass builds, the environments in which evaluation
happens, and what has been printed and warned of so far.

A scope belongs to a block of the source and says what its names stand for. An
environment (a frame) belongs to one evaluation of a block: it joins a scope
with the environment of the caller and a table of values already known.
-/

namespace Scad

variable (id : FrameId) (cell : Nat) (name : String)

abbrev TableId := Nat

/-- What a variable's name stands for: an expression in the scope of its
declaration, or a value given from outside. -/
inductive VarDef where
  | expr (scope : ScopeId) (body : Value)
  | value (v : Value)
  deriving Inhabited

inductive FuncDef where
  | builtin (f : BuiltinFunction)
  | value (v : Value)
  deriving Inhabited

inductive ModDef where
  | builtin (m : BuiltinModule)
  | module (name : String) (params : Params Value) (body : ScopeId)
  | value (v : Value)
  deriving Inhabited

/-- `main` is the scope of a whole program: what the program declares goes into
its parent, so that it cannot clash with what is set from outside. `special`
scopes hold loop variables. -/
inductive ScopeKind where
  | block
  | special
  | main
  deriving DecidableEq, Repr

structure Branch where
  test : Tree
  yes : ScopeId
  no : Option ScopeId

structure Scope where
  kind : ScopeKind := .block
  /-- The enclosing scopes, the innermost first. -/
  parents : List ScopeId := []
  vars : Table VarDef := []
  funcs : Table FuncDef := []
  mods : Table ModDef := []
  work : List Value := []
  branch : Option Branch := none
  deriving Inhabited

/-- An entry in a table of known values; `busy` while it is being computed. -/
inductive Slot where
  | known (v : Value)
  | busy
  deriving Inhabited

/-- The values known in an environment. Nearly all go by names; any value that
can be a key may stand in for a name. -/
structure Slots where
  named : Table Slot := []
  keyed : List (Value × Slot) := []
  deriving Inhabited

structure Frame where
  scope : ScopeId
  caller : Option FrameId
  table : TableId
  /-- The block after the call that this environment serves. -/
  child : Option Value := none
  childFrame : Option FrameId := none
  /-- A list of what the children have built so far; before the first use it is
  itself unbuilt. -/
  childResults : Value := .unbuilt
  /-- The environment that was current before this one was entered. -/
  token : Option (Option FrameId) := none
  /-- How often it was entered again. -/
  entries : Nat := 0
  level : Nat := 0
  debug : Bool := false
  /-- The numbers under which a trace knows objects. -/
  traced : List (Nat × Nat) := []
  nextTrace : Nat := 1
  deriving Inhabited

inductive NodeCell where
  | leaf (rule text : String) (pos : Nat)
  | inner (rule : String) (children : List Value)
  deriving Inhabited

/-- How far a run through the children of an environment has come. -/
inductive Stream where
  | waiting (env : FrameId)
  /-- In a block, with the number of the next child. -/
  | walking (env : FrameId) (block : ScopeId) (next : Nat)
  /-- A child is being built. -/
  | busy
  | ended
  deriving Inhabited

structure World where
  lists : Array (List Value) := #[]
  nodes : Array NodeCell := #[]
  scopes : Array Scope := #[]
  frames : Array Frame := #[]
  tables : Array Slots := #[]
  streams : Array Stream := #[]
  /-- The scopes in which trees are being declared, each as often as its level says. -/
  passes : List ScopeId := []
  current : Option FrameId := none
  tracer : Option FrameId := none
  fresh : Nat := 0
  out : Array Text := #[]
  warnings : Array String := #[]
  notices : Array String := #[]
  deriving Inhabited

/-- Computations on the world. A fault leaves the world as it was then. -/
abbrev Run := EStateM Fault World

namespace Run

def lift {α : Type} : Except Fault α → Run α
  | .ok a => pure a
  | .error e => throw e

/-- What has to be there; `e` is the fault when it is not. -/
def demand {α : Type} (e : Fault) : Option α → Run α
  | some a => pure a
  | none => throw e

def newIdent : Run Nat := modifyGet fun w => (w.fresh, { w with fresh := w.fresh + 1 })

def print (text : Text) : Run Unit := modify fun w => { w with out := w.out.push text }

def warn (text : String) : Run Unit :=
  modify fun w => { w with warnings := w.warnings.push text }

def notice (text : String) : Run Unit :=
  modify fun w => { w with notices := w.notices.push text }

def newFloat (x : Float) : Run Value :=
  if x.isNaN then return .nan (← newIdent) else return .float x

/-! ## Lists and parse nodes -/

def newList (items : List Value) : Run Value :=
  modifyGet fun w => (.list w.lists.size, { w with lists := w.lists.push items })

def listItems : Run (List Value) := return (← get).lists.getD cell []

def setList (items : List Value) : Run Unit :=
  modify fun w => { w with lists := w.lists.setIfInBounds cell items }

def newNode (cell : NodeCell) : Run Value :=
  modifyGet fun w => (.node w.nodes.size, { w with nodes := w.nodes.push cell })

def nodeCell : Run NodeCell := return (← get).nodes.getD cell default

def setNodeChildren (children : List Value) : Run Unit := do
  match ← nodeCell cell with
  | .inner rule _ =>
    modify fun w => { w with nodes := w.nodes.setIfInBounds cell (.inner rule children) }
  | .leaf .. => pure ()

def newStream (env : FrameId) : Run Value :=
  modifyGet fun w => (.pending w.streams.size, { w with streams := w.streams.push (.waiting env) })

def stream (id : Nat) : Run Stream := return (← get).streams.getD id .ended

def setStream (id : Nat) (s : Stream) : Run Unit :=
  modify fun w => { w with streams := w.streams.setIfInBounds id s }

/-! ## Scopes -/

def scope (id : ScopeId) : Run Scope := return (← get).scopes.getD id default

def newScope (s : Scope) : Run ScopeId :=
  modifyGet fun w => (w.scopes.size, { w with scopes := w.scopes.push s })

def modifyScope (id : ScopeId) (f : Scope → Scope) : Run Unit :=
  modify fun w => { w with scopes := w.scopes.modify id f }

def innerScope (outer : ScopeId) (kind : ScopeKind) : Run ScopeId := do
  let s ← scope outer
  newScope { kind := kind, parents := outer :: s.parents }

/-! ## Frames -/

def frame : Run Frame := return (← get).frames.getD id default

def modifyFrame (f : Frame → Frame) : Run Unit :=
  modify fun w => { w with frames := w.frames.modify id f }

/-- A new environment for `scope`, called from `caller`, with a table of its
own. -/
def newFrame (scope : ScopeId) (caller : FrameId) : Run FrameId := do
  let f ← frame caller
  modifyGet fun w =>
    (w.frames.size,
      { w with
        frames := w.frames.push
          { scope := scope, caller := some caller, table := w.tables.size, level := f.level }
        tables := w.tables.push {} })

/-- A new environment for the caller's own scope that shares the caller's
values. -/
def sharedFrame (caller : FrameId) (child : Option Value) : Run FrameId := do
  let f ← frame caller
  modifyGet fun w =>
    (w.frames.size,
      { w with
        frames := w.frames.push
          { scope := f.scope, caller := some caller, table := f.table, level := f.level,
            child := child } })

def slots : Run Slots := do
  let f ← frame id
  return (← get).tables.getD f.table {}

def modifySlots (f : Slots → Slots) : Run Unit := do
  let fr ← frame id
  modify fun w => { w with tables := w.tables.modify fr.table f }

def slot : Run (Option Slot) :=
  return (← slots id).named.find? name

def setSlot (s : Slot) : Run Unit :=
  modifySlots id fun t => { t with named := t.named.put name s }

def setValue (v : Value) : Run Unit :=
  setSlot id name (.known v)

def clearSlot : Run Unit :=
  modifySlots id fun t => { t with named := t.named.remove name }

/-! ## The current environment -/

/-- Make an environment current. It may be entered again while it is. -/
def enter : Run Unit := do
  let f ← frame id
  let w ← get
  match f.token with
  | none =>
    modifyFrame id fun f => { f with token := some w.current }
    modify fun w => { w with current := some id }
  | some _ =>
    match w.current with
    | none => throw .noCurrentEnvironment
    | some c =>
      if c = id then modifyFrame id fun f => { f with entries := f.entries + 1 }
      else throw .recursiveCall

/-- Undo the last `enter`. An environment that is not entered stays as it is. -/
def depart : Run Unit := do
  let f ← frame id
  if f.entries = 0 then
    match f.token with
    | none => pure ()
    | some before =>
      modify fun w => { w with current := before }
      modifyFrame id fun f => { f with token := none }
  else modifyFrame id fun f => { f with entries := f.entries - 1 }

/-- Undo the last `enter`, which there must have been. -/
def leave : Run Unit := do
  let f ← frame id
  if f.entries = 0 && f.token.isNone then throw .typeMismatch
  depart id

/-- Run `body`, then `last`, whether or not `body` failed. -/
def ensuring {α : Type} (body : Run α) (last : Run Unit) : Run α := fun w =>
  match body w with
  | .ok a w => (do last; pure a : Run α) w
  | .error e w => (do last; throw e : Run α) w

/-- Run `body` with the level of a scope raised by one. -/
def leveled {α : Type} (scope : ScopeId) (body : Run α) : Run α := do
  modify fun w => { w with passes := scope :: w.passes }
  ensuring body (modify fun w => { w with passes := w.passes.erase scope })

def within {α : Type} (body : Run α) : Run α := do
  enter id
  ensuring body (depart id)

/-- Run `body`; if it fails for want of a name, run `other` instead. -/
def orIfUnknown {α : Type} (body other : Run α) : Run α :=
  tryCatch body fun e => if e.faultClass = .key then other else throw e

/-- Run `body`; if it fails, run `undo` and fail all the same. -/
def orUndo {α : Type} (body : Run α) (undo : Run Unit) : Run α :=
  tryCatch body fun e => do
    undo
    throw e

end Run
end Scad
