import Scad.Text.Quoted
import Scad.World.Basic

/-!
What a name stands for. A scope that does not know a name asks the scope around
it. Variables, functions and modules have separate names, but a variable may
hold a function, so a search for a function also looks at variables, scope by
scope.
-/

namespace Scad

variable (id : ScopeId) (name : String)

inductive Callee where
  | builtin (f : BuiltinFunction)
  /-- A variable whose expression has to be evaluated first. -/
  | deferred (scope : ScopeId) (body : Value)
  | value (v : Value)

namespace Scope

def findVar? (s : Scope) : Option VarDef := s.vars.find? name

/-- An entry that is `undef` counts as absent. -/
def findFunction? (s : Scope) : Option Callee :=
  match s.funcs.find? name with
  | some (.builtin f) => some (.builtin f)
  | some (.value .undef) | none =>
    match s.vars.find? name with
    | some (.expr scope body) => some (.deferred scope body)
    | some (.value .undef) | none => none
    | some (.value v) => some (.value v)
  | some (.value v) => some (.value v)

def findModule? (s : Scope) : Option ModDef :=
  match s.mods.find? name with
  | some (.value .undef) | none => none
  | some m => some m

def search {α : Type} (scopes : Array Scope) (ask : Scope → Option α) : List ScopeId → Option α
  | [] => none
  | id :: rest =>
    match ask (scopes.getD id default) with
    | some a => some a
    | none => search scopes ask rest

end Scope

namespace Run

def searchFrom {α : Type} (ask : Scope → Option α) : Run α := do
  let w ← get
  let s := w.scopes.getD id default
  demand (.unknownName name) (Scope.search w.scopes ask (id :: s.parents))

def lookupVar : Run VarDef :=
  searchFrom id name (Scope.findVar? name)

def lookupFunction : Run Callee :=
  searchFrom id name (Scope.findFunction? name)

def lookupModule : Run ModDef :=
  searchFrom id name (Scope.findModule? name)

/-! ## Declaring

The scope of a whole program passes declarations on to its parent; the
declared thing still belongs to the program's own scope. -/

/-- The scope that takes up what is declared in `id`. -/
def declaring : Run ScopeId := do
  let s ← scope id
  match s.kind, s.parents with
  | .main, parent :: _ => return parent
  | _, _ => return id

/-- Declare a variable; the first declaration stays. -/
def addVar (body : Value) : Run Unit := do
  let target ← declaring id
  if (← scope target).vars.has name then
    warn ("Dup assignment of variable " ++ Quoted.write name)
  else modifyScope target fun s => { s with vars := s.vars.put name (.expr id body) }

def addFunc (f : FuncDef) : Run Unit := do
  let target ← declaring id
  if (← scope target).funcs.has name then
    warn ("Dup assignment of function " ++ Quoted.write name)
  else modifyScope target fun s => { s with funcs := s.funcs.put name f }

def addMod (m : ModDef) : Run Unit := do
  let target ← declaring id
  if (← scope target).mods.has name then
    warn ("Dup assignment of module " ++ Quoted.write name)
  else modifyScope target fun s => { s with mods := s.mods.put name m }

def addWork (v : Value) : Run Unit :=
  modifyScope id fun s => { s with work := s.work ++ [v] }

end Run
end Scad
