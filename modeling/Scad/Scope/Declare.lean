import Scad.Scope.Lookup
import Scad.Syntax.Access
import Scad.Value.Freeze

/-!
The declaration pass. It runs once over a program's tree and evaluates nothing:
it enters variables, functions and modules into scopes, makes a scope for each
block, and collects what a block will build. The result of a node is what it
contributes to the enclosing block, or `undef`.
-/

namespace Scad

inductive DeclForm where
  | sequence | input | statement | moduleInstantiation | assignment | stmtObj | stmtDeclFn
  | stmtDeclMod | explicitChild | childStatement | childStatements | stmtList | noChild
  | modInstChild | modInstSpecial | modInstBang | modInstHash | modInstPerc | modInstStar
  | modCall | parameters | parameterList | parameter | finish | ifelseStatement | ifStatement
  deriving DecidableEq, Repr

namespace DeclForm

def table : List (String × DeclForm) :=
  [("_list", sequence), ("Input", input), ("statement", statement),
    ("module_instantiation", moduleInstantiation), ("assignment", assignment),
    ("stmt_obj", stmtObj), ("stmt_decl_fn", stmtDeclFn), ("stmt_decl_mod", stmtDeclMod),
    ("explicit_child", explicitChild), ("child_statement", childStatement),
    ("child_statements", childStatements), ("stmt_list", stmtList), ("no_child", noChild),
    ("mod_inst_child", modInstChild), ("mod_inst_special", modInstSpecial),
    ("mod_inst_bang", modInstBang), ("mod_inst_hash", modInstHash),
    ("mod_inst_perc", modInstPerc), ("mod_inst_star", modInstStar), ("mod_call", modCall),
    ("parameters", parameters), ("parameter_list", parameterList), ("parameter", parameter),
    ("EOF", finish), ("ifelse_statement", ifelseStatement), ("if_statement", ifStatement)]

def ofRule? (rule : String) : Option DeclForm := Table.find? rule table

def transparent : DeclForm → Bool
  | statement | moduleInstantiation | parameters => true
  | _ => false

end DeclForm

def Params.nameOf : Value → String
  | .str s => Text.toString s
  | _ => ""

def Params.ofValue (v : Value) : Run (Params Value) := do
  match v with
  | .tuple [.list cell, .dict optional] =>
    return .named ((← Run.listItems cell).map nameOf) optional
  | _ => return .other v

namespace Declare

/-- The pass as its own parts call it: declare a tree in a scope. -/
abbrev Pass := ScopeId → Tree → Run Value

variable (pass : Pass) (scope : ScopeId) (n : Tree)

def each : List Tree → Run Unit
  | [] => return ()
  | t :: ts => do
    let _ ← pass scope t
    each ts

def block (ts : List Tree) : Run ScopeId := do
  let inner ← Run.innerScope scope .block
  each pass inner ts
  return inner

/-- A name to be entered once, with or without a default. -/
def parameterList (required : List Value) (optional : List (String × Value)) : List Tree → Run Value
  | [] => return .tuple [← Run.newList required, .dict optional]
  | t :: ts => do
    let step (required : List Value) (optional : List (String × Value)) : Run Value :=
      match ts with
      | [] => return .tuple [← Run.newList required, .dict optional]
      | _ :: more => parameterList required optional more
    match ← pass scope t with
    | .tuple [v] => step (required ++ [v]) optional
    | .tuple (.str s :: v :: _) =>
      let name := Text.toString s
      if Table.has name optional then throw .alreadySet
      else step required (optional ++ [(name, v)])
    | _ => throw .typeMismatch

def withChild : Run Value := do
  let call ← Run.lift (n.child 0)
  let after ← Run.lift (n.child 1)
  if after.rule != "child_statement" then throw .malformed
  if (← Run.lift after.size) != 1 then throw .malformed
  let inner ← Run.lift (after.child 0)
  let rule := inner.rule
  if rule = "explicit_child" then
    let child ← block pass scope (← Run.lift ((← Run.lift (inner.child 1)).children))
    if (← Run.scope child).work.isEmpty then return .statement call none
    return .statement call (some child)
  else if rule = "module_instantiation" then
    let child ← Run.innerScope scope .block
    Run.addWork child (← pass child inner)
    return .statement call (some child)
  else throw .malformed

def declareFunction : Run Value := do
  Run.lift (n.checkArity 7 8)
  let name := (← Run.lift (n.child 1)).value
  if (← Run.scope scope).funcs.has name then
    Run.notice ("Redefined: " ++ name)
    return .undef
  let params ←
    if (← Run.lift n.size) = 8 then Params.ofValue (← pass scope (← Run.lift (n.child 3)))
    else pure (.named [] [])
  let body ← Run.lift (n.childFromEnd 2)
  Run.addFunc scope name (.value (.function (← Run.newIdent) scope name params (.code body)))
  return Value.undef

/-- The statements of a module's body share one scope with its parameters. -/
def moduleBody (body : Tree) : Run ScopeId := do
  if body.rule != "statement" then throw .malformed
  let inner ← Run.lift (body.child 0)
  if inner.rule != "stmt_obj" then throw .malformed
  let what ← Run.lift (inner.child 0)
  if what.rule = "stmt_list" then
    block pass scope (← Run.lift what.children).tail.dropLast
  else block pass scope [body]

def declareModule : Run Value := do
  Run.lift (n.checkArity 5 6)
  let name := (← Run.lift (n.child 1)).value
  if (← Run.scope scope).mods.has name then
    Run.notice ("Redefined: " ++ name)
    return .undef
  let params ←
    if (← Run.lift n.size) = 6 then Params.ofValue (← pass scope (← Run.lift (n.child 3)))
    else pure (.named [] [])
  let body ← moduleBody pass scope (← Run.lift (n.childFromEnd 1))
  Run.addMod scope name (.module name params body)
  return Value.undef

/-- An `if` leaves a scope that knows its test and its branches. -/
def declareBranches : Run Value := do
  let n ← Run.lift (n.child 0)
  Run.lift (n.checkArity 5 7)
  let e ← Run.innerScope scope .block
  let test ← Run.lift (n.child 2)
  let yes ← Run.innerScope e .block
  Run.modifyScope e fun s => { s with branch := some ⟨test, yes, none⟩ }
  let _ ← pass yes (← Run.lift (n.child 4))
  if 5 < (← Run.lift n.size) then
    let no ← Run.innerScope e .block
    Run.modifyScope e fun s => { s with branch := some ⟨test, yes, some no⟩ }
    let _ ← pass no (← Run.lift (n.child 6))
  return .scope e

def marked (warning : String) (n : Tree) : Run Value := do
  Run.warn warning
  pass scope (← Run.lift (n.child 1))

def declareForm : DeclForm → Run Value
  | .sequence | .input => do
    each pass scope (← Run.lift n.children)
    return .undef
  | .statement | .moduleInstantiation => do
    Run.lift (n.checkArity 1 1)
    pass scope (← Run.lift (n.child 0))
  | .assignment => do
    let name := (← Run.lift (n.child 0)).value
    Run.addVar scope name (.code (← Run.lift (n.child 2)))
    return .undef
  | .stmtObj => do
    Run.lift (n.checkArity 1 1)
    let t ← Run.lift (n.child 0)
    match ← pass scope t with
    | .undef =>
      let _ ← pass scope t
      throw .emptyStatement
    | v =>
      Run.addWork scope v
      return .undef
  | .stmtDeclFn => declareFunction pass scope n
  | .stmtDeclMod => declareModule pass scope n
  | .explicitChild => do
    Run.lift (n.checkArity 3 3)
    return .scope (← block pass scope (← Run.lift (do (← n.child 1).children)))
  | .childStatement => do
    Run.lift (n.checkArity 1 1)
    match ← pass scope (← Run.lift (n.child 0)) with
    | .undef => return .undef
    | v =>
      Run.addWork scope v
      return .undef
  | .childStatements => do return .scope (← block pass scope (← Run.lift n.children))
  | .stmtList => do return .scope (← block pass scope (← Run.lift n.children).tail.dropLast)
  | .noChild | .modInstStar | .finish | .ifStatement => return .undef
  | .modInstChild => do
    Run.lift (n.checkArity 1 2)
    let call ← Run.lift (n.child 0)
    if (← Run.lift n.size) = 1 then return .statement call none
    let after ← Run.lift (n.child 1)
    if after.rule != "child_statement" then throw .malformed
    if (← Run.lift after.size) != 1 then throw .malformed
    if (← Run.lift (after.child 0)).rule = "no_child" then
      return .statement call none
    withChild pass scope n
  | .modInstSpecial => do
    Run.lift (n.checkArity 2 2)
    if (← Run.lift (do (← n.child 1).child 0)).rule = "no_child" then throw .arity
    withChild pass (← Run.innerScope scope .special) n
  | .modInstBang => marked pass scope "Object isolation is not yet supported" n
  | .modInstHash => marked pass scope "Object highlighting is not yet supported" n
  | .modInstPerc => marked pass scope "Object transparency is not yet supported" n
  | .modCall => do
    Run.lift (n.checkArity 3 4)
    return .statement n none
  | .parameters => do
    Run.lift (n.checkArity 1 2)
    pass scope (← Run.lift (n.child 0))
  | .parameterList => do parameterList pass scope [] [] (← Run.lift n.children)
  | .parameter => do
    if (← Run.lift n.size) = 1 then
      return .tuple [.str (← Run.lift (n.child 0)).value]
    Run.lift (n.checkArity 3 3)
    let name := (← Run.lift (n.child 0)).value
    return .tuple [.str name, ← (← Run.lift (n.child 2)).adopt]
  | .ifelseStatement => declareBranches pass scope n

/-- Declare a tree whose height is at most `fuel`. -/
def declareWith : (fuel : Nat) → Pass
  | 0, _, _ => throw .tooDeep
  | fuel + 1, scope, t => do
    let (form, n) ← Run.lift (t.unwrap DeclForm.ofRule? DeclForm.transparent)
    Run.leveled scope (declareForm (declareWith fuel) scope n form)

end Declare

def declare (scope : ScopeId) (t : Tree) : Run Value := Declare.declareWith t.height scope t

end Scad
