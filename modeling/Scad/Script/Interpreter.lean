import Scad.Script.Native
import Scad.Script.Statement

/-!
Running a script. All of it is read and checked before anything runs; what is
left at the end are the names that it has set.
-/

namespace Scad
namespace Script

/-! ## Checks before running -/

namespace Expr

/-- The expressions directly inside another one that belong to the same
function. -/
def parts : Expr → List Expr
  | joined es | tuple es | list es | set es | logic _ es => es
  | slot value _ spec => value :: spec.toList
  | unary _ e | starred e | member e _ | assign _ e | await e => [e]
  | binary _ a b | item a b => [a, b]
  | compare first rest => first :: rest.map Prod.snd
  | choice test yes no => [test, yes, no]
  | call f args => f :: args.map Prod.snd
  | slice a b c => a.toList ++ b.toList ++ c.toList
  | dict entries => entries.flatMap fun (k, v) => k.toList ++ [v]
  | comprehension _ element clauses =>
    element ++ clauses.flatMap fun (target, source, tests) => target :: source :: tests
  | yield e => e.toList
  | _ => []

def all (p : Expr → Bool) : (fuel : Nat) → Expr → Bool
  | 0, _ => false
  | fuel + 1, e => p e && e.parts.all (all p fuel)

def isFixed (name : String) : Bool := name == "__debug__"

def argName? : ArgKind × Expr → Option String
  | (.named s, _) => some s
  | _ => Option.none

/-- Is an expression, without those inside it, allowed outside of functions? -/
def isAllowed : Expr → Bool
  | yield _ | await _ => false
  | assign s _ => !isFixed s
  | call _ args =>
    let names := args.filterMap argName?
    names.Nodup && !names.any isFixed
  | lambda params _ => params.Nodup && !params.any isFixed
  | _ => true

/-- Can a value be assigned here? Of several targets one may take the rest. -/
def isPlainTarget : Expr → Bool
  | name s => !isFixed s
  | member _ s => !isFixed s
  | starred _ => false
  | tuple es | list es => (es.filter isStarred).length ≤ 1
  | _ => true

end Expr

namespace Stmt

def expressions : Stmt → List Expr
  | expr e => [e]
  | assign targets value => targets ++ [value]
  | update target _ value => [target, value]
  | annotate target type value => target :: type :: value.toList
  | delete targets => targets
  | check test message => test :: message.toList
  | raise what cause => what.toList ++ cause.toList
  | leave value => value.toList
  | _ => []

def isAllowed (fuel : Nat) (s : Stmt) : Bool :=
  (s.expressions.all fun e => e.all Expr.isAllowed fuel) &&
    match s with
    | expr e => !e.isStarred
    | assign targets value => targets.all Expr.isPlainTarget && !value.isStarred
    | update target _ value => target.isPlainTarget && !value.isStarred
    | annotate target _ value => target.isPlainTarget && !value.any Expr.isStarred
    | delete targets => targets.all Expr.isPlainTarget
    | nonlocal _ | leave _ | block => false
    | _ => true

end Stmt

def load (text : List Char) : Except Fault (List Stmt) := do
  let ss ← statementsOf text
  if ss.all (Stmt.isAllowed (parserFuel text.length)) then return ss else throw .badScript

/-! ## Running -/

abbrev Step := StateT (Table Value) Run

namespace Step

def lookUp (name : String) : Step Value := do
  Run.demand .unboundName (((← get).find? name).or (Native.find? name))

def bind (name : String) (v : Value) : Step Unit := modify fun t => t.put name v

def withNames {α : Type} (names : Option (Table Value)) (body : Step α) : Step α := do
  match names with
  | none => body
  | some names =>
    let before ← get
    set names
    let a ← body
    set before
    return a

end Step

def scriptArgs (args : Args) : Except Fault (Text × Option (Table Value)) := do
  if !args.named.isEmpty then throw .typeMismatch
  let (v, rest) ← match args.positional with
    | v :: rest => pure (v, rest)
    | [] => throw .typeMismatch
  let names ← match rest with
    | [] | [.undef] | [.undef, .undef] => pure none
    | [.dict names] | [.dict names, .undef] | [_, .dict names] => pure (some names)
    | _ => throw .typeMismatch
  match v with
  | .str t => return (t, names)
  | _ => throw .typeMismatch

/-- The items of a list after a change at the place that an index tells. -/
def changeList (cell : Nat) (index : Value) (change : List Value → Nat → List Value) :
    Run Unit := do
  let items ← Run.listItems cell
  discard (Value.itemAt .list items index)
  let n ← Run.demand .typeMismatch (index.int?.bind (Value.place? items.length))
  Run.setList cell (change items n)

def setItem (v index new : Value) : Run Unit :=
  match v with
  | .list cell => changeList cell index fun items n => items.set n new
  | .dict _ | .foreign _ => return ()
  | _ => throw .typeMismatch

def removeItem (v index : Value) : Run Unit :=
  match v with
  | .list cell => changeList cell index List.eraseIdx
  | .dict _ => discard (v.item index)
  | _ => throw .typeMismatch

def raise (v : Value) : Run Unit :=
  match v with
  | .native name | .foreign name =>
    if name == "SystemExit" then throw (.exit 0)
    else if Native.faultNames.contains name then throw (.raised name)
    else throw .typeMismatch
  | _ => throw .typeMismatch

def parametric : List String :=
  ["list", "tuple", "dict", "set", "frozenset", "type", "enumerate", "BaseExceptionGroup",
    "ExceptionGroup"]

def itemOf (v index : Value) : Run Value := do
  match v with
  | .range .. => do Value.itemAt .list (← Native.items v) index
  | .native name =>
    if parametric.contains name then return .foreign "GenericAlias" else throw .typeMismatch
  | _ => v.item index

def updated (op : BinaryOp) (a b : Value) : Run Value :=
  match op with
  | .add => a.addTo b
  | .mul => a.timesTo b
  | op => Operator.binary op a b

section

variable (eval : Expr → Step Value)

def evalOptional : Option Expr → Step Value
  | none => return .undef
  | some e => eval e

/-- The values of expressions; one with a star stands for all its items. -/
def evalAll : List Expr → Step (List Value)
  | [] => return []
  | .starred e :: es => return (← Native.items (← eval e)) ++ (← evalAll es)
  | e :: es => return (← eval e) :: (← evalAll es)

def evalArgs (positional : List Value) (named : List (String × Value)) :
    List (ArgKind × Expr) → Step Args
  | [] => return ⟨positional, named⟩
  | (kind, e) :: rest => do
    let v ← eval e
    match kind with
    | .positional => evalArgs (positional ++ [v]) named rest
    | .spread => evalArgs (positional ++ (← Native.items v)) named rest
    | .named name => evalArgs positional (named ++ [(name, v)]) rest
    | .spreadNamed =>
      match v with
      | .dict entries =>
        if entries.any fun (k, _) => Table.has k named then throw .typeMismatch
        evalArgs positional (named ++ entries) rest
      | _ => throw .typeMismatch

/-- The entries of a table. Only texts are kept as keys. -/
def evalDict (done : Table Value) : List (Option Expr × Expr) → Step Value
  | [] => return .dict done
  | (none, e) :: rest => do
    match ← eval e with
    | .dict entries => evalDict (Table.merge done entries) rest
    | _ => throw .typeMismatch
  | (some key, e) :: rest => do
    let k ← eval key
    let v ← eval e
    if !k.isKey then throw .typeMismatch
    match k with
    | .str t => evalDict (done.put (Text.toString t) v) rest
    | _ => evalDict done rest

/-- Give targets the values in order; one with a star takes what the others
leave. `total` is the number of targets at the beginning. -/
def assignAll (assign : Expr → Value → Step Unit) (total : Nat) :
    List Expr → List Value → Step Unit
  | [], vs => if vs.isEmpty then return () else throw (.tooManyToUnpack total)
  | .starred target :: targets, vs => do
    if vs.length < targets.length then throw (.tooFewToUnpackRest (total - 1) vs.length)
    let n := vs.length - targets.length
    assign target (← Run.newList (vs.take n))
    assignAll assign total targets (vs.drop n)
  | _ :: _, [] => throw (.tooFewToUnpack total 0)
  | target :: targets, v :: vs => do
    assign target v
    assignAll assign total targets vs

def assignWith : (fuel : Nat) → Expr → Value → Step Unit
  | 0, _, _ => throw .tooDeep
  | _ + 1, .name s, v => Step.bind s v
  | _ + 1, .item e index, v => do
    let container ← eval e
    setItem container (← eval index) v
  | _ + 1, .member e _, _ => do
    discard (eval e)
    throw .noAttribute
  | fuel + 1, .tuple targets, v | fuel + 1, .list targets, v => do
    assignAll (assignWith fuel) targets.length targets (← Native.items v)
  | _ + 1, _, _ => throw .badScript

/-- Targets are not deeper than brackets can be. -/
def targetDepth : Nat := Lexer.bracketLimit + 2

def assign : Expr → Value → Step Unit := assignWith eval targetDepth

def removeWith : (fuel : Nat) → Expr → Step Unit
  | 0, _ => throw .tooDeep
  | _ + 1, .name s => do
    if (← get).has s then modify fun t => t.remove s else throw .unboundName
  | _ + 1, .item e index => do
    let container ← eval e
    removeItem container (← eval index)
  | fuel + 1, .tuple es | fuel + 1, .list es => es.forM (removeWith fuel)
  | _ + 1, _ => throw .noAttribute

def evalClauses (element : List Expr) : List (Expr × Expr × List Expr) → Step (List Value)
  | [] => do
    match ← evalAll eval element with
    | [v] => return [v]
    | vs => return [.tuple vs]
  | (target, source, tests) :: rest => do
    let found ← (← Native.items (← eval source)).mapM fun v => do
      assign eval target v
      if ← (← Operator.logic eval true (.bool true :: tests)).truth then evalClauses element rest
      else return []
    return found.flatten

def run : Stmt → Step Unit
  | .expr e => discard (eval e)
  | .assign targets value => do
    let v ← eval value
    targets.forM fun target => assign eval target v
  | .update target op value => do
    let v ← eval target
    assign eval target (← updated op v (← eval value))
  | .annotate target type value => do
    value.forM fun value => do assign eval target (← eval value)
    discard (eval type)
  | .delete targets => targets.forM (removeWith eval targetDepth)
  | .check test message => do
    if !(← (← eval test).truth) then
      discard (evalOptional eval message)
      throw (.raised "AssertionError")
  | .raise none _ => throw (.raised "RuntimeError")
  | .raise (some e) cause => do
    let v ← eval e
    discard (evalOptional eval cause)
    raise v
  | .pass | .global _ => return ()
  | .importing modules => modules.forM fun name =>
      Step.bind (String.ofList (name.toList.takeWhile (· != '.'))) (.foreign "module")
  | .importFrom _ names => names.forM fun name => Step.bind name (.foreign "object")
  | .nonlocal _ | .leave _ | .block => throw .badScript

/-- Call a value. Two functions read scripts themselves, with the names of a
table if they are given one. -/
def callValue : Value → Args → Step Value
  | .native "eval", args => do
    let (t, names) ← Run.lift (scriptArgs args)
    let cs := (Text.toString t).toList.dropWhile fun c => c = ' ' || c = '\t'
    let e ← Run.lift (expressionOf cs)
    if !(e.all Expr.isAllowed (parserFuel cs.length)) then throw .badScript
    Step.withNames names (eval e)
  | .native "exec", args => do
    let (t, names) ← Run.lift (scriptArgs args)
    let ss ← Run.lift (load (Text.toString t).toList)
    Step.withNames names (ss.forM (run eval))
    return .undef
  | .native name, args => Native.call name args
  | .method owner name, args => Member.call owner name args
  | _, _ => throw .typeMismatch

end

def eval : (fuel : Nat) → Expr → Step Value
  | 0, _ => throw .tooDeep
  | _ + 1, .text t => return .str t
  | _ + 1, .bytes _ => return .foreign "bytes"
  | _ + 1, .name s => Step.lookUp s
  | fuel + 1, .joined parts => do
    let texts ← (← evalAll (eval fuel) parts).mapM fun v => (v.display : Run Text)
    return .str (Text.join texts)
  | fuel + 1, .slot value conversion spec => do
    let v ← eval fuel value
    let v ← match conversion with
      | some 's' => pure (.str (← v.display))
      | some _ => pure (.str (← v.shown))
      | none => pure v
    match ← evalOptional (eval fuel) spec with
    | .str spec => return .str (← Field.write v spec)
    | _ => return v
  | fuel + 1, .unary op e => do Operator.unary op (← eval fuel e)
  | fuel + 1, .binary op a b => do Operator.binary op (← eval fuel a) (← eval fuel b)
  | fuel + 1, .logic isAnd operands => Operator.logic (eval fuel) isAnd operands
  | fuel + 1, .compare first rest => do
    return .bool (← Operator.comparison (eval fuel) (← eval fuel first) rest)
  | fuel + 1, .choice test yes no => do
    if ← (← eval fuel test).truth then eval fuel yes else eval fuel no
  | fuel + 1, .call f args => do
    callValue (eval fuel) (← eval fuel f) (← evalArgs (eval fuel) [] [] args)
  | fuel + 1, .member e name => do Native.memberOf (← eval fuel e) name
  | fuel + 1, .item e (.slice start stop step) => do
    Operator.cut (← eval fuel e) (← evalOptional (eval fuel) start)
      (← evalOptional (eval fuel) stop) (← evalOptional (eval fuel) step)
  | fuel + 1, .item e index => do itemOf (← eval fuel e) (← eval fuel index)
  | fuel + 1, .slice start stop step => do
    [start, stop, step].forM fun e => discard (evalOptional (eval fuel) e)
    return .foreign "slice"
  | fuel + 1, .tuple es => return .tuple (← evalAll (eval fuel) es)
  | fuel + 1, .list es => do Run.newList (← evalAll (eval fuel) es)
  | fuel + 1, .set es => do
    if (← evalAll (eval fuel) es).all Value.isKey then return .foreign "set"
    else throw .typeMismatch
  | fuel + 1, .dict entries => evalDict (eval fuel) [] entries
  | fuel + 1, .assign name e => do
    let v ← eval fuel e
    Step.bind name v
    return v
  | fuel + 1, .comprehension kind element clauses => do
    let before ← get
    let found ← evalClauses (eval fuel) element clauses
    set before
    match kind with
    | .list => Run.newList found
    | .stream => return .tuple found
    | .set => return .foreign "set"
    | .dict => return .foreign "dict"
  | _ + 1, .lambda .. => return .method (.int (← Run.newIdent)) "lambda"
  | _ + 1, e => Operator.constant .badScript e

/-- How deep running may nest, beyond what the length of a text asks for. -/
def nestingAllowance : Nat := 10000

/-- Run a script; the result are the names that it has set, in order. -/
def execute (text : List Char) : Run (List (String × Value)) := do
  let ss ← Run.lift (load text)
  let (_, names) ← (ss.forM (run (eval (2 * text.length + nestingAllowance)))).run []
  return names

end Script
end Scad
