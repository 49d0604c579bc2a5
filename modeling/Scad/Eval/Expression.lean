import Scad.Eval.Call
import Scad.Script.Formula

/-!
The meaning of each kind of node when it is evaluated.

Chains of operators are worked off from the left. `&&` and `||` stop as soon as
the result is known and give the operand that decided; a chain of comparisons
holds if every neighbouring pair is so related. A node may change while it is
worked off, so a loop over its children looks at the node before every round.
-/

namespace Scad

open Node Text

inductive ExprForm where
  | sequence | ifelseStatement | ifStatement | modCall | arguments | argumentList | argument
  | vecEmpty | vecElems | vectorElements | exprFn | exprCase | logicOr | logicAnd | equality
  | comparison | addition | multiplication | unary | exponent | call | num | sym | paren | str
  | lceFor | lceLet | lceIf | for2 | for3 | addArgs | addIndex | litTrue | litFalse | litUndef
  | expr | primary | vectorElement | addon
  deriving DecidableEq, Repr

namespace ExprForm

def table : List (String × ExprForm) :=
  [("expr", expr), ("expr_case", exprCase), ("logic_or", logicOr), ("logic_and", logicAnd),
    ("equality", equality), ("comparison", comparison), ("addition", addition),
    ("multiplication", multiplication), ("unary", unary), ("exponent", exponent), ("call", call),
    ("primary", primary), ("pr_Num", num), ("pr_Sym", sym), ("pr_paren", paren), ("pr_Str", str),
    ("pr_true", litTrue), ("pr_false", litFalse), ("pr_undef", litUndef),
    ("addon", addon), ("add_args", addArgs), ("add_index", addIndex),
    ("arguments", arguments), ("argument_list", argumentList), ("argument", argument),
    ("mod_call", modCall), ("special_call", modCall), ("vector_element", vectorElement),
    ("vector_elements", vectorElements), ("pr_vec_empty", vecEmpty), ("pr_vec_elems", vecElems),
    ("pr_for2", for2), ("pr_for3", for3), ("expr_fn", exprFn), ("lce_for", lceFor),
    ("lce_for3", lceFor), ("lce_let", lceLet), ("lce_if", lceIf), ("_list", sequence),
    ("ifelse_statement", ifelseStatement), ("if_statement", ifStatement)]

def ofRule? (rule : String) : Option ExprForm := Table.find? rule table

/-- Rules that only pass on their single child. -/
def transparent : ExprForm → Bool
  | exprCase | logicOr | logicAnd | equality | comparison | addition | multiplication | unary
  | exponent | paren | expr | primary | vectorElement | addon => true
  | _ => false

end ExprForm

namespace Eval

abbrev Sub := Value → Run Value

section

variable (perform : Perform) (env : FrameId) (sub : Sub) (n : Value)

def eachFrom : (fuel i : Nat) → Run Unit
  | 0, _ => throw .tooDeep
  | fuel + 1, i => do
    if ← reaches i n then
      let _ ← sub (← child i n)
      eachFrom fuel (i + 1)

/-- Every second child from place `i` on, evaluated, after those in `done`,
which are in reverse. -/
def everySecond (done : List Value) : (fuel i : Nat) → Run (List Value)
  | 0, _ => throw .tooDeep
  | fuel + 1, i => do
    if ← reaches i n then
      let v ← sub (← child i n)
      everySecond (v :: done) fuel (i + 2)
    else return done.reverse

/-! ## Chains of operators

In each chain the operator stands at place `i` and its right operand after
it. -/

/-- A chain of `word` that goes on as long as the operands are not `final`. -/
def logicChain (word : Text) (final : Bool) (n : Value) : (fuel i : Nat) → Value → Run Value
  | 0, _, _ => throw .tooDeep
  | fuel + 1, i, soFar => do
    if ← reaches i n then
      if (← soFar.truth) == final then return soFar
      if (← wordAt i n) != word then throw .unknownOperator
      logicChain word final n fuel (i + 2) (← sub (← child (i + 1) n))
    else return soFar

def breaksEquality (op : Text) (a b : Value) : Run Bool := do
  if op = ofString "==" then return !(← a.equal b)
  else if op = ofString "!=" then a.equal b
  else throw .unknownOperator

/-- Does a pair break a chain of comparisons? It does if the opposite holds. -/
def breaksOrder (op : Text) (a b : Value) : Run Bool := do
  if op = ofString "<" then Value.related .greaterEq a b
  else if op = ofString "<=" then Value.related .greater a b
  else if op = ofString ">=" then Value.related .less a b
  else if op = ofString ">" then Value.related .lessEq a b
  else throw .unknownOperator

def relationChain (breaks : Text → Value → Value → Run Bool) (n : Value) :
    (fuel i : Nat) → Value → Run Value
  | 0, _, _ => throw .tooDeep
  | fuel + 1, i, left => do
    if ← reaches i n then
      let right ← sub (← child (i + 1) n)
      if ← breaks (← wordAt i n) left right then return .bool false
      relationChain breaks n fuel (i + 2) right
    else return .bool true

def addOp (op : Text) (a b : Value) : Run Value := do
  if op = ofString "+" then
    addTo perform a b
  else if op = ofString "-" then a.minus b
  else throw .unknownOperator

def mulOp (op : Text) (a b : Value) : Run Value := do
  if op = ofString "*" then a.timesTo b
  else if op = ofString "/" then a.divide b
  else if op = ofString "%" then a.modulo b
  else throw .unknownOperator

def operatorChain (apply : Text → Value → Value → Run Value) (n : Value) :
    (fuel i : Nat) → Value → Run Value
  | 0, _, _ => throw .tooDeep
  | fuel + 1, i, left => do
    if ← reaches i n then
      let right ← sub (← child (i + 1) n)
      operatorChain apply n fuel (i + 2) (← apply (← wordAt i n) left right)
    else return left

/-- Evaluate the first child; if there is just this one its value is all,
otherwise `more` goes on. -/
def headThen (more : Value → Run Value) : Run Value := do
  let first ← sub (← child 0 n)
  if (← n.size) = 1 then return first
  more first

def evalLogic (word : Text) (final : Bool) (n : Value) : Run Value := do
  let first ← sub (← child 0 n)
  logicChain sub word final n (← rounds n) 1 first

def evalRelation (breaks : Text → Value → Value → Run Bool) (n : Value) : Run Value :=
  headThen sub n fun first => do relationChain sub breaks n (← rounds n) 1 first

def evalOperators (apply : Text → Value → Value → Run Value) (n : Value) : Run Value :=
  headThen sub n fun first => do operatorChain sub apply n (← rounds n) 1 first

def evalUnary : Run Value := do
  checkArity 1 2 n
  let v ← sub (← child (-1) n)
  if (← n.size) != 2 then return v
  let op ← wordAt 0 n
  if op = ofString "+" then return v
  else if op = ofString "-" then v.negate
  else if op = ofString "!" then return .bool !(← v.truth)
  else throw .unknownOperator

def evalExponent : Run Value :=
  headThen sub n fun base => do
    checkArity 3 3 n
    let exponent ← sub (← child 2 n)
    if (← wordAt 1 n) = ofString "^" then base.power exponent
    else throw .unknownOperator

def evalCase : Run Value :=
  headThen sub n fun test => do
    checkArity 5 5 n
    if ← test.truth then sub (← child 2 n) else sub (← child 4 n)

/-! ## Arguments and calls -/

/-- Collect arguments from place `i` on. A named one whose name begins with `$`
is set in the environment of the call instead. -/
def collectArguments : (fuel i : Nat) → List Value → List (String × Value) → Run Value
  | 0, _, _, _ => throw .tooDeep
  | fuel + 1, i, positional, named => do
    if ← reaches i n then
      let v ← sub (← child i n)
      if (← v.size) = 1 then
        collectArguments fuel (i + 2) (positional ++ [← v.item (.int 0)]) named
      else
        match ← v.item (.int 0) with
        | .str t =>
          let name := toString t
          if Table.has name named then throw .alreadySet
          let value ← v.item (.int 1)
          if isDynamicName name then
            Run.setValue env name value
            collectArguments fuel (i + 2) positional named
          else collectArguments fuel (i + 2) positional (named ++ [(name, value)])
        | other => if other.isKey then throw .noAttribute else throw .typeMismatch
    else return .tuple [← Run.newList positional, .dict named]

def evalArgument : Run Value := do
  if (← n.size) = 1 then return .tuple [← sub (← child 0 n)]
  checkArity 3 3 n
  let name ← wordAt 0 n
  return .tuple [.str name, ← sub (← child 2 n)]

def applyAddons : (fuel i : Nat) → Value → Run Value
  | 0, _, _ => throw .tooDeep
  | fuel + 1, i, v => do
    if ← reaches i n then
      let addon ← sub (← child i n)
      applyAddons fuel (i + 1) (← callPlain perform addon ⟨[v], []⟩)
    else return v

def isNamedCall : Run Bool := do
  if (← ruleName (← child 0 (← child 0 n))) != "pr_Sym" then return false
  if (← n.size) ≤ 1 then return false
  return (← ruleName (← child 0 (← child 1 n))) = "add_args"

def calledName : Run String := do
  return toString (← word (← child 0 (← child 0 n)))

/-- The arguments of a call, which stand in the child at place `i` unless there
are none. -/
def argumentsAt (none : Bool) (i : Int) (n : Value) : Run Args := do
  if none then return ⟨[], []⟩
  argsOf perform (← sub (← child i n))

def evalCall : Run Value := do
  if ← isNamedCall n then
    let size ← (← child 0 (← child 1 n)).size
    let args ← argumentsAt perform sub (size == 2) 1 n
    let name ← calledName n
    let v ← perform (.apply env name args)
    applyAddons perform sub n (← rounds n) 2 v
  else
    let v ← sub (← child 0 n)
    applyAddons perform sub n (← rounds n) 1 v

def evalModCall : Run Value := do
  let name ← wordAt 0 n
  let size ← n.size
  let args ← argumentsAt perform sub (size == 3) 2 n
  perform (.instantiate env (toString name) args)

/-- The first index, evaluated as often as there are places for one. -/
def evalIndices (done : List Value) : (fuel i : Nat) → Run (List Value)
  | 0, _ => throw .tooDeep
  | fuel + 1, i => do
    if ← reaches i n then
      let v ← sub (← child 1 n)
      evalIndices (v :: done) fuel (i + 2)
    else return done.reverse

def evalAddIndex : Run Value := do
  if (← n.size) = 2 then return .invoke (← Run.newIdent)
  checkArity 3 999 n
  let indices ← evalIndices sub n [] (← rounds n) 1
  return .pick (← Run.newIdent) indices

def evalAddArgs : Run Value := do
  if (← n.size) = 2 then return .invoke (← Run.newIdent)
  checkArity 3 3 n
  return .tuple (← unpack perform 2 (← sub (← child 1 n)))

def evalFunction : Run Value := do
  checkArity 4 5 n
  let params ←
    if (← n.size) = 5 then Params.ofValue (← sub (← child 2 n))
    else pure (.named [] [])
  let body ← child (-1) n
  return .function (← Run.newIdent) (← Run.frame env).scope "‹noname›" params body

/-! ## Literals -/

/-- A whole number if the text is one, else a floating point number. -/
def readNumber (text : Text) : Run Value := do
  let s := toString text
  match Numeral.int? s with
  | some n => return .int n
  | none =>
    match Numeral.float? s with
    | some x => Run.newFloat x
    | none => throw (.badNumeral (Quoted.write text))

/-- A side of the `if` whose scope the environment is in. -/
def evalBranch : Run Value := do
  let test ← sub (← child 2 n)
  let branch := (← Run.scope (← Run.frame env).scope).branch
  let side := if ← test.truth then branch.map (·.yes) else branch.bind (·.no)
  match side with
  | some scope => buildScope perform env scope
  | none => throw .noAttribute

def evalForm (form : ExprForm) : Run Value := do
  let sub : Sub := fun t => perform (.eval env t)
  match form with
  | .sequence =>
    eachFrom sub n (← rounds n) 0
    return .undef
  | .ifelseStatement => return .undef
  | .ifStatement => evalBranch perform env sub n
  | .modCall => evalModCall perform env sub n
  | .arguments =>
    checkArity 1 2 n
    sub (← child 0 n)
  | .argumentList => collectArguments env sub n (← rounds n) 0 [] []
  | .argument => evalArgument sub n
  | .vecEmpty => return .tuple []
  | .vecElems => sub (← child 1 n)
  | .vectorElements => Run.newList (← everySecond sub n [] (← rounds n) 0)
  | .exprFn => evalFunction env sub n
  | .exprCase => evalCase sub n
  | .logicOr => evalLogic sub "||" true n
  | .logicAnd => evalLogic sub "&&" false n
  | .equality => evalRelation sub breaksEquality n
  | .comparison => evalRelation sub breaksOrder n
  | .addition => evalOperators sub (addOp perform) n
  | .multiplication => evalOperators sub mulOp n
  | .unary => evalUnary sub n
  | .exponent => evalExponent sub n
  | .call => evalCall perform env sub n
  | .num => readNumber (← word n)
  | .sym => readName perform env (.str (← word n))
  | .paren => sub (← child 1 n)
  | .str => do Formula.evalLiteral (toString (← word n))
  | .lceFor => throw (.comprehension "for")
  | .lceLet => throw (.comprehension "let")
  | .lceIf => throw (.comprehension "if")
  | .for2 =>
    let start ← child 1 n
    return .range (← Run.newIdent) start (← child 3 n) (.int 1)
  | .for3 =>
    let start ← child 1 n
    let stop ← child 3 n
    return .range (← Run.newIdent) start stop (← child 5 n)
  | .addArgs => evalAddArgs perform sub n
  | .addIndex => evalAddIndex sub n
  | .litTrue => return .bool true
  | .litFalse => return .bool false
  | .litUndef => return .undef
  | .expr | .primary | .vectorElement | .addon =>
    checkArity 1 1 n
    sub (← child 0 n)

/-- A debugging line: the level as indentation, a mark and a text. -/
def debugLine (level : Nat) (mark : String) (text : Text) : Text :=
  ofString ("".pushn ' ' level ++ " " ++ mark ++ " ") ++ text ++ ofString "\n"

/-- Pass through the wrappers around a node: one with a single child whose form
is transparent gives way to that child. `tell` is told every rule on the way. -/
def locate (tell : String → Run Unit) : (fuel : Nat) → Value → Run (ExprForm × Value)
  | 0, _ => throw .tooDeep
  | fuel + 1, n => do
    let rule ← ruleName n
    match ExprForm.ofRule? rule with
    | none =>
      if rule = "" then throw .bareTerminal
      checkOutline n
      throw (.noMeaning rule)
    | some form =>
      tell rule
      if form.transparent && (← hasOneChild n) then locate tell fuel (← child 0 n)
      else return (form, n)

/-- Run `body` on a node; a fault in the number of children is reported with an
outline of the node. -/
def reporting (body : Run Value) : Run Value :=
  tryCatch body fun e => do
    if e.faultClass = .arity then checkOutline n
    throw e

def tell (f : Frame) (rule : String) : Run Unit :=
  if f.debug then Run.print (debugLine f.level ">" rule) else return ()

/-- Evaluate a node of a known form. An environment that is being debugged tells
what it gives. -/
def evalFound (form : ExprForm) (n : Value) : Run Value := do
  Run.modifyFrame env fun f => { f with level := f.level + 1 }
  let v ← Run.ensuring (reporting n (evalForm perform env n form))
    (Run.modifyFrame env fun f => { f with level := f.level - 1 })
  let last ← Run.frame env
  if last.debug then Run.print (debugLine last.level "<" (← v.display))
  return v

def evalNode : Run Value := do
  let f ← Run.frame env
  let found ← locate (tell f) (depth n) n
  evalFound perform env found.1 found.2

end

/-! ## The evaluator as a whole -/

def step (perform : Perform) : Task → Run Value
  | .eval env n => evalNode perform env n
  | .read env name => readVariable perform env name
  | .readKey env key => readKey perform env key
  | .apply env name args => applyFunction perform env name args
  | .call env callee args => callValue perform env callee args
  | .instantiate env name args => instantiateModule perform env name args
  | .build env => build perform env
  | .buildOne env item => buildItem perform env item

/-- Carry out a task with at most `depth` tasks nested in each other. -/
def performWith : (depth : Nat) → Perform
  | 0, _ => throw .tooDeep
  | depth + 1, task => step (performWith depth) task

def depthLimit : Nat := 3000

def perform : Perform := performWith depthLimit

end Eval
end Scad
