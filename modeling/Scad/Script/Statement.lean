import Scad.Script.Parser

/-!
Reading statements from tokens. A line may hold several; the whole text is read
before anything is done with it.
-/

namespace Scad
namespace Script

namespace Parser

variable (rules : Rules)

def updateOps : List (String × BinaryOp) :=
  [("+=", .add), ("-=", .sub), ("*=", .mul), ("@=", .matMul), ("/=", .div), ("//=", .floorDiv),
    ("%=", .mod), ("**=", .pow), ("<<=", .shiftLeft), (">>=", .shiftRight), ("&=", .bitAnd),
    ("|=", .bitOr), ("^=", .bitXor)]

def assigned : Parser Expr := do
  if ← sees "yield" then yielded rules else expressions rules .expression

def expressionStatement : Parser Stmt := do
  let e ← assigned rules
  if ← startsWith "=" then
    let es ← many (after "=" (assigned rules))
    let targets := e :: es.dropLast
    if targets.all Expr.isTarget then return .assign targets (es.getLastD e) else fail
  if ← sees ":" then
    if !e.isSingleTarget then fail
    return .annotate e (← rules .expression) (← after "=" (assigned rules))
  match ← choose updateOps with
  | none => return .expr e
  | some op =>
    if !e.isSingleTarget then fail
    return .update e op (← assigned rules)

def dotted : Parser String := return ".".intercalate (← separated "." name)

def withGivenName (item : Parser String) : Parser String := do
  let s ← item
  discard (after "as" name)
  return s

def importedNames : Parser (List String) := do
  if ← sees "*" then return []
  if !(← sees "(") then separated "," (withGivenName name)
  else
    let names ← itemsUntil "," ")" (withGivenName name)
    if names.isEmpty then fail else return names

def dot? : Parser (Option Unit) := choose [(".", ()), ("...", ())]

def simpleStatements : List (String × Parser Stmt) :=
  [("pass", return .pass),
    ("break", return .leave none),
    ("continue", return .leave none),
    ("return", return .leave (← unlessAtEnd (expressions rules .expression))),
    ("raise", do
      match ← unlessAtEnd (rules .expression) with
      | none => return .raise none none
      | some e => return .raise (some e) (← after "from" (rules .expression))),
    ("assert", return .check (← rules .expression) (← after "," (rules .expression))),
    ("del", do
      let e ← expressions rules .primary
      if e.isTarget && !e.isStarred then return .delete [e] else fail),
    ("global", return .global (← separated "," name)),
    ("nonlocal", return .nonlocal (← separated "," name)),
    ("import", return .importing (← separated "," (withGivenName dotted))),
    ("from", do
      let dots ← many dot?
      let direct := !dots.isEmpty && (← startsWith "import")
      let module ← if direct then pure "" else dotted
      expect "import"
      return .importFrom module (← importedNames))]

def simpleStatement : Parser Stmt := do
  (← choose (simpleStatements rules)).getD (expressionStatement rules)

def line : Parser (List Stmt) :=
  return (← simpleStatement rules) :: (← moreUntil ";" "newline" (simpleStatement rules))

/-! ## Blocks

Statements with a block are only read; nothing runs them. -/

def skipParameter : Parser Unit := do
  if ← sees "*" then
    if !(← startsWith ",") then discard name
  else if !(← sees "/") then
    discard (sees "**")
    discard name
  discard (after ":" (rules .expression))
  discard (after "=" (rules .expression))

def skipLoop : Parser Unit := do
  let target ← expressions rules .bitOr
  if !target.isTarget then fail
  expect "in"
  discard (expressions rules .named)

def skipSignature : Parser Unit := do
  discard name
  expect "("
  discard (itemsUntil "," ")" (skipParameter rules))
  discard (after "->" (rules .expression))

def skipClassHead : Parser Unit := do
  discard name
  discard (after "(" (arguments rules))

def skipOpened : Parser Unit := do
  discard (rules .expression)
  discard (after "as" (rules .primary))

def skipHandler : Parser Unit := do
  if !(← startsWith ":") then
    discard (sees "*")
    discard (rules .expression)
    discard (after "as" name)

def heads : List (String × Parser Unit) :=
  [("if", discard (rules .named)), ("while", discard (rules .named)), ("for", skipLoop rules),
    ("with", discard (separated "," (skipOpened rules))), ("def", skipSignature rules),
    ("class", skipClassHead rules), ("try", return ())]

/-- The blocks that may follow a block of a given word. -/
def followers : String → List (String × Parser Unit)
  | "if" | "elif" => [("elif", discard (rules .named)), ("else", return ())]
  | "while" | "for" => [("else", return ())]
  | "try" => [("except", skipHandler rules), ("finally", return ())]
  | "except" => [("except", skipHandler rules), ("else", return ()), ("finally", return ())]
  | "handled" => [("finally", return ())]
  | _ => []

def suite (statement : Parser (List Stmt)) : Parser Unit := do
  expect ":"
  if !(← sees "newline") then discard (line rules)
  else
    if !(← sees "indent") then throw .badIndentation
    discard statement
    discard (many do if ← sees "dedent" then return none else return some (← statement))

/-- The blocks after one of a given word. -/
def further (suite : Parser Unit) : (fuel : Nat) → (before : String) → Parser Unit
  | 0, _ => fail
  | fuel + 1, before => do
    let next ← word
    match ← choose (followers rules before) with
    | some head =>
      head
      suite
      further suite fuel (if before = "except" && next = "else" then "handled" else next)
    | none => if before = "try" then fail

def statement : (fuel : Nat) → Parser (List Stmt)
  | 0 => fail
  | fuel + 1 => do
    if ← startsWith "indent" then throw .badIndentation
    if ← sees "@" then
      discard (rules .named)
      expect "newline"
      discard (statement fuel)
      return [.block]
    if ← sees "async" then
      if !(["def", "for", "with"].contains (← word)) then fail
      return ← statement fuel
    let first ← word
    match ← choose (heads rules) with
    | some head =>
      let block := suite rules (statement fuel)
      head
      block
      further rules block ((← get).length + 1) first
      return [.block]
    | none => line rules

def statements : Parser (List Stmt) := do
  let all ← many do
    let ts ← get
    if ts.isEmpty then return none else return some (← statement rules (2 * ts.length + 2))
  return all.flatten

end Parser

def statementsOf (text : List Char) : Except Fault (List Stmt) :=
  (Parser.statements (rulesWith (parserFuel text.length))).run' (tokensOf text)

end Script
end Scad
