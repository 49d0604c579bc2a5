import Scad.Fault
import Scad.Script.Expr
import Scad.Script.Token

/-!
Reading expressions from tokens. The rules for the levels of
precedence refer to each other freely, so each is given the others as a
parameter; `rulesWith` ties them together as deep as its fuel goes.
-/

namespace Scad
namespace Script

/-- Reads from the front of the tokens. -/
abbrev Parser := StateT (List Token) (Except Fault)

/-- The levels of precedence, from the loosest to the tightest. -/
inductive Level where
  | named | expression | disjunction | conjunction | inversion | comparison | bitOr | bitXor
  | bitAnd | shift | sum | term | factor | power | awaited | primary | atom
  deriving DecidableEq, Repr

abbrev Rules := Level → Parser Expr

/-- The word by which a token goes that is always the same. -/
def Token.word : Token → String
  | .op s | .keyword s => s
  | .newline => "newline"
  | .indent => "indent"
  | .dedent => "dedent"
  | _ => ""

namespace Parser

variable {α : Type}

def fail : Parser α := throw .badScript

def word : Parser String := return ((← get).head?.map Token.word).getD ""

def startsWith (s : String) : Parser Bool := return (← word) == s

/-- Reads one of several words and tells what it stands for. -/
def choose (words : List (String × α)) : Parser (Option α) := do
  let found := words.lookup (← word)
  if found.isSome then modify List.tail
  return found

def sees (s : String) : Parser Bool := return (← choose [(s, ())]).isSome

def expect (s : String) : Parser Unit := do
  if !(← sees s) then fail

def name? : Parser (Option String) := do
  match ← get with
  | .name s :: ts =>
    set ts
    return some s
  | _ => return none

def name : Parser String := do
  match ← name? with
  | some s => return s
  | none => fail

/-! ## Chains and lists -/

def manyWith (item : Parser (Option α)) : (fuel : Nat) → Parser (List α)
  | 0 => fail
  | fuel + 1 => do
    match ← item with
    | some x => return x :: (← manyWith item fuel)
    | none => return []

/-- Items until there is none. -/
def many (item : Parser (Option α)) : Parser (List α) := do manyWith item ((← get).length + 1)

def after (s : String) (p : Parser α) : Parser (Option α) := do
  if ← sees s then return some (← p) else return none

def separated (s : String) (item : Parser α) : Parser (List α) :=
  return (← item) :: (← many (after s item))

def leftChain (operand : Parser Expr) (operators : List (String × BinaryOp)) : Parser Expr := do
  let e ← operand
  let more ← many do (← choose operators).mapM fun op => return (op, ← operand)
  return more.foldl (fun e (op, right) => .binary op e right) e

def logic (operand : Parser Expr) (word : String) : Parser Expr := do
  match ← separated word operand with
  | [e] => return e
  | es => return .logic (word == "and") es

/-- Items up to a closing word, which is read too. A separator may stand after the last. -/
def itemsUntil (separator closing : String) (item : Parser α) : Parser (List α) := many do
  if ← sees closing then return none
  let x ← item
  if !(← startsWith closing) then expect separator
  return some x

/-- The items after the first one. -/
def moreUntil (separator closing : String) (item : Parser α) : Parser (List α) := do
  if ← sees separator then itemsUntil separator closing item
  else
    expect closing
    return []

/-! ## Pieces of expressions -/

variable (rules : Rules)

def starOr (level : Level) : Parser Expr := do
  if ← sees "*" then return .starred (← rules .bitOr) else rules level

def atEnd : Parser Bool := do
  match ← get with
  | .newline :: _ | [] => return true
  | .op s :: _ =>
    return [")", "]", "\x7d", ";", "=", ":", ":="].contains s ||
      (s.endsWith "=" && !(["==", "!=", "<=", ">="].contains s))
  | .keyword s :: _ => return ["for", "in", "if", "else", "from", "async"].contains s
  | _ => return false

def unlessAtEnd (p : Parser α) : Parser (Option α) := do
  if ← atEnd then return none else return some (← p)

/-- Expressions with commas between them; a single one stands for itself. -/
def expressions (level : Level) : Parser Expr := do
  let e ← starOr rules level
  if !(← startsWith ",") then return e
  let es ← many do
    if !(← sees ",") then return none
    unlessAtEnd (starOr rules level)
  return .tuple (e :: es)

def yielded : Parser Expr := do
  if ← sees "from" then return .yield (some (← rules .expression))
  return .yield (← unlessAtEnd (expressions rules .expression))

def startsClause : Parser Bool := return (← startsWith "for") || (← startsWith "async")

/-- A clause of a comprehension. -/
def clause : Parser (Option (Expr × Expr × List Expr)) := do
  if !(← startsClause) then return none
  discard (sees "async")
  expect "for"
  let target ← expressions rules .bitOr
  if !target.isTarget then fail
  expect "in"
  let source ← rules .disjunction
  return some (target, source, ← many (after "if" (rules .disjunction)))

/-- Either a comprehension over `element`, or what `otherwise` reads. -/
def comprehensionOr (kind : Collection) (element : List Expr) (closing : String)
    (otherwise : Parser Expr) : Parser Expr := do
  if !(← startsClause) then otherwise
  else
    if element.any Expr.isStarred then fail
    let clauses ← many (clause rules)
    expect closing
    return .comprehension kind element clauses

def parenthesized : Parser Expr := do
  if ← sees ")" then return .tuple []
  if ← sees "yield" then
    let e ← yielded rules
    expect ")"
    return e
  let e ← starOr rules .named
  comprehensionOr rules .stream [e] ")" do
    let single := !(← startsWith ",")
    if single && e.isStarred then fail
    let es ← moreUntil "," ")" (starOr rules .named)
    return if single then e else .tuple (e :: es)

/-- A list or a set after its first expression. -/
def collection (kind : Collection) (make : List Expr → Expr) (closing : String) (e : Expr) :
    Parser Expr :=
  comprehensionOr rules kind [e] closing do
    return make (e :: (← moreUntil "," closing (starOr rules .named)))

def bracketed : Parser Expr := do
  if ← sees "]" then return .list []
  collection rules .list .list "]" (← starOr rules .named)

def entry : Parser (Option Expr × Expr) := do
  if ← sees "**" then return (none, ← rules .bitOr)
  let key ← rules .expression
  expect ":"
  return (some key, ← rules .expression)

def entriesAfter (first : Option Expr × Expr) : Parser Expr :=
  return .dict (first :: (← moreUntil "," "\x7d" (entry rules)))

def braced : Parser Expr := do
  if ← sees "\x7d" then return .dict []
  if ← startsWith "**" then entriesAfter rules (← entry rules)
  else
    let e ← starOr rules .named
    if ← sees ":" then
      if e.isStarred then fail
      let value ← rules .expression
      comprehensionOr rules .dict [e, value] "\x7d" (entriesAfter rules (some e, value))
    else collection rules .set .set "\x7d" e

/-! ## Texts to be filled -/

structure SlotState where
  brackets : List Char := []
  quote : Option Char := none
  /-- The next character belongs to the operator before it. -/
  paired : Bool := false

def isPaired (c : Char) (cs : List Char) : Bool :=
  (c = '=' || c = '!' || c = '<' || c = '>') && cs.head? == some '='

def isOpening (c : Char) : Bool := c = '(' || c = '[' || c = '\x7b'

def isClosing (c : Char) : Bool := c = ')' || c = ']' || c = '\x7d'

/-- Does a character outside all brackets end the text of a slot? -/
def endsSlot (c : Char) : Bool := c = '\x7d' || c = ':' || c = '!' || c = '='

/-- What is known after a character; nothing if the text of the slot ends before it. -/
def SlotState.after (st : SlotState) (c : Char) (cs : List Char) : Option (Option SlotState) := do
  match st.quote with
  | some q => return some { st with quote := if c = q then none else some q }
  | none =>
    if c = '\\' || c = '#' then none
    if st.paired then return some { st with paired := false }
    if c = '"' || c = '\'' then return some { st with quote := some c }
    if isOpening c then return some { st with brackets := c :: st.brackets }
    if st.brackets.isEmpty then
      if isPaired c cs then return some { st with paired := true }
      if endsSlot c then return none
    if !isClosing c then return some st
    if !Lexer.closes (String.singleton c) st.brackets then none
    return some { st with brackets := st.brackets.tail }

/-- The text of an expression inside a template, up to the mark that ends it,
in reverse after `done`, and the rest from the mark on. -/
def slotText (st : SlotState) (done : List Char) : List Char → Option (List Char × List Char)
  | [] => none
  | c :: cs => do
    match ← st.after c cs with
    | some st => slotText st (c :: done) cs
    | none => return (done, c :: cs)

def slotValue (text : List Char) : Option Expr := do
  if (Blank.trim text).isEmpty then none
  match rules .named (tokensOf ('(' :: text ++ [')'])) with
  | .ok (e, [.newline]) => return e
  | _ => none

def conversion : List Char → Option (Option Char × List Char)
  | '!' :: c :: cs => if c = 's' || c = 'r' || c = 'a' then some (some c, cs) else none
  | cs => some (none, cs)

/-- An equals sign after an expression, with the blanks around it: the expression
is then shown too. -/
def shownText (text : List Char) : List Char → List Char × List Char
  | '=' :: cs =>
    let blanks := cs.takeWhile Blank.isBlank
    (text ++ '=' :: blanks, cs.drop blanks.length)
  | cs => ([], cs)

def textPart (raw : Bool) (reversed : List Char) : Option (List Expr) :=
  if reversed.isEmpty then some []
  else if raw then some [.text (Text.ofChars reversed.reverse)]
  else (Escape.decodeAll reversed.reverse).map fun t => [.text t]

/-- The parts of a template. `nested` is how many formats stand around them;
those end with a closing brace. -/
def templateParts (raw : Bool) :
    (fuel nested : Nat) → (done : List Char) → List Char → Option (List Expr × List Char)
  | 0, _, _, _ => none
  | _ + 1, nested, done, [] => do
    if nested != 0 then none
    return (← textPart raw done, [])
  | fuel + 1, nested, done, c :: cs =>
    if c = '\x7b' then
      if nested = 0 && cs.head? = some '\x7b' then
        templateParts raw fuel nested ('\x7b' :: done) cs.tail
      else if 2 ≤ nested then none
      else do
        let before ← textPart raw done
        let (text, rest) ← slotText {} [] cs
        let value ← slotValue rules text.reverse
        let (copy, rest) := shownText text.reverse rest
        let (conv, rest) ← conversion rest
        let (spec, rest) ← match rest with
          | ':' :: rest => do
            let (parts, rest) ← templateParts raw fuel (nested + 1) [] rest
            some (some (Expr.joined parts), rest)
          | rest => some (none, rest)
        match rest with
        | d :: rest =>
          if d = '\x7d' then
            let (after, rest) ← templateParts raw fuel nested [] rest
            let shown := if copy.isEmpty then [] else [Expr.text (Text.ofChars copy)]
            return (before ++ shown ++ Expr.slot value conv spec :: after, rest)
          else none
        | [] => none
    else if c = '\x7d' then
      if nested != 0 then do return (← textPart raw done, c :: cs)
      else if cs.head? = some '\x7d' then
        templateParts raw fuel nested ('\x7d' :: done) cs.tail
      else none
    else if c = '\\' && !raw then
      match cs with
      | 'N' :: b :: more =>
        if b = '\x7b' then
          let name := more.takeWhile (· != '\x7d')
          templateParts raw fuel nested
            ('\x7d' :: (name.reverse ++ b :: 'N' :: c :: done)) (more.drop (name.length + 1))
        else templateParts raw fuel nested ('N' :: c :: done) (b :: more)
      | d :: more =>
        if d = '\x7b' || d = '\x7d' then templateParts raw fuel nested (c :: done) (d :: more)
        else templateParts raw fuel nested (d :: c :: done) more
      | [] => templateParts raw fuel nested (c :: done) []
    else templateParts raw fuel nested (c :: done) cs

def template (raw : Bool) (inside : List Char) : Option (List Expr) :=
  match templateParts rules raw (2 * inside.length + 2) 0 [] inside with
  | some (parts, []) => some parts
  | _ => none

def literal? : Parser (Option Expr) := do
  let e ← match (← get).head? with
    | some (.text t) => pure (.text t)
    | some (.bytes b) => pure (.bytes b)
    | some (.template raw inside) =>
      match template rules raw inside with
      | some parts => pure (.joined parts)
      | none => fail
    | _ => return none
  modify List.tail
  return some e

def bytes? : Expr → Option (List Nat)
  | .bytes b => some b
  | _ => none

def text? : Expr → Option Text
  | .text t => some t
  | _ => none

def partsOf : Expr → List Expr
  | .joined parts => parts
  | e => [e]

/-- Neighbouring literals are one. Bytes and texts do not mix. -/
def joinLiterals (es : List Expr) : Parser Expr := do
  if let some values := es.mapM bytes? then return .bytes values.flatten
  if es.any fun e => (bytes? e).isSome then fail
  match es.mapM text? with
  | some texts => return .text texts.flatten
  | none => return .joined (es.flatMap partsOf)

/-! ## Arguments and indices -/

/-- One argument of a call for which so many tokens are left. A comprehension without parentheses
must be the only one. -/
def argument (left : Nat) : Parser (ArgKind × Expr) := do
  let first := (← get).length == left
  if ← sees "*" then return (.spread, ← rules .expression)
  if ← sees "**" then return (.spreadNamed, ← rules .expression)
  match ← get with
  | .name s :: .op "=" :: ts =>
    set ts
    return (.named s, ← rules .expression)
  | _ =>
    let e ← rules .named
    if !(← startsClause) then return (.positional, e)
    let clauses ← many (clause rules)
    if !first || !(← startsWith ")") then fail
    return (.positional, .comprehension .stream [e] clauses)

/-- No plain argument follows a named one or a table, and no sequence follows a table. -/
def inOrder : List ArgKind → Bool
  | [] => true
  | .named _ :: kinds => !kinds.contains .positional && inOrder kinds
  | .spreadNamed :: kinds =>
    !kinds.contains .positional && !kinds.contains .spread && inOrder kinds
  | _ :: kinds => inOrder kinds

def arguments : Parser (List (ArgKind × Expr)) := do
  let args ← itemsUntil "," ")" (argument rules (← get).length)
  if inOrder (args.map Prod.fst) then return args else fail

def bound? : Parser (Option Expr) := do
  if [":", ",", "]"].contains (← word) then return none else return some (← rules .expression)

def sliceAfter (start : Option Expr) : Parser Expr :=
  return .slice start (← bound? rules) (← after ":" (bound? rules)).join

def index : Parser Expr := do
  if ← sees ":" then sliceAfter rules none
  else
    let e ← starOr rules .named
    if ← sees ":" then sliceAfter rules (some e) else return e

def indices : Parser Expr := do
  let e ← index rules
  let single := !(← startsWith ",") && !e.isStarred
  let es ← moreUntil "," "]" (index rules)
  return if single then e else .tuple (e :: es)

/-! ## The levels -/

/-- What a parameter of a function names. -/
def parameter : Parser (List String) := do
  if ← sees "/" then return []
  if ← sees "*" then return (← name?).toList
  if ← sees "**" then return [← name]
  let s ← name
  discard (after "=" (rules .expression))
  return [s]

def atom : Parser Expr := do
  match ← get with
  | .text _ :: _ | .template _ _ :: _ | .bytes _ :: _ => joinLiterals (← many (literal? rules))
  | t :: ts =>
    set ts
    match t with
    | .name s => return .name s
    | .keyword "None" => return .none
    | .keyword "True" => return .bool true
    | .keyword "False" => return .bool false
    | .integer n => return .int n
    | .real x => return .real x
    | .imaginary x => return .imaginary x
    | .op "..." => return .ellipsis
    | .op "(" => parenthesized rules
    | .op "[" => bracketed rules
    | .op s => if s = "\x7b" then braced rules else fail
    | _ => fail
  | [] => fail

def trailer? : Parser (Option (Expr → Expr)) := do
  if ← sees "." then
    let s ← name
    return some (.member · s)
  if ← sees "(" then
    let args ← arguments rules
    return some (.call · args)
  (← after "[" (indices rules)).mapM fun i => return (.item · i)

def compareOp? : Parser (Option CompareOp) := do
  match ← get with
  | .keyword "not" :: .keyword "in" :: ts =>
    set ts
    return some .notWithin
  | .keyword "is" :: .keyword "not" :: ts =>
    set ts
    return some .notSame
  | _ =>
    choose [("==", .equal), ("!=", .notEqual), ("<", .less), ("<=", .lessEq), (">", .greater),
      (">=", .greaterEq), ("in", .within), ("is", .same)]

def expression : Parser Expr := do
  if ← sees "lambda" then
    let params ← itemsUntil "," ":" (parameter rules)
    return .lambda params.flatten (← rules .expression)
  let e ← rules .disjunction
  if !(← sees "if") then return e
  let test ← rules .disjunction
  expect "else"
  return .choice test e (← rules .expression)

def level : Level → Parser Expr
  | .named => do
    match ← get with
    | .name s :: .op ":=" :: ts =>
      set ts
      return .assign s (← rules .expression)
    | _ =>
      let e ← rules .expression
      if ← startsWith ":=" then fail else return e
  | .expression => expression rules
  | .disjunction => logic (rules .conjunction) "or"
  | .conjunction => logic (rules .inversion) "and"
  | .inversion => do
    if ← sees "not" then return .unary .not (← rules .inversion) else rules .comparison
  | .comparison => do
    let e ← rules .bitOr
    let more ← many do (← compareOp?).mapM fun op => return (op, ← rules .bitOr)
    return if more.isEmpty then e else .compare e more
  | .bitOr => leftChain (rules .bitXor) [("|", .bitOr)]
  | .bitXor => leftChain (rules .bitAnd) [("^", .bitXor)]
  | .bitAnd => leftChain (rules .shift) [("&", .bitAnd)]
  | .shift => leftChain (rules .sum) [("<<", .shiftLeft), (">>", .shiftRight)]
  | .sum => leftChain (rules .term) [("+", .add), ("-", .sub)]
  | .term => leftChain (rules .factor)
      [("*", .mul), ("/", .div), ("//", .floorDiv), ("%", .mod), ("@", .matMul)]
  | .factor => do
    match ← choose [("+", .plus), ("-", .minus), ("~", .invert)] with
    | some op => return .unary op (← rules .factor)
    | none => rules .power
  | .power => do
    let e ← rules .awaited
    if ← sees "**" then return .binary .pow e (← rules .factor) else return e
  | .awaited => do
    if ← sees "await" then return .await (← rules .primary) else rules .primary
  | .primary => do
    let e ← rules .atom
    return (← many (trailer? rules)).foldl (fun e f => f e) e
  | .atom => atom rules

end Parser

def rulesWith : (fuel : Nat) → Rules
  | 0 => fun _ => Parser.fail
  | fuel + 1 => Parser.level (rulesWith fuel)

/-- How deep rules may refer to each other for a text of a given length. -/
def parserFuel (length : Nat) : Nat := 20 * (length + 1)

def expressionOf (text : List Char) : Except Fault Expr :=
  match Parser.expressions (rulesWith (parserFuel text.length)) .expression (tokensOf text) with
  | .ok (e, [.newline]) => .ok e
  | _ => .error .badScript

end Script
end Scad
