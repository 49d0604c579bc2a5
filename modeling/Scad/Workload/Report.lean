import Scad.CommandLine
import Scad.Workload.Program

/-!
Workloads: programs of a given size are run, and what comes of them is
reported. A workload of size 0 still has the parts that do not depend on the
size.
-/

namespace Scad

/-! ## Models -/

/-- Models of one thing that were made in different ways, by the name of the way. A way that made
nothing is left out. -/
structure Models where
  entries : Table Record := []

namespace Models

variable (ms : Models) (name : String)

def add : Option Record → Models
  | none => ms
  | some model => { entries := ms.entries.put name model }

def find? : Option Record := ms.entries.find? name

def has : Bool := ms.entries.has name

def size : Nat := ms.entries.length

def names : List String := ms.entries.map Prod.fst

end Models

namespace Workload

open Environment

variable (n : Nat) (env : FrameId) (name : String) (text : String)

/-! ## Parts of a report -/

def opened : Run FrameId := do
  let env ← create
  load env text
  return env

def total : Run Record := do (← Eval.perform (.build env)).freeze

def parts : Run (List Record) := do
  let work := (← Run.scope (← scopeOf env)).work
  work.mapM fun item => do (← Eval.perform (.buildOne env item)).freeze

def readVar : Run Record := do
  (← Eval.perform (.read env name)).freeze

def callFunc (args : List Datum) : Run Record := do
  (← Eval.perform (.apply env name ⟨← Datum.enterAll args, []⟩)).freeze

def callMod (args : List Datum) : Run Record := do
  (← Eval.perform (.instantiate env name ⟨← Datum.enterAll args, []⟩)).freeze

/-- A part that is expected to fail; the report only has a word for it. -/
def failing (word : String) (expected : FaultClass) (body : Run Record) : Run Record :=
  tryCatch body fun e => if e.faultClass = expected then return .str word else throw e

/-- A report that has the same parts again and again. -/
def rounds (round : Run (List Record)) : Run (List Record) := do
  return (← (List.replicate n round).mapM id).flatten

/-! ## Workloads -/

def declare : Run Record := do
  let env ← opened (declarations n)
  let own ← Run.scope (← scopeOf env)
  let declared ← declaredScope own
  return .tuple ([declared.vars.length, declared.funcs.length, declared.mods.length,
    own.work.length].map fun (k : Nat) => Record.int k)

def evaluate : Run Record := do
  let env ← opened (expressions n)
  return .list (← (List.range n).mapM fun i => readVar env ("x" ++ toString i))

def buildSolids : Run Record := do
  let env ← opened (solids n)
  let each ← parts env
  return .list (each ++ [← total env])

def buildModules : Run Record := do
  let env ← opened (calls n)
  return .tuple [← callFunc env "add" [.int 3, .int 4], ← total env, .list (← parts env)]

def builtinRound : Run (List Record) := do
  let calls : List (String × List Datum) :=
    [("version", []), ("abs", [.float (-3.5)]), ("sign", [.int (-2)]), ("sign", [.int 0]),
      ("sign", [.int 2]), ("norm", [.int 3, .int 4]), ("pow", [.int 2, .int 8]),
      ("min", [.int 3, .int 1, .int 2]), ("max", [.int 3, .int 1, .int 2]),
      ("floor", [.float 3.7]), ("round", [.float 3.6]), ("len", [.list [.int 1, .int 2, .int 3]]),
      ("ceil", [.float 3.2]), ("log", [.int 10]), ("exp", [.int 1]), ("sqrt", [.int 2]),
      ("sin", [.int 30]), ("cos", [.int 60]), ("tan", [.int 45]), ("asin", [.float 0.5]),
      ("acos", [.float 0.5]), ("atan", [.int 1]), ("atan2", [.int 1, .int 1]),
      ("is_undef", [.undef]), ("is_bool", [.bool true]), ("is_string", [.str "a"]),
      ("is_list", [.list []]), ("is_function", [.host .nothing]),
      ("str", [.int 1, .str "a", .int 2]), ("chr", [.int 65]),
      ("chr", [.list [.int 66, .int 67]]), ("ord", [.str "A"])]
  let plain ← calls.mapM fun (name, args) => callFunc env name args
  let count ← match ← callFunc env "rands" [.int 1, .int 1, .int 3] with
    | .list items => pure (Record.int items.length)
    | other => pure other
  let flat ← callFunc env "cross" [.list [.int 1, .int 2], .list [.int 3, .int 4]]
  let space ← callFunc env "cross"
    [.list [.int 1, .int 0, .int 0], .list [.int 0, .int 1, .int 0]]
  let caught ← failing "caught" .failedAssertion (callFunc env "assert" [.bool false])
  let uneven ← failing "badcross" .value
    (callFunc env "cross" [.list [.int 1], .list [.int 2]])
  return plain ++ [count, flat, space, caught, uneven]

def callBuiltins : Run Record := do
  let env ← create
  return .list (← rounds n (builtinRound env))

def settingsRound : Run (List Record) := do
  let env ← opened definitions
  let read ← readVar env "a"
  let _ ← failing "rec" .recursion (readVar env "rec")
  setVar env "b" (.int 42)
  let set ← readVar env "b"
  setVar env "$c" (.int 99)
  let dynamic ← readVar env "$c"
  addVar env "d" (← Datum.enter (.node "x = 123;" "expr" 0))
  let added ← readVar env "d"
  let called ← Run.within env (Run.within env (callFunc env "f" [.int 5]))
  return [read, set, dynamic, added, called, ← callMod env "cube" []]

def settings : Run Record := do return .list (← rounds n settingsRound)

/-- A node made by a rule that means nothing. -/
def unheard : Value := .code (.node "unheard" [.leaf "" "1" 0, .leaf "" "2" 0])

def hostRound : Run (List Record) := do
  let env ← opened definitions
  let built ← callMod env "cube" [.int 3]
  let time ← readVar env "$t"
  let plainName ← failing "sv" .runtime do
    Eval.setDynamic Eval.perform env (.str "plain") (← Datum.enter (.node "x = 1;" "expr" 0))
    return .undef
  setOwnFunc env "seven" (.host (.number 7))
  let seven ← callFunc env "seven" []
  let unknown ← failing "er" .key (readVar env "nowhere")
  let terminal ← failing "tr" .runtime do
    (← Eval.perform (.eval env (.code (.leaf "" "1" 0)))).freeze
  let noMeaning ← failing "ni" .runtime do
    (← Eval.perform (.eval env unheard)).freeze
  return [built, time, plainName, seven, unknown, terminal, noMeaning]

def hostCalls : Run Record := do return .list (← rounds n hostRound)

def edgeRound : Run (List Record) := do
  let env ← opened edges
  let built ← total env
  let falsities ← ["less", "equal", "both", "negated"].mapM (readVar env)
  let version ← callFunc env "version" []
  let sum ← callFunc env "two" [.int 4, .int 5]
  let given ← callFunc env "first" [.int 1]
  setVar env "x" (.int 99)
  let set ← readVar env "x"
  let joined ← callFunc env "two" [.int 3, .int 5]
  let missing ← failing "ne" .name (callFunc env "two" [.int 1])
  let surplus ← failing "ne2" .name (callFunc env "two" [.int 1, .int 2, .int 3])
  let noVariables ← failing "forerr" .value (callMod env "for" [])
  return [built] ++ falsities ++ [version, sum, given, set, joined, missing, surplus, noVariables]

def edgeCases : Run Record := do return .list (← rounds n edgeRound)

/-- The two solids that a program builds when it is built twice, joined. -/
def builtTwice : Run Record := do
  let env ← opened text
  let first ← Eval.perform (.build env)
  let second ← Eval.perform (.build env)
  match first, second with
  | .undef, other => other.freeze
  | _, _ => (← first.plus second).freeze

/-- Exit codes of the command line, and what the programs build. -/
def commandLines : Run Record := do
  let text := row 3 n
  let files : CommandLine.Files := fun path =>
    if path = "in.scad" then some (.text text)
    else if path = "defs" then some (.definitions "" [("K", .int 42)])
    else none
  let paths := ["-i", "in.scad", "-o", "out.step"]
  let codes := [paths, paths ++ ["--debug"], paths ++ ["-p", "defs"]].map fun args =>
    Record.int (CommandLine.run files args).exitCode
  let built ← builtTwice text
  return .list (codes ++ List.replicate codes.length built)

def traced : Run (Text × Record) := do
  let env ← opened text
  let before ← startTrace env
  let said := (← get).out
  modify fun w => { w with out := #[] }
  let built ← total env
  let trace := Text.join (← get).out.toList
  modify fun w => { w with out := said }
  stopTrace env before
  return (trace, built)

/-- What a program builds while it is traced, and the length of all traces. -/
def traces : Run Record := do
  let (first, built) ← traced (motions n)
  let (second, _) ← traced (motions n)
  let (small, _) ← traced smallMotion
  return .tuple [built, .int (first.length + second.length + small.length)]

def sources : Run Record := do
  let text := "x = 1;\n" ++ row 7 n
  let built ← [Source.text text, .stream text, .file text].mapM fun source => do
    total (← Opening.run { source := source })
  let plain ← Opening.run { source := .text text }
  let set ← Opening.run { source := .text text, named := [("x", .int 99)] }
  let work := (← Run.scope (← scopeOf plain)).work
  return .list (built ++ [← readVar plain "x", ← readVar set "x", .int work.length])

def modelsRound : Run (List Record) := do
  let made : Models := {}
  let made := made.add "python" (some (.shape "_Shape" [.str "a"] []))
  let made := made.add "parser" (some (.shape "_Shape" [.str "b"] []))
  let made := made.add "check" none
  let env ← opened model
  let shortTree ← failing "ar" .arity do
    let short := Tree.node "expr_fn" [.leaf "" "function" 0, .leaf "" "(" 0]
    (← Eval.perform (.eval env (.code short))).freeze
  let shortDeclaration ← failing "ar2" .arity do
    (← Scad.declare (← scopeOf env)
      (.node "stmt_decl_fn" [.leaf "" "function" 0, .leaf "" "f" 0])).freeze
  let built ← total env
  let more ← opened definitions
  let sum ← callFunc more "tri" [.int 7]
  let count ← callFunc more "len" [.list [.int 1, .int 2, .int 3]]
  let noMeaning ← failing "nr" .runtime do
    (← Eval.perform (.eval more unheard)).freeze
  let nine ← callFunc more "len" [.str "nine char"]
  let items ← callFunc more "len" [.str "abc"]
  let endless ← failing "rec" .recursion (readVar more "rec")
  let cube ← callMod more "cube" []
  let range ← match ← Eval.perform (.read more "steps") with
    | .range _ start stop step =>
      [start, stop, step].mapM fun t => do (← Eval.perform (.eval more t)).freeze
    | _ => pure []
  let dynamic := (← firstChar "sin") = '$'
  return [.int made.size, .bool (made.has "python"), (made.find? "parser").getD .undef,
    nameRecord made.names, shortTree, shortDeclaration, built, sum, count, noMeaning,
    nine, items, endless, cube, .tuple range, .tuple [.str "sin", .bool dynamic]]

/-- Parts of every kind; the number of children at the top closes the report. -/
def mixture : Run Record := do
  let parts ← rounds n modelsRound
  let env ← create
  return .list (parts ++ [← readVar env "$children"])

def table : Table (Nat → Run Record) :=
  [("declarations", declare), ("expressions", evaluate), ("solids", buildSolids),
    ("modules", buildModules), ("builtins", callBuiltins), ("settings", settings),
    ("host calls", hostCalls), ("edge cases", edgeCases), ("command lines", commandLines),
    ("traces", traces), ("sources", sources), ("mixture", mixture)]

def report (size times : Nat) : Except Fault (List Record) :=
  match table.find? name with
  | none => .error (.unknownName name)
  | some workload =>
    (List.replicate times ()).mapM fun _ =>
      match workload size {} with
      | .ok r _ => .ok r
      | .error e _ => .error e

end Workload
end Scad
