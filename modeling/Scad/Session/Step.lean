import Scad.Session.Open

/-!
Sessions: a host program works with numbered environments, one step at a time.
Each step answers with a record or a fault, and with what was printed, warned
of and logged meanwhile.
-/

namespace Scad

open Environment

inductive NameSpace where
  | var | func | mod
  deriving DecidableEq, Repr

inductive Step where
  | use (k : Nat)
  | load (text : String)
  | read (name : String)
  | apply (name : String) (args : List Datum) (named : List (String × Datum))
  | instantiate (name : String) (args : List Datum) (named : List (String × Datum))
  | build
  | buildWork (i : Int)
  | buildOne (item : Datum)
  | addWork (item : Datum)
  | evalNode (text rule : String) (nth : Int)
  | declareNode (text rule : String) (nth : Int)
  | evalTree (t : Tree)
  | declareTree (t : Tree)
  | evalInWork (i : Int) (text rule : String) (nth : Int)
  | set (space : NameSpace) (name : String) (v : Datum)
  | add (space : NameSpace) (name : String) (v : Datum)
  /-- Set a name in the environment's own scope. -/
  | setOwn (space : NameSpace) (name : String) (v : Datum)
  | setDynamic (name : String) (v : Datum)
  | setItem (name : String) (v : Datum)
  | traceOn
  | traceOff
  | traceLine (parts : List Datum) (named : List (String × Datum))
  | debug (on : Bool)
  | enter
  | leave
  | current
  | setChild (i : Option Int)
  | oneChild (i : Datum)
  | childUnion
  | resetChild
  | children
  /-- Look up a name where there are none. -/
  | lookupNowhere (name : String)
  | run
  | state

structure Answer where
  result : Except Fault Record
  message : Option Record := none
  out : Text := []
  warnings : List String := []
  notices : List String := []

structure Session where
  world : World := {}
  /-- The environments that have been made, by number. -/
  envs : List (Nat × FrameId) := []
  active : Nat := 0
  /-- The traces that are on, by number of environment. -/
  traces : List (Nat × Option FrameId) := []

variable (s : Session) (env : FrameId) (name : String)

namespace Session

def perform (body : Run Record) : Answer × World :=
  match body { s.world with out := #[], warnings := #[], notices := #[] } with
  | .ok r w =>
    ({ result := .ok r, out := Text.join w.out.toList, warnings := w.warnings.toList,
       notices := w.notices.toList }, w)
  | .error e w =>
    let message := match e with
      | .failedAssertion v =>
        match v.freeze w with
        | .ok r _ => some r
        | .error _ _ => none
      | _ => none
    ({ result := .error e, message := message, out := Text.join w.out.toList,
       warnings := w.warnings.toList, notices := w.notices.toList }, w)

/-- The active environment, made on its first use. -/
def ensureEnv : Session × FrameId :=
  match s.envs.lookup s.active with
  | some env => (s, env)
  | none =>
    match create s.world with
    | .ok env w => ({ s with world := w, envs := s.envs ++ [(s.active, env)] }, env)
    | .error _ w => ({ s with world := w }, 0)

def numberOf : Option Nat :=
  (s.envs.find? (·.2 == env)).map Prod.fst

def quiet (body : Run Unit) : Run Record := do
  body
  return .undef

def setIn (v : Value) : NameSpace → Run Unit
  | .var => setVar env name v
  | .func => setOwnFunc env name v
  | .mod => throw .noAttribute

def addIn (v : Value) : NameSpace → Run Unit
  | .var => addVar env name v
  | .func => addFunc env name v
  | .mod => addMod env name v

def setOwnIn (v : Value) : NameSpace → Run Unit
  | .var => setOwnVar env name v
  | .func => setOwnFunc env name v
  | .mod => setOwnMod env name v

def body : Step → Run Record
  | .load text => quiet (load env text)
  | .read name => do (← Eval.perform (.read env name)).freeze
  | .apply name args named => do
    let args := ⟨← Datum.enterAll args, ← Datum.enterNamed named⟩
    (← Eval.perform (.apply env name args)).freeze
  | .instantiate name args named => do
    let args := ⟨← Datum.enterAll args, ← Datum.enterNamed named⟩
    (← Eval.perform (.instantiate env name args)).freeze
  | .build => do (← Eval.perform (.build env)).freeze
  | .buildWork i => do
    (← Eval.perform (.buildOne env (← workItem env i))).freeze
  | .buildOne item => do (← Eval.perform (.buildOne env (← item.enter))).freeze
  | .addWork item => quiet do Run.addWork (← scopeOf env) (← item.enter)
  | .evalNode text rule nth => do
    (← Eval.perform (.eval env (.code (← findNode text rule nth)))).freeze
  | .declareNode text rule nth => do
    (← declare (← scopeOf env) (← findNode text rule nth)).freeze
  | .evalTree t => do (← Eval.perform (.eval env (.code t))).freeze
  | .declareTree t => do (← declare (← scopeOf env) t).freeze
  | .evalInWork i text rule nth => do
    let t ← findNode text rule nth
    (← evalInside env (← workItem env i) t).freeze
  | .set space name v => quiet do setIn env name (← v.enter) space
  | .add space name v => quiet do addIn env name (← v.enter) space
  | .setOwn space name v => quiet do setOwnIn env name (← v.enter) space
  | .setDynamic name v => quiet do
    Eval.setDynamic Eval.perform env (.str name) (← v.enter)
  | .setItem name v => quiet do Run.setValue env name (← v.enter)
  | .traceLine parts named => quiet do
    Trace.line env (← Datum.enterAll parts) (← Datum.enterNamed named)
  | .debug on => quiet (Run.modifyFrame env fun f => { f with debug := on })
  | .enter => quiet (Run.enter env)
  | .leave => quiet (Run.leave env)
  | .setChild none => quiet (Run.modifyFrame env fun f => { f with child := none })
  | .setChild (some i) => quiet do
    let v ← workItem env i
    Run.modifyFrame env fun f => { f with child := some v }
  | .oneChild i => do (← Eval.oneChild Eval.perform env (← i.enter)).freeze
  | .childUnion => do (← Eval.childUnion Eval.perform env).freeze
  | .resetChild => quiet (Eval.resetChild env)
  | .children => do return .list (← (← Eval.children Eval.perform env).mapM Value.freeze)
  | .lookupNowhere name => throw (.unknownName name)
  | .run => throw .noAttribute
  | .state => describe env
  | .use _ | .traceOn | .traceOff | .current => return Record.undef

def step (st : Step) : Answer × Session :=
  match st with
  | .use k =>
    let (s, _) := ensureEnv { s with active := k }
    ({ result := .ok .undef }, s)
  | .current =>
    let (s, _) := s.ensureEnv
    let r := match s.world.current.bind s.numberOf with
      | some k => Record.int k
      | none => .undef
    ({ result := .ok r }, s)
  | .traceOn =>
    let (s, env) := s.ensureEnv
    match renewTrace env (s.traces.lookup s.active) s.world with
    | .ok before w =>
      let others := s.traces.filter (·.1 != s.active)
      ({ result := .ok .undef }, { s with world := w, traces := (s.active, before) :: others })
    | .error e w => ({ result := .error e }, { s with world := w })
  | .traceOff =>
    let (s, env) := s.ensureEnv
    match s.traces.lookup s.active with
    | none => ({ result := .error .unknownKey }, s)
    | some before =>
      let (a, w) := s.perform (quiet (stopTrace env before))
      (a, { s with world := w, traces := s.traces.filter (·.1 != s.active) })
  | _ =>
    let (s, env) := s.ensureEnv
    let (a, w) := s.perform (body env st)
    (a, { s with world := w })

def steps (s : Session) : List Step → List Answer
  | [] => []
  | st :: rest =>
    let (a, s) := s.step st
    a :: steps s rest

/-- Start a session with a program. If that fails there is nothing more. -/
def start (o : Opening) (rest : List Step) : List Answer :=
  let s : Session := {}
  let opened : Run Record := do return .int (← o.run)
  let (a, w) := s.perform opened
  match a.result with
  | .ok (.int env) =>
    let s := { s with world := w, envs := [(0, env.toNat)] }
    { a with result := .ok .undef } :: steps s rest
  | _ => [a]

end Session
end Scad
