import Scad.Script.Interpreter
import Scad.Session.Datum

/-!
Opening a program: where its text comes from, and what is set after it has been
loaded.
-/

namespace Scad

inductive Source where
  /-- The text itself if it has a line feed, else a path. -/
  | text (s : String)
  | stream (s : String)
  /-- A file; every line end is read as a line feed. -/
  | file (s : String)
  | missing

inductive Preload where
  | definitions (defs : List (String × Datum))
  | script (text : String)
  | unreadable (why : Fault)

structure Opening where
  source : Source
  preload : List Preload := []
  named : List (String × Datum) := []

namespace Opening

def readSource : Source → Run String
  | .text s =>
    if s.toList.contains '\n' then return s
    else
      match Path.locate s with
      | .file text => return text
      | .directory => throw .isDirectory
      | .absent why => throw why
  | .stream s => return s
  | .file s => return String.ofList (Script.Lexer.lineFeeds s.toList)
  | .missing => throw .missingFile

/-- Private definitions are left out, unless they are numbers. -/
def isPrivate (name : String) (v : Value) : Bool :=
  name.toList.head? == some '_' && !v.isNumber

def preloadAll (env : FrameId) : List (String × Value) → Run Unit
  | [] => return ()
  | (name, v) :: rest => do
    if !isPrivate name v then
      if v.isCallable then
        Environment.setOwnFunc env name v
        Environment.setOwnMod env name v
      else Environment.setOwnVar env name v
    preloadAll env rest

def Preload.read : Preload → Run (List (String × Value))
  | .definitions defs => Datum.enterNamed defs
  | .script text => Script.execute text.toList
  | .unreadable why => throw why

def preloadEach (env : FrameId) : List Preload → Run Unit
  | [] => return ()
  | p :: rest => do
    preloadAll env (← Preload.read p)
    preloadEach env rest

/-- Settings by name. A function would also have to become a module, which
cannot be set. -/
def setAll (env : FrameId) : List (String × Value) → Run Unit
  | [] => return ()
  | (name, v) :: rest => do
    if v.isCallable then
      Environment.setOwnFunc env name v
      throw .noAttribute
    Environment.setVar env name v
    setAll env rest

/-- The name under which the preloads themselves can be given, so that no setting goes by it. -/
def preloadName : String := "preload"

/-- What a value among the preloads leads to: a text is a path, a number would be an open file. -/
def preloadOf : Value → Preload
  | .str [] => .unreadable .missingFile
  | .str path =>
    match Path.locate (Text.toString path) with
    | .file text => .script text
    | .directory => .unreadable .isDirectory
    | .absent why => .unreadable why
  | .int n => .unreadable (if n < 0 then .negativeDescriptor else .badDescriptor)
  | .bool _ => .unreadable .badDescriptor
  | _ => .unreadable .typeMismatch

/-- Open a program. The preloads may be given by name, but then not in their own place, too. -/
def run (o : Opening) : Run FrameId := do
  let preload := o.named.lookup preloadName
  if preload.isSome && !o.preload.isEmpty then throw .typeMismatch
  let text ← readSource o.source
  let env ← Environment.create
  Environment.load env text
  preloadEach env o.preload
  match preload with
  | some d => preloadEach env ((← (← d.enter).items).map preloadOf)
  | none => pure ()
  setAll env (← Datum.enterNamed (o.named.filter (·.1 != preloadName)))
  return env

end Opening
end Scad
