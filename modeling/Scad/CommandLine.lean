import Scad.Session.Step

/-!
The command line: `-i FILE -o FILE [-d] [-p FILE]...`. The input is processed
and the resulting environment is exported. A usage error ends with exit code 2,
a fault of the program with exit code 1.
-/

namespace Scad
namespace CommandLine

inductive Flag where
  | input | output | preload | debug | help
  deriving DecidableEq, Repr

def Flag.takesValue : Flag → Bool
  | .input | .output | .preload => true
  | .debug | .help => false

def Flag.ofLetter? : Char → Option Flag
  | 'i' => some .input
  | 'o' => some .output
  | 'p' => some .preload
  | 'd' => some .debug
  | _ => none

def Flag.ofWord? : String → Option Flag
  | "input" => some .input
  | "output" => some .output
  | "preload" => some .preload
  | "debug" => some .debug
  | "help" => some .help
  | _ => none

structure Options where
  input : Option String := none
  output : Option String := none
  preload : List String := []
  debug : Bool := false
  help : Bool := false
  /-- There are arguments that belong to no flag. -/
  surplus : Bool := false

namespace Options

def give (o : Options) (value : String) : Flag → Options
  | .input => { o with input := some value }
  | .output => { o with output := some value }
  | .preload => { o with preload := o.preload ++ [value] }
  | .debug => { o with debug := true }
  | .help => { o with help := true }

/-- The letters after a single dash. A flag that takes a value takes the rest
of the letters; if there are none, it waits for the next argument. -/
def readLetters (o : Options) : List Char → Option (Options × Option Flag)
  | [] => some (o, none)
  | c :: cs =>
    match Flag.ofLetter? c with
    | none => none
    | some f =>
      if f.takesValue then
        if cs.isEmpty then some (o, some f) else some (o.give (String.ofList cs) f, none)
      else readLetters (o.give "" f) cs

/-- The word after two dashes, with a value after an equals sign. -/
def readWord (o : Options) (cs : List Char) : Option (Options × Option Flag) :=
  match Flag.ofWord? (String.ofList (cs.takeWhile (· != '='))), cs.dropWhile (· != '=') with
  | none, _ => none
  | some f, [] => if f.takesValue then some (o, some f) else some (o.give "" f, none)
  | some f, _ :: value =>
    if f.takesValue then some (o.give (String.ofList value) f, none) else none

def readArgument (o : Options) (arg : String) : Option (Options × Option Flag) :=
  match arg.toList with
  | '-' :: '-' :: cs => o.readWord cs
  | '-' :: c :: cs => o.readLetters (c :: cs)
  | _ => some ({ o with surplus := true }, none)

/-- Read the arguments; `waiting` is a flag that still needs its value. -/
def read (o : Options) : (waiting : Option Flag) → List String → Option Options
  | none, [] => some o
  | some _, [] => none
  | some f, arg :: rest => read (o.give arg f) none rest
  | none, arg :: rest =>
    if arg = "--" then some { o with surplus := o.surplus || !rest.isEmpty }
    else
      match o.readArgument arg with
      | none => none
      | some (o, waiting) => read o waiting rest

end Options

inductive Entry where
  | directory
  | text (s : String)
  /-- A text that the host reads as definitions. -/
  | definitions (s : String) (defs : List (String × Datum))

def Entry.isDirectory : Entry → Bool
  | .directory => true
  | _ => false

abbrev Files := String → Option Entry

variable (o : Options) (files : Files) (path : String)

/-- What stands under a path that the host does not know. -/
def locate : Located :=
  if path.isEmpty then .absent .missingFile else Path.locate path

def Files.find? : Option Entry :=
  match files path, locate path with
  | some e, _ => some e
  | none, .file text => some (.text text)
  | none, .directory => some .directory
  | none, .absent _ => none

def preloadOf : Preload :=
  match files.find? path, locate path with
  | some (.definitions _ defs), _ => .definitions defs
  | some (.text s), _ => .script s
  | some .directory, _ => .unreadable .isDirectory
  | none, .absent why => .unreadable why
  | none, _ => .unreadable .missingFile

structure Outcome where
  exitCode : Int
  exported : List Record := []
  fault : Option Fault := none

def Options.check : Option String := do
  let input ← o.input
  let output ← o.output
  let usable (path : String) := !((files.find? path).any Entry.isDirectory)
  if o.surplus || !(usable output) || !(o.preload.all usable) then none
  match files.find? input with
  | some (.text s) | some (.definitions s _) => some s
  | _ => none

/-- How a fault ends the command. A script may ask for an exit code, and the end
of its input, or an interruption, is no fault of the command. -/
def Outcome.ofFault : Fault → Outcome
  | .exit code => { exitCode := code }
  | .raised "EOFError" | .raised "KeyboardInterrupt" => { exitCode := 1 }
  | e => { exitCode := 1, fault := some e }

def Options.process (text : String) : Outcome :=
  let opening : Opening :=
    { source := .file text
      preload := o.preload.map (preloadOf files)
      named := [("debug", .bool o.debug)] }
  match opening.run {} with
  | .ok _ _ => { exitCode := 0, exported := [.object .environment] }
  | .error e _ => Outcome.ofFault e

def run (args : List String) : Outcome :=
  match Options.read {} none args with
  | none => { exitCode := 2 }
  | some o =>
    if o.help then { exitCode := 0 }
    else
      match o.check files with
      | none => { exitCode := 2 }
      | some text => o.process files text

end CommandLine
end Scad
