import Scad.CommandLine

/-!
The program: files are looked at first, then everything is decided by
`CommandLine.run`.
-/

namespace Scad

def lookAround : List String → IO (List (String × CommandLine.Entry))
  | [] => return []
  | path :: rest => do
    let found ← lookAround rest
    try
      let text ← IO.FS.readFile path
      return (path, .text text) :: found
    catch _ =>
      try
        let kind := (← IO.FS.Handle.mk path .read).isTty
        let _ ← kind
        return (path, .directory) :: found
      catch _ => return found

end Scad

def main (args : List String) : IO UInt32 := do
  let read := Scad.CommandLine.Options.read {} none args
  let paths := match read with
    | some o => o.input.toList ++ o.output.toList ++ o.preload
    | none => []
  let found ← Scad.lookAround paths
  let outcome := Scad.CommandLine.run (List.lookup · found) args
  match outcome.fault.bind Scad.Fault.message? with
  | some text => IO.eprintln (Scad.Text.toString text)
  | none => pure ()
  return UInt32.ofNat (outcome.exitCode % 256).toNat
