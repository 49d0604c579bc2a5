import Scad.Text.CodePoint

/-!
Records: values taken out of the interpreter. A record is an immutable copy, so
later changes to a list do not show in it. A solid is known only by the call
that made it, with the arguments as they were at that moment.
-/

namespace Scad

inductive ObjectKind where
  | statement
  | parentStatement
  | scope
  | specialScope
  | environment
  | pending
  deriving DecidableEq, Repr

inductive Record where
  | undef
  | bool (b : Bool)
  | int (n : Int)
  | float (x : Float)
  | str (s : Text)
  | list (items : List Record)
  | tuple (items : List Record)
  | dict (entries : List (String × Record))
  /-- A solid or a flat figure, made by the call `name (args, named)`. -/
  | shape (name : String) (args : List Record) (named : List (String × Record))
  | location (name : String) (args : List Record)
  | axis (origin direction : Record)
  | function (name : String) (required optional : List String)
  | range (start stop step : Record)
  | node (rule text : String)
  | object (kind : ObjectKind)
  | callable
  deriving Inhabited, Repr

def Record.maker : Record → String
  | shape name _ _ | location name _ => name
  | _ => ""

end Scad
