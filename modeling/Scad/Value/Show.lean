import Scad.Number.Notation
import Scad.Number.Numeral
import Scad.Text.Quoted
import Scad.World.Basic

/-!
How values are written. `shown` is the form inside other values, with texts in
quotes; `display` is the form on its own, where a text is itself. A list that
contains itself is cut short. Whole numbers have a written form only up to a
limit.
-/

namespace Scad

/-- Deeper nesting than this counts as endless. -/
def nestingLimit : Nat := 1500

namespace Value

def boolText (b : Bool) : String := if b then "True" else "False"

/-- A tuple of one item keeps a comma. -/
def tupleText : List String → String
  | [s] => "(" ++ s ++ ",)"
  | items => "(" ++ String.intercalate ", " items ++ ")"

def leafText (rule text : String) (pos : Nat) : String :=
  if text = "" then rule ++ " [" ++ Nat.repr pos ++ "]"
  else rule ++ " '" ++ text ++ "' [" ++ Nat.repr pos ++ "]"

/-- A whole number can be written with as many digits as a numeral may have. -/
def isWritable (n : Int) : Bool := n.natAbs < Nat.pow 10 Numeral.maxDigits

def intText (n : Int) : Run String :=
  if isWritable n then return toString n else throw .integerTooLong

def treeText : Tree → String
  | .leaf rule text pos => leafText rule text pos
  | .node _ ts => "[ " ++ String.intercalate ", " (treeTexts ts) ++ " ]"
where
  treeTexts : List Tree → List String
    | [] => []
    | t :: ts => treeText t :: treeTexts ts

/-- The form inside other values. `open` holds the lists being written. -/
def showWith : (fuel : Nat) → (inside : List Nat) → Value → Run String
  | 0, _, _ => throw .tooDeep
  | _ + 1, _, undef => return "None"
  | _ + 1, _, bool b => return boolText b
  | _ + 1, _, int n => intText n
  | _ + 1, _, float x => return showFloat x
  | _ + 1, _, nan _ => return showFloat Binary64.nan.toFloat
  | _ + 1, _, str s => return Quoted.write s
  | fuel + 1, inside, list cell => do
    if inside.contains cell then return "[...]"
    let items ← (← Run.listItems cell).mapM (showWith fuel (cell :: inside))
    return "[" ++ String.intercalate ", " items ++ "]"
  | fuel + 1, inside, tuple items => do
    return tupleText (← items.mapM (showWith fuel inside))
  | fuel + 1, inside, dict entries => do
    let items ← entries.mapM fun (k, v) => do
      return Quoted.write k ++ ": " ++ (← showWith fuel inside v)
    return "\x7b" ++ String.intercalate ", " items ++ "\x7d"
  | fuel + 1, inside, node cell => do
    match ← Run.nodeCell cell with
    | .leaf rule text pos => return leafText rule text pos
    | .inner _ children =>
      let items ← children.mapM (showWith fuel inside)
      return "[ " ++ String.intercalate ", " items ++ " ]"
  | _ + 1, _, code t => return treeText t
  | _ + 1, _, shape _ made => return "<" ++ made.maker ++ ">"
  | fuel + 1, inside, axis _ origin direction => do
    return tupleText [← showWith fuel inside origin, ← showWith fuel inside direction]
  | _ + 1, _, function .. => return "<function>"
  | _ + 1, _, range .. => return "<range>"
  | _ + 1, _, statement .. => return "<statement>"
  | _ + 1, _, scope _ => return "<scope>"
  | _ + 1, _, host _ | _ + 1, _, invoke _ | _ + 1, _, pick .. | _ + 1, _, unbuilt
  | _ + 1, _, method .. => return "<callable>"
  | _ + 1, _, native name => return "<class '" ++ name ++ "'>"
  | _ + 1, _, foreign type => return if type = "ellipsis" then "Ellipsis" else "<" ++ type ++ ">"
  | _ + 1, _, pending _ => return "<children>"

def shown (v : Value) : Run String := showWith nestingLimit [] v

def displayWith : (fuel : Nat) → Value → Run Text
  | 0, _ => throw .tooDeep
  | _ + 1, str s => return s
  | _ + 1, code t => return t.value
  | fuel + 1, node cell => do
    match ← Run.nodeCell cell with
    | .leaf _ text _ => return text
    | .inner _ children =>
      return Text.intercalate " | " (← children.mapM (displayWith fuel))
  | _ + 1, v => do return (← v.shown : String)

def display (v : Value) : Run Text := displayWith nestingLimit v

end Value
end Scad
