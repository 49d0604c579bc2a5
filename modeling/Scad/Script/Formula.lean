import Scad.Script.Native
import Scad.Script.Statement
import Scad.Syntax.Lexeme

/-!
Formulas: what a string literal of a program is read as. Nearly always that is
one literal of the script language, but any expression will do. A formula knows
a handful of functions and no names, and has nothing that could run away: texts
and numbers are limited, and there are no lists, tables or functions of its own.
-/

namespace Scad
namespace Formula

open Script

def lengthLimit : Nat := 100000

def powerLimit : Int := 4000000

def shiftLimit : Int := 10000

def functionNames : List String := ["rand", "randint", "int", "float", "str"]

/-! ## Operators -/

def hasSize : Value → Bool
  | .str _ | .list _ | .tuple _ | .dict _ | .range .. => true
  | _ => false

/-- `n` copies of something with a size must not be too long. -/
def checkCopies (v n : Value) : Run Unit := do
  if hasSize v then
    let total ← n.times (← Native.size v)
    if ← Value.related .greater total (.int lengthLimit) then throw .textTooLong

def times (a b : Value) : Run Value := do
  checkCopies a b
  checkCopies b a
  a.times b

def plus (a b : Value) : Run Value := do
  if hasSize a && hasSize b then
    if lengthLimit < (← a.size) + (← b.size) then throw .textTooLong
  a.plus b

def exceeds (limit : Int) (v : Value) : Run Bool := do
  Value.related .greater (← Run.number (← Native.toNum v).abs) (.int limit)

def power (a b : Value) : Run Value := do
  if ← exceeds powerLimit a then throw .numberTooHigh
  if ← exceeds powerLimit b then throw .numberTooHigh
  Operator.power a b

/-- The greatest number that a floating point number can be. -/
def baseLimit : Int := (Nat.pow 2 53 - 1) * Nat.pow 2 971

def shift (left : Bool) (a b : Value) : Run Value := do
  if ← exceeds shiftLimit b then throw .numberTooHigh
  if ← exceeds baseLimit a then throw .numberTooHigh
  Operator.shift left a b

def binary (op : BinaryOp) (a b : Value) : Run Value :=
  match op with
  | .add => plus a b
  | .mul => times a b
  | .pow => power a b
  | .shiftLeft => shift true a b
  | .shiftRight => shift false a b
  | op => Operator.binary op a b

/-! ## Names -/

/-- Members that formulas must not use. -/
def isHidden (name : String) : Bool :=
  name.startsWith "_" || name.startsWith "func_" || ["format", "format_map", "mro"].contains name

def callFunction (name : String) (args : Args) : Run Value := do
  match name, args.positional, args.named with
  | "rand", [], [] => return .float 0.5
  | "randint", [top], [] | "randint", [], [("top", top)] =>
    let middle ← top.times (.float 0.5)
    return .int (← Run.lift (Num.trunc (← Native.toNum middle)))
  | "rand", _, _ | "randint", _, _ => throw .typeMismatch
  | _, _, _ => Native.call name args

def callValue (f : Value) (args : Args) : Run Value :=
  match f with
  | .native name => callFunction name args
  | .method owner name => Member.call owner name args
  | _ => throw .typeMismatch

def checkedText (t : Text) : Run Value :=
  if lengthLimit < t.length then throw .textTooLong else return .str t

/-! ## Evaluation -/

section

variable (eval : Expr → Run Value)

def evalBound : Option Expr → Run Value
  | none => return .undef
  | some e => eval e

def evalParts (done : Text) : List Expr → Run Text
  | [] => return done
  | e :: es => do
    let done := done ++ (← (← eval e).display)
    if lengthLimit < done.length then throw .textTooLong
    evalParts done es

/-- The named arguments, after those already known. They come first. -/
def evalNamed (done : Table Value) : List (ArgKind × Expr) → Run (Table Value)
  | [] => return done
  | (.named name, e) :: rest => do evalNamed (done.put name (← eval e)) rest
  | (.spreadNamed, e) :: rest => do
    discard (eval e)
    evalNamed done rest
  | _ :: rest => evalNamed done rest

def evalPositional : List (ArgKind × Expr) → Run (List Value)
  | [] => return []
  | (.positional, e) :: rest => return (← eval e) :: (← evalPositional rest)
  | (.spread, _) :: _ => throw .unavailableFeature
  | _ :: rest => evalPositional rest

end

def eval : (fuel : Nat) → Expr → Run Value
  | 0, _ => throw .tooDeep
  | _ + 1, .text t => checkedText t
  | _ + 1, .bytes b =>
    if lengthLimit < b.length then throw .textTooLong else return .foreign "bytes"
  | _ + 1, .name s => if functionNames.contains s then return .native s else throw .undefinedName
  | fuel + 1, .joined parts => return .str (← evalParts (eval fuel) [] parts)
  | fuel + 1, .slot value _ none => eval fuel value
  | fuel + 1, .slot value _ (some spec) => do
    let spec ← (← eval fuel spec).display
    return .str (← Field.write (← eval fuel value) spec)
  | fuel + 1, .unary op e => do Operator.unary op (← eval fuel e)
  | fuel + 1, .binary op a b => do
    if op = .matMul then throw (.raised "OperatorNotDefined")
    binary op (← eval fuel a) (← eval fuel b)
  | fuel + 1, .logic isAnd operands => Operator.logic (eval fuel) isAnd operands
  | fuel + 1, .compare first rest => do
    return .bool (← Operator.comparison (eval fuel) (← eval fuel first) rest)
  | fuel + 1, .choice test yes no => do
    if ← (← eval fuel test).truth then eval fuel yes else eval fuel no
  | fuel + 1, .call f args => do
    let callee ← match f with
      | .member .. => eval fuel f
      | .name s => if functionNames.contains s then pure (.native s) else throw .undefinedFunction
      | _ => throw .unavailableFeature
    let named ← evalNamed (eval fuel) [] args
    let positional ← evalPositional (eval fuel) args
    if args.any fun (kind, _) => kind = .spreadNamed then throw .typeMismatch
    callValue callee ⟨positional, named⟩
  | fuel + 1, .member e name => do
    if isHidden name then throw .unavailableFeature
    Run.demand .undefinedAttribute (Member.find? (← eval fuel e) name)
  | fuel + 1, .item e (.slice start stop step) => do
    Operator.cut (← eval fuel e) (← evalBound (eval fuel) start) (← evalBound (eval fuel) stop)
      (← evalBound (eval fuel) step)
  | fuel + 1, .item e index => do (← eval fuel e).item (← eval fuel index)
  | _ + 1, e => Operator.constant .unavailableFeature e

/-- The value of a statement; `text` is what it was read from. -/
def evalStatement (fuel : Nat) (text : String) : Stmt → Run Value
  | .expr e => eval fuel e
  | .assign _ value | .update _ _ value => do
    Run.warn ("Assignment (" ++ text ++ ") attempted, but this is ignored")
    eval fuel value
  | _ => throw .unavailableFeature

/-- The value of any text. Of several statements the first counts. -/
def evalText (text : String) : Run Value := do
  let cs := Blank.trim text.toList
  match ← Run.lift (statementsOf cs) with
  | [] => throw .emptyFormula
  | s :: more =>
    if !more.isEmpty then
      Run.warn ("'" ++ text ++ "' contains multiple expressions. Only the first will be used.")
    evalStatement (2 * cs.length + 10) text s

/-! ## Formulas inside programs

A formula knows nothing of the world in which a program runs, so it is worked
out in a world of its own, and what comes of it is made anew. -/

/-- Make a formula's value, which came about in the world `w`, anew. -/
def renew (w : World) : (fuel : Nat) → Value → Run Value
  | 0, _ => throw .tooDeep
  | _ + 1, .undef => return .undef
  | _ + 1, .bool b => return .bool b
  | _ + 1, .int n => return .int n
  | _ + 1, .float x => return .float x
  | _ + 1, .nan _ => return .nan (← Run.newIdent)
  | _ + 1, .str t => return .str t
  | fuel + 1, .list cell => do Run.newList (← (w.lists.getD cell []).mapM (renew w fuel))
  | fuel + 1, .tuple items => return .tuple (← items.mapM (renew w fuel))
  | _ + 1, .dict [] => return .dict []
  | _ + 1, .native name => return .native name
  | fuel + 1, .method owner name => return .method (← renew w fuel owner) name
  | _ + 1, .foreign type => return .foreign type
  | _ + 1, _ => throw .typeMismatch

/-- The fault of a formula. Formulas make no assertions and look at no parse trees. -/
def faultOf : Fault → Fault
  | .failedAssertion _ | .arity | .bareTerminal | .noMeaning _ => .typeMismatch
  | e => e

def isolated (formula : Run Value) : Run Value := do
  match formula {} with
  | .ok v w =>
    w.warnings.toList.forM Run.warn
    renew w nestingLimit v
  | .error e w =>
    w.warnings.toList.forM Run.warn
    throw (faultOf e)

def isPlain (c : Char) : Bool := c != '\n' && c != '\r' && c.toNat != 0

def inside? (cs : List Char) : Option (List Char) :=
  match cs with
  | q :: rest =>
    if (q = '"' || q = '\'') && Lexeme.quotedLength q cs == some cs.length && cs.all isPlain then
      some rest.dropLast
    else none
  | [] => none

def evalLiteral (text : String) : Run Value :=
  match inside? text.toList with
  | some cs =>
    match Escape.decodeAll cs with
    | some t => checkedText t
    | none => throw .badLiteral
  | none => isolated (evalText text)

end Formula
end Scad
