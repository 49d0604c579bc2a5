import Scad.Syntax.Tree
import Scad.Value.Record

/-!
The values of the language. Lists are mutable and shared, so a list value is
the number of a cell in the world; a tuple is immutable and holds its items.
Parse nodes are values too (a parameter's default is bound unevaluated) and
behave as lists of their children, so they also live in cells; a tree that no
program can get hold of needs no cell. Objects that are compared by identity
carry a number of their own, and so does every result that is not a number.
-/

namespace Scad

abbrev ScopeId := Nat
abbrev FrameId := Nat

/-- Functions of the host program that can be handed to the interpreter. -/
inductive Host where
  /-- Takes nothing and gives a number. -/
  | number (n : Int)
  | nothing
  /-- Adds its arguments `a` and `b`. -/
  | sum
  /-- Reads `$fn` in the current environment. -/
  | currentFacets
  /-- Makes a cube with edge `x`, by default 1. -/
  | box
  | collect
  /-- Is handed the environment; gives the number of its arguments and `$fn`. -/
  | countArguments
  /-- Adds one to its argument `x`. -/
  | successor
  /-- Takes an optional `size` and `center` and gives `undef`. -/
  | noSolid
  deriving DecidableEq, Repr

/-- Does a host function get the environment as its first argument? -/
def Host.takesEnvironment : Host → Bool
  | countArguments => true
  | _ => false

/-- Formal parameters: names without a default, then names with one. `other`
is what a declaration that is not well formed leaves. -/
inductive Params (α : Type) where
  | named (required : List String) (optional : List (String × α))
  | other (given : α)

inductive Value where
  | undef
  | bool (b : Bool)
  | int (n : Int)
  | float (x : Float)
  /-- A floating point result that is not a number. -/
  | nan (ident : Nat)
  | str (s : Text)
  | list (cell : Nat)
  | tuple (items : List Value)
  | dict (entries : List (String × Value))
  /-- A parse node that programs can hold and change. -/
  | node (cell : Nat)
  /-- A parse tree that only the evaluator holds. -/
  | code (t : Tree)
  | shape (ident : Nat) (made : Record)
  | axis (ident : Nat) (origin direction : Value)
  | function (ident : Nat) (scope : ScopeId) (name : String) (params : Params Value) (body : Value)
  /-- `[start : stop : step]`, with its parts unevaluated; a step that is not
  given is the number 1. -/
  | range (ident : Nat) (start stop step : Value)
  | statement (call : Tree) (child : Option ScopeId)
  | scope (id : ScopeId)
  | host (h : Host)
  /-- Calls what it is given without arguments. -/
  | invoke (ident : Nat)
  /-- Takes elements out of what it is given, one index after the other. -/
  | pick (ident : Nat) (indices : List Value)
  /-- The result of a child that has not been built. -/
  | unbuilt
  | native (name : String)
  | method (owner : Value) (name : String)
  /-- An object of the script language of which only the type is known. -/
  | foreign (type : String)
  /-- The children of an environment, built as far as they are asked for. -/
  | pending (stream : Nat)
  deriving Inhabited

structure Args where
  positional : List Value
  named : List (String × Value)

namespace Value

/-- The integer that a value is, where truth values count as 0 and 1. -/
def int? : Value → Option Int
  | int n => some n
  | bool b => some (if b then 1 else 0)
  | _ => none

def isNumber : Value → Bool
  | int _ | float _ | nan _ | bool _ => true
  | _ => false

def isUndef : Value → Bool
  | undef => true
  | _ => false

/-- Can the value be called as a host function can? -/
def isCallable : Value → Bool
  | host _ | invoke _ | pick _ _ | unbuilt | native _ | method _ _ => true
  | _ => false

end Value
end Scad
