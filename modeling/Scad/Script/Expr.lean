import Scad.Text.CodePoint

/-!
Expressions and statements of the script language.
-/

namespace Scad
namespace Script

inductive BinaryOp where
  | add | sub | mul | matMul | div | floorDiv | mod | pow | shiftLeft | shiftRight
  | bitAnd | bitOr | bitXor
  deriving DecidableEq, Repr

inductive UnaryOp where
  | plus | minus | invert | not
  deriving DecidableEq, Repr

inductive CompareOp where
  | equal | notEqual | less | lessEq | greater | greaterEq | same | notSame | within | notWithin
  deriving DecidableEq, Repr

inductive ArgKind where
  | positional
  | spread
  | named (name : String)
  | spreadNamed
  deriving DecidableEq, Repr

inductive Collection where
  | list | set | dict | stream
  deriving DecidableEq, Repr

inductive Expr where
  | none
  | bool (b : Bool)
  | ellipsis
  | int (n : Nat)
  | real (x : Float)
  | imaginary (x : Float)
  | text (t : Text)
  | bytes (values : List Nat)
  | joined (parts : List Expr)
  | slot (value : Expr) (conversion : Option Char) (spec : Option Expr)
  | name (s : String)
  | unary (op : UnaryOp) (e : Expr)
  | binary (op : BinaryOp) (a b : Expr)
  /-- Operands joined by `and`, or else by `or`. -/
  | logic (isAnd : Bool) (operands : List Expr)
  | compare (first : Expr) (rest : List (CompareOp × Expr))
  | choice (test yes no : Expr)
  | call (f : Expr) (args : List (ArgKind × Expr))
  | item (e index : Expr)
  | slice (start stop step : Option Expr)
  | member (e : Expr) (name : String)
  | tuple (items : List Expr)
  | list (items : List Expr)
  | set (items : List Expr)
  /-- Entries; one without a key is a table of its own. -/
  | dict (entries : List (Option Expr × Expr))
  | starred (e : Expr)
  | lambda (params : List String) (body : Expr)
  /-- One element, or a key and a value, for each round of the clauses. A clause
  has a target, a source and tests. -/
  | comprehension (kind : Collection) (element : List Expr)
      (clauses : List (Expr × Expr × List Expr))
  | assign (name : String) (e : Expr)
  | yield (e : Option Expr)
  | await (e : Expr)
  deriving Inhabited

inductive Stmt where
  | expr (e : Expr)
  | assign (targets : List Expr) (value : Expr)
  | update (target : Expr) (op : BinaryOp) (value : Expr)
  | annotate (target type : Expr) (value : Option Expr)
  | delete (targets : List Expr)
  | check (test : Expr) (message : Option Expr)
  | raise (what cause : Option Expr)
  | pass
  | importing (modules : List String)
  | importFrom (module : String) (names : List String)
  | global (names : List String)
  | nonlocal (names : List String)
  | leave (value : Option Expr)
  | block

namespace Expr

mutual

def isTarget : Expr → Bool
  | name _ | member _ _ | item _ _ => true
  | starred e => isTarget e
  | tuple items | list items => areTargets items
  | _ => false

def areTargets : List Expr → Bool
  | [] => true
  | e :: es => isTarget e && areTargets es

end

def isSingleTarget : Expr → Bool
  | name _ | member _ _ | item _ _ => true
  | _ => false

def isStarred : Expr → Bool
  | starred _ => true
  | _ => false

end Expr
end Script
end Scad
