import Scad.Fault

/-!
Looking into a parse tree that may not be of the expected shape. A leaf has no
children to count or to take.
-/

namespace Scad
namespace Tree

def children : Tree → Except Fault (List Tree)
  | node _ ts => .ok ts
  | leaf _ _ _ => .error .typeMismatch

def size (t : Tree) : Except Fault Nat := t.children.map List.length

def child (i : Nat) (t : Tree) : Except Fault Tree := do
  match (← t.children)[i]? with
  | some c => .ok c
  | none => .error (.outOfRange .list)

/-- The child at place `i` from the end, which has place 1. -/
def childFromEnd (i : Nat) (t : Tree) : Except Fault Tree := do
  let ts ← t.children
  if ts.length < i then .error (.outOfRange .list)
  else
    match ts[ts.length - i]? with
    | some c => .ok c
    | none => .error (.outOfRange .list)

def checkArity (low high : Nat) (t : Tree) : Except Fault Unit := do
  let n ← t.size
  if n < low || high < n then .error .arity else .ok ()

/-- Pass through wrappers: a node with one child whose form is transparent
gives way to that child. The result has the form and the tree that remain. -/
def unwrap {Form : Type} (form? : String → Option Form) (transparent : Form → Bool) :
    Tree → Except Fault (Form × Tree)
  | leaf r s p =>
    match form? r with
    | some f => .ok (f, leaf r s p)
    | none => .error (if r = "" then .bareTerminal else .noMeaning r)
  | node r ts =>
    match form? r with
    | some f =>
      match ts with
      | [t] => if transparent f then unwrap form? transparent t else .ok (f, node r ts)
      | _ => .ok (f, node r ts)
    | none => .error (if r = "" then .bareTerminal else .noMeaning r)

end Tree
end Scad
