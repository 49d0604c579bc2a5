import Scad.World.Basic

/-!
Values that hold other values: length, items, indexing and truth.
-/

namespace Scad
namespace Value

/-- The items of a list, or of a parse node, which is a list of its children. -/
def listItems? : Value → Run (Option (List Value))
  | list cell => some <$> Run.listItems cell
  | node cell => do
    match ← Run.nodeCell cell with
    | .inner _ children => return some children
    | .leaf .. => return none
  | code (.node _ ts) => return some (ts.map code)
  | _ => return none

def charValues (s : Text) : List Value := s.map fun p => str [p]

def items (v : Value) : Run (List Value) := do
  match v with
  | tuple items => return items
  | str s => return charValues s
  | dict entries => return entries.map fun (k, _) => str k
  | _ => Run.demand .typeMismatch (← v.listItems?)

def size (v : Value) : Run Nat := do
  match v with
  | str s => return s.length
  | code (.node _ ts) => return ts.length
  | _ => return (← v.items).length

def unpack (n : Nat) (v : Value) : Run (List Value) := do
  let items ← v.items
  if items.length < n then throw (.tooFewToUnpack n items.length)
  else if n < items.length then throw (.tooManyToUnpack n)
  else return items

/-- `undef`, zero, and what is empty count as false. -/
def truth (v : Value) : Run Bool := do
  match v with
  | undef => return false
  | bool b => return b
  | int n => return n != 0
  | float x => return !(x == 0)
  | str s => return !s.isEmpty
  | tuple items => return !items.isEmpty
  | dict entries => return !entries.isEmpty
  | list _ | node _ | code _ => return !(← v.listItems?).any List.isEmpty
  | _ => return true

/-- Integers that a machine word can hold serve as indices. -/
def indexLimit : Int := Nat.pow 2 63

def isIndex (n : Int) : Bool := -indexLimit ≤ n && n < indexLimit

/-- The place that an index means; a negative one counts from the end. -/
def place? (length : Nat) (n : Int) : Option Nat :=
  let i := if n < 0 then n + length else n
  if 0 ≤ i && i < length then some i.toNat else none

def itemAt {α : Type} (kind : SequenceKind) (items : List α) (index : Value) : Run α :=
  match index.int? with
  | none => throw .typeMismatch
  | some n =>
    match (place? items.length n).bind (items[·]?) with
    | some v => return v
    | none => throw (if isIndex n then .outOfRange kind else .indexTooWide)

/-- Can the value be a key of a table? What can change cannot. -/
def isKey : Value → Bool
  | list _ | node _ | code _ | dict _ => false
  | tuple items => areKeys items
  | _ => true
where
  areKeys : List Value → Bool
    | [] => true
    | v :: vs => isKey v && areKeys vs

def item (v index : Value) : Run Value := do
  match v with
  | tuple items => itemAt .tuple items index
  | str s => itemAt .string (charValues s) index
  | code (.node _ ts) => code <$> itemAt .list ts index
  | dict entries =>
    match index with
    | str k =>
      match (Text.toString? k).bind (Table.find? · entries) with
      | some v => return v
      | none => throw (.unknownName k)
    | _ => if index.isKey then throw .unknownKey else throw .typeMismatch
  | _ => itemAt .list (← Run.demand .typeMismatch (← v.listItems?)) index

def dropItems (n : Nat) (v : Value) : Run (List Value) := do
  match v with
  | tuple items => return items.drop n
  | str s => return charValues (s.drop n)
  | _ => return (← Run.demand .typeMismatch (← v.listItems?)).drop n

end Value
end Scad
