import Scad.Value.Number
import Scad.Value.Sequence
import Scad.Value.Show

/-!
Equality and order of values. Numbers are compared by value whatever their
type; lists and tuples item by item; objects by identity. A parse leaf equals
whatever has its text. Order is defined between numbers, between texts, between
lists and between tuples.
-/

namespace Scad
namespace Value

variable (test : Value → Value → Run Bool)

/-- Is it certain, without looking inside, that two items are the same? -/
def same : Value → Value → Bool
  | nan i, nan j => i == j
  | list a, list b => a == b
  | node a, node b => a == b
  | shape a _, shape b _ => a == b
  | axis a _ _, axis b _ _ => a == b
  | _, _ => false

def allEqual : List Value → List Value → Run Bool
  | [], [] => return true
  | a :: as, b :: bs => do
    if ← (if a.same b then pure true else test a b) then allEqual as bs else return false
  | _, _ => return false

/-- Two tables are equal if they have the same names with equal values. -/
def sameEntries (other : List (String × Value)) : List (String × Value) → Run Bool
  | [] => return true
  | (k, a) :: rest => do
    match Table.find? k other with
    | none => return false
    | some b =>
      if ← (if a.same b then pure true else test a b) then sameEntries other rest
      else return false

def leaf? : Value → Run (Option Text)
  | node cell => do
    match ← Run.nodeCell cell with
    | .leaf _ text _ => return some text
    | .inner .. => return none
  | code (.leaf _ text _) => return some text
  | _ => return none

def equalWith : (fuel : Nat) → Value → Value → Run Bool
  | 0, _, _ => throw .tooDeep
  | fuel + 1, a, b => do
    match a.num?, b.num? with
    | some m, some n => return m.compare n == some .eq
    | _, _ =>
      match ← leaf? a with
      | some text => return text == (← b.display)
      | none =>
        match ← leaf? b with
        | some text => return text == (← a.display)
        | none =>
          match a, b with
          | undef, undef => return true
          | str s, str t => return s == t
          | tuple as, tuple bs => allEqual (equalWith fuel) as bs
          | dict as, dict bs =>
            if as.length = bs.length then sameEntries (equalWith fuel) bs as else return false
          | shape i _, shape j _ => return i == j
          | axis _ o d, axis _ o' d' => allEqual (equalWith fuel) [o, d] [o', d']
          | function i .., function j .. => return i == j
          | range i .., range j .. => return i == j
          | scope i, scope j => return i == j
          | host g, host h => return g == h
          | invoke i, invoke j => return i == j
          | pick i _, pick j _ => return i == j
          | pending i, pending j => return i == j
          | unbuilt, unbuilt => return true
          | native f, native g => return f == g
          | _, _ =>
            match ← a.listItems?, ← b.listItems? with
            | some as, some bs => allEqual (equalWith fuel) as bs
            | _, _ => return false

def equal (a b : Value) : Run Bool := equalWith nestingLimit a b

/-! ## Order -/

inductive Relation where
  | less | lessEq | greater | greaterEq
  deriving DecidableEq, Repr

def Relation.holds : Relation → Ordering → Bool
  | less, o => o == .lt
  | lessEq, o => o != .gt
  | greater, o => o == .gt
  | greaterEq, o => o != .lt

/-- The first pair of items that differ decides; without one the lengths do. -/
def decideItems (decide : Value → Value → Run Bool) (rel : Relation) :
    List Value → List Value → Run Bool
  | a :: as, b :: bs => do
    if ← (if a.same b then pure true else test a b) then decideItems decide rel as bs
    else decide a b
  | as, bs => return rel.holds (compare as.length bs.length)

def relatedWith : (fuel : Nat) → Relation → Value → Value → Run Bool
  | 0, _, _, _ => throw .tooDeep
  | fuel + 1, rel, a, b => do
    match a.num?, b.num? with
    | some m, some n =>
      match m.compare n with
      | some o => return rel.holds o
      | none => return false
    | _, _ =>
      match a, b with
      | str s, str t => return rel.holds (Text.compare s t)
      | tuple as, tuple bs => decideItems (equalWith fuel) (relatedWith fuel rel) rel as bs
      | _, _ =>
        match ← a.listItems?, ← b.listItems? with
        | some as, some bs => decideItems (equalWith fuel) (relatedWith fuel rel) rel as bs
        | _, _ => throw .typeMismatch

def related (rel : Relation) (a b : Value) : Run Bool := relatedWith nestingLimit rel a b

end Value
end Scad
