/-!
Texts as the language has them: sequences of code points. A surrogate is a code
point too and may stand alone, so there are texts that no `String` holds.
-/

namespace Scad

inductive CodePoint where
  | scalar (c : Char)
  | surrogate (low : Fin 2048)
  deriving DecidableEq, Repr, Inhabited

namespace CodePoint

def limit : Nat := 0x110000

def firstSurrogate : Nat := 0xd800

def toNat : CodePoint → Nat
  | scalar c => c.toNat
  | surrogate low => firstSurrogate + low

def ofNat? (n : Nat) : Option CodePoint :=
  if h : n - firstSurrogate < 2048 ∧ firstSurrogate ≤ n then
    some (surrogate ⟨n - firstSurrogate, h.1⟩)
  else if n < limit then some (scalar (Char.ofNat n))
  else none

def ofInt? (n : Int) : Option CodePoint := if n < 0 then none else ofNat? n.toNat

def char? : CodePoint → Option Char
  | scalar c => some c
  | surrogate _ => none

end CodePoint

abbrev Text := List CodePoint

namespace Text

def ofChars (cs : List Char) : Text := cs.map .scalar

def ofString (s : String) : Text := ofChars s.toList

def chars? (t : Text) : Option (List Char) := t.mapM CodePoint.char?

def toString? (t : Text) : Option String := (chars? t).map String.ofList

/-- The characters of a text, with a replacement character for each
surrogate. -/
def toString (t : Text) : String :=
  String.ofList (t.map fun p => p.char?.getD (Char.ofNat 0xfffd))

/-- Texts are ordered by their code points. -/
def compare : Text → Text → Ordering
  | [], [] => .eq
  | [], _ :: _ => .lt
  | _ :: _, [] => .gt
  | p :: t, q :: u =>
    match Ord.compare p.toNat q.toNat with
    | .eq => compare t u
    | o => o

def join : List Text → Text
  | [] => []
  | t :: ts => t ++ join ts

def intercalate (sep : Text) : List Text → Text
  | [] => []
  | [t] => t
  | t :: ts => t ++ sep ++ intercalate sep ts

@[simp]
theorem chars?_ofChars (cs : List Char) : chars? (ofChars cs) = some cs := by
  induction cs with
  | nil => rfl
  | cons c cs ih =>
    simp only [chars?, ofChars, List.map_cons, List.mapM_cons, CodePoint.char?] at ih ⊢
    simp [ih]

@[simp]
theorem toString?_ofString (s : String) : toString? (ofString s) = some s := by
  simp [toString?, ofString]

@[simp]
theorem toString_ofString (s : String) : toString (ofString s) = s := by
  simp [toString, ofString, ofChars, Function.comp_def, CodePoint.char?]

end Text

instance : Coe String Text := ⟨Text.ofString⟩

/-! ## Sets of code points -/

/-- The lengths of the runs of code points outside and inside a set in turn, as they are written in
a text. Characters from a full stop up to an opening bracket are the last digits of numbers,
letters and marks after them are the digits before. -/
def lengths (front : Nat) : List Char → List Nat
  | [] => []
  | c :: cs =>
    let n := c.toNat
    if n < 46 then lengths front cs
    else if n < 92 then (front * 46 + (n - 46)) :: lengths 0 cs
    else lengths (front * 30 + (n - 93)) cs

def isInRun (n : Nat) : List Nat → Bool
  | outside :: inside :: rest =>
    if n < outside then false
    else n - outside < inside || isInRun (n - outside - inside) rest
  | _ => false

end Scad
