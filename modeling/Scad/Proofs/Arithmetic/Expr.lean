import Scad.Number.Numeral

/-!
Whole numbers and truth values as expressions of the language: what they look like
as text, and what they stand for.

A text has brackets only where precedence and association to the left require them.
The meaning of an expression is given without the evaluator; it is missing if an
operand that has to be evaluated divides by zero.
-/

namespace Scad.Arithmetic

inductive Ty where
  | int | bool

/-- Tests of one family may follow each other in a chain. -/
inductive Family where
  | order | equality

inductive Kind where
  | value (t : Ty)
  | chain (f : Family)

/-- What expressions stand for. A chain that holds so far stands for its last
operand. -/
abbrev Kind.Meaning : Kind → Type
  | value .int => Int
  | value .bool => Bool
  | chain _ => Option Int

/-! ## Operators -/

inductive Sign where
  | or | and | equal | unequal | less | greater | plus | minus | times | mod
  deriving DecidableEq

namespace Sign

/-- Operators of a higher level bind more tightly. -/
def level : Sign → Nat
  | or => 1
  | and => 2
  | equal | unequal => 3
  | less | greater => 4
  | plus | minus => 5
  | times | mod => 6

def text : Sign → String
  | or => "||"
  | and => "&&"
  | equal => "=="
  | unequal => "!="
  | less => "<"
  | greater => ">"
  | plus => "+"
  | minus => "-"
  | times => "*"
  | mod => "%"

theorem level_bounds (s : Sign) : 1 ≤ s.level ∧ s.level ≤ 6 := by cases s <;> decide

end Sign

inductive Operation where
  | plus | minus | times | mod

namespace Operation

def sign : Operation → Sign
  | plus => .plus
  | minus => .minus
  | times => .times
  | mod => .mod

/-- The remainder has the sign of the divisor, which must not be zero. -/
def apply : Operation → Int → Int → Option Int
  | plus, m, n => some (m + n)
  | minus, m, n => some (m - n)
  | times, m, n => some (m * n)
  | mod, m, n => if n = 0 then none else some (m.fmod n)

end Operation

inductive Connective where
  | and | or

namespace Connective

def sign : Connective → Sign
  | and => .and
  | or => .or

/-- The operand that decides on its own. -/
def decisive : Connective → Bool
  | and => false
  | or => true

end Connective

inductive Test : Family → Type where
  | less : Test .order
  | greater : Test .order
  | equal : Test .equality
  | unequal : Test .equality

namespace Test

def sign {f : Family} : Test f → Sign
  | less => .less
  | greater => .greater
  | equal => .equal
  | unequal => .unequal

def holds {f : Family} : Test f → Int → Int → Bool
  | less, m, n => m < n
  | greater, m, n => m > n
  | equal, m, n => m = n
  | unequal, m, n => m ≠ n

/-- One more test in a chain whose last operand was `m`. -/
def passOn {f : Family} (op : Test f) (m n : Int) : Option Int :=
  if op.holds m n then some n else none

end Test

/-! ## Expressions -/

inductive Expr : Kind → Type where
  /-- A numeral, of no more digits than a whole number may have. -/
  | num (first : Fin 10) (more : List (Fin 10)) (short : more.length < Numeral.maxDigits) :
      Expr (.value .int)
  | truth (b : Bool) : Expr (.value .bool)
  | neg (a : Expr (.value .int)) : Expr (.value .int)
  | not (a : Expr (.value .bool)) : Expr (.value .bool)
  | arith (op : Operation) (a b : Expr (.value .int)) : Expr (.value .int)
  | logic (op : Connective) (a b : Expr (.value .bool)) : Expr (.value .bool)
  | test {f : Family} (op : Test f) (a b : Expr (.value .int)) : Expr (.chain f)
  | more {f : Family} (op : Test f) (front : Expr (.chain f)) (b : Expr (.value .int)) :
      Expr (.chain f)
  | holds {f : Family} (c : Expr (.chain f)) : Expr (.value .bool)
  | cond {t : Ty} (c : Expr (.value .bool)) (a b : Expr (.value t)) : Expr (.value t)

namespace Expr

/-- The number with given decimal digits. -/
def ofDigits (ds : List (Fin 10)) : Nat := ds.foldl (fun (n : Nat) (d : Fin 10) => 10 * n + d) 0

/-- The meaning of an expression. The operands that are not needed do not matter:
those of a chain after the first test that fails, the second one of a connective
whose first one decides, and the side of a condition that is not taken. -/
@[simp]
def meaning : {k : Kind} → Expr k → Option k.Meaning
  | _, num d ds _ => some (ofDigits (d :: ds) : Int)
  | _, truth b => some b
  | _, neg a => do
    let m : Int ← a.meaning
    return (-m : Int)
  | _, not a => do
    let b : Bool ← a.meaning
    return !b
  | _, arith op a b => do
    let m ← a.meaning
    let n ← b.meaning
    op.apply m n
  | _, logic op a b => do
    let x : Bool ← a.meaning
    if x = op.decisive then return x else b.meaning
  | _, test op a b => do
    let m ← a.meaning
    let n ← b.meaning
    return op.passOn m n
  | _, more op front b => do
    match (← front.meaning : Option Int) with
    | none => return (none : Option Int)
    | some m => return op.passOn m (← b.meaning)
  | _, holds c => do
    let last : Option Int ← c.meaning
    return last.isSome
  | _, cond c a b => do
    let x : Bool ← c.meaning
    if x then a.meaning else b.meaning

section

variable {t : Ty} {f : Family} {x y c : Expr (.value .bool)} {a b : Expr (.value .int)}

theorem meaning_neg : (neg a).meaning = a.meaning.map fun m : Int => (-m : Int) := by
  rw [meaning]
  cases a.meaning <;> rfl

theorem meaning_not : (not x).meaning = x.meaning.map fun p : Bool => !p := by
  rw [meaning]
  cases x.meaning <;> rfl

theorem meaning_arith (op : Operation) :
    (arith op a b).meaning = a.meaning.bind fun m => b.meaning.bind fun n => op.apply m n := by
  rw [meaning]
  rfl

theorem meaning_logic (op : Connective) : (logic op x y).meaning =
    x.meaning.bind fun p : Bool => if p = op.decisive then some p else y.meaning := by
  rw [meaning]
  rfl

theorem meaning_test (op : Test f) : (test op a b).meaning =
    a.meaning.bind fun m => b.meaning.bind fun n => some (op.passOn m n) := by
  rw [meaning]
  rfl

theorem meaning_more (op : Test f) (front : Expr (.chain f)) : (more op front b).meaning =
    front.meaning.bind fun last : Option Int =>
      last.elim (some none) fun m => b.meaning.bind fun n => some (op.passOn m n) := by
  rw [meaning]
  refine congrArg (Option.bind front.meaning) (funext fun last : Option Int => ?_)
  cases last <;> rfl

theorem meaning_holds {c : Expr (.chain f)} :
    (holds c).meaning = c.meaning.map fun last : Option Int => last.isSome := by
  rw [meaning]
  cases c.meaning <;> rfl

theorem meaning_cond {d e : Expr (.value t)} : (cond c d e).meaning =
    c.meaning.bind fun p : Bool => if p then d.meaning else e.meaning := by
  rw [meaning]
  rfl

end

/-! ## Texts -/

/-- The level of the outermost operator. A condition has the lowest one, a sign in
front the level 7, and what needs no brackets anywhere the level 8. -/
def level : {k : Kind} → Expr k → Nat
  | _, num .. | _, truth _ => 8
  | _, neg _ | _, not _ => 7
  | _, arith op _ _ => op.sign.level
  | _, logic op _ _ => op.sign.level
  | _, test op _ _ => op.sign.level
  | _, more op _ _ => op.sign.level
  | _, holds c => c.level
  | _, cond .. => 0

/-- A text where an expression of level `least` is expected. -/
def bracketed (least level : Nat) (text : List Char) : List Char :=
  if level < least then '(' :: (text ++ [')']) else text

/-- Two operands: the left one may have the same level, the right one has to bind
more tightly. -/
def joined (s : Sign) (la : Nat) (ta : List Char) (lb : Nat) (tb : List Char) : List Char :=
  bracketed s.level la ta ++ (s.text.toList ++ bracketed (s.level + 1) lb tb)

def text : {k : Kind} → Expr k → List Char
  | _, num d ds _ => (d :: ds).map fun (d : Fin 10) => Nat.digitChar d
  | _, truth b => if b then "true".toList else "false".toList
  | _, neg a => '-' :: bracketed 8 a.level a.text
  | _, not a => '!' :: bracketed 8 a.level a.text
  | _, arith op a b => joined op.sign a.level a.text b.level b.text
  | _, logic op a b => joined op.sign a.level a.text b.level b.text
  | _, test op a b => joined op.sign a.level a.text b.level b.text
  | _, more op front b => joined op.sign front.level front.text b.level b.text
  | _, holds c => c.text
  | _, cond c a b =>
    bracketed 1 c.level c.text ++ '?' :: (a.text ++ ':' :: b.text)

/-- The program that assigns an expression to `x`. -/
def program {k : Kind} (e : Expr k) : String := "x = " ++ String.ofList e.text ++ ";"

end Expr

end Scad.Arithmetic
