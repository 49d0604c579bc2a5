import Scad.Script.Method

/-!
Laying out a value in a field of a text. A specification says, in this order:
how to fill and align, whether to show a sign, in which form, how wide, how to
group digits, how precisely, and in which notation.
-/

namespace Scad
namespace Script

inductive Align where
  | left | right | center
  | inside
  deriving DecidableEq, Repr

def Align.ofPoint? : CodePoint → Option Align
  | .scalar '<' => some .left
  | .scalar '>' => some .right
  | .scalar '^' => some .center
  | .scalar '=' => some .inside
  | _ => none

structure Field where
  fill : CodePoint := .scalar ' '
  align : Option Align := none
  sign : Option Char := none
  plainZero : Bool := false
  alternate : Bool := false
  width : Nat := 0
  group : Option Char := none
  precision : Option Nat := none
  style : Option CodePoint := none

variable (f : Field) (type : String) (t : Text)

namespace Field

/-! ## Reading a specification -/

def inMessage (p : CodePoint) : String :=
  if 32 < p.toNat && p.toNat < 128 then String.singleton (Char.ofNat p.toNat)
  else "\\x" ++ Fault.hexText p.toNat

def bad {α : Type} (why : String) : Except Fault α := .error (.badField why)

def readDigits (acc : Nat) : Text → Nat × Text
  | p :: t =>
    match p.char?.bind Digit.value? with
    | some d => readDigits (acc * 10 + d) t
    | none => (acc, p :: t)
  | [] => (acc, [])

def readNumber : Except Fault (Nat × Text) :=
  let (n, rest) := readDigits 0 t
  if Nat.pow 2 63 ≤ n then bad "Too many decimal digits in format string" else .ok (n, rest)

def readAlign : Field × Bool × Text :=
  match t with
  | p :: q :: rest =>
    match Align.ofPoint? q, Align.ofPoint? p with
    | some a, _ => ({ f with fill := p, align := some a }, true, rest)
    | none, some a => ({ f with align := some a }, false, q :: rest)
    | none, none => (f, false, t)
  | [p] =>
    match Align.ofPoint? p with
    | some a => ({ f with align := some a }, false, [])
    | none => (f, false, t)
  | [] => (f, false, t)

def readSign : Text → Field × Text
  | .scalar '+' :: t => ({ f with sign := some '+' }, t)
  | .scalar '-' :: t => ({ f with sign := some '-' }, t)
  | .scalar ' ' :: t => ({ f with sign := some ' ' }, t)
  | t => (f, t)

def readMarks : Field × Text :=
  let (f, t) := match t with
    | .scalar 'z' :: t => ({ f with plainZero := true }, t)
    | t => (f, t)
  match t with
  | .scalar '#' :: t => ({ f with alternate := true }, t)
  | t => (f, t)

/-- A zero before the width fills with zeros, inside if nothing else is said and
the value stands on the right. -/
def readZero (onRight filled : Bool) (f : Field) : Text → Field × Text
  | .scalar '0' :: t =>
    if filled then (f, .scalar '0' :: t)
    else
      let align := if f.align.isNone && onRight then some .inside else f.align
      ({ f with fill := .scalar '0', align := align }, t)
  | t => (f, t)

def bothGroups : String := "Cannot specify both ',' and '_'."

def readGroup : Text → Except Fault (Field × Text)
  | .scalar ',' :: .scalar '_' :: _ => bad bothGroups
  | .scalar '_' :: .scalar ',' :: _ => bad bothGroups
  | .scalar ',' :: t => .ok ({ f with group := some ',' }, t)
  | .scalar '_' :: t => .ok ({ f with group := some '_' }, t)
  | t => .ok (f, t)

def readPrecision : Text → Except Fault (Field × Text)
  | .scalar '.' :: t => do
    let (n, rest) ← readNumber t
    if rest.length = t.length then bad "Format specifier missing precision"
    return ({ f with precision := some n }, rest)
  | t => .ok (f, t)

def allowsGroup (mark : Char) (style : Option CodePoint) : Bool :=
  match style with
  | none => true
  | some (.scalar c) =>
    "defgEG%F".toList.contains c || (mark = '_' && "boxX".toList.contains c)
  | some _ => false

def read : Except Fault Field := do
  let isText := type = "str"
  let (f, filled, rest) := readAlign {} t
  let (f, rest) := readSign f rest
  let (f, rest) := readMarks f rest
  let (f, rest) := readZero (!isText) filled f rest
  let (width, rest) ← readNumber rest
  let (f, rest) ← readGroup { f with width := width } rest
  let (f, rest) ← readPrecision f rest
  let f ← match rest with
    | [] => pure (if isText then { f with style := some (.scalar 's') } else f)
    | [p] => pure { f with style := some p }
    | _ =>
      bad ("Invalid format specifier '" ++ Text.toString t ++ "' for object of type '" ++ type ++
        "'")
  match f.group, f.style with
  | some mark, some p =>
    if !allowsGroup mark (some p) then
      bad ("Cannot specify '" ++ String.singleton mark ++ "' with '" ++ inMessage p ++ "'.")
    return f
  | _, _ => return f

def unknownNotation {α : Type} (p : CodePoint) (type : String) : Except Fault α :=
  bad ("Unknown format code '" ++ inMessage p ++ "' for object of type '" ++ type ++ "'")

/-! ## Writing -/

/-- Digits in groups from the right, with zeros in front until they are as many
characters as `least`. -/
def grouped (mark : Char) (size : Nat) :
    (fuel : Nat) → (least : Int) → (reversed : List Char) → List Char
  | 0, _, _ => []
  | fuel + 1, least, reversed =>
    let n := min size (max 1 (max reversed.length least.toNat))
    let here := (reversed.take n ++ List.replicate (n - reversed.length) '0').reverse
    let rest := reversed.drop n
    let least := least - n
    if rest.isEmpty && least ≤ 0 then here
    else grouped mark size fuel (least - 1) rest ++ mark :: here

/-- Fill up to the width; `usual` is how to align if nothing is said. -/
def padded (usual : Align) (front body : Text) : Text :=
  let padding := f.width - (front.length + body.length)
  let filler (n : Nat) : Text := List.replicate n f.fill
  match f.align.getD usual with
  | .left => front ++ body ++ filler padding
  | .right => filler padding ++ front ++ body
  | .center => filler (padding / 2) ++ front ++ body ++ filler (padding - padding / 2)
  | .inside => front ++ filler padding ++ body

/-- Write a number: what stands before its digits, the digits, and what stands
after them. -/
def number (front digits after : List Char) : Text :=
  let others := front.length + after.length
  let least : Int := if f.fill = .scalar '0' && f.align = some .inside then f.width - others else 0
  let size := match f.style with
    | some (.scalar c) => if "boxX".toList.contains c then 4 else 3
    | _ => 3
  let body := match f.group with
    | some mark =>
      if digits.isEmpty then []
      else grouped mark size (f.width + digits.length + 1) least digits.reverse
    | none => digits
  f.padded .right (Text.ofChars front) (Text.ofChars (body ++ after))

def signText (negative : Bool) : List Char :=
  if negative then ['-']
  else
    match f.sign with
    | some '-' | none => []
    | some c => [c]

def writeText : Except Fault Text := do
  match f.style with
  | some (.scalar 's') | none => pure ()
  | some p => unknownNotation p "str"
  match f.sign with
  | some ' ' => bad "Space not allowed in string format specifier"
  | some _ => bad "Sign not allowed in string format specifier"
  | none => pure ()
  if f.plainZero then bad "Negative zero coercion (z) not allowed in string format specifier"
  if f.alternate then bad "Alternate form (#) not allowed in string format specifier"
  if f.align = some .inside then bad "'=' alignment not allowed in string format specifier"
  return f.padded .left [] (t.take (f.precision.getD t.length))

def splitDigits (cs : List Char) : List Char × List Char :=
  (cs.takeWhile Char.isDigit, cs.dropWhile Char.isDigit)

/-- A floating point number in general notation that keeps a digit after the
point. -/
def generalWithPoint (digits : Nat) (alternate : Bool) (m : Nat) (e : Int) : List Char :=
  let digits := max digits 1
  let (_, k) := Places.significant (digits - 1) m e
  if k = digits - 1 then
    let body := Places.scientific (digits - 1) alternate 'e' m e
    let mantissa := body.takeWhile (· != 'e')
    let mantissa :=
      if alternate || !mantissa.contains '.' then mantissa else Places.dropTrailing mantissa
    mantissa ++ body.dropWhile (· != 'e')
  else
    let body := Places.general digits alternate 'e' m e
    if body.contains '.' || body.contains 'e' then body else body ++ ['.', '0']

def realBody (c : Option Char) (m : Nat) (e : Int) : List Char :=
  let places := f.precision.getD 6
  match c with
  | none =>
    match f.precision with
    | none => if m = 0 then "0.0".toList else (Decimal.shortest m e).render .shown
    | some n => generalWithPoint n f.alternate m e
  | some c =>
    let mark := if c.isUpper then 'E' else 'e'
    if c = 'f' || c = 'F' || c = '%' then Places.fixed places f.alternate m e
    else if c = 'e' || c = 'E' then Places.scientific places f.alternate mark m e
    else Places.general places f.alternate mark m e

def isZeroText (cs : List Char) : Bool :=
  (cs.takeWhile fun c => c != 'e' && c != 'E').all fun c => c = '0' || c = '.'

def writeReal (c : Option Char) (x : Float) : Text :=
  let x := if c = some '%' then x * 100 else x
  let large := c.any Char.isUpper
  let suffix := if c = some '%' then ['%'] else []
  let word (s : String) := (if large then s.toList.map Format.upper else s.toList) ++ suffix
  match Binary64.ofFloat x with
  | .nan => f.number (f.signText false) [] (word "nan")
  | .infinite s => f.number (f.signText s) [] (word "inf")
  | .finite s m e =>
    let body := f.realBody c m e
    let (digits, after) := splitDigits body
    f.number (f.signText (s && !(f.plainZero && isZeroText body))) digits (after ++ suffix)

def realNotations : List Char := "eEfFgGn%".toList

def writeFloat (x : Float) : Except Fault Text :=
  match f.style with
  | none => .ok (f.writeReal none x)
  | some (.scalar c) =>
    if realNotations.contains c then .ok (f.writeReal (some c) x)
    else unknownNotation (.scalar c) "float"
  | some p => unknownNotation p "float"

def writeChar (n : Int) : Except Fault Text := do
  if f.sign.isSome then bad "Sign not allowed with integer format specifier 'c'"
  if f.alternate then bad "Alternate form (#) not allowed with integer format specifier 'c'"
  match CodePoint.ofInt? n with
  | none => throw .formattedCharOutOfRange
  | some p => return f.padded .right [] [p]

def writeWhole (base : Nat) (mark : List Char) (large : Bool) (n : Int) : Except Fault Text := do
  if base = 10 && !Value.isWritable n then throw .integerTooLong
  let digits := Nat.toDigits base n.natAbs
  let digits := if large then digits.map Format.upper else digits
  return f.number (f.signText (n < 0) ++ if f.alternate then mark else []) digits []

def writeInt (n : Int) : Except Fault Text := do
  let c ← match f.style with
    | none => pure 'd'
    | some (.scalar c) => pure c
    | some p => unknownNotation p type
  if c != 'n' && realNotations.contains c then
    match Binary64.ofInt? n with
    | some x => f.writeFloat x
    | none => throw .integerTooLarge
  else if !"bcdoxXn".toList.contains c then unknownNotation (.scalar c) type
  else if f.precision.isSome then bad "Precision not allowed in integer format specifier"
  else if f.plainZero then bad "Negative zero coercion (z) not allowed in integer format specifier"
  else
    match c with
    | 'c' => f.writeChar n
    | 'b' => f.writeWhole 2 ['0', 'b'] false n
    | 'o' => f.writeWhole 8 ['0', 'o'] false n
    | 'x' => f.writeWhole 16 ['0', 'x'] false n
    | 'X' => f.writeWhole 16 ['0', 'X'] true n
    | _ => f.writeWhole 10 [] false n

/-- Write a value as a specification tells. Without one it is written as it
is. -/
def write (v : Value) (spec : Text) : Run Text := do
  if spec.isEmpty then v.display
  else
    let type := typeName v
    match v with
    | .str t => Run.lift (do (← read type spec).writeText t)
    | .int n => Run.lift (do (← read type spec).writeInt type n)
    | .bool b => Run.lift (do (← read type spec).writeInt type (if b then 1 else 0))
    | .float x => Run.lift (do (← read type spec).writeFloat x)
    | .nan _ => Run.lift (do (← read type spec).writeFloat Binary64.nan.toFloat)
    | _ => throw .typeMismatch

end Field
end Script
end Scad
