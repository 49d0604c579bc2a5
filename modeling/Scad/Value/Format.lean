import Scad.Value.Number
import Scad.Value.Sequence
import Scad.Value.Show

/-!
Filling a text with values: `%` followed by flags, a width, a precision and a
conversion character takes the next value and writes it.
-/

namespace Scad
namespace Format

structure Flags where
  left : Bool := false
  sign : Bool := false
  blank : Bool := false
  alternate : Bool := false
  zero : Bool := false

structure Directive where
  key : Option String := none
  flags : Flags := {}
  width : Nat := 0
  precision : Option Nat := none

/-- The values still to be used. A single value that is not a tuple is used
once; a list or table need not be used at all. -/
structure Supply where
  whole : Value
  rest : List Value
  single : Bool
  optional : Bool

variable (d : Directive) (s : Supply) (t : Text) (conversion : Char) (v : Value)

def Supply.ofValue : Run Supply := do
  match v with
  | .tuple items => return ⟨v, items, false, false⟩
  | .dict _ => return ⟨v, [v], true, true⟩
  | _ => return ⟨v, [v], true, (← v.listItems?).isSome⟩

def Supply.next : Run (Value × Supply) :=
  match s.rest with
  | v :: rest => return (v, { s with rest := rest })
  | [] => throw .typeMismatch

def readKey : (depth : Nat) → Text → Option (Text × Text)
  | _, [] => none
  | depth, .scalar ')' :: t =>
    match depth with
    | 0 => some ([], t)
    | depth + 1 => (readKey depth t).map fun (k, rest) => (.scalar ')' :: k, rest)
  | depth, .scalar '(' :: t =>
    (readKey (depth + 1) t).map fun (k, rest) => (.scalar '(' :: k, rest)
  | depth, p :: t => (readKey depth t).map fun (k, rest) => (p :: k, rest)

def readFlags (f : Flags) : Text → Flags × Text
  | .scalar '-' :: t => readFlags { f with left := true } t
  | .scalar '+' :: t => readFlags { f with sign := true } t
  | .scalar ' ' :: t => readFlags { f with blank := true } t
  | .scalar '#' :: t => readFlags { f with alternate := true } t
  | .scalar '0' :: t => readFlags { f with zero := true } t
  | t => (f, t)

def readNat (acc : Nat) : Text → Nat × Text
  | .scalar c :: t =>
    if c.isDigit then readNat (acc * 10 + (c.toNat - 48)) t else (acc, .scalar c :: t)
  | t => (acc, t)

/-- What a size may be: it is less than `limit`, and otherwise one of the two
faults tells how it was given. -/
structure SizeRule where
  limit : Nat
  written : Fault
  supplied : Fault

def widthRule : SizeRule := ⟨Nat.pow 2 63, .formatTooWide, .widthTooWide⟩

def precisionRule : SizeRule := ⟨Nat.pow 2 31, .formatTooPrecise, .charTooWide⟩

def readSize (rule : SizeRule) (s : Supply) (t : Text) : Run (Int × Supply × Text) := do
  match t with
  | .scalar '*' :: t =>
    let (v, s) ← s.next
    match v.int? with
    | some n =>
      if n < -(rule.limit : Int) || (rule.limit : Int) ≤ n then throw rule.supplied
      return (n, s, t)
    | none => throw .typeMismatch
  | t =>
    let (n, t) := readNat 0 t
    if rule.limit ≤ n then throw rule.written
    return (n, s, t)

/-- Wider texts do not fit into memory. -/
def widthLimit : Nat := Nat.pow 2 32

def signText (f : Flags) (negative : Bool) : List Char :=
  if negative then ['-'] else if f.sign then ['+'] else if f.blank then [' '] else []

/-- Fill up to the width; zeros go between the sign or base mark and the
digits. -/
def pad (numeric : Bool) (mark : List Char) (body : Text) : Text :=
  let missing := d.width - (mark.length + body.length)
  let mark := Text.ofChars mark
  if d.flags.left then mark ++ body ++ List.replicate missing (.scalar ' ')
  else if numeric && d.flags.zero then mark ++ List.replicate missing (.scalar '0') ++ body
  else List.replicate missing (.scalar ' ') ++ mark ++ body

def upper (c : Char) : Char := if 'a' ≤ c && c ≤ 'z' then Char.ofNat (c.toNat - 32) else c

def escapeWide (s : String) : List Char :=
  s.toList.flatMap fun c => if c.toNat < 128 then [c] else Quoted.escapeHidden c.toNat

def writeText (text : Text) : Text :=
  pad d false [] (match d.precision with
    | some n => text.take n
    | none => text)

/-- The integer for a whole-number conversion; only `d`, `i` and `u` cut off a
fraction. -/
def wholeNumber : Run Int := do
  match v.num? with
  | none => throw .typeMismatch
  | some (.int n) => return n
  | some (.float x) =>
    if conversion == 'd' || conversion == 'i' || conversion == 'u' then
      Run.lift (Num.trunc (.float x))
    else throw .typeMismatch

def baseOf : Nat :=
  if conversion == 'o' then 8
  else if conversion == 'x' || conversion == 'X' then 16
  else 10

def writeWhole (n : Int) : Run Text := do
  let base := baseOf conversion
  if base == 10 && !Value.isWritable n then throw .integerTooLong
  let digits := Nat.toDigits base n.natAbs
  let digits := List.replicate (d.precision.getD 0 - digits.length) '0' ++ digits
  let digits := if conversion == 'X' then digits.map upper else digits
  let mark := signText d.flags (n < 0) ++
    if d.flags.alternate && base != 10 then ['0', conversion] else []
  return pad d true mark (Text.ofChars digits)

def writeReal (x : Float) : Text :=
  let large := 'A' ≤ conversion && conversion ≤ 'Z'
  let mark := if large then 'E' else 'e'
  let adjust (s : String) := Text.ofChars (if large then s.toList.map upper else s.toList)
  match Binary64.ofFloat x with
  | .nan => pad d true (signText d.flags false) (adjust "nan")
  | .infinite s => pad d true (signText d.flags s) (adjust "inf")
  | .finite s m e =>
    let places := d.precision.getD 6
    let body :=
      if conversion == 'f' || conversion == 'F' then Places.fixed places d.flags.alternate m e
      else if conversion == 'e' || conversion == 'E' then
        Places.scientific places d.flags.alternate mark m e
      else Places.general places d.flags.alternate mark m e
    pad d true (signText d.flags s) (Text.ofChars body)

def writeChar : Run Text := do
  match v with
  | .str [p] => return pad d false [] [p]
  | .str _ => throw .typeMismatch
  | _ =>
    let n ← Run.demand .typeMismatch v.int?
    return pad d false [] [← Run.demand .formattedCharOutOfRange (CodePoint.ofInt? n)]

def isWholeConversion (c : Char) : Bool :=
  c == 'd' || c == 'i' || c == 'u' || c == 'o' || c == 'x' || c == 'X'

def isRealConversion (c : Char) : Bool :=
  c == 'e' || c == 'E' || c == 'f' || c == 'F' || c == 'g' || c == 'G'

def convert (index : Nat) (v : Value) : Run Text := do
  if conversion == 's' then return writeText d (← v.display)
  else if conversion == 'r' then return writeText d (← v.shown)
  else if conversion == 'a' then return writeText d (Text.ofChars (escapeWide (← v.shown)))
  else if isWholeConversion conversion then
    writeWhole d conversion (← wholeNumber conversion v)
  else if isRealConversion conversion then
    match v.num? with
    | some n => return writeReal d conversion (← Run.lift n.toFloat)
    | none => throw .typeMismatch
  else if conversion == 'c' then writeChar d v
  else throw (.badFormatChar conversion.toNat index)

/-- A key in brackets: what a table holds under it is the next value. -/
def readEntry : Run (Supply × Text) :=
  match t with
  | .scalar '(' :: t =>
    match s.whole with
    | .tuple _ | .str _ => throw .typeMismatch
    | _ => do
      if !s.optional then throw .typeMismatch
      let found ← Run.demand .incompleteFormatKey (readKey 0 t)
      let v ← s.whole.item (.str found.1)
      return ({ s with rest := [v], single := true }, found.2)
  | t => return (s, t)

def readPrecision : Run (Option Nat × Supply × Text) :=
  match t with
  | .scalar '.' :: t => do
    let (n, s, t) ← readSize precisionRule s t
    return (some n.toNat, s, t)
  | t => return (none, s, t)

/-- A length mark has no meaning. -/
def skipLength : Text → Text
  | .scalar 'h' :: rest | .scalar 'l' :: rest | .scalar 'L' :: rest => rest
  | t => t

def readDirective : Run (Directive × Supply × Text) := do
  let (s, t) ← readEntry s t
  let (flags, t) := readFlags {} t
  let (width, s, t) ← readSize widthRule s t
  let flags := if width < 0 then { flags with left := true } else flags
  let (precision, s, t) ← readPrecision s t
  return ({ flags := flags, width := width.natAbs, precision := precision }, s, skipLength t)

def convertBy (conversion : CodePoint) (index : Nat) (v : Value) : Run Text :=
  match conversion with
  | .scalar c => convert d c index v
  | p => throw (.badFormatChar p.toNat index)

def fillDirective (total : Nat) (more : Supply → Text → Run Text) (s : Supply) (t : Text) :
    Run Text := do
  let (d, s, t) ← readDirective s t
  match t with
  | [] => throw .incompleteFormat
  | conversion :: t =>
    let (v, s) ← s.next
    let fits := d.width ≤ widthLimit
    let text ← convertBy (if fits then d else { d with width := 0 }) conversion
      (total - t.length - 1) v
    if fits then return text ++ (← more s t) else throw .outOfMemory

/-- Fill `t`, whose first code point stands at place `total - t.length`. -/
def fillFrom (total : Nat) : (fuel : Nat) → Supply → Text → Run Text
  | 0, _, _ => throw .tooDeep
  | fuel + 1, s, t =>
    match t with
    | [] => if s.rest.isEmpty || s.optional then return [] else throw .typeMismatch
    | .scalar '%' :: .scalar '%' :: t => return .scalar '%' :: (← fillFrom total fuel s t)
    | .scalar '%' :: t => fillDirective total (fillFrom total fuel) s t
    | p :: t => return p :: (← fillFrom total fuel s t)

/-- Fill a text with the items of a tuple, or with one other value. -/
def fill : Run Text := do
  fillFrom t.length (t.length + 1) (← Supply.ofValue v) t

end Format
end Scad
