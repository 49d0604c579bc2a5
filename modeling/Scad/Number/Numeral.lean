import Scad.Number.Shortest

/-!
Reading numerals: whole numbers of unbounded size, and decimal fractions with
an optional exponent, rounded to the nearest floating point number. Blanks
around a numeral are ignored and single underscores may stand between digits,
which may be those of any script.
-/

namespace Scad

/-! ## Blanks and digits -/

namespace Blank

def isBlank (c : Char) : Bool :=
  let n := c.toNat
  (9 ≤ n && n ≤ 13) || (28 ≤ n && n ≤ 32) || n == 0x85 || n == 0xa0 || n == 0x1680 ||
    (0x2000 ≤ n && n ≤ 0x200a) || n == 0x2028 || n == 0x2029 || n == 0x202f || n == 0x205f ||
    n == 0x3000

def trim (cs : List Char) : List Char :=
  ((cs.dropWhile isBlank).reverse.dropWhile isBlank).reverse

end Blank

namespace Digit

/-- In every script the digits from zero to nine are neighbours, so the zeros tell all. -/
def zeros : List Nat :=
  [0x660, 0x6f0, 0x7c0, 0x966, 0x9e6, 0xa66, 0xae6, 0xb66, 0xbe6, 0xc66, 0xce6, 0xd66, 0xde6, 0xe50,
    0xed0, 0xf20, 0x1040, 0x1090, 0x17e0, 0x1810, 0x1946, 0x19d0, 0x1a80, 0x1a90, 0x1b50, 0x1bb0,
    0x1c40, 0x1c50, 0xa620, 0xa8d0, 0xa900, 0xa9d0, 0xa9f0, 0xaa50, 0xabf0, 0xff10, 0x104a0,
    0x10d30, 0x11066, 0x110f0, 0x11136, 0x111d0, 0x112f0, 0x11450, 0x114d0, 0x11650, 0x116c0,
    0x11730, 0x118e0, 0x11950, 0x11c50, 0x11d50, 0x11da0, 0x16a60, 0x16ac0, 0x16b50,
    0x1d7ce, 0x1d7d8, 0x1d7e2, 0x1d7ec, 0x1d7f6, 0x1e140, 0x1e2f0, 0x1e950, 0x1fbf0]

def value? (c : Char) : Option Nat :=
  let n := c.toNat
  if n < 128 then if '0' ≤ c && c ≤ '9' then some (n - 48) else none
  else (zeros.find? fun z => z ≤ n && n < z + 10).map (n - ·)

end Digit

/-! ## Numbers -/

namespace Numeral

def isDigit (c : Char) : Bool := (Digit.value? c).isSome

def digitValue (c : Char) : Nat := (Digit.value? c).getD 0

/-- A run of digits, single underscores between them: their value after
`acc`, their number after `count`, and the rest. -/
def readDigits (acc count : Nat) : List Char → Nat × Nat × List Char
  | [] => (acc, count, [])
  | '_' :: d :: cs =>
    if count != 0 && isDigit d then readDigits (acc * 10 + digitValue d) (count + 1) cs
    else (acc, count, '_' :: d :: cs)
  | c :: cs =>
    if isDigit c then readDigits (acc * 10 + digitValue c) (count + 1) cs
    else (acc, count, c :: cs)

def readSign : List Char → Bool × List Char
  | '-' :: cs => (true, cs)
  | '+' :: cs => (false, cs)
  | cs => (false, cs)

def maxDigits : Nat := 4300

def int? (text : String) : Option Int :=
  let (negative, cs) := readSign (Blank.trim text.toList)
  match readDigits 0 0 cs with
  | (n, count, []) =>
    if count = 0 || maxDigits < count then none
    else some (if negative then -(n : Int) else n)
  | _ => none

def digitCount (text : String) : Nat := (text.toList.filter isDigit).length

/-- An exponent part: its value and the rest. Without a digit there is none. -/
def readExponent : List Char → Int × List Char
  | c :: cs =>
    if c == 'e' || c == 'E' then
      let (negative, digits) := readSign cs
      match readDigits 0 0 digits with
      | (_, 0, _) => (0, c :: cs)
      | (n, _, rest) => (if negative then -(n : Int) else n, rest)
    else (0, c :: cs)
  | [] => (0, [])

/-- Beyond this decimal exponent every number is infinite, or zero. -/
def exponentBound : Int := 400

def decimal (negative : Bool) (n : Nat) (e : Int) : Float :=
  let magnitude := e + Decimal.digitCount n
  let b :=
    if n = 0 || magnitude < -exponentBound then
      Binary64.finite negative 0 Binary64.leastExponent
    else if exponentBound < magnitude then Binary64.infinite negative
    else Binary64.ofRatio negative (n * Nat.pow 10 e.toNat) (Nat.pow 10 (-e).toNat)
  b.toFloat

def lower (c : Char) : Char := if 'A' ≤ c && c ≤ 'Z' then Char.ofNat (c.toNat + 32) else c

def word? (negative : Bool) (cs : List Char) : Option Float :=
  let w := String.ofList (cs.map lower)
  if w = "inf" || w = "infinity" then some (Binary64.infinite negative).toFloat
  else if w = "nan" then some Binary64.nan.toFloat
  else none

def float? (text : String) : Option Float :=
  let (negative, cs) := readSign (Blank.trim text.toList)
  match word? negative cs with
  | some x => some x
  | none =>
    let (n, count, rest) := readDigits 0 0 cs
    let (n, places, rest) := match rest with
      | '.' :: after =>
        match readDigits 0 0 after with
        | (f, places, rest) => (n * Nat.pow 10 places + f, places, rest)
      | rest => (n, 0, rest)
    if count + places = 0 then none
    else
      match readExponent rest with
      | (e, []) => some (decimal negative n (e - places))
      | _ => none

end Numeral
end Scad
