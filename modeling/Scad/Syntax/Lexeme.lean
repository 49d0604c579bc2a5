/-!
The lexical classes of the language and its layout. Each class is a function
from the text ahead to the length of the longest admitted beginning, or `none`
if the text does not begin with a member of the class.
-/

namespace Scad

inductive Lexeme where
  | number
  | symbol
  | doubleQuoted
  | singleQuoted
  | path
  deriving DecidableEq, Repr

namespace Lexeme

def isDigit (c : Char) : Bool := '0' ≤ c && c ≤ '9'

def isLetter (c : Char) : Bool :=
  ('a' ≤ c && c ≤ 'z') || ('A' ≤ c && c ≤ 'Z') || c == '_'

def countWhile (p : Char → Bool) : List Char → Nat
  | [] => 0
  | c :: cs => if p c then countWhile p cs + 1 else 0

/-- An exponent mark is read with its sign and without digits. -/
def exponentLength : List Char → Nat
  | e :: s :: _ => if (e == 'e' || e == 'E') && (s == '+' || s == '-') then 2 else 0
  | _ => 0

def numberLength (cs : List Char) : Option Nat :=
  let whole := countWhile isDigit cs
  match cs.drop whole with
  | '.' :: after =>
    let places := countWhile isDigit after
    if whole + places = 0 then none
    else
      let n := whole + 1 + places
      some (n + exponentLength (cs.drop n))
  | after => if whole = 0 then none else some (whole + exponentLength after)

def identifierLength : List Char → Option Nat
  | c :: cs =>
    if isLetter c then some (countWhile (fun d => isLetter d || isDigit d) cs + 1) else none
  | [] => none

def symbolLength : List Char → Option Nat
  | '$' :: cs => (identifierLength cs).map (· + 1)
  | cs => identifierLength cs

/-- The length up to and with the closing quote `q`, after `n` characters. A
backslash takes the next character with it, which may not be a line feed. -/
def untilQuote (q : Char) (n : Nat) : List Char → Option Nat
  | [] => none
  | '\\' :: c :: cs => if c = '\n' then none else untilQuote q (n + 2) cs
  | c :: cs =>
    if c = q then some (n + 1)
    else if c = '\\' then none
    else untilQuote q (n + 1) cs

def quotedLength (q : Char) : List Char → Option Nat
  | c :: cs => if c = q then untilQuote q 1 cs else none
  | [] => none

def pathLength : List Char → Option Nat
  | '<' :: cs =>
    let n := countWhile (fun c => c != '>' && c != '\r' && c != '\n') cs
    match cs.drop n with
    | '>' :: _ => some (n + 2)
    | _ => none
  | _ => none

def length? : Lexeme → List Char → Option Nat
  | number => numberLength
  | symbol => symbolLength
  | doubleQuoted => quotedLength '"'
  | singleQuoted => quotedLength '\''
  | path => pathLength

end Lexeme

/-! ## Layout -/

namespace Layout

def isBlank (c : Char) : Bool := c == ' ' || c == '\t' || c == '\n' || c == '\r'

/-- The length of a block comment's inside with its closing mark. A block
comment stays on its line. -/
def untilClose : List Char → Option Nat
  | '*' :: '/' :: _ => some 2
  | c :: cs => if c = '\n' then none else (untilClose cs).map (· + 1)
  | [] => none

def commentLength : List Char → Option Nat
  | '/' :: '/' :: cs => some (Lexeme.countWhile (fun c => c != '\r' && c != '\n') cs + 2)
  | '/' :: '*' :: cs => (untilClose cs).map (· + 2)
  | _ => none

/-- The length of the white space and comments at the front, if `bound` is at
least the number of comments there. -/
def skip : (bound : Nat) → List Char → Nat
  | 0, cs => Lexeme.countWhile isBlank cs
  | bound + 1, cs =>
    let blanks := Lexeme.countWhile isBlank cs
    let after := cs.drop blanks
    match commentLength after with
    | some n => blanks + n + skip bound (after.drop n)
    | none => blanks

end Layout
end Scad
