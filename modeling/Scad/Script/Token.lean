import Scad.Number.Numeral
import Scad.Text.Escape
import Scad.Text.Identifier

/-!
The tokens of the script language, in which definitions are written and in which
string literals are formulas. Line ends count outside brackets only, and so does
the indentation of a line; a hash sign begins a comment. Where the text cannot be
read there is a bad token, and nothing after it.
-/

namespace Scad
namespace Script

inductive Token where
  | name (s : String)
  | keyword (s : String)
  | integer (n : Nat)
  | real (x : Float)
  | imaginary (x : Float)
  | text (t : Text)
  | bytes (values : List Nat)
  /-- A text with places to be filled; `raw` if a backslash is nothing special. -/
  | template (raw : Bool) (inside : List Char)
  | op (s : String)
  | newline
  | indent
  | dedent
  | bad
  deriving Inhabited

def keywords : List String := Identifier.words "
  False None True and as assert async await break class continue def del elif else except finally
  for from global if import in is lambda nonlocal not or pass raise return try while with yield"

/-- The operators, longer ones before their beginnings. -/
def operators : List String := Identifier.words "
  **= //= >>= <<= ... != %= &= ** *= += -= -> // /= := << <= == >= >> @= ^= |= % & ( ) * + , - . / :
  ; < = > @ [ ] ^ \x7b | \x7d ~"

namespace Lexer

variable (cs : List Char) (width : Nat)

def lineFeeds : List Char → List Char
  | '\r' :: '\n' :: cs => '\n' :: lineFeeds cs
  | '\r' :: cs => '\n' :: lineFeeds cs
  | c :: cs => c :: lineFeeds cs
  | [] => []

def operator? : List String → Option (String × List Char)
  | [] => none
  | s :: rest =>
    match s.toList.isPrefixOf? cs with
    | some more => some (s, more)
    | none => operator? rest

/-! ## Numbers -/

/-- A run of digits of a base, with single underscores between them, in
reverse; `last` tells whether the character before was a digit. -/
def digitRun (base : Nat) (last : Bool) (done : List Nat) :
    List Char → Option (List Nat × List Char)
  | '_' :: c :: cs =>
    match if last then (Escape.hexValue? c).filter (· < base) else none with
    | some d => digitRun base true (d :: done) cs
    | none => none
  | c :: cs =>
    match (Escape.hexValue? c).filter (· < base) with
    | some d => digitRun base true (d :: done) cs
    | none => if c = '_' then none else some (done, c :: cs)
  | [] => some (done, [])

def numberOf (base : Nat) (reversed : List Nat) : Nat :=
  reversed.foldr (fun d acc => acc * base + d) 0

def wordsAfterNumber : List String := Identifier.words "and else for if in is not or"

/-- A number must not run into a name. -/
def endsNumber : Bool :=
  match cs with
  | [] => true
  | c :: _ =>
    !Identifier.isCandidate c || wordsAfterNumber.any fun w => w.toList.isPrefixOf cs

def based? (base : Nat) (cs : List Char) : Option (Token × List Char) := do
  let (digits, rest) ← match cs with
    | '_' :: cs => digitRun base false [] cs
    | cs => digitRun base false [] cs
  if digits.isEmpty || !endsNumber rest then none
  return (.integer (numberOf base digits), rest)

/-- The digits after an exponent mark: the exponent and the rest. Without a mark
the exponent is 0; a mark without digits belongs to a word. -/
def exponent? : Option (Bool × Int × List Char) :=
  match cs with
  | c :: after =>
    if c = 'e' || c = 'E' then
      let (signed, negative, digits) := match after with
        | '-' :: ds => (true, true, ds)
        | '+' :: ds => (true, false, ds)
        | ds => (false, false, ds)
      match digits with
      | d :: _ =>
        if Identifier.isDigit d then do
          let (ds, rest) ← digitRun 10 false [] digits
          let n : Int := numberOf 10 ds
          return (true, if negative then -n else n, rest)
        else if signed then none
        else some (false, 0, cs)
      | [] => if signed then none else some (false, 0, cs)
    else some (false, 0, cs)
  | [] => some (false, 0, cs)

/-- A decimal number. Without a fraction or an exponent it is whole, and then it
must not begin with a zero unless it is zero. -/
def decimal? : Option (Token × List Char) := do
  let (whole, rest) ← digitRun 10 false [] cs
  let (hasPoint, places, rest) ← match rest with
    | '.' :: after => do
      match after with
      | '_' :: _ => some (true, [], after)
      | after => do
        let (places, rest) ← digitRun 10 false [] after
        some (true, places, rest)
    | rest => some (false, [], rest)
  if whole.isEmpty && places.isEmpty then none
  let (hasExponent, e, rest) ← exponent? rest
  let n := numberOf 10 (places ++ whole)
  let x := Numeral.decimal false n (e - places.length)
  match rest with
  | 'j' :: rest | 'J' :: rest => if endsNumber rest then some (.imaginary x, rest) else none
  | rest =>
    if !endsNumber rest then none
    if hasPoint || hasExponent then return (.real x, rest)
    if n != 0 && whole.getLast? == some 0 then none
    if Numeral.maxDigits < whole.length then none
    return (.integer n, rest)

def number? : List Char → Option (Token × List Char)
  | '0' :: c :: cs =>
    if c = 'x' || c = 'X' then based? 16 cs
    else if c = 'o' || c = 'O' then based? 8 cs
    else if c = 'b' || c = 'B' then based? 2 cs
    else decimal? ('0' :: c :: cs)
  | cs => decimal? cs

/-! ## Strings -/

/-- The inside of a literal up to its closing quote, in reverse, and what
follows it. A literal with three quotes may span lines. -/
def untilQuote (q : Char) (triple : Bool) (done : List Char) :
    List Char → Option (List Char × List Char)
  | [] => none
  | ['\\'] => none
  | '\\' :: c :: cs => untilQuote q triple (c :: '\\' :: done) cs
  | a :: b :: c :: cs =>
    if triple && a = q && b = q && c = q then some (done, cs)
    else if !triple && a = q then some (done, b :: c :: cs)
    else if !triple && a = '\n' then none
    else untilQuote q triple (a :: done) (b :: c :: cs)
  | c :: cs =>
    if !triple && c = q then some (done, cs)
    else if !triple && c = '\n' then none
    else untilQuote q triple (c :: done) cs

structure Marks where
  raw : Bool
  bytes : Bool
  template : Bool

def marks? (word : List Char) : Option Marks :=
  match String.ofList (word.map Numeral.lower) with
  | "" | "u" => some ⟨false, false, false⟩
  | "r" => some ⟨true, false, false⟩
  | "b" => some ⟨false, true, false⟩
  | "br" | "rb" => some ⟨true, true, false⟩
  | "f" => some ⟨false, false, true⟩
  | "fr" | "rf" => some ⟨true, false, true⟩
  | _ => none

/-- The bytes that the inside of a literal stands for. Names and wide code
points are nothing special here. -/
def decodeBytes : (fuel : Nat) → List Char → Option (List Nat)
  | 0, _ => none
  | _ + 1, [] => some []
  | fuel + 1, '\\' :: c :: cs =>
    if c = 'u' || c = 'U' || c = 'N' then do
      let rest ← decodeBytes fuel cs
      return '\\'.toNat :: c.toNat :: rest
    else do
      let (ps, n) ← Escape.readEscape (c :: cs)
      let rest ← decodeBytes fuel ((c :: cs).drop n)
      return ps.map (·.toNat % 256) ++ rest
  | fuel + 1, c :: cs => do
    let rest ← decodeBytes fuel cs
    return c.toNat :: rest

def literal? (m : Marks) (inside : List Char) : Option Token :=
  if m.template then some (.template m.raw inside)
  else if m.bytes then
    if inside.any (128 ≤ ·.toNat) then none
    else if m.raw then some (.bytes (inside.map Char.toNat))
    else (decodeBytes (inside.length + 1) inside).map .bytes
  else if m.raw then some (.text (Text.ofChars inside))
  else (Escape.decodeAll inside).map .text

def string? (m : Marks) (q : Char) (cs : List Char) : Option (Token × List Char) := do
  let (triple, cs) := match cs with
    | a :: b :: rest => if a = q && b = q then (true, rest) else (false, cs)
    | cs => (false, cs)
  let (inside, rest) ← untilQuote q triple [] cs
  return (← literal? m inside.reverse, rest)

def word? : Option (Token × List Char) :=
  let word := cs.takeWhile Identifier.isCandidate
  let rest := cs.drop word.length
  let plain : Option (Token × List Char) :=
    match word with
    | [] => none
    | c :: more =>
      if Identifier.isInitial c && more.all Identifier.isFurther then
        let s := String.ofList word
        some (if keywords.contains s then .keyword s else .name s, rest)
      else none
  match rest with
  | q :: after =>
    if q = '"' || q = '\'' then
      match marks? word with
      | some m => string? m q after
      | none => plain
    else plain
  | [] => plain

/-! ## Lines -/

/-- What is known while a text is read: the brackets that are open, the widths
of the indentations around the line, and whether a line begins here. -/
structure State where
  brackets : List Char := []
  indents : List Nat := []
  atStart : Bool := true

/-- More brackets than this cannot be open. -/
def bracketLimit : Nat := 200

/-- The width of the blanks at the beginning of a line, and the rest of it. -/
def indentation (width : Nat) : List Char → Nat × List Char
  | ' ' :: cs => indentation (width + 1) cs
  | '\t' :: cs => indentation ((width / 8 + 1) * 8) cs
  | '\x0c' :: cs => indentation 0 cs
  | cs => (width, cs)

/-- The indentations that end where a line is `width` wide, and those that
stay. -/
def leaveIndents : List Nat → List Token × List Nat
  | [] => ([], [])
  | w :: ws =>
    if width < w then
      let (tokens, stay) := leaveIndents ws
      (.dedent :: tokens, stay)
    else ([], w :: ws)

def indentTokens (indents : List Nat) : List Token × List Nat :=
  if indents.headD 0 < width then ([.indent], width :: indents)
  else
    let (tokens, stay) := leaveIndents width indents
    if stay.headD 0 = width then (tokens, stay) else (tokens ++ [.bad], stay)

def closes (s : String) : List Char → Bool
  | '(' :: _ => s = ")"
  | '[' :: _ => s = "]"
  | '\x7b' :: _ => s = "\x7d"
  | _ => false

/-- Open or close brackets with an operator; `none` if that cannot be. -/
def bracket? (s : String) (open_ : List Char) : Option (List Char) :=
  if s = "(" || s = "[" || s = "\x7b" then
    if bracketLimit ≤ open_.length then none else some (s.toList ++ open_)
  else if s = ")" || s = "]" || s = "\x7d" then
    if closes s open_ then some open_.tail else none
  else some open_

def token? : Option (Token × List Char) :=
  match cs with
  | [] => none
  | c :: after =>
    if c = '"' || c = '\'' then string? ⟨false, false, false⟩ c after
    else if Identifier.isDigit c then number? cs
    else if c = '.' && after.head?.any Identifier.isDigit then number? cs
    else if Identifier.isCandidate c then word? cs
    else (operator? cs operators).map fun (s, rest) => (.op s, rest)

def tokens : (fuel : Nat) → State → List Char → List Token
  | 0, _, _ => [.bad]
  | fuel + 1, st, cs =>
    if st.atStart then
      let (width, rest) := indentation 0 cs
      match rest with
      | [] => st.indents.map fun _ => .dedent
      | '\n' :: rest => tokens fuel st rest
      | '#' :: rest => tokens fuel st (rest.dropWhile (· != '\n'))
      | _ =>
        let (made, indents) := indentTokens width st.indents
        made ++ tokens fuel { st with indents := indents, atStart := false } rest
    else
      match cs with
      | [] => if st.brackets.isEmpty then [.newline] else [.bad]
      | '\n' :: rest =>
        if st.brackets.isEmpty then .newline :: tokens fuel { st with atStart := true } rest
        else tokens fuel st rest
      | '#' :: rest => tokens fuel st (rest.dropWhile (· != '\n'))
      | '\\' :: '\n' :: rest => if rest.isEmpty then [.bad] else tokens fuel st rest
      | c :: rest =>
        if c = ' ' || c = '\t' || c = '\x0c' then tokens fuel st rest
        else
          match token? cs with
          | none => [.bad]
          | some (.op s, rest) =>
            match bracket? s st.brackets with
            | none => [.bad]
            | some brackets => .op s :: tokens fuel { st with brackets := brackets } rest
          | some (t, rest) => t :: tokens fuel st rest

end Lexer

/-- The tokens of a text. No text with a null character can be read. -/
def tokensOf (text : List Char) : List Token :=
  if text.contains (Char.ofNat 0) then [.bad]
  else
    let cs := Lexer.lineFeeds text
    let cs := if cs.getLast? == some '\n' then cs else cs ++ ['\n']
    Lexer.tokens (2 * cs.length + 2) {} cs

end Script
end Scad
