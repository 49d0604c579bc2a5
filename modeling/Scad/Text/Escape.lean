import Scad.Text.CharName
import Scad.Text.CodePoint

/-!
Reading string literals. A backslash begins an escape: a letter for a control
character, up to three octal digits, two, four or eight hexadecimal digits for
a code point, or the name of a character. A backslash before a line end joins
the lines, and before any other character it stands for itself.
-/

namespace Scad
namespace Escape

def hexValue? (c : Char) : Option Nat :=
  if '0' ≤ c && c ≤ '9' then some (c.toNat - 48)
  else if 'a' ≤ c && c ≤ 'f' then some (c.toNat - 87)
  else if 'A' ≤ c && c ≤ 'F' then some (c.toNat - 55)
  else none

def octalValue? (c : Char) : Option Nat :=
  if '0' ≤ c && c ≤ '7' then some (c.toNat - 48) else none

def hexNumber? (acc : Nat) : List Char → Option Nat
  | [] => some acc
  | c :: cs => (hexValue? c).bind fun d => hexNumber? (acc * 16 + d) cs

def single? (c : Char) : Option Char :=
  match c with
  | 'n' => some '\n'
  | 't' => some '\t'
  | 'r' => some '\r'
  | 'a' => some (Char.ofNat 7)
  | 'b' => some (Char.ofNat 8)
  | 'f' => some (Char.ofNat 12)
  | 'v' => some (Char.ofNat 11)
  | '\\' => some '\\'
  | '\'' => some '\''
  | '"' => some '"'
  | _ => none

def octal (acc : Nat) : List Char → Nat × Nat
  | a :: b :: _ =>
    match octalValue? a, octalValue? b with
    | some x, some y => ((acc * 8 + x) * 8 + y, 2)
    | some x, none => (acc * 8 + x, 1)
    | none, _ => (acc, 0)
  | [a] =>
    match octalValue? a with
    | some x => (acc * 8 + x, 1)
    | none => (acc, 0)
  | [] => (acc, 0)

def hexWidth? (c : Char) : Option Nat :=
  if c = 'x' then some 2 else if c = 'u' then some 4 else if c = 'U' then some 8 else none

/-- What an escape stands for that names a character in braces, and how many
characters it takes after the letter. -/
def named? : List Char → Option (CodePoint × Nat)
  | c :: cs =>
    if c = '\x7b' then
      let name := cs.takeWhile (· != '\x7d')
      if name.length < cs.length then
        (CharName.find? name).map fun d => (.scalar d, name.length + 2)
      else none
    else none
  | [] => none

/-- One escape after its backslash: what it stands for and how many characters
it takes. `none` if it is broken. -/
def readEscape : List Char → Option (Text × Nat)
  | [] => none
  | c :: cs =>
    match hexWidth? c with
    | some width =>
      let digits := cs.take width
      if digits.length < width then none
      else ((hexNumber? 0 digits).bind CodePoint.ofNat?).map fun p => ([p], width + 1)
    | none =>
      match octalValue? c with
      | some d =>
        let (n, more) := octal d cs
        some ([.scalar (Char.ofNat n)], more + 1)
      | none =>
        match single? c with
        | some d => some ([.scalar d], 1)
        | none =>
          if c = 'N' then (named? cs).map fun (p, n) => ([p], n + 1)
          else if c = '\n' then some ([], 1)
          else some ([.scalar '\\', .scalar c], 1)

/-- The text that the inside of a literal stands for, after what is in `done`,
which is in reverse. -/
def decode : (fuel : Nat) → (done : Text) → List Char → Option Text
  | 0, _, _ => none
  | _ + 1, done, [] => some done.reverse
  | fuel + 1, done, '\\' :: cs =>
    match readEscape cs with
    | none => none
    | some (ds, n) => decode fuel (ds.reverse ++ done) (cs.drop n)
  | fuel + 1, done, c :: cs => decode fuel (.scalar c :: done) cs

def decodeAll (cs : List Char) : Option Text := decode (cs.length + 1) [] cs

end Escape
end Scad
