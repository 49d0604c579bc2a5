import Scad.Text.CodePoint
import Scad.Text.Printable

/-!
Texts in quotes, as values show them. The quotes are single unless the text has
a single quote and no double one; whatever has no visible form is written by
its code point.
-/

namespace Scad
namespace Quoted

def hexDigit (n : Nat) : Char := if n < 10 then Char.ofNat (48 + n) else Char.ofNat (87 + n)

def hex : (width : Nat) → Nat → List Char
  | 0, _ => []
  | width + 1, n => hexDigit (n / Nat.pow 16 width % 16) :: hex width n

def escapeHidden (n : Nat) : List Char :=
  if n < 0x100 then '\\' :: 'x' :: hex 2 n
  else if n < 0x10000 then '\\' :: 'u' :: hex 4 n
  else '\\' :: 'U' :: hex 8 n

def escape (quote c : Char) : List Char :=
  if c == quote || c == '\\' then ['\\', c]
  else if c == '\n' then ['\\', 'n']
  else if c == '\r' then ['\\', 'r']
  else if c == '\t' then ['\\', 't']
  else if isPrintable c then [c]
  else escapeHidden c.toNat

def escapePoint (quote : Char) : CodePoint → List Char
  | .scalar c => escape quote c
  | p => escapeHidden p.toNat

def quoteFor (t : Text) : Char :=
  if t.contains (.scalar '\'') && !t.contains (.scalar '"') then '"' else '\''

def write (t : Text) : String :=
  let quote := quoteFor t
  String.ofList (quote :: (t.flatMap (escapePoint quote) ++ [quote]))

end Quoted
end Scad
