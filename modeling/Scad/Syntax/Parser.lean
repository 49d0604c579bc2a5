import Scad.Syntax.Grammar
import Scad.Syntax.Tree

/-!
Matching parsing expressions against a text. A match gives the trees it made
and the place where it ended. Every attempt also reports the furthest place at
which a terminal was tried in vain; if the whole text does not match, that
place is the position of the syntax error.
-/

namespace Scad

/-- A place in the source: the number of characters before it and the
characters after it. -/
structure Cursor where
  pos : Nat
  rest : List Char

namespace Cursor

def advance (n : Nat) (c : Cursor) : Cursor := ⟨c.pos + n, c.rest.drop n⟩

def start (text : String) : Cursor := ⟨0, text.toList⟩

end Cursor

/-- The outcome of matching an expression. `far` is the furthest place of a
failed terminal so far. `exhausted` says that the step bound was too small. -/
inductive Match where
  | done (trees : List Tree) (rest : Cursor) (far : Nat)
  | failed (far : Nat)
  | exhausted

/-- What an alternative makes of its outcome: without a result it failed. -/
def Match.chosen : Match → Match
  | done [] _ far => failed far
  | m => m

def Terminal.length? : Terminal → List Char → Option Nat
  | word text, cs => if text.toList.isPrefixOf cs then some text.length else none
  | lexeme kind, cs => kind.length? cs
  | finish, cs => if cs.isEmpty then some 0 else none

/-- The rule name of a leaf: the end of the text has one of its own. -/
def Terminal.label (t : Terminal) (name : String) : String :=
  match t with
  | finish => "EOF"
  | _ => name

/-- A terminal is tried after white space and comments. -/
def Terminal.run (size : Nat) (name : String) (t : Terminal) (c : Cursor) (far : Nat) : Match :=
  let c := c.advance (Layout.skip size c.rest)
  match t.length? c.rest with
  | some n =>
    .done [.leaf (t.label name) (String.ofList (c.rest.take n)) c.pos] (c.advance n) far
  | none => .failed (max far c.pos)

/-- Match an expression in at most `fuel` nested steps; `size` is the length of
the whole text.

A rule whose right side is a terminal makes a leaf under its own name, any
other rule an inner node, and a rule that matched without a result makes
nothing, which ends a repetition. -/
def Peg.run (size : Nat) : (fuel : Nat) → Peg → Cursor → Nat → Match
  | 0, _, _, _ => .exhausted
  | _ + 1, .terminal t, c, far => t.run size "" c far
  | fuel + 1, .rule r, c, far =>
    match r.body with
    | .terminal t => t.run size r.name c far
    | body =>
      match body.run size fuel c far with
      | .done [] c far => .done [] c far
      | .done ts c far => .done [.node r.name ts] c far
      | m => m
  | fuel + 1, .seq a b, c, far =>
    match a.run size fuel c far with
    | .done ts c far =>
      match b.run size fuel c far with
      | .done us c far => .done (ts ++ us) c far
      | m => m
    | m => m
  | fuel + 1, .alt a b, c, far =>
    match a.run size fuel c far with
    | .done [] _ far | .failed far => (b.run size fuel c far).chosen
    | m => m
  | fuel + 1, .many a, c, far =>
    match a.run size fuel c far with
    | .done [] c far => .done [] c far
    | .done ts c far =>
      match (Peg.many a).run size fuel c far with
      | .done us c far => .done (ts ++ us) c far
      | m => m
    | .failed far => .done [] c far
    | m => m
  | fuel + 1, .opt a, c, far =>
    match a.run size fuel c far with
    | .failed far => .done [] c far
    | m => m

inductive SyntaxError where
  | noMatch (pos : Nat)
  | exhausted
  deriving DecidableEq, Repr

/-- More steps than matching can nest between two consumed characters. -/
def stepsPerChar : Nat := 1024

def parseRule (r : Rule) (text : String) : Except SyntaxError Tree :=
  match (Peg.rule r).run text.length (stepsPerChar * (text.length + 1)) (.start text) 0 with
  | .done (t :: _) _ _ => .ok t
  | .done [] _ far | .failed far => .error (.noMatch far)
  | .exhausted => .error .exhausted

def parse (text : String) : Except SyntaxError Tree := parseRule .input text

end Scad
