/-!
Parse trees. A leaf is a matched terminal with its text and its place in the
source; an inner node carries the name of the grammar rule that made it.
A leaf that is not the whole right side of a rule has the empty rule name.
-/

namespace Scad

inductive Tree where
  | leaf (rule text : String) (pos : Nat)
  | node (rule : String) (children : List Tree)
  deriving Inhabited, Repr

namespace Tree

def rule : Tree → String
  | leaf r _ _ | node r _ => r

mutual

/-- The terminal texts below a tree, without separator. -/
def text : Tree → String
  | leaf _ s _ => s
  | node _ ts => textAll ts

def textAll : List Tree → String
  | [] => ""
  | t :: ts => t.text ++ textAll ts

end

mutual

/-- The text of a leaf; for an inner node its children's texts, divided by
bars. -/
def value : Tree → String
  | leaf _ s _ => s
  | node _ ts => valueAll ts

def valueAll : List Tree → String
  | [] => ""
  | [t] => t.value
  | t :: ts => t.value ++ " | " ++ valueAll ts

end

mutual

def height : Tree → Nat
  | leaf _ _ _ => 1
  | node _ ts => heightAll ts + 1

def heightAll : List Tree → Nat
  | [] => 0
  | t :: ts => max t.height (heightAll ts)

end

mutual

/-- All subtrees made by rule `r`, a parent before its children. -/
def select (r : String) : Tree → List Tree
  | leaf r' s p => if r' = r then [leaf r' s p] else []
  | node r' ts => if r' = r then node r' ts :: selectAll r ts else selectAll r ts

def selectAll (r : String) : List Tree → List Tree
  | [] => []
  | t :: ts => select r t ++ selectAll r ts

end

mutual

/-- The same tree with every place in the source set to zero: two texts that
differ in layout only have equal outlines. -/
def outline : Tree → Tree
  | leaf r s _ => leaf r s 0
  | node r ts => node r (outlineAll ts)

def outlineAll : List Tree → List Tree
  | [] => []
  | t :: ts => t.outline :: outlineAll ts

end

end Tree
end Scad
