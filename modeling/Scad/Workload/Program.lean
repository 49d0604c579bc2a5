/-!
Programs of any size. Each is a list of lines, and a line depends only on its
number: the kinds of line follow each other in a fixed cycle.
-/

namespace Scad
namespace Workload

def lines (n : Nat) (line : Nat → String) : String :=
  String.join ((List.range n).map fun i => line i ++ "\n")

def declaration (i : Nat) : String :=
  match i % 6 with
  | 0 => s!"v{i} = {i} + 1;"
  | 1 => s!"function f{i}(a, b = 2) = a + b;"
  | 2 => s!"module m{i}(s) \x7b cube(s); sphere(s); \x7d"
  | 3 => s!"module n{i}() cube({i});"
  | 4 => s!"translate([{i}, 0, 0]) cube(1);"
  | _ => "!cube(1); #cube(2); %cube(3); \x7b cube(4); sphere(4); \x7d"

/-- Declarations that follow those of `declaration`; inside a block the second
declaration of a name is only noted. -/
def closingDeclarations : String :=
  "function twice(x) = 2 * x;\n" ++
  "module pair() \x7b cube(1); sphere(1); \x7d\n" ++
  "module again() \x7b function g() = 1; function g() = 2; module h() cube(1); " ++
  "module h() cube(2); h(); \x7d\n" ++
  "pair();\nagain();\nfor (i = [0 : 2]) cube(i);\n"

def declarations (n : Nat) : String := lines n declaration ++ closingDeclarations

def expression (i : Nat) : String :=
  match i % 12 with
  | 0 => s!"{i} + 2 * 3 / 6"
  | 1 => s!"{i} > 5 ? {i} : -{i}"
  | 2 => s!"{i} < {i} + 1 && true"
  | 3 => s!"false || {i} == {i}"
  | 4 => "2 ^ 4"
  | 5 => s!"-{i} + 1"
  | 6 => s!"[{i}, {i} + 1, {i} + 2][1]"
  | 7 => s!"str(\"val\", {i})"
  | 8 => s!"square({i} % 9)"
  | 9 => s!"!({i} != {i})"
  | 10 => s!"len([{i}, 2, 3])"
  | _ => s!"{i} * 1.5 + 2.25"

def expressions (n : Nat) : String :=
  "function square(x) = x * x;\n" ++
    lines n fun i => s!"x{i} = {expression i};"

def solid (i : Nat) : String :=
  match i % 10 with
  | 0 => s!"cube([{i + 1}, 2, 3]);"
  | 1 => s!"cube({i % 4 + 1}, center = true);"
  | 2 => s!"sphere(r = {i % 4 + 1});"
  | 3 => s!"sphere(d = {i % 4 + 2});"
  | 4 => s!"cylinder(h = {i + 1}, r = 2, center = true);"
  | 5 => s!"cylinder(h = {i + 1}, r1 = 1, r2 = 3);"
  | 6 => s!"translate([{i}, 0, 0]) rotate([30, 60, 90]) cube(1);"
  | 7 => s!"rotate({i * 10}) rotate({i}, [1, 1, 0]) sphere(1);"
  | 8 => "difference() \x7b cube(4, center = true); sphere(2); \x7d"
  | _ => "intersection() \x7b cube(4, center = true); sphere(3); \x7d"

def closingSolids : String :=
  "cylinder(h = 3, d = 2);\n" ++
  "cylinder(h = 3, d1 = 2, d2 = 2);\n" ++
  "cylinder();\n" ++
  "sphere();\n" ++
  "sphere(r = 1, d = 4);\n" ++
  "cube();\n" ++
  "union() \x7b cube(1); translate([2, 0, 0]) cube(1); \x7d\n" ++
  "square(2);\n" ++
  "square([2, 3], center = true);\n" ++
  "circle(5);\n" ++
  "circle(d = 4);\n" ++
  "circle();\n" ++
  "circle(r = 1, d = 4);\n" ++
  "polygon([[0, 0], [4, 0], [4, 3]]);\n" ++
  "polygon([[0, 0], [4, 0], [4, 3], [1, 1], [2, 1], [2, 2]], [[0, 1, 2], [3, 4, 5]]);\n" ++
  "polyhedron([[0, 0, 0], [1, 0, 0], [0, 1, 0], [0, 0, 1]],\n" ++
  "  [[0, 1, 2], [0, 1, 3], [1, 2, 3], [0, 2, 3]]);\n" ++
  "text(\"hi\", size = 12, font = \"Sans\", halign = \"center\", valign = \"top\");\n" ++
  "text(\"lo\", halign = \"right\", valign = \"bottom\");\n" ++
  "text(\"xx\", halign = \"odd\");\n" ++
  "union();\n" ++
  "color(\"red\");\n"

def solids (n : Nat) : String := lines n solid ++ closingSolids

def call (i : Nat) : String :=
  match i % 5 with
  | 0 => s!"rod({i % 6 + 1});"
  | 1 => s!"wrap() cube({i});"
  | 2 => s!"twice() sphere({i});"
  | 3 => s!"for (j = [0 : {i % 3 + 1}]) translate([j, 0, 0]) cube(1);"
  | _ => "for (a = [0, 30, 60]) rotate([a, 0, 0]) cube(3, center = true);"

def calls (n : Nat) : String :=
  "function add(a, b) = a + b;\n" ++
  "module rod(h) cylinder(h, center = true);\n" ++
  "module wrap() children();\n" ++
  "module twice() \x7b children(); children(); \x7d\n" ++
    lines n call

def row (edges n : Nat) : String :=
  lines n fun i => s!"translate([{i}, 0, 0]) cube({i % edges + 1});"

def motions (n : Nat) : String :=
  (lines n fun i => s!"translate([{i}, 0, 0]) rotate([10, 20, 30]) cube({i % 3 + 1});") ++
  "difference() \x7b cube(3); sphere(1); \x7d\n" ++
  "intersection() \x7b cube(3); sphere(2); \x7d\n" ++
  "rotate(45, [1, 0, 0]) cube(1);\n"

def smallMotion : String := "translate([1, 0, 0]) rotate(5) cube(1);\n"

def definitions : String :=
  "a = 2 + 2;\n" ++
  "rec = rec + 1;\n" ++
  "function f(x) = x * x + 1;\n" ++
  "function tri(n) = n > 0 ? n + tri(n - 1) : 0;\n" ++
  "steps = [0 : 5 : 2];\n" ++
  "items = [1, 2, 3];\n"

/-- Expressions and calls at the edge of what is accepted. -/
def edges : String :=
  "function two(a, b) = a + b;\n" ++
  "function first(a, b = 2) = a;\n" ++
  "less = 2 < 1;\n" ++
  "equal = 1 == 2 == 1;\n" ++
  "both = true && false;\n" ++
  "negated = !true;\n" ++
  "cube(0);\n" ++
  "for (i = [1 : 6]) cube(i);\n" ++
  "cube(two(1, 3));\n" ++
  "cube(first(2));\n" ++
  "cylinder(d = 2);\n"

def model : String :=
  "translate([1, 2, 3]) \x7b sphere(2); cube(2); \x7d\n" ++
  "rotate([0, 90, 0]) cube(1);\n" ++
  "cube(3);\n" ++
  "sphere(1);\n"

end Workload
end Scad
