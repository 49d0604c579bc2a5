import Scad.Eval.Stream

/-!
Solids and flat figures: construction calls and the methods of shapes.
-/

namespace Scad
namespace Eval
namespace Solid

open Run

variable (perform : Perform)

def moved (x y z : Value) (s : Value) : Run Value := do
  match s with
  | .shape _ made =>
    let place ← [x, y, z].mapM Value.freeze
    newShape (.shape "*" [.location "Pos" place, made] [])
  | _ => throw .typeMismatch

def method (name : String) (s : Value) (args : List Value) : Run Value := do
  match s with
  | .shape _ made =>
    newShape (.shape name (made :: (← args.mapM Value.freeze)) [])
  | _ => throw .noAttribute

def itemThere? (table index : Value) : Run (Option Value) :=
  tryCatch (some <$> table.item index) fun e =>
    match e.faultClass with
    | .index | .key => return none
    | _ => throw e

/-- What a code point becomes under a table of replacements. -/
def replacePoint (table : Value) (p : CodePoint) : Run Text := do
  match ← itemThere? table (.int p.toNat) with
  | none => return [p]
  | some .undef => return []
  | some (.str s) => return s
  | some v =>
    let n ← demand .typeMismatch v.int?
    return [← demand .mappedCharOutOfRange (CodePoint.ofInt? n)]

/-- Move a shape. A text has its code points replaced by place in a table. -/
def translate (s v : Value) : Run Value := do
  match s with
  | .str text =>
    let parts ← text.mapM (replacePoint v)
    return .str (Text.join parts)
  | _ => method "translate" s [v]

def axis (o d : Value) : Run Value := return .axis (← newIdent) o d

def zero : Value := .tuple [.int 0, .int 0, .int 0]

def unitAxis (x y z : Int) : Run Value := axis zero (.tuple [.int x, .int y, .int z])

/-- Three sides from one number or from three entries. -/
def sides (n : Nat) (size : Value) : Run (List Value) := do
  if size.isNumber then return List.replicate n size else unpack perform n size

/-- A radius, given as such or by a diameter; without either it is 1. -/
def radius (what : String) (r d : Value) : Run Value := do
  match r, d with
  | .undef, .undef => return .int 1
  | .undef, _ => d.divide (.int 2)
  | _, .undef => return r
  | _, _ =>
    warn (what ++ ": parameters are ambiguous")
    return r

def sphere (env : FrameId) (r d : Value) : Run Value := do
  let r ← radius "sphere" r d
  let res ← construct "Sphere" [r] []
  trace perform env [res, .str "Sphere", r] []
  return res

def circle (r d : Value) : Run Value := do
  construct "Circle" [← radius "circle" r d] []

def halves (sides : List Value) : Run (List Value) := sides.mapM fun v => v.divide (.int 2)

def cube (env : FrameId) (size center : Value) : Run Value := do
  let size ← sides perform 3 size
  let res ← construct "Box" size []
  trace perform env (res :: .str "Box" :: size) []
  if ← center.truth then return res
  match ← halves size with
  | [x, y, z] =>
    let res2 ← moved x y z res
    let size ← halves size
    trace perform env (res2 :: .str "Pos" :: size) [("_mul", res)]
    return res2
  | _ => throw .typeMismatch

def square (size center : Value) : Run Value := do
  let size ← sides perform 2 size
  let align : Value := if ← center.truth then .str "Align.CENTER" else .str "Align.MIN"
  construct "Rectangle" size [("align", .tuple [align, align])]

structure Radii where
  r1 : Value
  r2 : Value
  r : Value
  d : Value
  d1 : Value
  d2 : Value

namespace Radii

def count (v : Value) (weight : Nat) : Nat := if v.isUndef then 0 else weight

/-- More is given than can hold at once. -/
def ambiguous (g : Radii) : Bool :=
  2 < count g.r1 1 + count g.r2 1 + count g.d1 1 + count g.d2 1 + count g.r 2 + count g.d 2 ||
    (!g.r1.isUndef && !g.d1.isUndef) || (!g.r2.isUndef && !g.d2.isUndef)

/-- Half of `whole`, if `d` is given, else `r`. -/
def orHalf (d whole r : Value) : Run Value := if d.isUndef then return r else whole.divide (.int 2)

def bothHalf (d r1 r2 : Value) : Run (Value × Value) := do
  if d.isUndef then return (r1, r2)
  let half ← d.divide (.int 2)
  return (half, half)

/-- The radius at the bottom and at the top. A diameter at the top is only
asked for; its value is that at the bottom. -/
def resolve (g : Radii) : Run (Value × Value) := do
  let (r1, r2) := if g.r.isUndef then (g.r1, g.r2) else (g.r, g.r)
  let (r1, r2) ← bothHalf g.d r1 r2
  let r1 ← orHalf g.d1 g.d1 r1
  let r2 ← orHalf g.d2 g.d1 r2
  let r1 := if r1.isUndef then .int 1 else r1
  let r2 := if r2.isUndef then r1 else r2
  return (r1, r2)

end Radii

/-- Put a solid of a given height into the middle, if `center` counts as true. -/
def centred (height center s : Value) : Run Value := do
  if ← center.truth then
    moved (.int 0) (.int 0) (← (← height.negate).divide (.int 2)) s
  else return s

def frustum (h r1 r2 : Value) : Run Value := do
  let base ← construct "Circle" [r1] []
  if ← r1.equal r2 then construct "extrude" [base, h] []
  else
    let top ← moved (.int 0) (.int 0) h (← construct "Circle" [r2] [])
    construct "loft" [.tuple [base, top]] []

def cylinder (h : Value) (g : Radii) (center : Value) : Run Value := do
  if g.ambiguous then warn "cylinder: parameters are ambiguous"
  let (r1, r2) ← g.resolve
  centred h center (← frustum h r1 r2)

/-! ## Figures from points -/

/-- A point: the items of anything that has items. -/
def point (v : Value) : Run Value := return .tuple (← itemsOf perform v)

/-- The points that a path names by their numbers. -/
def path (points numbers : Value) : Run (List Value) :=
  mapItems perform (fun i => do point perform (← points.item i)) numbers

def face (points : List Value) : Run Value := do
  let line ← construct "Polyline" [← newList points] [("close", .bool true)]
  construct "make_face" [line, .str "Plane.XY"] []

def cutAll (s : Value) : List (List Value) → Run Value
  | [] => return s
  | hole :: rest => do cutAll (← s.minus (← face hole)) rest

def polygon (points paths : Value) : Run Value := do
  match paths with
  | .undef => do face (← mapItems perform (point perform) points)
  | _ =>
    let outline ← path perform points (← paths.item (.int 0))
    let holes ← (← paths.dropItems 1).mapM (path perform points)
    cutAll (← face outline) holes

def polyhedron (points faces : Value) : Run Value := do
  let points ← newList (← mapItems perform (point perform) points)
  let side (f : Value) : Run Value := do
    let corners ← mapItems perform (fun i => points.item i) f
    let line ← construct "Polyline" corners [("close", .bool true)]
    construct "make_from_wires" [line] []
  let shell ← construct "make_shell" [← newList (← mapItems perform side faces)] []
  construct "make_solid" [shell] []

/-! ## Text -/

/-- Where a text is placed along one direction. -/
def alignment (v : Value) : Run Value := do
  let is (word : String) : Run Bool := v.equal (.str word)
  if v.isUndef then return .undef
  if ← is "baseline" then return .undef
  if ← is "left" then return .str "Align.MIN"
  if ← is "top" then return .str "Align.MIN"
  if ← is "right" then return .str "Align.MAX"
  if ← is "bottom" then return .str "Align.MAX"
  if ← is "center" then return .str "Align.CENTER"
  warn ("What alignment is " ++ (← v.shown) ++ "?")
  return .str "Align.NONE"

def fontScale : Float := 1.4

def text (t size font halign valign spacing direction : Value) : Run Value := do
  let across ← alignment halign
  let along ← alignment valign
  if !(← direction.equal (.str "ltr")) then
    warn "Explicit text direction is not supported"
  let size ← size.times (.float fontScale)
  let named := [("align", Value.tuple [across, along]), ("font_size", size)] ++
    if font.isUndef then [] else [("font", font)]
  let res ← construct "Text" [t] named
  if !(← spacing.equal (.int 1)) then warn "Text spacing is not yet supported"
  return res

end Solid
end Eval
end Scad
