import Scad.Builtin.Environment
import Scad.Builtin.Loop
import Scad.Builtin.Solid

/-!
The built-in modules.
-/

namespace Scad
namespace Eval

variable (perform : Perform) (env : FrameId)

def BuiltinModule.signature : BuiltinModule → Signature
  | .difference | .union | .intersection | .resolveList | .debug => {}
  | .children | .resolve => .optional [("idx", .undef)]
  | .sphere | .circle => .optional [("r", .undef), ("d", .undef)]
  | .cube | .square => .optional [("size", .int 1), ("center", .bool false)]
  | .for => { params := [("_intersect", some (.bool false))], named := true }
  | .intersectionFor => { named := true }
  | .cylinder =>
    .optional [("h", .int 1), ("r1", .undef), ("r2", .undef), ("r", .undef), ("d", .undef),
      ("d1", .undef), ("d2", .undef), ("center", .bool false)]
  | .translate | .scale => .required ["v"]
  | .rotate => .optional [("a", .undef), ("v", .undef)]
  | .importFile => .required ["name"]
  | .polyhedron => { params := [("points", none), ("faces", none), ("convexity", some .undef)] }
  | .polygon => { params := [("points", none), ("paths", some .undef)] }
  | .linearExtrude =>
    { params := [("height", none), ("center", some (.bool false)), ("convexity", some .undef),
        ("twist", some (.int 0)), ("slices", some (.int 0)), ("scale", some (.int 1))] }
  | .rotateExtrude => .optional [("angle", .int 360), ("convexity", .undef)]
  | .color => { params := [("c", none), ("a", some .undef)] }
  | .text =>
    { params := [("t", none), ("size", some (.int 10)), ("font", some .undef),
        ("halign", some (.str "left")), ("valign", some (.str "baseline")),
        ("spacing", some (.int 1)), ("direction", some (.str "ltr")),
        ("language", some .undef), ("script", some .undef)] }
  | .env op => EnvOperation.signature op

def translate (v : Value) : Run Value := do
  match ← childUnion perform env with
  | .undef => return .undef
  | s =>
    let res ← Solid.translate s v
    trace perform env [res, .str "translate", v] [("_obj", s)]
    return res

def turn (s axis angle : Value) : Run Value := do
  let res ← Solid.method "rotate" s [axis, angle]
  trace perform env [res, .str "rotate", axis, angle] [("_obj", s)]
  return res

def turnUnless (a : Value) (i : Int) (axis : Run Value) (s : Value) : Run Value := do
  if ← (← a.item (.int i)).truth then turn perform env s (← axis) (← a.item (.int i))
  else return s

def givesAxis (v : Value) : Run Bool := do
  if v.isUndef then return false
  let none ← Run.newList [.int 0, .int 0, .int 0]
  return !(← v.equal none)

/-- Turn a shape: about a given axis, about the third coordinate axis, or about
all three in turn. -/
def rotated (a v s : Value) : Run Value := do
  if ← givesAxis v then
    let axis ← Solid.axis Solid.zero (.tuple (← itemsOf perform v))
    turn perform env s axis a
  else if a.isNumber then turn perform env s (← Solid.unitAxis 0 0 1) a
  else
    let s ← turnUnless perform env a 0 (Solid.unitAxis 1 0 0) s
    let s ← turnUnless perform env a 1 (Solid.unitAxis 0 1 0) s
    turnUnless perform env a 2 (Solid.unitAxis 0 0 1) s

def rotate (a v : Value) : Run Value := do
  match ← childUnion perform env with
  | .undef => return .undef
  | s => rotated perform env a v s

/-- The first child without the others. If the first is nothing, the others are
not looked at. -/
def difference : Run Value := do
  let visit (soFar : Option Value) (v : Value) : Run (Visit (Option Value)) := do
    match soFar, v with
    | none, .undef => return .stop (some .undef)
    | none, v => return .more (some v)
    | some s, .undef => return .more (some s)
    | some s, v =>
      let r ← s.minus v
      trace perform env [r, .str "_diff", s, v] []
      return .more (some r)
  match ← visitChildren perform env visit none with
  | some v => return v
  | none => throw .noFirstChild

def intersection : Run Value := do
  let visit (soFar v : Value) : Run (Visit Value) := do
    match soFar, v with
    | s, .undef => return .more s
    | .undef, v => return .more v
    | s, v =>
      let r ← s.common v
      trace perform env [r, .str "_inter", s, v] []
      return .more r
  Solid.method "clean" (← visitChildren perform env visit .undef) []

def extrudedNode : Run Value := do
  match ← Run.slot env "_e_children" with
  | some (.known v) => return v
  | some .busy => return .undef
  | none => throw (.unknownName "_e_children")

/-- Raise a figure, turning it on the way unless it goes straight up. A scale is
only kept if it is 1. -/
def raised (straight scaled : Bool) (height twist scale s : Value) : Run Value := do
  if straight then Run.construct "extrude" [s] [("amount", height)]
  else
    let place ← [Value.int 0, .int 0, height].mapM Value.freeze
    let angle ← (← twist.negate).freeze
    let top ← Solid.method "scale" s [if scaled then .int 1 else scale]
    let turned := Record.location "*"
      [.location "Pos" place, .location "Rot" [.int 0, .int 0, angle]]
    let top ← Run.newShape (.shape "*" [turned, ← top.freeze] [])
    Run.construct "loft" [.tuple [s, top]] []

def linearExtrude (height center twist scale : Value) : Run Value := do
  let straight ← twist.equal (.int 0)
  let scaled := !(← scale.equal (.int 1))
  if scaled then
    Run.warn (if straight then "Scaling doesn't work yet"
      else "Scaling+twisting not yet supported")
  match ← perform (.eval env (← extrudedNode env)) with
  | .undef => return .undef
  | s => Solid.centred height center (← raised straight scaled height twist scale s)

/-- Build a built-in module. Some need parts that are not there, and always
fail once their arguments are checked. -/
def buildBuiltin (m : BuiltinModule) (args : Args) : Run Value := do
  let b ← Run.lift ((BuiltinModule.signature m).bind args)
  match m, b.values with
  | .env op, _ => runOperation perform env op args
  | .sphere, [r, d] => Solid.sphere perform env r d
  | .circle, [r, d] => Solid.circle r d
  | .cube, [size, center] => Solid.cube perform env size center
  | .square, [size, center] => Solid.square perform size center
  | .cylinder, [h, r1, r2, r, d, d1, d2, center] =>
    Solid.cylinder h ⟨r1, r2, r, d, d1, d2⟩ center
  | .for, [intersect] => forModule perform env intersect b.named
  | .intersectionFor, _ => throw .noAttribute
  | .translate, [v] => translate perform env v
  | .rotate, [a, v] => rotate perform env a v
  | .difference, _ => difference perform env
  | .union, _ => childUnion perform env
  | .intersection, _ => intersection perform env
  | .resolve, _ => throw .noAttribute
  | .resolveList, _ => throw .missingModule
  | .children, [index] => oneChild perform env index
  | .importFile, _ =>
    let _ ← perform (.read env "_path")
    throw .noAttribute
  | .polyhedron, [points, faces, _] => Solid.polyhedron perform points faces
  | .polygon, [points, paths] => Solid.polygon perform points paths
  | .debug, _ => return .undef
  | .linearExtrude, [height, center, _, twist, _, scale] =>
    linearExtrude perform env height center twist scale
  | .scale, [v] =>
    let _ ← Solid.sides perform 3 v
    let _ ← childUnion perform env
    throw .unboundName
  | .rotateExtrude, _ =>
    let _ ← childUnion perform env
    throw .unsetLocal
  | .color, _ =>
    Run.warn "Color is not yet supported"
    childUnion perform env
  | .text, [t, size, font, halign, valign, spacing, direction, _, _] =>
    Solid.text t size font halign valign spacing direction
  | _, _ => throw .typeMismatch

end Eval
end Scad
