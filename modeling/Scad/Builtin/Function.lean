import Scad.Builtin.Environment
import Scad.Number.Elementary

/-!
The built-in functions. Angles are in degrees.
-/

namespace Scad
namespace Eval

open Run

variable (x y : Value) (perform : Perform)

def BuiltinFunction.signature : BuiltinFunction → Signature
  | .version | .children => {}
  | .echo => { rest := true, named := true }
  | .assert => { params := [("chk", none), ("msg", some .undef)] }
  | .str | .chr | .norm | .min | .max => { rest := true }
  | .rands => { params := [("min", none), ("max", none), ("n", none), ("seed", some .undef)] }
  | .cross | .pow | .atan2 => .required ["x", "y"]
  | .env op => EnvOperation.signature op
  | _ => .required ["x"]

/-- Write values in one line, named ones after the others. -/
def echo (values : List Value) (named : List (String × Value)) : Run Value := do
  let parts ← values.mapM Value.shown
  let more ← named.mapM fun (k, v) => do return k ++ " = " ++ (← v.shown)
  let parts := if named.isEmpty then parts else parts ++ [String.intercalate ", " more]
  print ("ECHO: " ++ String.intercalate ", " parts ++ "\n" : String)
  return Value.undef

/-- The code points of numbers, or of all numbers in a sequence. -/
def charsOf (v : Value) : Run Text := do
  match v.int? with
  | some _ => return [← v.codePoint]
  | none => mapItems perform Value.codePoint v

def entryProduct (i j : Int) : Run Value := do
  (← x.item (.int i)).times (← y.item (.int j))

def minor (i j : Int) : Run Value := do
  (← entryProduct x y i j).minus (← entryProduct x y j i)

def flatCross : Run Value := do
  (← (← entryProduct x y 0 1).times (← x.item (.int 1))).times (← y.item (.int 0))

def solidCross : Run Value := do
  let a ← minor x y 1 2
  let b ← minor x y 2 0
  let c ← minor x y 0 1
  newList [a, b, c]

def cross : Run Value := do
  let m ← x.size
  let n ← if m = 2 || m = 3 then y.size else pure 0
  if m = 2 && n = 2 then flatCross x y
  else if m = 3 && n = 3 then solidCross x y
  else throw (.notVectors (← x.shown) (← y.shown))

def norm (entries : List Value) : Run Value := do
  let rec sum : Value → List Value → Run Value
    | acc, [] => return acc
    | acc, v :: vs => do sum (← acc.plus (← v.times v)) vs
  let total ← sum (.int 0) entries
  newFloat (← lift (Elementary.sqrt (← total.toFloat)))

/-- The better of two items, the first if neither is. -/
def better (rel : Value.Relation) (soFar : Option Value) (v : Value) : Run (Option Value) := do
  match soFar with
  | none => return some v
  | some best => return some (if ← Value.related rel v best then v else best)

def extreme (rel : Value.Relation) (empty : Fault) (args : List Value) : Run Value := do
  let best ← match args with
    | [] => throw .typeMismatch
    | [v] => eachItem perform (better rel) none v
    | vs => vs.foldlM (better rel) none
  demand empty best

/-- Numbers between two bounds. The middle stands for every random choice. -/
def rands (low high count seed : Value) : Run Value := do
  if !seed.isUndef then throw .typeMismatch
  let span ← high.minus low
  match count.int? with
  | none => throw .typeMismatch
  | some n =>
    let draws ← (List.replicate n.toNat (Value.float 0.5)).mapM fun r => do
      (← r.times span).plus low
    newList draws

def ofDegrees (f : Float → Except Fault Float) (x : Value) : Run Value := do
  let radians ← (← x.times (.float Elementary.pi)).divide (.int 180)
  newFloat (← lift (f (← radians.toFloat)))

def toDegrees (r : Float) : Run Value := newFloat (r * 180 / Elementary.pi)

def onFloat (f : Float → Except Fault Float) (x : Value) : Run Float := do
  lift (f (← x.toFloat))

def toNum (x : Value) : Run Num :=
  match x.num? with
  | some n => return n
  | none => throw .typeMismatch

def sign (x : Value) : Run Value := do
  if ← x.equal (.int 0) then return .int 0
  if ← Value.related .greater x (.int 0) then return .int 1
  return .int (-1)

def log (x : Value) : Run Value := do
  match ← toNum x with
  | .int n => newFloat (← lift (Elementary.logInt n))
  | .float y => newFloat (← lift (Elementary.log y))

/-- Round to a whole number, a half to the even one; the type stays. -/
def round (x : Value) : Run Value := do
  match ← toNum x with
  | .int n => return .int n
  | .float y => newFloat (Binary64.roundWhole (.ofFloat y)).toFloat

def ofUnary (f : BuiltinFunction) (x : Value) : Run Value := do
  match f with
  | .abs => number (← toNum x).abs
  | .sign => sign x
  | .floor => return .int (← lift (← toNum x).floor)
  | .ceil => return .int (← lift (← toNum x).ceil)
  | .round => round x
  | .len => return .int (← x.size)
  | .ord =>
    match x with
    | .str [p] => return .int p.toNat
    | _ => throw .typeMismatch
  | .log => log x
  | .exp => newFloat (← onFloat Elementary.exp x)
  | .sqrt => newFloat (← onFloat Elementary.sqrt x)
  | .sin => ofDegrees Elementary.sin x
  | .cos => ofDegrees Elementary.cos x
  | .tan => ofDegrees Elementary.tan x
  | .asin => toDegrees (← onFloat Elementary.asin x)
  | .acos => toDegrees (← onFloat Elementary.acos x)
  | .atan => toDegrees (← onFloat Elementary.atan x)
  | .isUndef => return .bool x.isUndef
  | .isBool =>
    match x with
    | .bool _ => return .bool true
    | _ => return .bool false
  | .isString =>
    match x with
    | .str _ => return .bool true
    | _ => return .bool false
  | .isList =>
    match x with
    | .tuple _ => return .bool true
    | _ => return .bool (← x.listItems?).isSome
  | .isFunction =>
    match x with
    | .function .. => return .bool true
    | _ => return .bool x.isCallable
  | _ => throw .typeMismatch

/-- Call a built-in function. Asking whether something is a number fails for
everything. -/
def callBuiltin (env : FrameId) (f : BuiltinFunction) (args : Args) : Run Value := do
  let b ← lift ((BuiltinFunction.signature f).bind args)
  match f, b.values with
  | .env op, _ => runOperation perform env op args
  | .version, _ => return .str "0.1.0"
  | .children, _ => newStream env
  | .echo, _ => echo b.rest b.named
  | .assert, [chk, msg] =>
    if ← chk.truth then return .undef
    throw (.failedAssertion (if msg.isUndef then .str "Assertion failed" else msg))
  | .str, _ => return .str (Text.join (← b.rest.mapM Value.display))
  | .chr, _ => return .str (Text.join (← b.rest.mapM (charsOf perform)))
  | .norm, _ => norm b.rest
  | .min, _ => extreme perform .less .emptyMinimum b.rest
  | .max, _ => extreme perform .greater .emptyMaximum b.rest
  | .rands, [low, high, count, seed] => rands low high count seed
  | .cross, [x, y] => cross x y
  | .pow, [x, y] => x.power y
  | .atan2, [x, y] => toDegrees (Float.atan2 (← x.toFloat) (← y.toFloat))
  | _, [x] => ofUnary f x
  | _, _ => throw .typeMismatch

end Eval
end Scad
