/-!
The names of what is built in. Operations on the environment are available
both as functions and as modules.
-/

namespace Scad

inductive EnvOperation where
  | build | buildOne | childUnion | eval | func | mod | oneChild | resetChild | setVar | trace | var
  deriving DecidableEq, Repr

inductive BuiltinFunction where
  | abs | acos | asin | assert | atan | atan2 | ceil | chr | cos | cross | echo | exp | floor
  | isBool | isFunction | isList | isNum | isString | isUndef | len | log | max | min | norm
  | ord | pow | rands | round | sign | sin | sqrt | str | tan | version
  | children
  | env (op : EnvOperation)
  deriving DecidableEq, Repr

inductive BuiltinModule where
  | children | circle | color | cube | cylinder | debug | difference | for | importFile
  | intersection | intersectionFor | linearExtrude | polygon | polyhedron | resolve | resolveList
  | rotate | rotateExtrude | scale | sphere | square | text | translate | union
  | env (op : EnvOperation)
  deriving DecidableEq, Repr

def EnvOperation.table : List (String × EnvOperation) :=
  [("build", .build), ("build_one", .buildOne), ("child_union", .childUnion), ("eval", .eval),
    ("func", .func), ("mod", .mod), ("one_child", .oneChild), ("reset_child", .resetChild),
    ("set_var", .setVar), ("trace", .trace), ("var", .var)]

def BuiltinFunction.table : List (String × BuiltinFunction) :=
  [("abs", .abs), ("acos", .acos), ("asin", .asin), ("assert", .assert), ("atan", .atan),
    ("atan2", .atan2), ("ceil", .ceil), ("children", .children), ("chr", .chr), ("cos", .cos),
    ("cross", .cross), ("echo", .echo), ("exp", .exp), ("floor", .floor), ("is_bool", .isBool),
    ("is_function", .isFunction), ("is_list", .isList), ("is_num", .isNum),
    ("is_string", .isString), ("is_undef", .isUndef), ("len", .len), ("log", .log),
    ("max", .max), ("min", .min), ("norm", .norm), ("ord", .ord), ("pow", .pow),
    ("rands", .rands), ("round", .round), ("sign", .sign), ("sin", .sin), ("sqrt", .sqrt),
    ("str", .str), ("tan", .tan), ("version", .version)] ++
    EnvOperation.table.map fun (name, op) => (name, .env op)

def BuiltinModule.table : List (String × BuiltinModule) :=
  [("children", .children), ("circle", .circle), ("color", .color), ("cube", .cube),
    ("cylinder", .cylinder), ("debug", .debug), ("difference", .difference), ("for", .for),
    ("import", .importFile), ("intersection", .intersection),
    ("intersection_for", .intersectionFor), ("linear_extrude", .linearExtrude),
    ("polygon", .polygon), ("polyhedron", .polyhedron), ("resolve", .resolve),
    ("resolve_list", .resolveList), ("rotate", .rotate), ("rotate_extrude", .rotateExtrude),
    ("scale", .scale), ("sphere", .sphere), ("square", .square), ("text", .text),
    ("translate", .translate), ("union", .union)] ++
    EnvOperation.table.map fun (name, op) => (name, .env op)

end Scad
