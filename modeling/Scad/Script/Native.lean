import Scad.Script.Field
import Scad.Session.Path

/-!
The functions and types that every script can use by name.
-/

namespace Scad
namespace Script
namespace Native

variable (v : Value) (name : String) (args : List Value) (base : Nat)

def faultNames : List String := Identifier.words "
  ArithmeticError AssertionError AttributeError BaseException BaseExceptionGroup BlockingIOError
  BrokenPipeError BufferError BytesWarning ChildProcessError ConnectionAbortedError ConnectionError
  ConnectionRefusedError ConnectionResetError DeprecationWarning EOFError EncodingWarning Exception
  ExceptionGroup FileExistsError FileNotFoundError FloatingPointError FutureWarning GeneratorExit
  ImportError ImportWarning IndentationError IndexError InterruptedError IsADirectoryError KeyError
  KeyboardInterrupt LookupError MemoryError ModuleNotFoundError NameError NotADirectoryError
  NotImplementedError OSError OverflowError PendingDeprecationWarning PermissionError
  ProcessLookupError RecursionError ReferenceError ResourceWarning RuntimeError RuntimeWarning
  StopAsyncIteration StopIteration SyntaxError SyntaxWarning SystemError SystemExit TabError
  TimeoutError TypeError UnboundLocalError UnicodeDecodeError UnicodeEncodeError UnicodeError
  UnicodeTranslateError UnicodeWarning UserWarning ValueError Warning ZeroDivisionError"

def typeNames : List String := Identifier.words "
  bool bytearray bytes classmethod complex dict enumerate filter float frozenset int list map
  memoryview object property range reversed set slice staticmethod str super tuple type zip"

def functionNames : List String := Identifier.words "
  __build_class__ __import__ __loader__ abs aiter all anext any ascii bin breakpoint callable chr
  compile copyright credits delattr dir divmod eval exec exit format getattr globals hasattr hash
  help hex id input isinstance issubclass iter len license locals max min next oct open ord pow
  print quit repr round setattr sorted sum vars"

def find? : Option Value :=
  match name with
  | "EnvironmentError" | "IOError" => some (.native "OSError")
  | "Ellipsis" => some (.foreign "ellipsis")
  | "NotImplemented" => some (.foreign "NotImplementedType")
  | "__debug__" => some (.bool true)
  | "__name__" => some (.str "builtins")
  | "__package__" => some (.str "")
  | "__doc__" => some (.str "")
  | "__spec__" => some (.foreign "ModuleSpec")
  | "__builtins__" => some (.dict [])
  | _ =>
    if faultNames.contains name || typeNames.contains name || functionNames.contains name then
      some (.native name)
    else none

def isType : Value → Bool
  | .native name => faultNames.contains name || typeNames.contains name
  | _ => false

/-! ## Numbers -/

def toNum : Run Num := Run.demand .typeMismatch v.num?

def toInt : Run Int := Run.demand .typeMismatch v.int?

def digitIn (c : Char) : Option Nat :=
  let n := if 'a' ≤ c && c ≤ 'z' then some (c.toNat - 87)
    else if 'A' ≤ c && c ≤ 'Z' then some (c.toNat - 55)
    else Digit.value? c
  n.filter (· < base)

/-- A run of digits, single underscores between them: their value after `acc`,
their number after `count`, and the rest. -/
def digitRun (base acc count : Nat) : List Char → Nat × Nat × List Char
  | [] => (acc, count, [])
  | '_' :: c :: cs =>
    match if count = 0 then none else digitIn base c with
    | some d => digitRun base (acc * base + d) (count + 1) cs
    | none => (acc, count, '_' :: c :: cs)
  | c :: cs =>
    match digitIn base c with
    | some d => digitRun base (acc * base + d) (count + 1) cs
    | none => (acc, count, c :: cs)

def markedBase? (c : Char) : Option Nat :=
  match Numeral.lower c with
  | 'x' => some 16
  | 'o' => some 8
  | 'b' => some 2
  | _ => none

/-- The digits of a numeral without the mark of its base, and the base. For base
0 the mark decides, and without one it is ten. -/
def withoutMark : List Char → Nat × List Char
  | '0' :: c :: cs =>
    match markedBase? c with
    | some marked =>
      if base = 0 || base = marked then
        (marked, match cs with
          | '_' :: cs => cs
          | cs => cs)
      else (base, '0' :: c :: cs)
    | none => (if base = 0 then 10 else base, '0' :: c :: cs)
  | cs => (if base = 0 then 10 else base, cs)

/-- In these bases numerals may have any length. -/
def isBinaryBase : Bool := [2, 4, 8, 16, 32].contains base

/-- A whole number from a text in a given base, or in the base that the text
marks if that is 0. -/
def intOfText (t : Text) : Run Value := do
  let cs := t.map fun p => p.char?.getD ' '
  let (negative, cs) := Numeral.readSign (Blank.trim cs)
  let (chosen, digits) := withoutMark base cs
  let (n, count, rest) := digitRun chosen 0 0 digits
  if count != 0 && !isBinaryBase chosen && Numeral.maxDigits < count then
    throw (.numeralTooLong count)
  let leadingZero := base = 0 && chosen = 10 && n != 0 && digits.head? == some '0'
  if count = 0 || !rest.isEmpty || leadingZero || (Text.toString? t).isNone then
    throw (.badInteger base (Quoted.write t))
  return .int (if negative then -(n : Int) else n)

def makeInt : Run Value := do
  match args with
  | [] => return .int 0
  | [.str t] => intOfText 10 t
  | [v] => return .int (← Run.lift (Num.trunc (← toNum v)))
  | [v, base] =>
    let b ← toInt base
    if b != 0 && (b < 2 || 36 < b) then throw .badBase
    match v with
    | .str t => intOfText b.toNat t
    | _ => throw .typeMismatch
  | _ => throw .typeMismatch

def makeFloat : Run Value := do
  match args with
  | [] => return .float 0
  | [.str t] =>
    Run.newFloat
      (← Run.demand (.badNumeral (Quoted.write t)) ((Text.toString? t).bind Numeral.float?))
  | [v] => Run.newFloat (← Run.lift (← toNum v).toFloat)
  | _ => throw .typeMismatch

/-- Round to a number of decimal places, a half to the even digit. -/
def roundPlaces (x : Float) (places : Int) : Run Value := do
  match Binary64.ofFloat x with
  | .finite s m e =>
    let num := m * Nat.pow 2 e.toNat * Nat.pow 10 places.toNat
    let den := Nat.pow 2 (-e).toNat * Nat.pow 10 (-places).toNat
    let q := Binary64.roundDiv num den
    Run.newFloat
      (Binary64.ofRatio s (q * Nat.pow 10 (-places).toNat) (Nat.pow 10 places.toNat)).toFloat
  | _ => Run.newFloat x

def roundInt (n : Int) (places : Int) : Int :=
  if 0 ≤ places then n
  else
    let unit := Nat.pow 10 (-places).toNat
    let q : Int := Binary64.roundDiv n.natAbs unit
    if n < 0 then -(q * unit) else q * unit

/-- Places beyond this change nothing, or leave nothing. -/
def placesLimit : Int := 400

def round : Run Value := do
  match args with
  | [v] | [v, .undef] =>
    match ← toNum v with
    | .int n => return .int n
    | .float x =>
      let whole := (Binary64.roundWhole (.ofFloat x)).toFloat
      return .int (← Run.lift (Num.trunc (.float whole)))
  | [v, places] =>
    let n ← toInt places
    let n := max (-placesLimit) (min placesLimit n)
    match ← toNum v with
    | .int m => return .int (roundInt m n)
    | .float x => roundPlaces x n
  | _ => throw .typeMismatch

def modPower (m n k : Int) : Run Value := do
  if k = 0 then throw (.raised "ValueError")
  if n < 0 then throw (.raised "ValueError")
  let rec go : (fuel : Nat) → Int → Nat → Int → Int
    | 0, _, _, acc => acc
    | fuel + 1, b, e, acc =>
      if e = 0 then acc
      else go fuel (Int.fmod (b * b) k) (e / 2) (if e % 2 = 1 then Int.fmod (acc * b) k else acc)
  return .int (go (Nat.log2 n.toNat + 2) (Int.fmod m k) n.toNat (Int.fmod 1 k))

def inBase (mark : String) (base : Nat) (v : Value) : Run Value := do
  let n ← toInt v
  let digits := String.ofList (Nat.toDigits base n.natAbs)
  return .str ((if n < 0 then "-" else "") ++ mark ++ digits : String)

/-! ## Sequences -/

def rangeOf (start stop step : Value) : Run Value := do
  let a ← toInt start
  let b ← toInt stop
  let c ← toInt step
  if c = 0 then throw (.raised "ValueError")
  return .range (← Run.newIdent) (.int a) (.int b) (.int c)

/-- Ranges with more items than this are not spelt out. -/
def rangeLimit : Nat := 10000000

def rangeLength (a b c : Int) : Nat :=
  if 0 < c then if a < b then ((b - a - 1) / c + 1).toNat else 0
  else if b < a then ((a - b - 1) / (-c) + 1).toNat else 0

def items : Run (List Value) := do
  match v with
  | .range _ (.int a) (.int b) (.int c) =>
    let n := rangeLength a b c
    if rangeLimit < n then throw .outOfMemory
    return (List.range n).map fun (i : Nat) => .int (a + i * c)
  | _ => v.items

def size : Run Value := do
  match v with
  | .range _ (.int a) (.int b) (.int c) => return .int (rangeLength a b c)
  | _ => return .int (← v.size)

def best (rel : Value.Relation) (soFar : Value) : List Value → Run Value
  | [] => return soFar
  | v :: vs => do best rel (if ← Value.related rel v soFar then v else soFar) vs

def extreme (rel : Value.Relation) (empty : Fault) (args : Args) : Run Value := do
  if args.named.any fun (k, _) => k != "default" && k != "key" then throw .typeMismatch
  let values ← match args.positional with
    | [] => throw .typeMismatch
    | [v] => items v
    | vs => if Table.has "default" args.named then throw .typeMismatch else pure vs
  match values with
  | [] =>
    Run.demand empty (Table.find? "default" args.named)
  | v :: vs => best rel v vs

def sumOf (v start : Value) : Run Value := do
  match start with
  | .str _ => throw .typeMismatch
  | _ => (← items v).foldlM Value.plus start

def zipped : List (List Value) → List Value
  | [] => []
  | first :: rest =>
    (List.range (rest.foldl (fun n vs => min n vs.length) first.length)).map fun i =>
      .tuple ((first :: rest).map fun vs => (vs[i]?).getD .undef)

/-! ## Types -/

def isSubtype (name parent : String) : Bool :=
  name == parent || parent == "object" || (name == "bool" && parent == "int") ||
    (parent == "BaseException" && faultNames.contains name) ||
    (parent == "Exception" && faultNames.contains name &&
      !(["BaseException", "SystemExit", "KeyboardInterrupt", "GeneratorExit"].contains name))

def isBelow : (parent : Value) → Run Bool
  | .native parent =>
    if isType (.native parent) then return isSubtype name parent else throw .typeMismatch
  | _ => throw .typeMismatch

def matchesType : Value → Run Bool
  | .tuple parents => return (← parents.mapM (isBelow name)).any id
  | parent => isBelow name parent

def memberOf : Run Value := Run.demand .noAttribute (Member.find? v name)

def getMember (v name : Value) (other : Option Value) : Run Value :=
  match name with
  | .str t =>
    Run.demand .noAttribute (((Text.toString? t).bind (Member.find? v)).or other)
  | _ => throw .typeMismatch

/-! ## The world outside -/

/-- End the script. Anything but a number, or nothing, is a failure. -/
def exit : Run Value :=
  match args with
  | [] | [.undef] => throw (.exit 0)
  | [v] => throw (.exit (v.int?.getD 1))
  | _ => throw .typeMismatch

def openFile : List Value → Run Value
  | .str path :: _ =>
    match Path.locate (Text.toString path) with
    | .file _ => return .foreign "TextIOWrapper"
    | .directory => throw .isDirectory
    | .absent why => throw why
  | _ => throw .typeMismatch

def print (args : Args) : Run Value := do
  let isText : Value → Bool
    | .undef | .str _ => true
    | _ => false
  for (k, v) in args.named do
    if !(["sep", "end", "file", "flush"].contains k) then throw .typeMismatch
    if (k == "sep" || k == "end") && !isText v then throw .typeMismatch
  for v in args.positional do
    let _ ← v.display
  return Value.undef

/-! ## Objects of which only the type is known -/

def encodings : List String := Identifier.words "utf-8 utf8 ascii latin-1 latin1 utf-16 utf-32"

def isBytes : Value → Bool
  | .foreign type => ["bytes", "bytearray", "memoryview"].contains type
  | _ => false

def checkByte : Run Unit := do
  let n ← toInt v
  if n < 0 || 255 < n then throw (.raised "ValueError")

def checkBytes : Run Unit := do
  match args with
  | [] => return ()
  | .str _ :: .str encoding :: more =>
    if 1 < more.length then throw .typeMismatch
    if !(encodings.any fun e => Text.ofString e == encoding.map Member.toLower) then
      throw .noCurrentEnvironment
  | [.str _] => throw .typeMismatch
  | [v] =>
    match v.int? with
    | some n =>
      if n < 0 then throw (.raised "ValueError")
      if !Value.isIndex n then throw .countTooWide
    | none => if isBytes v then return () else (← items v).forM checkByte
  | _ => throw .typeMismatch

def checkPart : Run Unit :=
  match v with
  | .foreign "complex" => return ()
  | v => do
    let _ ← toNum v

def checkComplex (args : Args) : Run Unit := do
  if args.named.any fun (k, _) => k != "real" && k != "imag" then throw .typeMismatch
  match args.positional ++ args.named.map Prod.snd with
  | [.str t] =>
    if ((Text.toString? t).bind Numeral.float?).isNone then throw (.raised "ValueError")
  | [] => return ()
  | [a] => checkPart a
  | [a, b] => do
    checkPart a
    checkPart b
  | _ => throw .typeMismatch

def checkSuper : List Value → Run Unit
  | [] => throw (.raised "RuntimeError")
  | [v] => if isType v then return () else throw .typeMismatch
  | [.native type, v] => do
    let name := match v with
      | .native name => if isType v then name else typeName v
      | v => typeName v
    if isType (.native type) && isSubtype name type then return () else throw .typeMismatch
  | _ => throw .typeMismatch

def checkForeign (type : String) (args : Args) : Run Unit := do
  match type with
  | "complex" => checkComplex args
  | "property" =>
    if args.named.any fun (k, _) => !(["fget", "fset", "fdel", "doc"].contains k) then
      throw .typeMismatch
    if 4 < args.positional.length + args.named.length then throw .typeMismatch
  | "bytes" | "bytearray" =>
    if args.named.any fun (k, _) => !(["source", "encoding", "errors"].contains k) then
      throw .typeMismatch
    checkBytes (args.positional ++ args.named.map Prod.snd)
  | _ =>
    if !args.named.isEmpty then throw .typeMismatch
    match type, args.positional with
    | "slice", vs => if vs.isEmpty || 3 < vs.length then throw .typeMismatch
    | "memoryview", [v] => if !isBytes v then throw .typeMismatch
    | "super", vs => checkSuper vs
    | _, _ => throw .typeMismatch

def construct (type : String) (args : Args) : Run Value := do
  match type, args.positional with
  | "dict", [] => return .dict args.named
  | "dict", [.dict entries] => return .dict (Table.merge entries args.named)
  | "dict", [.range _ start stop step] => do
    let n ← size (.range 0 start stop step)
    if n.int? == some 0 then return .dict [] else throw .typeMismatch
  | "dict", [v] => do
    for pair in ← items v do
      let _ ← pair.unpack 2
    return .foreign "dict"
  | "complex", _ | "bytes", _ | "bytearray", _ | "memoryview", _ | "property", _ | "slice", _
  | "super", _ =>
    checkForeign type args
    return .foreign type
  | "int", [v] =>
    match args.named with
    | [] => makeInt [v]
    | [("base", base)] => makeInt [v, base]
    | _ => throw .typeMismatch
  | "str", [] =>
    match args.named with
    | [] => return .str []
    | [("object", v)] => return .str (← v.display)
    | _ => throw .typeMismatch
  | _, positional =>
    if !args.named.isEmpty then throw .typeMismatch
    match type, positional with
    | "bool", [] => return .bool false
    | "bool", [v] => return .bool (← v.truth)
    | "int", vs => makeInt vs
    | "float", vs => makeFloat vs
    | "str", [v] => return .str (← v.display)
    | "list", [] => Run.newList []
    | "list", [v] => do Run.newList (← items v)
    | "tuple", [] => return .tuple []
    | "tuple", [v] => return .tuple (← items v)
    | "set", [] | "frozenset", [] => return .foreign type
    | "set", [v] | "frozenset", [v] => do
      if (← items v).all Value.isKey then return .foreign type else throw .typeMismatch
    | "range", [stop] => rangeOf (.int 0) stop (.int 1)
    | "range", [start, stop] => rangeOf start stop (.int 1)
    | "range", [start, stop, step] => rangeOf start stop step
    | "reversed", [v] => return .tuple (← items v).reverse
    | "enumerate", [v] => return .tuple ((← items v).zipIdx.map fun (w, i) => .tuple [.int i, w])
    | "zip", vs => return .tuple (zipped (← vs.mapM items))
    | "map", _ :: v :: _ | "filter", [_, v] => return .tuple (← items v)
    | "object", [] => return .foreign type
    | "type", [v] => return .native (typeName v)
    | "staticmethod", [_] | "classmethod", [_] => return .foreign type
    | _, _ => throw .typeMismatch

def sortedItems (args : Args) : Run Value := do
  if args.named.any fun (k, _) => k != "key" && k != "reverse" then throw .typeMismatch
  match args.positional with
  | [v] =>
    let done ← Member.sorted (← items v)
    let descending ← match Table.find? "reverse" args.named with
      | some v => v.truth
      | none => pure false
    Run.newList (if descending then done.reverse else done)
  | _ => throw .typeMismatch

def callPlain : Run Value := do
  match name, args with
  | "abs", [v] => Run.number (← toNum v).abs
  | "all", [v] => return .bool ((← (← items v).mapM Value.truth).all id)
  | "any", [v] => return .bool ((← (← items v).mapM Value.truth).any id)
  | "ascii", [v] => return .str (Text.ofChars (Format.escapeWide (← v.shown)))
  | "repr", [v] => return .str (← v.shown)
  | "bin", [v] => inBase "0b" 2 v
  | "oct", [v] => inBase "0o" 8 v
  | "hex", [v] => inBase "0x" 16 v
  | "callable", [v] => return .bool v.isCallable
  | "chr", [v] => return .str [← v.codePoint]
  | "ord", [.str [p]] => return .int p.toNat
  | "len", [v] => size v
  | "divmod", [a, b] => return .tuple [← Operator.floorDivide a b, ← a.modulo b]
  | "hash", [v] => if v.isKey then return .int 0 else throw .typeMismatch
  | "id", [_] => return .int 1
  | "isinstance", [v, type] => return .bool (← matchesType (typeName v) type)
  | "issubclass", [.native name, type] =>
    if isType (.native name) then return .bool (← matchesType name type) else throw .typeMismatch
  | "iter", [v] => return .tuple (← items v)
  | "iter", [v, _] =>
    if v.isCallable then return .foreign "callable_iterator" else throw .typeMismatch
  | "vars", [v] => if isType v then return .dict [] else throw .typeMismatch
  | "help", [] | "help", [_] => return .undef
  | "getattr", [v, name] => getMember v name none
  | "getattr", [v, name, other] => getMember v name (some other)
  | "hasattr", [v, .str name] => return .bool ((Text.toString? name).bind (Member.find? v)).isSome
  | "setattr", [_, .str _, _] | "delattr", [_, .str _] => throw .noAttribute
  | "format", [v] => return .str (← v.display)
  | "format", [v, .str spec] => return .str (← Field.write v spec)
  | "globals", [] | "locals", [] | "vars", [] => return .dict []
  | "dir", [] | "dir", [_] => Run.newList []
  | "breakpoint", _ => return .undef
  | "copyright", [] | "credits", [] | "license", [] => return .undef
  | "input", [] | "input", [_] => throw (.raised "EOFError")
  | "exit", args | "quit", args => exit args
  | "__import__", .str _ :: _ => return .foreign "module"
  | _, _ => throw .typeMismatch

def call (args : Args) : Run Value := do
  if faultNames.contains name then return .foreign name
  if typeNames.contains name then construct name args
  else
    match name, args.positional with
    | "print", _ => print args
    | "max", _ => extreme .greater .emptyMaximum args
    | "min", _ => extreme .less .emptyMinimum args
    | "sorted", _ => sortedItems args
    | "open", vs => openFile vs
    | "sum", [v] => sumOf v ((Table.find? "start" args.named).getD (.int 0))
    | "sum", [v, start] => sumOf v start
    | "pow", [a, b] => Operator.power a b
    | "pow", [a, b, c] => do modPower (← toInt a) (← toInt b) (← toInt c)
    | "round", v :: vs => round (v :: vs ++ (Table.find? "ndigits" args.named).toList)
    | _, vs => if args.named.isEmpty then callPlain name vs else throw .typeMismatch

end Native
end Script
end Scad
