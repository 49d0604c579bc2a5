import Scad.Script.Operator
import Scad.Text.Identifier

/-!
What can be asked of a value by a name after a point: parts of it, and functions
that belong to it.
-/

namespace Scad
namespace Script

open Operator

variable (v : Value) (p : CodePoint) (t : Text) (items : List Value) (name : String)

def typeName : Value → String
  | .undef => "NoneType"
  | .bool _ => "bool"
  | .int _ => "int"
  | .float _ | .nan _ => "float"
  | .str _ => "str"
  | .list _ => "list"
  | .tuple _ => "tuple"
  | .dict _ => "dict"
  | .range .. => "range"
  | .native _ | .method _ _ => "function"
  | .foreign type => type
  | _ => "object"

namespace Member

def ofText : List String := Identifier.words "
  capitalize casefold center count encode endswith expandtabs find format format_map index isalnum
  isalpha isascii isdecimal isdigit isidentifier islower isnumeric isprintable isspace istitle
  isupper join ljust lower lstrip maketrans partition removeprefix removesuffix replace rfind rindex
  rjust rpartition rsplit rstrip split splitlines startswith strip swapcase title translate upper
  zfill"

def ofList : List String := Identifier.words "
  append clear copy count extend index insert pop remove reverse sort"

def ofDict : List String := Identifier.words "
  clear copy fromkeys get items keys pop popitem setdefault update values"

def ofBytes : List String :=
  "decode" :: "hex" :: "fromhex" :: ofText.removeAll (Identifier.words "
    casefold encode format format_map isdecimal isidentifier isnumeric isprintable")

def ofSet : List String := Identifier.words "
  add clear copy difference discard intersection isdisjoint issubset issuperset pop remove
  symmetric_difference union"

def ofInt : List String := Identifier.words "
  as_integer_ratio bit_count bit_length conjugate from_bytes to_bytes"

def ofFloat : List String := Identifier.words "as_integer_ratio conjugate fromhex hex is_integer"

def ofAll : List String := Identifier.words "
  __delattr__ __dir__ __eq__ __format__ __ge__ __getattribute__ __getstate__ __gt__ __hash__
  __init__ __init_subclass__ __le__ __lt__ __ne__ __new__ __reduce__ __reduce_ex__ __repr__
  __setattr__ __sizeof__ __str__ __subclasshook__"

def functions (type : String) : List String :=
  match type with
  | "str" => ofText
  | "list" => ofList
  | "tuple" | "range" => ["count", "index"]
  | "dict" => ofDict
  | "bytes" | "bytearray" => ofBytes
  | "set" => ofSet
  | "frozenset" =>
    ofSet.removeAll ["add", "clear", "discard", "pop", "remove"]
  | "complex" => ["conjugate", "imag", "real"]
  | "int" | "bool" => ofInt
  | "float" => ofFloat
  | _ => []

def part? : Option Value :=
  match v, name with
  | .bool b, "real" | .bool b, "numerator" => some (.int (if b then 1 else 0))
  | .int n, "real" | .int n, "numerator" => some (.int n)
  | .int _, "imag" | .bool _, "imag" => some (.int 0)
  | .int _, "denominator" | .bool _, "denominator" => some (.int 1)
  | .float x, "real" => some (.float x)
  | .nan i, "real" => some (.nan i)
  | .float _, "imag" | .nan _, "imag" => some (.float 0)
  | .range _ start _ _, "start" => some start
  | .range _ _ stop _, "stop" => some stop
  | .range _ _ _ step, "step" => some step
  | v, "__class__" => some (.native (typeName v))
  | _, "__doc__" => some .undef
  | _, _ => none

/-- The functions that a value has: its own, or those of the type that it is. -/
def functionsIn : Value → List String
  | .native type => functions type
  | v => functions (typeName v)

def find? : Option Value :=
  (part? v name).or
    (if (functionsIn v).contains name || ofAll.contains name then some (.method v name) else none)

/-! ## Texts -/

def isUpper : Bool := 'A'.toNat ≤ p.toNat && p.toNat ≤ 'Z'.toNat

def isLower : Bool := 'a'.toNat ≤ p.toNat && p.toNat ≤ 'z'.toNat

def isLetter : Bool := isUpper p || isLower p

def isDecimal : Bool := (p.char?.bind Digit.value?).isSome

def isSpace : Bool := p.char?.any Blank.isBlank

def toUpper : CodePoint :=
  if isLower p then .scalar (Char.ofNat (p.toNat - 32)) else p

def toLower : CodePoint :=
  if isUpper p then .scalar (Char.ofNat (p.toNat + 32)) else p

def swapCase : CodePoint := if isUpper p then toLower p else toUpper p

def titleCase (inWord : Bool) : Text → Text
  | [] => []
  | p :: t => (if inWord then toLower p else toUpper p) :: titleCase (isLetter p) t

def trimLeft (drop : CodePoint → Bool) (t : Text) : Text := t.dropWhile drop

def trimRight (drop : CodePoint → Bool) (t : Text) : Text := (t.reverse.dropWhile drop).reverse

/-- Which code points a trimming takes away: blanks, or those of a text. -/
def dropped : List Value → Run (CodePoint → Bool)
  | [] | [.undef] => return isSpace
  | [.str chars] => return chars.contains
  | _ => throw .typeMismatch

/-- The pieces between the places where `sep` stands, at most `limit` cuts. -/
def splitBy (sep : Text) : (fuel : Nat) → (limit : Option Nat) → Text → List Text
  | 0, _, t => [t]
  | fuel + 1, limit, t =>
    if limit == some 0 then [t]
    else
      match findPart sep 0 t with
      | none => [t]
      | some i => t.take i :: splitBy sep fuel (limit.map (· - 1)) (t.drop (i + sep.length))

def words : (fuel : Nat) → (limit : Option Nat) → Text → List Text
  | 0, _, _ => []
  | fuel + 1, limit, t =>
    match t.dropWhile isSpace with
    | [] => []
    | t =>
      if limit == some 0 then [trimRight isSpace t]
      else
        let w := t.takeWhile fun p => !isSpace p
        w :: words fuel (limit.map (· - 1)) (t.drop w.length)

def limitOf : Run (Option Nat) := do
  let n ← Run.demand .typeMismatch v.int?
  return if n < 0 then none else some n.toNat

def split (args : List Value) : Run (List Text) := do
  let (sep, limit) ← match args with
    | [] => pure (Value.undef, none)
    | [sep] => pure (sep, none)
    | [sep, limit] => pure (sep, ← limitOf limit)
    | _ => throw .typeMismatch
  match sep with
  | .undef => return words (t.length + 1) limit t
  | .str [] => throw (.raised "ValueError")
  | .str s => return splitBy s (t.length + 1) limit t
  | _ => throw .typeMismatch

def textOf : Value → Run Text
  | .str t => return t
  | _ => throw .typeMismatch

def join (sep : Text) (v : Value) : Run Value :=
  return .str (Text.intercalate sep (← (← v.items).mapM textOf))

def textList (ts : List Text) : Run Value := Run.newList (ts.map .str)

def isAt (test : Text → Bool) : Value → Run Value
  | .tuple parts => return .bool ((← parts.mapM textOf).any test)
  | v => return .bool (test (← textOf v))

def findLast (part t : Text) : Option Nat :=
  (findPart part.reverse 0 t.reverse).map fun i => t.length - part.length - i

def place (found : Option Nat) : Value := .int ((found.map Int.ofNat).getD (-1))

def placeOrFault (found : Option Nat) : Run Value := return .int (← Run.demand .absentPart found)

def fillOf : List Value → Run (Nat × CodePoint)
  | [width] => return ((← Run.demand .typeMismatch width.int?).toNat, .scalar ' ')
  | [width, .str [p]] => return ((← Run.demand .typeMismatch width.int?).toNat, p)
  | _ => throw .typeMismatch

def allAre (test : CodePoint → Bool) (t : Text) : Value := .bool (!t.isEmpty && t.all test)

def partition (t sep : Text) (found : Option Nat) (atEnd : Bool) : Value :=
  .tuple (match found with
    | some i => [.str (t.take i), .str sep, .str (t.drop (i + sep.length))]
    | none => if atEnd then [.str [], .str [], .str t] else [.str t, .str [], .str []])

/-- Put `new` where `old` stands, at most `limit` times. The empty text stands
before every code point and at the end. -/
def replace (t old new : Text) (limit : Option Nat) : Text :=
  if old.isEmpty then
    let places := t.length + 1
    let n := min places (limit.getD places)
    let front := (t.take n).flatMap fun p => new ++ [p]
    front ++ (if t.length < n then new else t.drop n)
  else Text.intercalate new (splitBy old (t.length + 1) limit t)

def callText (args : List Value) : Run Value := do
  match name, args with
  | "upper", [] => return .str (t.map toUpper)
  | "lower", [] | "casefold", [] => return .str (t.map toLower)
  | "swapcase", [] => return .str (t.map swapCase)
  | "capitalize", [] => return .str ((t.take 1).map toUpper ++ (t.drop 1).map toLower)
  | "title", [] => return .str (titleCase false t)
  | "strip", args => return .str (trimRight (← dropped args) (trimLeft (← dropped args) t))
  | "lstrip", args => return .str (trimLeft (← dropped args) t)
  | "rstrip", args => return .str (trimRight (← dropped args) t)
  | "split", args | "rsplit", args => textList (← split t args)
  | "splitlines", [] => textList (splitBy [.scalar '\n'] (t.length + 1) none t)
  | "join", [v] => join t v
  | "replace", [.str old, .str new] => return .str (replace t old new none)
  | "replace", [.str old, .str new, count] => return .str (replace t old new (← limitOf count))
  | "startswith", [v] => isAt (fun part => beginsWith part t) v
  | "endswith", [v] => isAt (fun part => beginsWith part.reverse t.reverse) v
  | "find", [.str part] => return place (findPart part 0 t)
  | "rfind", [.str part] => return place (findLast part t)
  | "index", [.str part] => placeOrFault (findPart part 0 t)
  | "rindex", [.str part] => placeOrFault (findLast part t)
  | "count", [.str part] =>
    if part.isEmpty then return .int (t.length + 1)
    return .int ((splitBy part (t.length + 1) none t).length - 1)
  | "isalpha", [] => return allAre isLetter t
  | "isdigit", [] | "isdecimal", [] | "isnumeric", [] => return allAre isDecimal t
  | "isalnum", [] => return allAre (fun p => isLetter p || isDecimal p) t
  | "isspace", [] => return allAre isSpace t
  | "isascii", [] => return .bool (t.all (·.toNat < 128))
  | "isupper", [] => return .bool (t.any isUpper && !t.any isLower)
  | "islower", [] => return .bool (t.any isLower && !t.any isUpper)
  | "istitle", [] => return .bool (t.any isLetter && titleCase false t == t)
  | "isprintable", [] => return .bool (t.all fun p => p.char?.any isPrintable)
  | "isidentifier", [] =>
    match Text.chars? t with
    | some (c :: cs) => return .bool (Identifier.isInitial c && cs.all Identifier.isFurther)
    | _ => return .bool false
  | "ljust", args => do
    let (width, p) ← fillOf args
    return .str (t ++ List.replicate (width - t.length) p)
  | "rjust", args => do
    let (width, p) ← fillOf args
    return .str (List.replicate (width - t.length) p ++ t)
  | "center", args => do
    let (width, p) ← fillOf args
    let missing := width - t.length
    let left := missing / 2 + (if missing % 2 = 1 && width % 2 = 1 then 1 else 0)
    return .str (List.replicate left p ++ t ++ List.replicate (missing - left) p)
  | "zfill", [width] =>
    let n ← Run.demand .typeMismatch width.int?
    let sign := t.take (if [some (.scalar '-'), some (.scalar '+')].contains t.head? then 1 else 0)
    let zeros := List.replicate (n.toNat - t.length) (CodePoint.scalar '0')
    return .str (sign ++ zeros ++ t.drop sign.length)
  | "partition", [.str []] | "rpartition", [.str []] => throw (.raised "ValueError")
  | "partition", [.str sep] => return partition t sep (findPart sep 0 t) false
  | "rpartition", [.str sep] => return partition t sep (findLast sep t) true
  | "removeprefix", [.str part] =>
    return .str (if beginsWith part t then t.drop part.length else t)
  | "removesuffix", [.str part] =>
    return .str (if beginsWith part.reverse t.reverse then t.take (t.length - part.length)
      else t)
  | "expandtabs", [] => return .str t
  | "encode", _ => return .foreign "bytes"
  | "format", _ | "format_map", [_] | "translate", [_] => return .str t
  | "maketrans", _ => return .dict []
  | _, _ => throw .typeMismatch

/-! ## Sequences -/

def indexOf (i : Nat) : List Value → Run Nat
  | [] => throw (.raised "ValueError")
  | w :: ws => do if ← isMember v [w] then return i else indexOf (i + 1) ws

def countOf : Run Value := do
  let hits ← items.filterM fun w => isMember v [w]
  return .int hits.length

def callSequence (args : List Value) : Run Value := do
  match name, args with
  | "count", [v] => countOf v items
  | "index", [v] => return .int (← indexOf v 0 items)
  | _, _ => throw .typeMismatch

def insertSorted : List Value → Run (List Value)
  | [] => return [v]
  | w :: ws => do
    if ← Value.related .less v w then return v :: w :: ws
    return w :: (← insertSorted ws)

/-- The items in ascending order; equal ones keep their order. -/
def sorted : Run (List Value) :=
  items.foldlM (fun done v => insertSorted v done) []

def callList (cell : Nat) (name : String) (args : List Value) : Run Value := do
  let items ← Run.listItems cell
  let become (items : List Value) : Run Value := do
    Run.setList cell items
    return .undef
  match name, args with
  | "append", [v] => become (items ++ [v])
  | "extend", [v] => do become (items ++ (← v.items))
  | "clear", [] => become []
  | "copy", [] => Run.newList items
  | "reverse", [] => become items.reverse
  | "sort", [] => do become (← sorted items)
  | "insert", [i, v] =>
    let n ← Run.demand .typeMismatch i.int?
    let at_ := (clamp items.length 0 items.length n).toNat
    become (items.take at_ ++ v :: items.drop at_)
  | "remove", [v] =>
    become (items.eraseIdx (← indexOf v 0 items))
  | "pop", args =>
    if 1 < args.length then throw .typeMismatch
    let index := args.headD (.int (-1))
    let v ← Value.itemAt .list items index
    let n := (index.int?.bind (Value.place? items.length)).getD 0
    let _ ← become (items.eraseIdx n)
    return v
  | _, args => callSequence items name args

/-! ## Numbers and tables -/

def bitCount (n : Nat) : Nat := ((Nat.toDigits 2 n).filter (· = '1')).length

def callInt (n : Int) (name : String) (args : List Value) : Run Value :=
  match name, args with
  | "bit_length", [] => return .int (if n = 0 then 0 else Nat.log2 n.natAbs + 1)
  | "bit_count", [] => return .int (bitCount n.natAbs)
  | "conjugate", [] => return .int n
  | "as_integer_ratio", [] => return .tuple [.int n, .int 1]
  | "to_bytes", _ => return .foreign "bytes"
  | _, _ => throw .typeMismatch

def callFloat (x : Float) (name : String) (args : List Value) : Run Value :=
  match name, args with
  | "is_integer", [] => return .bool (x.isFinite && isWhole x)
  | "conjugate", [] => Run.newFloat x
  | "hex", [] => return .foreign "str"
  | "as_integer_ratio", [] => return .foreign "tuple"
  | _, _ => throw .typeMismatch

def callDict (entries : List (String × Value)) (name : String) (args : List Value) :
    Run Value := do
  let find (key : Value) : Option Value :=
    match key with
    | .str k => (Text.toString? k).bind (Table.find? · entries)
    | _ => none
  match name, args with
  | "get", [k] | "setdefault", [k] => return (find k).getD .undef
  | "get", [k, other] | "pop", [k, other] | "setdefault", [k, other] => return (find k).getD other
  | "keys", [] => return .tuple (entries.map fun (k, _) => .str k)
  | "values", [] => return .tuple (entries.map Prod.snd)
  | "items", [] => return .tuple (entries.map fun (k, v) => .tuple [.str k, v])
  | "copy", [] => return .dict entries
  | "clear", [] | "update", _ => return .undef
  | "pop", [k] => Value.item (.dict entries) k
  | "popitem", [] => throw (.raised "KeyError")
  | "fromkeys", _ => return .dict []
  | _, _ => throw .typeMismatch

def callAny (args : List Value) : Run Value := do
  match name, args with
  | "__str__", [] => return .str (← v.display)
  | "__repr__", [] => return .str (← v.shown)
  | "__eq__", [w] => return .bool (← v.equal w)
  | "__ne__", [w] => return .bool !(← v.equal w)
  | "__hash__", [] => if v.isKey then return .int 0 else throw .typeMismatch
  | _, _ => return .foreign "object"

def callOwn (args : Args) : Run Value := do
  if ofAll.contains name then callAny v name args.positional
  else if name = "lambda" then return .foreign "object"
  else if !args.named.isEmpty then throw .typeMismatch
  else
    match v with
    | .str t => callText t name args.positional
    | .list cell => callList cell name args.positional
    | .tuple items => callSequence items name args.positional
    | .dict entries => callDict entries name args.positional
    | .int n => callInt n name args.positional
    | .bool b => callInt (if b then 1 else 0) name args.positional
    | .float x => callFloat x name args.positional
    | _ => return .foreign "object"

/-- Call a function that belongs to a value. The functions of a type take the
value as their first argument. -/
def call (args : Args) : Run Value :=
  match v with
  | .native type =>
    if ofAll.contains name then callAny v name args.positional
    else
      match args.positional with
      | w :: rest =>
        if typeName w = type then callOwn w name ⟨rest, args.named⟩ else throw .typeMismatch
      | [] => throw .typeMismatch
  | v => callOwn v name args

end Member
end Script
end Scad
