import Scad.Value.Basic

/-!
Everything that can go wrong, by cause. The class of a fault is what a caller
can tell apart, its message is the wording.
-/

namespace Scad

inductive FaultClass where
  | noMatch | literal | recursion
  | type | attribute | name | unsetLocal | key | value | arity | index
  | zeroDivision | overflow | memory | runtime | notImplemented
  | assertion | failedAssertion | stop | lookup | tooLong
  | missingFile | isDirectory | notDirectory | system | missingModule
  | indentation
  | formula | formulaName | formulaFunction | formulaAttribute | formulaFeature | formulaNumber
  | exit
  /-- A class that a script names. -/
  | named (name : String)
  deriving DecidableEq, Repr

inductive SequenceKind where
  | list | tuple | string
  deriving DecidableEq, Repr

def SequenceKind.noun : SequenceKind → String
  | list => "list"
  | tuple => "tuple"
  | string => "string"

inductive Fault where
  /-- The text is not a program; `pos` is the furthest place reached. -/
  | noMatch (pos : Nat)
  | badLiteral
  | textTooLong
  | tooDeep
  | typeMismatch
  | noAttribute
  | unboundName
  | unsetLocal
  | unknownName (name : Text)
  | unknownKey
  | arity
  | malformed
  | notImplemented
  | failedAssertion (message : Value)
  | noFirstChild
  | noCurrentEnvironment
  | missingFile
  | isDirectory
  | notDirectory
  | pathTooLong
  | pathWithNull
  | negativeDescriptor
  | badDescriptor
  | missingModule
  | outOfMemory
  -- Scripts and formulas.
  | badScript
  | badIndentation
  | emptyFormula
  | undefinedName
  | undefinedFunction
  | undefinedAttribute
  | unavailableFeature
  | numberTooHigh
  | exit (code : Int)
  | raised (name : String)
  -- Values out of bounds.
  | outOfRange (kind : SequenceKind)
  | indexTooWide
  | countTooWide
  | divisionByZero
  | floatDivisionByZero
  | floorDivisionByZero
  | floatFloorDivisionByZero
  | zeroToNegativePower
  | powerTooLarge
  | negativeShift
  | moduloByZero
  | floatModuloByZero
  | integerTooLarge
  | quotientTooLarge
  | mathRange
  | mathDomain
  | infinityToInteger
  | nanToInteger
  | charTooWide
  | charOutOfRange
  | mappedCharOutOfRange
  | emptyMinimum
  | emptyMaximum
  | tooFewToUnpack (expected got : Nat)
  | tooFewToUnpackRest (expected got : Nat)
  | tooManyToUnpack (expected : Nat)
  | badNumeral (shown : String)
  | badInteger (base : Nat) (shown : String)
  | badBase
  | absentPart
  | integerTooLong
  | numeralTooLong (digits : Nat)
  -- Formatting.
  | badFormatChar (code index : Nat)
  | incompleteFormat
  | incompleteFormatKey
  | formatTooWide
  | widthTooWide
  | formatTooPrecise
  | formattedCharOutOfRange
  | badField (why : String)
  | zeroStep
  -- Rules of the language.
  | unknownOperator
  | alreadySet
  | noLoopVariables
  | comprehension (word : String)
  /-- A run through children that is asked for more by one of them. -/
  | alreadyRunning
  | notVectors (first second : String)
  | strangeWork (shown : String)
  | bareTerminal
  | noMeaning (rule : String)
  | emptyStatement
  | recursiveVariable (shown : String)
  | recursiveCall
  | notDynamicName
  | dynamicName
  deriving Inhabited

namespace Fault

def hexText (n : Nat) : String := String.ofList (Nat.toDigits 16 n)

def faultClass : Fault → FaultClass
  | noMatch _ => .noMatch
  | badLiteral => .literal
  | textTooLong => .tooLong
  | tooDeep => .recursion
  | typeMismatch => .type
  | noAttribute => .attribute
  | unboundName => .name
  | unsetLocal => .unsetLocal
  | unknownName _ | unknownKey => .key
  | arity => .arity
  | malformed => .assertion
  | notImplemented => .notImplemented
  | failedAssertion _ => .failedAssertion
  | noFirstChild => .stop
  | noCurrentEnvironment => .lookup
  | missingFile => .missingFile
  | isDirectory => .isDirectory
  | notDirectory => .notDirectory
  | pathTooLong | badDescriptor => .system
  | missingModule => .missingModule
  | badScript => .literal
  | badIndentation => .indentation
  | emptyFormula => .formula
  | undefinedName => .formulaName
  | undefinedFunction => .formulaFunction
  | undefinedAttribute => .formulaAttribute
  | unavailableFeature => .formulaFeature
  | numberTooHigh => .formulaNumber
  | exit _ => .exit
  | raised name => .named name
  | outOfMemory => .memory
  | outOfRange _ | indexTooWide => .index
  | divisionByZero | floatDivisionByZero | moduloByZero | floatModuloByZero | floorDivisionByZero
  | floatFloorDivisionByZero | zeroToNegativePower => .zeroDivision
  | powerTooLarge | integerTooLarge | quotientTooLarge | mathRange | infinityToInteger | charTooWide
  | formattedCharOutOfRange | countTooWide | widthTooWide => .overflow
  | mathDomain | nanToInteger | charOutOfRange | mappedCharOutOfRange | emptyMinimum
  | emptyMaximum | tooFewToUnpack _ _ | tooFewToUnpackRest _ _ | tooManyToUnpack _
  | badNumeral _ | badInteger _ _ | badBase | absentPart | negativeShift | badField _ | zeroStep
  | badFormatChar _ _ | incompleteFormat | incompleteFormatKey | formatTooWide
  | formatTooPrecise | unknownOperator | alreadySet | noLoopVariables | comprehension _
  | alreadyRunning | notVectors _ _ | strangeWork _ | integerTooLong | numeralTooLong _
  | pathWithNull | negativeDescriptor => .value
  | bareTerminal | noMeaning _ | emptyStatement | recursiveVariable _ | recursiveCall
  | notDynamicName | dynamicName => .runtime

def digitAdvice : String := "; use sys.set_int_max_str_digits() to increase the limit"

def message? : Fault → Option Text
  | unknownName name => some name
  | outOfRange kind => some (kind.noun ++ " index out of range")
  | indexTooWide | countTooWide => some "cannot fit 'int' into an index-sized integer"
  | divisionByZero => some "division by zero"
  | floatDivisionByZero => some "float division by zero"
  | floorDivisionByZero => some "integer division or modulo by zero"
  | floatFloorDivisionByZero => some "float floor division by zero"
  | zeroToNegativePower => some "0.0 cannot be raised to a negative power"
  | negativeShift => some "negative shift count"
  | moduloByZero => some "integer modulo by zero"
  | floatModuloByZero => some "float modulo"
  | integerTooLarge => some "int too large to convert to float"
  | quotientTooLarge => some "integer division result too large for a float"
  | mathRange => some "math range error"
  | mathDomain => some "math domain error"
  | infinityToInteger => some "cannot convert float infinity to integer"
  | nanToInteger => some "cannot convert float NaN to integer"
  | charTooWide => some "Python int too large to convert to C int"
  | charOutOfRange => some "chr() arg not in range(0x110000)"
  | mappedCharOutOfRange => some "character mapping must be in range(0x110000)"
  | emptyMinimum => some "min() arg is an empty sequence"
  | emptyMaximum => some "max() arg is an empty sequence"
  | tooFewToUnpack expected got =>
    some ("not enough values to unpack (expected " ++ Nat.repr expected ++ ", got " ++
      Nat.repr got ++ ")")
  | tooFewToUnpackRest expected got =>
    some ("not enough values to unpack (expected at least " ++ Nat.repr expected ++ ", got " ++
      Nat.repr got ++ ")")
  | tooManyToUnpack expected =>
    some ("too many values to unpack (expected " ++ Nat.repr expected ++ ")")
  | badNumeral shown => some ("could not convert string to float: " ++ shown)
  | badInteger base shown =>
    some ("invalid literal for int() with base " ++ Nat.repr base ++ ": " ++ shown)
  | badBase => some "int() base must be >= 2 and <= 36, or 0"
  | absentPart => some "substring not found"
  | integerTooLong => some ("Exceeds the limit (4300 digits) for integer string conversion" ++
      digitAdvice)
  | numeralTooLong digits =>
    some ("Exceeds the limit (4300 digits) for integer string conversion: value has " ++
      Nat.repr digits ++ " digits" ++ digitAdvice)
  | pathWithNull => some "embedded null byte"
  | negativeDescriptor => some "negative file descriptor"
  | badFormatChar code index =>
    some ("unsupported format character '" ++
      (if 31 ≤ code && code < 127 then String.singleton (Char.ofNat code) else "?") ++ "' (0x" ++
      hexText code ++ ") at index " ++ Nat.repr index)
  | incompleteFormat => some "incomplete format"
  | incompleteFormatKey => some "incomplete format key"
  | formatTooWide => some "width too big"
  | widthTooWide => some "Python int too large to convert to C ssize_t"
  | formatTooPrecise => some "precision too big"
  | formattedCharOutOfRange => some "%c arg not in range(0x110000)"
  | badField why => some why
  | zeroStep => some "slice step cannot be zero"
  | unknownOperator => some "Unknown op"
  | alreadySet => some "already set"
  | noLoopVariables => some "'for' called without variables"
  | comprehension word => some ("'" ++ word ++ "' in list comprehension is not implemented")
  | alreadyRunning => some "generator already executing"
  | notVectors first second =>
    some ("Not two 2d or 3d vectors: " ++ first ++ " / " ++ second)
  | strangeWork shown => some ("Work list contains " ++ shown)
  | bareTerminal => some "trying to interpret a terminal element"
  | noMeaning rule => some ("Syntax not implemented: " ++ rule)
  | emptyStatement => some "Empty statement"
  | recursiveVariable shown => some ("Recursive variable " ++ shown)
  | recursiveCall => some "recursive call"
  | notDynamicName => some "Name must start with a '$'"
  | dynamicName => some "Use 'set_var' for dynamic variables"
  | _ => none

end Fault
end Scad
