import Scad.Text.CharName.Unpack
import Scad.Text.CharName.PackedFirst
import Scad.Text.CharName.PackedSecond
import Scad.Text.CharName.PackedThird
import Scad.Text.CharName.PackedFourth

/-!
Characters by their names. A packed table lists the names of neighbouring code points
in order; a number tells how many code points are passed over. The further names of control
characters, corrections and abbreviations come first. Hangul syllables and
ideographs have names that follow from their code points. Capital and small letters are
the same, except in the names of syllables and unified ideographs.
-/

namespace Scad
namespace CharName

def hexDigit? (c : Char) : Option Nat :=
  if '0' ≤ c && c ≤ '9' then some (c.toNat - 48)
  else if 'A' ≤ c && c ≤ 'F' then some (c.toNat - 55)
  else none

def hexNumber? (acc : Nat) : List Char → Option Nat
  | [] => some acc
  | c :: cs => (hexDigit? c).bind fun d => hexNumber? (acc * 16 + d) cs

def packed : List Char :=
  (packedFirst ++ packedSecond ++ packedThird ++ packedFourth).toList.filter (· != '\n')

def tableLength : Nat := 33851

/-- Look for a name in what is left of the table: so many entries, with the code point of the
next one. Passing over all code points leads back to the first. -/
def findUnpacked (name : List (List Nat)) : (left code : Nat) → Unpacker → Option Nat
  | 0, _, _ => none
  | left + 1, code, u =>
    let (gap, u) := u.entry
    match gap.bind fun digits => hexNumber? 0 (digits.map fun i => letters.getD i ' ') with
    | some gap => findUnpacked name left ((code + gap) % 0x110000) u
    | none => if u.name = name then some code else findUnpacked name left (code + 1) u

/-! ## Names that follow from the code point -/

def after? : (front : List Char) → List Char → Option (List Char)
  | [], cs => some cs
  | c :: front, d :: cs => if c = d then after? front cs else none
  | _ :: _, [] => none

def isIn (code : Nat) (ranges : List (Nat × Nat)) : Bool :=
  ranges.any fun (low, high) => low ≤ code && code ≤ high

def unifiedRanges : List (Nat × Nat) :=
  [(0x3400, 0x4dbf), (0x4e00, 0x9fff), (0x20000, 0x2a6df), (0x2a700, 0x2b738), (0x2b740, 0x2b81d),
    (0x2b820, 0x2cea1), (0x2ceb0, 0x2ebe0), (0x30000, 0x3134a)]

/-- A unified ideograph is named by four or five digits. -/
def unified? (cs : List Char) : Option Nat := do
  let digits ← after? "CJK UNIFIED IDEOGRAPH-".toList cs
  if digits.length != 4 && digits.length != 5 then none
  let code ← hexNumber? 0 digits
  if isIn code unifiedRanges then some code else none

def numbered : List (String × List (Nat × Nat)) :=
  [("CJK COMPATIBILITY IDEOGRAPH-", [(0xf900, 0xfa6d), (0xfa70, 0xfad9), (0x2f800, 0x2fa1d)]),
    ("KHITAN SMALL SCRIPT CHARACTER-", [(0x18b00, 0x18cd5)]),
    ("NUSHU CHARACTER-", [(0x1b170, 0x1b2fb)])]

def findNumbered (cs : List Char) : List (String × List (Nat × Nat)) → Option Nat
  | [] => none
  | (front, ranges) :: rest =>
    match after? front.toList cs with
    | some digits => do
      let code ← hexNumber? 0 digits
      if isIn code ranges && digits.head? != some '0' then some code else none
    | none => findNumbered cs rest

def leads : List String :=
  ["G", "GG", "N", "D", "DD", "R", "M", "B", "BB", "S", "SS", "", "J", "JJ", "C", "K", "T", "P",
    "H"]

def vowels : List String :=
  ["A", "AE", "YA", "YAE", "EO", "E", "YEO", "YE", "O", "WA", "WAE", "OE", "YO", "U", "WEO", "WE",
    "WI", "YU", "EU", "YI", "I"]

def tails : List String :=
  ["", "G", "GG", "GS", "N", "NJ", "NH", "D", "L", "LG", "LM", "LB", "LS", "LT", "LP", "LH", "M",
    "B", "BS", "S", "SS", "NG", "J", "C", "K", "T", "P", "H"]

/-- The longest of several beginnings of a text: its number and what follows
it. `best` is the longest one so far, with its length. -/
def longest (cs : List Char) (i : Nat) (best : Option (Nat × Nat × List Char)) :
    List String → Option (Nat × List Char)
  | [] => best.map fun (_, j, rest) => (j, rest)
  | part :: parts =>
    let longer := match best with
      | some (length, _, _) => decide (length < part.length)
      | none => true
    match if longer then after? part.toList cs else none with
    | some rest => longest cs (i + 1) (some (part.length, i, rest)) parts
    | none => longest cs (i + 1) best parts

def syllable? (cs : List Char) : Option Nat := do
  let sounds ← after? "HANGUL SYLLABLE ".toList cs
  let (lead, sounds) ← longest sounds 0 none leads
  let (vowel, sounds) ← longest sounds 0 none vowels
  let (tail, sounds) ← longest sounds 0 none tails
  if sounds.isEmpty then some (0xac00 + (lead * 21 + vowel) * 28 + tail) else none

def capital (c : Char) : Char := if 'a' ≤ c && c ≤ 'z' then Char.ofNat (c.toNat - 32) else c

def find? (name : List Char) : Option Char :=
  let capitals := name.map capital
  let code := (syllable? name).or <| (unified? name).or <| (findNumbered capitals numbered).or <|
    let words := (String.ofList capitals).splitOn " "
    findUnpacked (words.map fun word => word.toList.map letters.toList.idxOf) tableLength 0
      (.start packed)
  code.map Char.ofNat

end CharName
end Scad
