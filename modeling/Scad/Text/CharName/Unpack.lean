/-!
Unpacking a table of names that is packed as the digits of a fraction. Every letter of the table
is a number of six bits. Each bit divides an interval in the proportion in which its two values
are expected, and the fraction lies in the part of the value that comes. What is expected is
learned on the way, from what came before in the same context: after the same letters, in the
same word, or below the same letters of the names before.

An entry of the table begins with two letters that tell how many words at the front and at the
end of a name are those of the name before; the words in between follow, up to a semicolon.
After a `=` a number stands instead.
-/

namespace Scad
namespace CharName

def letters : Array Char := " -0123456789;=ABCDEFGHIJKLMNOPQRSTUVWXYZabcdefghijkl".toList.toArray

/-- The number of the letter that ends an entry. -/
def entryEnd : Nat := 12

/-- The number of the letter before a number. -/
def numberSign : Nat := 13

/-- The words that a letter at the beginning of an entry stands for. -/
def count (letter : Nat) : Nat := letter - 40

/-- Some letters as one number, after those of another number. The oldest ones drop out. -/
def number (before : Nat) (letters : List Nat) : Nat :=
  letters.foldl (fun n letter => (n * 64 + letter) % 0x40000000000000) before

def digitBase : Nat := 89

/-- The digits are the characters from `!` to `~` without the quotation mark, the hyphen, the
backslash and the braces. -/
def digit (c : Char) : Nat :=
  let n := c.toNat
  if n < 34 then 0 else if n < 45 then n - 34 else if n < 92 then n - 35
  else if n < 123 then n - 36 else n / 2 + 25

structure Place where
  /-- The letters before as one number, and how many of them are in the word. -/
  recent : Nat
  length : Nat := 0
  /-- How many words of the name before are not passed yet. -/
  words : Nat
  /-- The word above, and what is left of it and of the one above that from here on. -/
  upper : Nat
  above : List Nat
  higher : List Nat
  /-- The word is the same as the one above so far. -/
  same : Bool := true

namespace Place

/-- The beginning of a word, with the words above from there on. -/
def start (recent : Nat) (above higher : List (List Nat)) : Place :=
  { recent
    words := above.length
    upper := number 0 (above.headD [])
    above := above.headD []
    higher := higher.headD [] }

def last (p : Place) : Nat := p.recent % 64

def contexts (p : Place) : List Nat :=
  let up := p.above.headD 0
  let next := p.above.tail.headD 0
  let pair := p.recent % 0x1000
  [p.last, p.recent % 0x40000, p.recent % 0x1000000, p.recent % 0x1000000000,
    (up * 64 + p.higher.headD 0) * 64 + next, (up * 64 + p.last) * 16 + p.words,
    p.recent % (1 <<< (6 * p.length)) * 16 + p.length, p.upper * 0x1000 + pair,
    (up * 64 + next) * 64 + p.above.tail.tail.headD 0, pair * 16 + p.words,
    p.recent >>> (6 * p.length) % 0x1000 * 64 + p.length].mapIdx fun i n => n * 16 + i

/-- Which weights count, if the bits before are in `front`: those for all letters, for the last
letter, for the bits and for the place in the word. -/
def sets (p : Place) (front : Nat) : List Nat :=
  [0, 1 + p.last, 65 + front,
    129 + p.same.toNat * 32 + min 3 p.words * 8 + min 7 p.length]

def after (p : Place) (letter : Nat) : Place :=
  { p with
    recent := number p.recent [letter]
    length := p.length + 1
    above := p.above.tail
    higher := p.higher.tail
    same := p.same && letter == p.above.headD 0 }

end Place

structure Unpacker where
  digits : List Char
  /-- The interval is so many units wide, and the fraction lies so many units inside. -/
  width : Nat
  offset : Nat
  /-- What to expect in the contexts. The fraction of a number is how likely the bit is set,
  and its whole part how often a bit has come, up to three times. -/
  chances : FloatArray
  /-- How much each of the contexts counts, by sets. -/
  weights : FloatArray
  /-- The letters at the beginnings of the last entries, as one number. -/
  history : Nat := 0
  /-- The words of the last name, and of the one before. -/
  name : List (List Nat) := []
  previous : List (List Nat) := []

namespace Unpacker

def start (digits : List Char) : Unpacker :=
  { digits := digits.drop 7
    width := (List.replicate 7 digitBase).foldl (· * ·) 1
    offset := (digits.take 7).foldl (fun n c => n * digitBase + digit c) 0
    chances := ⟨Array.replicate 0x1000000 0.5⟩
    weights := ⟨Array.replicate 11 0.1 ++ Array.replicate (11 * 192) 0⟩ }

/-- A narrow interval gets finer units. -/
def refine (u : Unpacker) : Unpacker :=
  if u.width < 0x4000000000 then
    { u with
      digits := u.digits.tail
      width := u.width * digitBase
      offset := u.offset * digitBase + (u.digits.head?.map digit).getD 0 }
  else u

/-- Where the chances of a bit in a context are kept. The bits before it are in `front`. -/
def slot (front context : Nat) : Nat :=
  (((context * 64 + front).toUInt64 * 0x9e3779b97f4a7c15) >>> 40).toNat

/-- A probability on a scale without ends. -/
def stretch (p : Float) : Float :=
  let r := (p / (1 - p)).sqrt.sqrt.sqrt
  r - 1 / r

/-- The probability at a place of that scale. -/
def squash (x : Float) : Float :=
  let r := x + (x * x + 1).sqrt
  let r := r * r
  let r := r * r
  let r := r * r
  r / (1 + r)

/-- What the contexts from a number on vote for. -/
def weigh (weights : FloatArray) (sets : List Nat) (i : Nat) :
    (votes : List Float) → (sum : Float) → Float
  | [], sum => sum
  | x :: votes, sum =>
    weigh weights sets (i + 1) votes
      (sum + sets.foldl (fun w j => w + weights.get! (11 * j + i)) 0 * x)

/-- Contexts that voted for what came count more. -/
def adjust (error : Float) (sets : List Nat) (i : Nat) (weights : FloatArray) :
    (votes : List Float) → FloatArray
  | [] => weights
  | x :: votes =>
    let adjusted := sets.foldl (fun weights j =>
      weights.set! (11 * j + i) (weights.get! (11 * j + i) + error * 0.0015 * x)) weights
    adjust error sets (i + 1) adjusted votes

/-- What to expect after a bit has come. -/
def learned (bit chance : Float) : Float :=
  let count := chance.floor
  let p := chance - count
  let p := p + (bit - p) / (count + 1.05)
  let p := if p < 0.002 then 0.002 else if p > 0.998 then 0.998 else p
  (if count < 3 then count + 1 else count) + p

def learn (bit : Float) (chances : FloatArray) : (slots : List Nat) → FloatArray
  | [] => chances
  | i :: slots => learn bit (chances.set! i (learned bit (chances.get! i))) slots

/-- The next bit, in some contexts with some sets of weights. -/
def bit (contexts sets : List Nat) (front : Nat) (u : Unpacker) : Nat × Unpacker :=
  let slots := contexts.map (slot front)
  let votes := slots.map fun i =>
    let chance := u.chances.get! i
    stretch (chance - chance.floor)
  let p := squash (weigh u.weights sets 0 votes 0)
  let part := u.width / 65536 * min 65520 (max 16 (p * 65536).toUInt64.toNat)
  let isSet := decide (u.offset < part)
  let value : Float := if isSet then 1 else 0
  let v :=
    { u with
      width := if isSet then part else u.width - part
      offset := if isSet then u.offset else u.offset - part
      chances := learn value u.chances slots
      weights := adjust (value - p) sets 0 u.weights votes }
  (isSet.toNat, v.refine.refine)

/-- The number of the letter at a place, of which so many bits are left. -/
def bits (p : Place) (contexts : List Nat) : (left front : Nat) → Unpacker → Nat × Unpacker
  | 0, front, u => (front - 64, u)
  | left + 1, front, u =>
    let (b, u) := u.bit contexts (p.sets front) front
    bits p contexts left (front * 2 + b) u

def letter (p : Place) (u : Unpacker) : Nat × Unpacker := bits p p.contexts 6 1 u

/-- The words up to the end of the entry, which has at most so many letters. The letters of the
first one so far come backwards. -/
def spell : (left : Nat) → (above higher : List (List Nat)) → (word : List Nat) → Place → Unpacker →
    List (List Nat) × Unpacker
  | 0, _, _, _, _, u => ([], u)
  | left + 1, above, higher, word, p, u =>
    let (letter, u) := u.letter p
    if letter = entryEnd then ([word.reverse], u)
    else if letter = 0 then
      let p := .start (p.after letter).recent above.tail higher.tail
      let (words, u) := spell left above.tail higher.tail [] p u
      (word.reverse :: words, u)
    else spell left above higher (letter :: word) (p.after letter) u

/-- The next entry: the digits of a number, or nothing if it is a name. -/
def entry (u : Unpacker) : Option (List Nat) × Unpacker :=
  let words := u.name
  let higher := u.previous
  let p := .start u.history words higher
  let (front, u) := u.letter p
  if front = numberSign then
    let (digits, u) := spell 100 [] [] [] (.start front [] []) u
    (digits.head?, u)
  else
    let kept := words.take (count front)
    let above := words.drop (count front)
    let higher := higher.drop (count front)
    let p := .start (p.after front).recent above higher
    let (back, u) := u.letter p
    let gone := above.take (above.length - count back)
    let recent := kept.foldl (fun n word => number n (word ++ [0])) 0
    let (own, u) := spell 100 gone higher [] (.start recent gone higher) u
    (none,
      { u with
        history := (p.after back).recent
        name := kept ++ own.filter (· != []) ++ words.drop (words.length - count back)
        previous := words })

end Unpacker
end CharName
end Scad
