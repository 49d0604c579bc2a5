import Mathlib
import Scad.Proofs.Arithmetic.Outcome

/-!
Numbers in decimal notation. Digits alone are an exact whole number if they are not too many,
and with a point, or else, they are rounded to a floating point number. An exponent is not
read: its mark and sign may be taken as part of the number, but its digits are not, so that a
program with an exponent is refused.
-/

namespace Scad

open Float.Model UnpackedFloat Nat

/-! ## Rounded numbers -/

theorem isNaN_ofBits {a : UInt64} (h : a.toNat / 2 ^ 52 % 2048 = 2047 → a.toNat % 2 ^ 52 = 0) :
    (Float.ofBits a).isNaN = false := by
  have hbits : @isNaNBits Format.binary64 a.toBitVec = false := by
    rw [isNaNBits, decide_eq_false_iff_not]
    rintro ⟨he, hm⟩
    rw [unpackExponent_def] at he
    rw [unpackMantissa_def] at hm
    have hexp := congrArg BitVec.toNat he
    rw [BitVec.extractLsb'_toNat, shiftRight_eq_div_pow] at hexp
    refine hm (BitVec.eq_of_toNat_eq ?_)
    rw [BitVec.extractLsb'_toNat, shiftRight_zero]
    exact h hexp
  have hpack : pack Format.binary64 (unpack Format.binary64 a.toBitVec) = a.toBitVec := by
    rw [pack_unpack _ (by decide), hbits]
    rfl
  have hto : (Float.ofBits a).toBits = a := UInt64.toBitVec_inj.1 hpack
  rw [Float.isNaN_eq_decide_eq_nan, decide_eq_false_iff_not, ← Float.toBits_inj, hto]
  rintro rfl
  revert h
  decide

namespace Binary64

/-- A number as `toBits` expects it: the mantissa is not too long, and the exponent not too
small. -/
def Fits : Binary64 → Prop
  | nan => False
  | infinite _ => True
  | finite _ m e => m < Nat.pow 2 precision ∧ leastExponent ≤ e

theorem toBits_field {b : Binary64} (h : b.Fits) : b.toBits < 2 ^ 64 ∧
    (b.toBits / 2 ^ 52 % 2048 = 2047 → b.toBits % 2 ^ 52 = 0) := by
  have hbit : hiddenBit = 2 ^ 52 := by norm_num [hiddenBit]
  have hsign (s : Bool) : signBit s = 0 ∨ signBit s = 2 ^ 63 := by cases s <;> simp [signBit]
  cases b with
  | nan => exact absurd h id
  | infinite s =>
    have hb : toBits (infinite s) = signBit s + 2047 * hiddenBit := rfl
    rw [hb, hbit]
    rcases hsign s with h | h <;> omega
  | finite s m e =>
    obtain ⟨hm, he⟩ := h
    rw [precision, Nat.pow_eq] at hm
    rw [leastExponent] at he
    have hb : toBits (finite s m e) = if m < hiddenBit then signBit s + m
        else if greatestExponent < e then signBit s + 2047 * hiddenBit
        else signBit s + (e + 1075).toNat * hiddenBit + (m - hiddenBit) := rfl
    rw [hb, hbit, greatestExponent]
    split
    · rcases hsign s with h | h <;> omega
    · split <;> rcases hsign s with h | h <;> omega

theorem roundDiv_le (num den : Nat) : roundDiv num den ≤ num / den + 1 := by
  rw [roundDiv]
  split <;> omega

theorem scaled_lt {num den : Nat} (hd : den ≠ 0) {e : Int}
    (he : (Nat.log2 num : Int) - Nat.log2 den - 52 ≤ e) :
    (scaled num den e).1 / (scaled num den e).2 < 2 ^ precision := by
  have hnum : num < 2 ^ (Nat.log2 num + 1) := lt_log2_self
  have hden : 2 ^ Nat.log2 den ≤ den := log2_self_le hd
  have hle : Nat.log2 num + 1 + (-e).toNat ≤ precision + (Nat.log2 den + e.toNat) := by
    rw [precision]
    omega
  have hpos : 0 < den * 2 ^ e.toNat := by positivity
  refine (div_lt_iff_lt_mul hpos).2 ?_
  calc num * 2 ^ (-e).toNat
      < 2 ^ (Nat.log2 num + 1) * 2 ^ (-e).toNat := mul_lt_mul_of_pos_right hnum (by positivity)
    _ = 2 ^ (Nat.log2 num + 1 + (-e).toNat) := (pow_add ..).symm
    _ ≤ 2 ^ (precision + (Nat.log2 den + e.toNat)) := Nat.pow_le_pow_right (by decide) hle
    _ = 2 ^ precision * (2 ^ Nat.log2 den * 2 ^ e.toNat) := by rw [pow_add, pow_add]
    _ ≤ 2 ^ precision * (den * 2 ^ e.toNat) := by gcongr

theorem ofRatio_fits (negative : Bool) (num den : Nat) : (ofRatio negative num den).Fits := by
  rw [ofRatio]
  split
  · exact ⟨by decide, by decide⟩
  · rename_i h
    have hd : den ≠ 0 := by
      rintro rfl
      simp at h
    dsimp only
    generalize he0 : max ((Nat.log2 num : Int) - Nat.log2 den - precision) leastExponent = e0
    generalize he : (if (scaled num den e0).1 / (scaled num den e0).2 < Nat.pow 2 precision then e0
      else e0 + 1) = e
    have hleast : leastExponent ≤ e := by
      have := le_max_right ((Nat.log2 num : Int) - Nat.log2 den - precision) leastExponent
      rw [he0] at this
      rw [← he]
      split <;> omega
    have hlt : (scaled num den e).1 / (scaled num den e).2 < 2 ^ precision := by
      have := le_max_left ((Nat.log2 num : Int) - Nat.log2 den - precision) leastExponent
      rw [he0, precision] at this
      rw [← he]
      split
      · assumption
      · exact scaled_lt hd (by omega)
    have hround := roundDiv_le (scaled num den e).1 (scaled num den e).2
    generalize roundDiv (scaled num den e).1 (scaled num den e).2 = m at hround
    have fits {m : Nat} {e : Int} (hm : m < Nat.pow 2 precision) (he : leastExponent ≤ e) :
        (if greatestExponent < e then infinite negative else finite negative m e).Fits := by
      split
      · trivial
      · exact ⟨hm, he⟩
    have hb : hiddenBit < Nat.pow 2 precision := by decide
    by_cases hm : m = Nat.pow 2 precision
    · rw [if_pos hm]
      exact fits hb (by omega)
    · rw [if_neg hm]
      exact fits (by rw [Nat.pow_eq] at hm ⊢; omega) hleast

theorem isNaN_toFloat {b : Binary64} (h : b.Fits) : b.toFloat.isNaN = false := by
  obtain ⟨hlt, hfield⟩ := toBits_field h
  refine isNaN_ofBits ?_
  rwa [UInt64.toNat_ofNat_of_lt' hlt]

end Binary64

theorem Numeral.isNaN_decimal (negative : Bool) (n : Nat) (e : Int) :
    (decimal negative n e).isNaN = false := by
  refine Binary64.isNaN_toFloat ?_
  split
  · exact ⟨by decide, by decide⟩
  · split
    · trivial
    · exact Binary64.ofRatio_fits ..


/-! ## Literals -/

namespace Arithmetic

open List Numeral Lexeme Environment

structure Exponent where
  mark : Char
  sign : List Char
  digits : List (Fin 10)
  mark_mem : mark ∈ ['e', 'E']
  sign_mem : sign ∈ [[], ['+'], ['-']]
  digits_ne : digits ≠ []

def Exponent.text (e : Exponent) : List Char := e.mark :: (e.sign ++ digitChars e.digits)

/-- A number in decimal notation, with a point if there are `places`. -/
structure Literal where
  whole : List (Fin 10)
  places : Option (List (Fin 10))
  exponent : Option Exponent
  digits_ne : whole ++ places.getD [] ≠ []

namespace Literal

def stem (l : Literal) : List Char :=
  digitChars l.whole ++ l.places.elim [] fun ds => '.' :: digitChars ds

def text (l : Literal) : String :=
  String.ofList (l.stem ++ l.exponent.elim [] Exponent.text)

/-- The number without its exponent. -/
def value (l : Literal) : Value :=
  if l.places = none ∧ l.whole.length ≤ maxDigits then .int (Expr.ofDigits l.whole)
  else .float (decimal false (Expr.ofDigits (l.whole ++ l.places.getD []))
    (-(l.places.getD []).length))

end Literal

/-! ## Reading a literal -/

namespace Literal

variable (l : Literal)

theorem numberLength_stem {c : Char} (cs : List Char) (hc : Lexeme.isDigit c = false)
    (hp : c ≠ '.') :
    numberLength (l.stem ++ c :: cs) = some (l.stem.length + exponentLength (c :: cs)) := by
  obtain ⟨whole, _ | places, exponent, hne⟩ := l
  · rw [stem, Option.elim_none, append_nil]
    exact Expr.numberLength_whole (fun _ => isDigit_of_mem) (by simpa using hne) hc hp
  · have hwhole : countWhile Lexeme.isDigit
      (digitChars whole ++ '.' :: (digitChars places ++ c :: cs)) =
        (digitChars whole).length := by
      rw [countWhile_all fun _ => isDigit_of_mem]
      rfl
    have hplaces : countWhile Lexeme.isDigit (digitChars places ++ c :: cs) =
        (digitChars places).length := by
      rw [countWhile_all fun _ => isDigit_of_mem]
      simp [countWhile, hc]
    have hsome : (digitChars whole).length + (digitChars places).length ≠ 0 := by
      simpa using hne
    have hdrop : (digitChars whole ++ '.' :: (digitChars places ++ c :: cs)).drop
        ((digitChars whole).length + 1 + (digitChars places).length) = c :: cs := by
      rw [add_assoc, add_comm 1, drop_length_add_append, drop_succ_cons, drop_left]
    rw [stem, Option.elim_some, append_assoc, cons_append]
    simp only [numberLength, hwhole, drop_left, hplaces, if_neg hsome, hdrop, length_append,
      length_cons]
    congr 1
    omega

theorem stem_front : ∃ d cs, l.stem = d :: cs ∧ d ∈ numberFronts := by
  obtain ⟨_ | ⟨d, ds⟩, _ | places, exponent, hne⟩ := l
  · exact absurd rfl hne
  · exact ⟨_, _, rfl, mem_cons_self⟩
  all_goals exact ⟨_, _, rfl, mem_cons_of_mem _ (mem_map_of_mem (mem_finRange d))⟩

/-- What is read of a literal with an exponent ends before a letter or a digit. -/
theorem numberLength_exponent (e : Exponent) (rest : List Char) : ∃ more d ds,
    e.text ++ rest = more ++ d :: ds ∧ isWordChar d = true ∧
      numberLength (l.stem ++ (e.text ++ rest)) = some (l.stem ++ more).length := by
  obtain ⟨mark, sign, _ | ⟨d, digits⟩, hmark, hsign, hne⟩ := e
  · exact absurd rfl hne
  have hd : ∀ d : Fin 10, digitChar d ≠ '+' ∧ digitChar d ≠ '-' ∧
      isWordChar (digitChar d) = true := by decide
  have hm : Lexeme.isDigit mark = false ∧ mark ≠ '.' ∧ isWordChar mark = true ∧
      (mark == 'e' || mark == 'E') = true := by
    simp only [mem_cons, not_mem_nil, or_false] at hmark
    rcases hmark with rfl | rfl <;> decide
  obtain ⟨hdigit, hpoint, hword, hmark⟩ := hm
  have hlength := l.numberLength_stem (sign ++ digitChars (d :: digits) ++ rest) hdigit hpoint
  have hsign : sign = [] ∨ ∃ s, sign = [s] ∧ (s == '+' || s == '-') = true := by
    simp only [mem_cons, not_mem_nil, or_false] at hsign
    rcases hsign with rfl | rfl | rfl <;> simp
  rcases hsign with rfl | ⟨s, rfl, hs⟩
  · have hexp : exponentLength (mark :: ([] ++ digitChars (d :: digits) ++ rest)) = 0 := by
      simp [exponentLength, (hd d).1, (hd d).2.1]
    refine ⟨[], mark, _, rfl, hword, hlength.trans ?_⟩
    rw [hexp, append_nil]
    rfl
  · have hexp : exponentLength (mark :: ([s] ++ digitChars (d :: digits) ++ rest)) = 2 := by
      simp only [cons_append, exponentLength, hmark, hs, Bool.and_self, if_true]
    refine ⟨[mark, s], digitChar d, _, rfl, (hd d).2.2, hlength.trans ?_⟩
    rw [hexp, length_append]
    rfl

/-! ## The value of a literal -/

theorem trim_stem : Blank.trim l.stem = l.stem := by
  refine trim_of_forall fun c hc => ?_
  rcases mem_append.1 hc with hc | hc
  · exact digitChar_not_blank hc
  · cases hp : l.places with
    | none =>
      rw [hp] at hc
      cases hc
    | some ds =>
      rw [hp] at hc
      rcases mem_cons.1 hc with rfl | hc
      · rfl
      · exact digitChar_not_blank hc

theorem readSign_stem : readSign l.stem = (false, l.stem) := by
  have hs : numberFronts.all (fun d => d != '-' && d != '+') = true := by decide
  obtain ⟨d, cs, hl, hd⟩ := l.stem_front
  have hd := all_eq_true.1 hs d hd
  simp only [Bool.and_eq_true, bne_iff_ne] at hd
  rw [hl]
  exact readSign.eq_3 _ (fun _ he => hd.1 (cons.inj he).1) fun _ he => hd.2 (cons.inj he).1

theorem word?_stem : word? false l.stem = none := by
  have hs : numberFronts.all (fun d => lower d != 'i' && lower d != 'n') = true := by decide
  obtain ⟨d, cs, hl, hd⟩ := l.stem_front
  have hd := all_eq_true.1 hs d hd
  simp only [Bool.and_eq_true, bne_iff_ne] at hd
  have hne (s : String) {c : Char} (hs : s.toList.head? = some c) (hc : lower d ≠ c) :
      String.ofList ((d :: cs).map lower) ≠ s := by
    rintro rfl
    rw [String.toList_ofList] at hs
    exact hc (Option.some.inj hs)
  rw [hl, word?]
  simp only [hne "inf" rfl hd.1, hne "infinity" rfl hd.1, hne "nan" rfl hd.2, decide_false,
    Bool.or_self, Bool.false_eq_true, if_false]

theorem readDigits_stem : readDigits 0 0 l.stem = (Expr.ofDigits l.whole, l.whole.length,
    l.places.elim [] fun ds => '.' :: digitChars ds) := by
  refine (readDigits_digitChar l.whole (fun n count => ?_) 0 0).trans (by rw [zero_add]; rfl)
  cases l.places <;> rfl

theorem int?_stem : int? (String.ofList l.stem) =
    if l.places = none ∧ l.whole.length ≤ maxDigits then some (Expr.ofDigits l.whole : Int)
    else none := by
  cases hp : l.places with
  | none =>
    have hstem : l.stem = digitChars l.whole := by rw [stem, hp, Option.elim_none, append_nil]
    have hne := l.digits_ne
    rw [hp] at hne
    cases hw : l.whole with
    | nil => exact absurd (by rw [hw]; rfl) hne
    | cons d ds =>
      rw [hstem, hw, int?_digitChar]
      simp only [true_and, length_cons, succ_le_iff]
  | some ds =>
    rw [int?, String.toList_ofList, trim_stem, readSign_stem]
    simp only [readDigits_stem, hp, Option.elim_some, reduceCtorEq, false_and, if_false]

theorem ofDigits_append (ds es : List (Fin 10)) :
    Expr.ofDigits (ds ++ es) = Expr.ofDigits ds * Nat.pow 10 es.length + Expr.ofDigits es := by
  have hfold (n : Nat) : es.foldl (fun (n : Nat) (d : Fin 10) => 10 * n + d) n =
      n * 10 ^ es.length + Expr.ofDigits es := by
    induction es generalizing n with
    | nil => simp [Expr.ofDigits]
    | cons e es ih =>
      simp only [Expr.ofDigits, foldl_cons, length_cons] at ih ⊢
      rw [ih, ih (10 * 0 + e)]
      ring
  rw [Expr.ofDigits, foldl_append, hfold, Nat.pow_eq]
  rfl

theorem float?_stem : float? (String.ofList l.stem) = some (decimal false
    (Expr.ofDigits (l.whole ++ l.places.getD [])) (-(l.places.getD []).length)) := by
  rw [float?, String.toList_ofList, trim_stem, readSign_stem]
  simp only [word?_stem, readDigits_stem]
  have hne := l.digits_ne
  cases hp : l.places with
  | none =>
    rw [hp] at hne
    have hcount : l.whole.length + 0 ≠ 0 := by simpa using hne
    simp only [Option.elim_none, Option.getD_none, append_nil]
    exact (if_neg hcount).trans rfl
  | some ds =>
    rw [hp] at hne
    have hcount : l.whole.length + ds.length ≠ 0 := by simpa using hne
    have hend (n count : Nat) : readDigits n count [] = (n, count, []) := rfl
    have hread := readDigits_digitChar ds hend 0 0
    rw [append_nil, zero_add] at hread
    simp only [Option.elim_some, Option.getD_some, hread, if_neg hcount]
    rw [ofDigits_append, ← zero_sub]
    rfl

theorem yields_stem (pos : Nat) :
    Yields 1 (.leaf "pr_Num" (String.ofList l.stem) pos) (some l.value) := by
  refine .leaf rfl fun perform env w => ?_
  have hword : Gives (Node.word (.code (.leaf "pr_Num" (String.ofList l.stem) pos))) w
      (some (Text.ofString (String.ofList l.stem))) := rfl
  refine hword.step ?_
  rw [Eval.readNumber, Text.toString_ofString, int?_stem, value]
  by_cases h : l.places = none ∧ l.whole.length ≤ maxDigits
  · rw [if_pos h, if_pos h]
    exact .pure _
  · rw [if_neg h, if_neg h]
    simp only [float?_stem, Run.newFloat, isNaN_decimal]
    exact .pure _

/-- A number without an exponent can be assigned and has its value, and one with an exponent
cannot be parsed. -/
theorem number_read (w : World) :
    (l.exponent = none → ∃ env loaded after,
      (do
        let env ← Environment.create
        Environment.load env ("x = " ++ l.text ++ ";")
        return env) w = .ok env loaded ∧
      Eval.perform (.read env "x") loaded = .ok l.value after) ∧
    (l.exponent ≠ none → ∃ pos, parse ("x = " ++ l.text ++ ";") = .error (.noMatch pos)) := by
  obtain ⟨d, cs, hl, hd⟩ := l.stem_front
  have hshun : numberFronts.all (fun d => Peg.exprWords.all (·.shuns [d])) = true := rfl
  have hinky : numberFronts.all (fun d => isInky [d]) = true := rfl
  have hfront : [d] <+: l.text.toList := by
    rw [text, String.toList_ofList, hl]
    exact ⟨_, rfl⟩
  refine ⟨fun he => ?_, fun he => ?_⟩
  · have htext : l.text = String.ofList l.stem := by rw [text, he, Option.elim_none, append_nil]
    refine read_primary [d] hfront (all_eq_true.1 hinky d hd) (all_eq_true.1 hshun d hd)
      (fun c hc => ?_) (l.yields_stem 4) w
    have hk := l.numberLength_stem [] (c := ';') rfl (by decide)
    rw [htext, String.toList_ofList, hl] at hc
    rw [hl] at hk
    rw [htext, ← String.length_toList, String.toList_ofList, hl]
    exact matches_number hd hc hk
  · obtain ⟨e, he⟩ := Option.ne_none_iff_exists'.1 he
    obtain ⟨more, a, as, htext, ha, hk⟩ := l.numberLength_exponent e [';']
    rw [htext, hl, ← append_assoc] at hk
    have ht : ("x = " ++ l.text ++ ";").toList =
        'x' :: ' ' :: '=' :: ' ' :: (d :: (cs ++ more) ++ a :: as) := by
      simp [text, he, hl, htext]
    have hc : Cursor.settle ⟨3, ' ' :: (d :: (cs ++ more) ++ a :: as)⟩ =
        ⟨4, d :: (cs ++ more) ++ a :: as⟩ := by
      rw [Cursor.settle_blank rfl,
        Cursor.settle_ink (isInk_of_isInky (all_eq_true.1 hinky d hd) ⟨_, rfl⟩)]
    have hstuck : Stuck (Cursor.settle ⟨4 + (d :: (cs ++ more)).length, a :: as⟩).rest := by
      rw [Cursor.settle_ink (Layout.isInk_of_word ha)]
      exact .inl ⟨a, as, rfl, .inl ha⟩
    have hexpr := Matches.expr_of_exprCase [d] (by rw [hc]; exact ⟨_, rfl⟩)
      (all_eq_true.1 hshun d hd) (.exprCase_of_primary (matches_number hd hc hk) hstuck.idle)
    obtain ⟨e, he⟩ := parse_assignX_error ht (.seqVoid hexpr (.failed_of_stuck hstuck rfl))
    cases e with
    | noMatch pos => exact ⟨pos, he⟩
    | exhausted => exact absurd he (parse_ne_exhausted _)

theorem number_read_half :
    (∃ env loaded after,
      (do
        let env ← Environment.create
        Environment.load env "x = .5;"
        return env) {} = .ok env loaded ∧
      Eval.perform (.read env "x") loaded = .ok (.float 0.5) after) ∧
    ∃ pos, parse "x = 1e+5;" = .error (.noMatch pos) := by
  let half : Literal := ⟨[], some [5], none, by decide⟩
  let big : Literal := ⟨[1], none,
    some ⟨'e', ['+'], [5], by decide, by decide, by decide⟩, by decide⟩
  have hvalue : half.value = .float 0.5 :=
    congrArg Value.float (by decide +kernel : decimal false 5 (-1) = 0.5)
  rw [← hvalue]
  exact ⟨(half.number_read {}).1 rfl, (big.number_read {}).2 (Option.some_ne_none _)⟩

end Literal

end Arithmetic

end Scad
