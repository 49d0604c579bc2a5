import Scad.Proofs.Parsing.Lookahead

/-!
Words, numbers and layout in a text. A word or a number goes up to the first character
that can stand in neither, whatever else follows.
-/

namespace Scad

open Lexeme Layout List

variable {c : Char}

/-- Characters that stand neither in a word or number nor in an operator of two characters. -/
def stopChars : List Char :=
  [' ', '\t', '\n', '\r', '/', '"', '\'', '(', ')', '[', ']', '\x7b', '\x7d', ';']

def isWordy (c : Char) : Bool := !stopChars.contains c

theorem isWordy_eq_false : isWordy c = false ↔ c ∈ stopChars := by
  simp [isWordy]

theorem Layout.commentLength_of_ne {cs : List Char} (h : c ≠ '/') :
    commentLength (c :: cs) = none := by
  unfold commentLength
  split <;> simp_all

/-! ## Layout -/

namespace Layout

theorem length_comment {cs : List Char} {n : Nat} (h : commentLength cs = some n) :
    length cs = n + length (cs.drop n) := by
  have hb : countWhile isBlank cs = 0 := by
    cases cs with
    | nil => rfl
    | cons c cs =>
      by_cases hc : isBlank c = true
      · rw [commentLength_of_ne (by rintro rfl; cases hc)] at h
        cases h
      · simp [countWhile, hc]
  have hn := commentLength_bounds h
  obtain ⟨m, hm⟩ : ∃ m, cs.length = m + 1 := ⟨cs.length - 1, by omega⟩
  rw [length, hm, skip, hb]
  simp only [drop_zero, h, Nat.zero_add]
  rw [skip_eq_length]
  simp only [List.length_drop]
  omega

theorem length_induct {P : List Char → Prop} (ink : ∀ cs, isInk cs = true → P cs)
    (blank : ∀ b cs, isBlank b = true → P cs → P (b :: cs))
    (comment : ∀ cs n, commentLength cs = some n → P (cs.drop n) → P cs) (cs : List Char) :
    P cs := by
  induction hl : cs.length using Nat.strongRecOn generalizing cs with
  | ind l ih =>
    subst hl
    cases cs with
    | nil => exact ink [] rfl
    | cons c cs =>
      by_cases hc : isBlank c = true
      · exact blank c cs hc (ih _ (by simp) cs rfl)
      · cases hn : commentLength (c :: cs) with
        | none => exact ink _ (by simp [isInk, hc, hn])
        | some n =>
          have hb := commentLength_bounds hn
          refine comment _ n hn (ih _ ?_ _ rfl)
          simp only [List.length_drop]
          omega

theorem settled (cs : List Char) : isInk (cs.drop (length cs)) = true := by
  induction cs using length_induct with
  | ink cs h => rwa [length_ink h, drop_zero]
  | blank b cs hb ih => rwa [length_blank hb, drop_succ_cons]
  | comment cs n h ih => rwa [length_comment h, ← drop_drop]

end Layout

/-! ## Words and numbers -/

namespace Lexeme

variable {cs : List Char} {n : Nat}

theorem isWordy_of_isDigit {c : Char} (h : isDigit c = true) : isWordy c = true := by
  have stop : stopChars.all (fun c => !isDigit c) = true := rfl
  by_contra hc
  have := all_eq_true.1 stop c (isWordy_eq_false.1 (Bool.eq_false_iff.2 hc))
  rw [h] at this
  cases this

theorem isWordy_of_isLetter {c : Char} (h : isLetter c = true) : isWordy c = true := by
  have stop : stopChars.all (fun c => !isLetter c) = true := rfl
  by_contra hc
  have := all_eq_true.1 stop c (isWordy_eq_false.1 (Bool.eq_false_iff.2 hc))
  rw [h] at this
  cases this

theorem countWhile_mem {p : Char → Bool} {c : Char} (h : c ∈ cs.take (countWhile p cs)) :
    p c = true := by
  induction cs with
  | nil => simp at h
  | cons d cs ih =>
    by_cases hd : p d = true
    · simp only [countWhile, hd, if_true, take_succ_cons, mem_cons] at h
      rcases h with rfl | h
      · exact hd
      · exact ih h
    · simp [countWhile, hd] at h

theorem exponentLength_wordy : ∀ c ∈ cs.take (exponentLength cs), isWordy c = true := by
  fun_cases exponentLength cs with
  | case1 e s _ h =>
    simp only [Bool.and_eq_true, Bool.or_eq_true, beq_iff_eq] at h
    simp only [take_succ_cons, take_zero, mem_cons, not_mem_nil, or_false]
    rintro c (rfl | rfl)
    · rcases h.1 with rfl | rfl <;> rfl
    · rcases h.2 with rfl | rfl <;> rfl
  | case2 | case3 => simp

theorem numberLength_wordy (h : numberLength cs = some n) : ∀ c ∈ cs.take n, isWordy c = true := by
  have digits : ∀ ds : List Char, ∀ c ∈ ds.take (countWhile isDigit ds), isWordy c = true :=
    fun ds c hc => isWordy_of_isDigit (countWhile_mem hc)
  unfold numberLength at h
  dsimp only at h
  split at h
  · rename_i after hd
    split at h <;> cases h
    intro c hc
    rw [take_add, take_add, take_add, hd, mem_append, mem_append,
      mem_append] at hc
    rcases hc with ((hc | hc) | hc) | hc
    · exact digits _ c hc
    · simp only [take_succ_cons, take_zero, mem_cons, not_mem_nil,
        or_false] at hc
      rw [hc]
      rfl
    · rw [← drop_drop, hd] at hc
      exact digits _ c hc
    · exact exponentLength_wordy c hc
  · split at h <;> cases h
    intro c hc
    rw [take_add, mem_append] at hc
    rcases hc with hc | hc
    · exact digits _ c hc
    · exact exponentLength_wordy c hc

theorem identifierLength_wordy (h : identifierLength cs = some n) :
    ∀ c ∈ cs.take n, isWordy c = true := by
  cases cs with
  | nil => cases h
  | cons d cs =>
    simp only [identifierLength] at h
    split at h <;> cases h
    rename_i hd
    intro c hc
    simp only [take_succ_cons, mem_cons] at hc
    rcases hc with rfl | hc
    · exact isWordy_of_isLetter hd
    · rcases Bool.or_eq_true_iff.1 (countWhile_mem hc) with hc | hc
      · exact isWordy_of_isLetter hc
      · exact isWordy_of_isDigit hc

theorem symbolLength_wordy (h : symbolLength cs = some n) : ∀ c ∈ cs.take n, isWordy c = true := by
  unfold symbolLength at h
  split at h
  · obtain ⟨m, hm, rfl⟩ := Option.map_eq_some_iff.1 h
    intro c hc
    simp only [take_succ_cons, mem_cons] at hc
    rcases hc with rfl | hc
    · rfl
    · exact identifierLength_wordy hm c hc
  · exact identifierLength_wordy h

end Lexeme

theorem Lexeme.countWhile_all {p : Char → Bool} {as : List Char} (h : ∀ a ∈ as, p a = true)
    (ds : List Char) : countWhile p (as ++ ds) = as.length + countWhile p ds := by
  induction as with
  | nil => simp
  | cons a as ih =>
    obtain ⟨ha, has⟩ := forall_mem_cons.1 h
    simp only [cons_append, countWhile, ha, if_true, ih has, List.length_cons]
    omega

section

variable {v cs : List Char} {p : Char → Bool} {k k' : Nat}

theorem Lexeme.countWhile_append (hv : ∀ c ∈ v.head?, p c = false) (cs : List Char) :
    countWhile p (cs ++ v) = countWhile p cs := by
  induction cs with
  | nil =>
    cases v with
    | nil => rfl
    | cons c v => simp [countWhile, hv c rfl]
  | cons c cs ih => simp [countWhile, ih]

/-- A text that continues no word and no number before it. -/
def Halts (v : List Char) : Prop := ∀ c ∈ v.head?, isWordy c = false

namespace Halts

theorem stops (hv : Halts v) {c : Char} (hc : c ∈ v.head?) :
    isDigit c = false ∧ isLetter c = false ∧ c ≠ '.' ∧ c ≠ '+' ∧ c ≠ '-' ∧ c ≠ '$' := by
  have stop : stopChars.all (fun c => !Lexeme.isDigit c && !Lexeme.isLetter c && c != '.' &&
      c != '+' && c != '-' && c != '$') = true := rfl
  have := all_eq_true.1 stop c (isWordy_eq_false.1 (hv c hc))
  simpa [and_assoc] using this

theorem exponentLength (hv : Halts v) (cs : List Char) :
    exponentLength (cs ++ v) = exponentLength cs := by
  have he : ∀ c ∈ v.head?, (c == 'e' || c == 'E') = false := by
    intro c hc
    have := (hv.stops hc).2.1
    rw [Bool.or_eq_false_iff, beq_eq_false_iff_ne, beq_eq_false_iff_ne]
    constructor <;> rintro rfl <;> revert this <;> decide
  have hs : ∀ c ∈ v.head?, (c == '+' || c == '-') = false := by
    intro c hc
    have := hv.stops hc
    simp [this]
  rcases cs with _ | ⟨c, _ | ⟨d, cs⟩⟩
  · rcases v with _ | ⟨c, _ | ⟨d, v⟩⟩
    · rfl
    · rfl
    · simp [Lexeme.exponentLength, he c rfl]
  · cases v with
    | nil => rfl
    | cons d v => simp [Lexeme.exponentLength, hs d rfl]
  · rfl

theorem numberLength (hv : Halts v) (cs : List Char) :
    numberLength (cs ++ v) = numberLength cs := by
  have digits := countWhile_append (p := isDigit) (v := v) fun c hc => (hv.stops hc).1
  have hdrop : (cs ++ v).drop (countWhile isDigit cs) =
      cs.drop (countWhile isDigit cs) ++ v :=
    drop_append_of_le_length (countWhile_le _ _)
  unfold Lexeme.numberLength
  simp only [digits, hdrop]
  cases hr : cs.drop (countWhile isDigit cs) with
  | nil =>
    have hx := hv.exponentLength []
    cases v with
    | nil => rfl
    | cons c v =>
      have hc : c ≠ '.' := (hv.stops rfl).2.2.1
      simp_all
  | cons c after =>
    by_cases hc : c = '.'
    · subst hc
      have hlen := congrArg List.length hr
      simp only [List.length_drop, List.length_cons] at hlen
      have hle := countWhile_le isDigit after
      simp only [cons_append, digits]
      rw [drop_append_of_le_length (by omega), hv.exponentLength]
    · have := hv.exponentLength (c :: after)
      simp_all

theorem identifierLength (hv : Halts v) (cs : List Char) :
    identifierLength (cs ++ v) = identifierLength cs := by
  cases cs with
  | nil =>
    cases v with
    | nil => rfl
    | cons c v => simp [Lexeme.identifierLength, (hv.stops (c := c) rfl).2.1]
  | cons c cs =>
    rw [cons_append, Lexeme.identifierLength, Lexeme.identifierLength,
      countWhile_append]
    intro c hc
    simp [hv.stops hc]

theorem symbolLength (hv : Halts v) (cs : List Char) :
    symbolLength (cs ++ v) = symbolLength cs := by
  have hother : ∀ {c : Char} {ds : List Char}, c ≠ '$' →
      Lexeme.symbolLength (c :: ds) = Lexeme.identifierLength (c :: ds) := by
    intro c ds hc
    unfold Lexeme.symbolLength
    split
    · rename_i h
      exact absurd (cons.inj h).1 hc
    · rfl
  cases cs with
  | nil =>
    cases v with
    | nil => rfl
    | cons c v =>
      have hc := hv.stops (c := c) rfl
      rw [nil_append, hother hc.2.2.2.2.2]
      exact hv.identifierLength []
  | cons c cs =>
    by_cases hc : c = '$'
    · subst hc
      rw [cons_append, Lexeme.symbolLength, Lexeme.symbolLength, hv.identifierLength]
    · rw [cons_append, hother hc, hother hc, ← cons_append, hv.identifierLength]

end Halts

end

end Scad
