import Scad.Proofs.Parsing.Matching

/-!
Matching never runs out of steps. The grammar has no left recursion: on the way from
an expression to another one that is matched at the same place, a rank goes down.
So between two consumed characters only as many steps nest as there are ranks, and
parsing gives the reading that there is.
-/

namespace Scad

variable (r : Rule) (text : String)

variable {c c' : Cursor} {cs : List Char} {ts : List Tree} {n : Nat} {p : Peg} {t : Terminal}

/-! ## What every match consumes -/

namespace Lexeme

theorem countWhile_spec (p : Char → Bool) (cs : List Char) :
    cs.drop (countWhile p cs) = cs.dropWhile p ∧ cs.take (countWhile p cs) = cs.takeWhile p := by
  induction cs with
  | nil => exact ⟨rfl, rfl⟩
  | cons c cs ih =>
    by_cases h : p c = true
    · simp [countWhile, h, ih]
    · simp [countWhile, h]

theorem exponentLength_le (cs : List Char) : exponentLength cs ≤ cs.length := by
  fun_cases exponentLength cs <;> simp [*]

theorem numberLength_bounds (h : numberLength cs = some n) : 1 ≤ n ∧ n ≤ cs.length := by
  unfold numberLength at h
  have hw := countWhile_le isDigit cs
  dsimp only at h
  split at h
  · rename_i after hd
    have hl := congrArg List.length hd
    have ha := countWhile_le isDigit after
    have he := exponentLength_le (cs.drop (countWhile isDigit cs + 1 + countWhile isDigit after))
    simp only [List.length_drop, List.length_cons] at hl he
    split at h <;> cases h
    omega
  · have he := exponentLength_le (cs.drop (countWhile isDigit cs))
    simp only [List.length_drop] at he
    split at h <;> cases h
    omega

theorem identifierLength_bounds (h : identifierLength cs = some n) : 1 ≤ n ∧ n ≤ cs.length := by
  cases cs with
  | nil => cases h
  | cons c cs =>
    have := countWhile_le (fun d => isLetter d || isDigit d) cs
    simp only [identifierLength] at h
    split at h <;> cases h
    simp only [List.length_cons]
    omega

theorem symbolLength_bounds (h : symbolLength cs = some n) : 1 ≤ n ∧ n ≤ cs.length := by
  unfold symbolLength at h
  split at h
  · obtain ⟨m, hm, rfl⟩ := Option.map_eq_some_iff.1 h
    have := identifierLength_bounds hm
    simp only [List.length_cons]
    omega
  · exact identifierLength_bounds h

theorem untilQuote_bounds {q : Char} {k : Nat}
    (h : untilQuote q k cs = some n) : k < n ∧ n ≤ k + cs.length := by
  fun_induction untilQuote q k cs with
  | case1 | case2 | case5 => cases h
  | case3 _ _ _ _ ih | case6 _ _ _ _ _ _ ih =>
    have := ih h
    simp only [List.length_cons]
    omega
  | case4 =>
    cases h
    simp only [List.length_cons]
    omega

theorem quotedLength_bounds {q : Char}
    (h : quotedLength q cs = some n) : 1 ≤ n ∧ n ≤ cs.length := by
  cases cs with
  | nil => cases h
  | cons c cs =>
    simp only [quotedLength] at h
    split at h
    · have := untilQuote_bounds h
      simp only [List.length_cons]
      omega
    · cases h

theorem pathLength_bounds (h : pathLength cs = some n) : 1 ≤ n ∧ n ≤ cs.length := by
  unfold pathLength at h
  split at h
  · rename_i cs
    dsimp only at h
    split at h
    · rename_i hd
      have hl := congrArg List.length hd
      simp only [List.length_drop, List.length_cons] at hl ⊢
      cases h
      omega
    · cases h
  · cases h

theorem length?_bounds {k : Lexeme} (h : k.length? cs = some n) : 1 ≤ n ∧ n ≤ cs.length := by
  cases k with
  | number => exact numberLength_bounds h
  | symbol => exact symbolLength_bounds h
  | doubleQuoted | singleQuoted => exact quotedLength_bounds h
  | path => exact pathLength_bounds h

end Lexeme

def Terminal.mayBeEmpty : Terminal → Bool
  | word text => text.isEmpty
  | lexeme _ => false
  | finish => true

theorem Terminal.length?_le (h : t.length? cs = some n) : n ≤ cs.length := by
  cases t with
  | word text =>
    simp only [length?] at h
    split at h
    · rename_i hp
      cases h
      rw [← String.length_toList]
      exact ( List.isPrefixOf_iff_prefix.1 hp).length_le
    · cases h
  | lexeme k => exact (Lexeme.length?_bounds h).2
  | finish =>
    simp only [length?] at h
    split at h <;> cases h
    exact Nat.zero_le _

theorem Terminal.length?_pos (h : t.length? cs = some n) (he : t.mayBeEmpty = false) : 0 < n := by
  cases t with
  | word text =>
    simp only [length?] at h
    split at h <;> cases h
    rw [← String.length_toList, List.length_pos_iff]
    simpa [mayBeEmpty] using he
  | lexeme k => exact (Lexeme.length?_bounds h).1
  | finish => cases he

theorem Matches.place (h : Matches p c (.done ts c')) :
    c'.pos + c'.rest.length = c.pos + c.rest.length := by
  refine h.induct (Q := fun c _ c' => c'.pos + c'.rest.length = c.pos + c.rest.length)
    (fun _ => rfl) (fun t c name n hn => ?_) (fun _ _ _ _ h => h) (fun _ _ _ _ _ h h' => h'.trans h)
  have hle := Terminal.length?_le hn
  have hl := Layout.length_le c.rest
  simp only [Cursor.settle, Cursor.advance, List.length_drop] at hle ⊢
  omega

def Rule.mayBeEmpty : Rule → Bool
  | input | childStatements | exprOrEmpty | optionalTrailingComma | parameters | arguments => true
  | _ => false

def Peg.mayBeEmpty : Peg → Bool
  | terminal t => t.mayBeEmpty
  | rule r => r.mayBeEmpty
  | seq a b => a.mayBeEmpty && b.mayBeEmpty
  | alt a b => a.mayBeEmpty || b.mayBeEmpty
  | many _ | opt _ => true

theorem Rule.body_mayBeEmpty : r.body.mayBeEmpty = r.mayBeEmpty := by
  cases r <;> rfl

theorem Terminal.read_shortens {name : String} (h : t.read name c = .done ts c')
    (he : t.mayBeEmpty = false) : c'.rest.length < c.rest.length := by
  obtain ⟨n, hn, rfl, rfl⟩ := read_eq_done h
  have := length?_le hn
  have := length?_pos hn he
  have := c.rest_settle_le
  simp only [Cursor.advance, List.length_drop]
  omega

/-- A match of an expression that cannot be empty consumes something. -/
theorem Matches.shortens (h : Matches p c (.done ts c')) (he : p.mayBeEmpty = false) :
    c'.rest.length < c.rest.length := by
  generalize hm : Reading.done ts c' = m at h
  replace hm := hm.symm
  induction h generalizing ts c' with
  | terminal t c => exact t.read_shortens hm he
  | @token r t hb c =>
    rw [Peg.mayBeEmpty, ← r.body_mayBeEmpty, hb] at he
    exact t.read_shortens hm he
  | @rule r _ _ _ _ ih =>
    rw [Peg.mayBeEmpty, ← r.body_mayBeEmpty] at he
    obtain ⟨rfl, rfl⟩ | ⟨vs, rfl, _, rfl⟩ := Reading.under_eq_done hm <;> exact ih he rfl
  | seq ha hb iha ihb =>
    obtain ⟨vs, rfl, rfl⟩ := Reading.after_eq_done hm
    have hla := ha.rest_le
    have hlb := hb.rest_le
    rcases Bool.and_eq_false_iff.1 he with he | he
    · have := iha he rfl
      omega
    · have := ihb he rfl
      omega
  | first _ _ ih =>
    cases hm
    exact ih (Bool.or_eq_false_iff.1 he).1 rfl
  | second _ _ _ _ ih =>
    exact ih (Bool.or_eq_false_iff.1 he).2 (Reading.chosen_eq_done hm).1
  | seqFailed => cases hm
  | more | still | stop | present | absent => cases he

/-! ## Ranks -/

/-- How many rules can be entered one inside the other at one place, from this one on. -/
def Rule.level : Rule → Nat
  | stmtDeclMod | stmtDeclFn | assignment | ifStatement | specialId | modCall | exprFn | exprLet
  | exprAssert | exprEcho | addon | prStr | lceLet | lceEach | lceFor | lceFor3 | lceIf
  | parameter => 2
  | modInstChild | ifelseStatement | specialCall | primary | listComprehensionElements
  | parameterList => 3
  | modInstSpecial | call | listComprehensionElementsP | parameters => 4
  | moduleInstantiation | exponent => 5
  | stmtObj | childStatement | unary => 6
  | statement | childStatements | multiplication => 7
  | input | addition => 8
  | comparison => 9
  | equality => 10
  | logicAnd => 11
  | logicOr => 12
  | exprCase => 13
  | expr => 14
  | exprOrEmpty | vectorElement | argument => 15
  | vectorElements | argumentList => 16
  | arguments => 17
  | _ => 1

/-- More than the steps that nest at one place while an expression is matched. -/
def Peg.rank : Peg → Nat
  | terminal _ => 1
  | rule r => 16 * r.level
  | seq a b => max a.rank (if a.mayBeEmpty then b.rank else 0) + 1
  | alt a b => max a.rank b.rank + 1
  | many a | opt a => a.rank + 1

/-- Repetitions are of expressions that consume something, and ranks are small. -/
def Peg.isTame : Peg → Bool
  | terminal _ | rule _ => true
  | seq a b => a.isTame && b.isTame && decide (b.rank < stepsPerChar)
  | alt a b => a.isTame && b.isTame
  | many a => a.isTame && !a.mayBeEmpty && decide (a.rank + 1 < stepsPerChar)
  | opt a => a.isTame

theorem Rule.body_isTame : r.body.isTame = true := by
  cases r <;> rfl

theorem Rule.rank_body_lt : r.body.rank < 16 * r.level := by
  cases r <;> decide

theorem Peg.rank_pos (p : Peg) : 0 < p.rank := by
  cases p with
  | rule r =>
    have := r.rank_body_lt
    simp only [rank]
    omega
  | _ => simp [rank]

theorem Match.chosen_ne_exhausted {m : Match} (h : m ≠ .exhausted) : m.chosen ≠ .exhausted := by
  unfold chosen
  split
  · exact Match.noConfusion
  · exact h

/-! ## One step down -/

/-- Matching the first expression at its place has to match the second one at the other. -/
inductive Peg.Leads : Peg × Cursor → Peg × Cursor → Prop
  | body (r : Rule) (c : Cursor) : Leads (.rule r, c) (r.body, c)
  | front (a b : Peg) (c : Cursor) : Leads (.seq a b, c) (a, c)
  | back {a : Peg} (b : Peg) {c c' : Cursor} {ts : List Tree} (ha : Matches a c (.done ts c')) :
      Leads (.seq a b, c) (b, c')
  | first (a b : Peg) (c : Cursor) : Leads (.alt a b, c) (a, c)
  | second (a b : Peg) (c : Cursor) : Leads (.alt a b, c) (b, c)
  | round (a : Peg) (c : Cursor) : Leads (.many a, c) (a, c)
  | again {a : Peg} {c c' : Cursor} {ts : List Tree} (ha : Matches a c (.done ts c')) :
      Leads (.many a, c) (.many a, c')
  | inner (a : Peg) (c : Cursor) : Leads (.opt a, c) (a, c)

/-- Steps that are enough to match an expression at a place. -/
def Peg.need (s : Peg × Cursor) : Nat := s.1.rank + stepsPerChar * s.2.rest.length

theorem Peg.need_pos (s : Peg × Cursor) : 0 < need s := Nat.add_pos_left s.1.rank_pos _

namespace Peg.Leads

variable {s s' : Peg × Cursor}

theorem rest_le (h : Leads s s') : s'.2.rest.length ≤ s.2.rest.length := by
  cases h with
  | back _ ha | again ha => exact ha.rest_le
  | _ => exact Nat.le_refl _

/-- Either the rank goes down or a character is consumed, and a character is worth more
than all ranks. -/
theorem descends (h : Leads s s') (ht : s.1.isTame = true) :
    s'.1.isTame = true ∧ need s' < need s := by
  -- What is matched after at least one character was consumed may have any rank.
  have later : ∀ {p q : Peg} {c c' : Cursor}, c'.rest.length < c.rest.length →
      q.rank < stepsPerChar → need (q, c') < need (p, c) := by
    intro p q c c' hlt hr
    have := Nat.mul_le_mul_left stepsPerChar (Nat.succ_le_of_lt hlt)
    rw [Nat.mul_succ] at this
    simp only [need]
    omega
  have here : ∀ {p q : Peg} {c c' : Cursor}, c'.rest.length ≤ c.rest.length →
      q.rank < p.rank → need (q, c') < need (p, c) := by
    intro p q c c' hle hr
    have := Nat.mul_le_mul_left stepsPerChar hle
    simp only [need]
    omega
  cases h with
  | body r c => exact ⟨r.body_isTame, here (Nat.le_refl _) r.rank_body_lt⟩
  | front a b c =>
    simp only [isTame, Bool.and_eq_true] at ht
    exact ⟨ht.1.1, here (Nat.le_refl _) (by simp only [rank]; omega)⟩
  | @back a b c c' ts ha =>
    simp only [isTame, Bool.and_eq_true, decide_eq_true_eq] at ht
    refine ⟨ht.1.2, ?_⟩
    cases he : a.mayBeEmpty with
    | true => exact here ha.rest_le (by simp only [rank, he, if_true]; omega)
    | false => exact later (ha.shortens he) ht.2
  | first a b c =>
    simp only [isTame, Bool.and_eq_true] at ht
    exact ⟨ht.1, here (Nat.le_refl _) (by simp only [rank]; omega)⟩
  | second a b c =>
    simp only [isTame, Bool.and_eq_true] at ht
    exact ⟨ht.2, here (Nat.le_refl _) (by simp only [rank]; omega)⟩
  | round a c =>
    simp only [isTame, Bool.and_eq_true] at ht
    exact ⟨ht.1.1, here (Nat.le_refl _) (Nat.lt_succ_self _)⟩
  | again ha =>
    refine ⟨ht, ?_⟩
    simp only [isTame, Bool.and_eq_true, Bool.not_eq_true', decide_eq_true_eq] at ht
    exact later (ha.shortens ht.1.2) ht.2
  | inner a c => exact ⟨ht, here (Nat.le_refl _) (Nat.lt_succ_self _)⟩

end Peg.Leads

theorem Terminal.run_ne_exhausted (size : Nat) (name : String) (t : Terminal) (c : Cursor)
    (far : Nat) : t.run size name c far ≠ .exhausted := by
  unfold run
  dsimp only
  split <;> exact Match.noConfusion

theorem Peg.run_ne_exhausted {size fuel : Nat} (far : Nat) (hs : c.rest.length ≤ size)
    (hp : p.isTame = true) (hf : need (p, c) ≤ fuel) : p.run size fuel c far ≠ .exhausted := by
  induction fuel generalizing p c far with
  | zero => exact absurd hf (Nat.not_le_of_lt (need_pos (p, c)))
  | succ fuel ih =>
    have next : ∀ {q : Peg} {c' : Cursor} (far' : Nat), Leads (p, c) (q, c') →
        q.run size fuel c' far' ≠ .exhausted := fun far' h =>
      ih far' (Nat.le_trans h.rest_le hs) (h.descends hp).1
        (Nat.le_of_lt_succ (Nat.lt_of_lt_of_le (h.descends hp).2 hf))
    clear ih
    cases p with
    | terminal t => exact t.run_ne_exhausted size "" c far
    | rule r =>
      have hb := next far (.body r c)
      rw [Peg.run]
      split
      · exact Terminal.run_ne_exhausted size r.name _ c far
      · clear next
        split <;> simp_all
    | seq a b =>
      have ha := next far (.front a b c)
      rw [Peg.run]
      split
      · rename_i ts c' far' hx
        have hb := next far' (.back b (run_sound hs (by rw [hx]; rfl)))
        clear next
        split <;> simp_all
      · exact ha
    | alt a b =>
      rw [Peg.run]
      split
      · exact Match.chosen_ne_exhausted (next _ (.second a b c))
      · exact Match.chosen_ne_exhausted (next _ (.second a b c))
      · exact next far (.first a b c)
    | many a =>
      have ha := next far (.round a c)
      rw [Peg.run]
      split
      · simp
      · rename_i ts c' far' _ hx
        have hr := next far' (.again (run_sound hs (by rw [hx]; rfl)))
        clear next
        split <;> simp_all
      · simp
      · exact ha
    | opt a =>
      have ha := next far (.inner a c)
      clear next
      rw [Peg.run]
      split <;> simp_all

/-! ## Parsing -/

theorem Peg.need_start_le : need (.rule r, .start text) ≤ stepsPerChar * (text.length + 1) := by
  have hs : (Cursor.start text).rest.length ≤ text.length := Nat.le_of_eq String.length_toList
  have hl : 16 * r.level ≤ stepsPerChar := by cases r <;> decide
  have := Nat.mul_le_mul_left stepsPerChar hs
  simp only [need, rank, Nat.mul_succ]
  omega

theorem run_rule_reading? : ∃ m,
    ((Peg.rule r).run text.length (stepsPerChar * (text.length + 1)) (.start text) 0).reading? =
      some m ∧ Matches (.rule r) (.start text) m := by
  have hs : (Cursor.start text).rest.length ≤ text.length := Nat.le_of_eq String.length_toList
  have hx := Peg.run_ne_exhausted 0 hs rfl (Peg.need_start_le r text)
  cases hm : (Peg.rule r).run text.length (stepsPerChar * (text.length + 1)) (.start text) 0 with
  | exhausted => exact absurd hm hx
  | done ts c far => exact ⟨_, rfl, Peg.run_sound hs (by rw [hm]; rfl)⟩
  | failed far => exact ⟨_, rfl, Peg.run_sound hs (by rw [hm]; rfl)⟩

/-- A text is parsed exactly if the rule matches at its beginning. -/
theorem parseRule_eq_ok {r : Rule} {text : String} {t : Tree} :
    parseRule r text = .ok t ↔ ∃ ts c, Matches (.rule r) (.start text) (.done (t :: ts) c) := by
  obtain ⟨m, hm, hr⟩ := run_rule_reading? r text
  unfold parseRule
  constructor
  · intro h
    split at h
    · rename_i t' ts c far hx
      rw [hx] at hm
      cases hm
      cases h
      exact ⟨ts, c, hr⟩
    all_goals cases h
  · rintro ⟨ts, c, h⟩
    cases hr.unique h
    split
    · rename_i hx
      rw [hx] at hm
      cases hm
      rfl
    all_goals
      rename_i hx
      rw [hx] at hm
      cases hm

/-- A program is either parsed or has a syntax error. -/
theorem parse_ne_exhausted : parse text ≠ .error .exhausted := by
  obtain ⟨m, hm, _⟩ := run_rule_reading? .input text
  unfold parse parseRule
  split
  · simp
  · simp
  · simp
  · rename_i hx
    rw [hx] at hm
    cases hm

end Scad
