import Scad.Proofs.Parsing.Extension

/-!
Expressions as arguments of a call. A text that is an expression is read as the one
argument of a call in the same way as alone, unless it begins with a name before an
equals sign, as in `a==b`: that beginning is taken for the name of the argument, and
then the call is refused.
-/

namespace Scad

open Cursor Lexeme List

variable {d : Cursor} {n : Nat} {p : Peg} {r : Rule} {text : String}

variable {t : Tree} {c : Cursor} {cs : List Char}

/-- The tree of a text that is an instance of a rule from its first character to its
last. -/
def Rule.whole? (r : Rule) (text : String) : Option Tree :=
  match (Peg.rule r).run text.length (stepsPerChar * (text.length + 1)) (.start text) 0 with
  | .done [t] ⟨_, []⟩ _ => some t
  | _ => none

theorem Rule.whole?_eq_some (h : r.whole? text = some t) :
    ∃ n, Matches (.rule r) (.start text) (.done [t] ⟨n, []⟩) := by
  obtain ⟨m, hm, hr⟩ := run_rule_reading? r text
  unfold whole? at h
  split at h
  · rename_i t' n far hx
    rw [hx] at hm
    cases hm
    cases h
    exact ⟨n, hr⟩
  · cases h

/-- Does a text begin with a name before an equals sign? -/
def beginsNamed (text : String) : Bool :=
  let c := (start text).settle
  match symbolLength c.rest with
  | some n => (c.advance n).settle.rest.head? == some '='
  | none => false

/-! ## Levels of precedence -/

namespace Matches

variable {c' : Cursor}

theorem climb {r' : Rule} {divider : Peg} (hr : r.body = .separated (.rule r') divider)
    (h : Matches (.rule r') c (.done [t] c')) (hd : Matches divider c' .failed) :
    Matches (.rule r) c (.done [.node r.name [t]] c') := by
  refine made ?_ ?_
  · rw [Rule.isToken, hr]
    rfl
  · rw [hr]
    exact alone h hd

theorem climb_exponent (h : Matches (.rule .call) c (.done [t] c'))
    (hd : Matches (.seq (.word "^") (.rule .unary)) c' .failed) :
    Matches (.rule .exponent) c (.done [.node "exponent" [t]] c') :=
  made rfl (both h (.absent hd))

theorem climb_unary (h : Matches (.rule .exponent) c (.done [t] c')) :
    Matches (.rule .unary) c (.done [.node "unary" [t]] c') :=
  made rfl (.here h)

theorem climb_exprCase (h : Matches (.rule .logicOr) c (.done [t] c'))
    (hd : Matches (.all (.word "?") [.rule .expr, .word ":", .rule .expr]) c' .failed) :
    Matches (.rule .exprCase) c (.done [.node "expr_case" [t]] c') :=
  made rfl (both h (.absent hd))

end Matches

def Tree.ofCall (t : Tree) : Tree :=
  .node "expr_case" [.node "logic_or" [.node "logic_and" [.node "equality" [.node "comparison" [
    .node "addition" [.node "multiplication" [.node "unary" [.node "exponent" [t]]]]]]]]]

/-- A primary expression as an expression. -/
def Tree.ofPrimary (t : Tree) : Tree := .node "expr" [ofCall (.node "call" [.node "primary" [t]])]

open Peg in
/-- What can follow a call inside an expression. -/
def Peg.followers : List Peg :=
  [seq (word "^") (rule .unary), any (word "*") [word "/", word "%"], alt (word "+") (word "-"),
    any (word ">") [rule .opGe, word "<", rule .opLe], alt (rule .opEq) (rule .opNeq), rule .opAnd,
    rule .opOr, all (word "?") [rule .expr, word ":", rule .expr]]

theorem Matches.climb_call {c' : Cursor} (h : Matches (.rule .call) c (.done [t] c'))
    (hd : ∀ p ∈ Peg.followers, Matches p c' .failed) :
    Matches (.rule .exprCase) c (.done [t.ofCall] c') := by
  simp only [Peg.followers, forall_mem_cons, not_mem_nil, false_imp_iff,
    implies_true, and_true] at hd
  obtain ⟨hpow, hmul, hadd, hcmp, heq, hand, hor, hcase⟩ := hd
  have hmulti := climb (r := .multiplication) rfl (climb_unary (climb_exponent h hpow)) hmul
  have hcomp := climb (r := .comparison) rfl (climb (r := .addition) rfl hmulti hadd) hcmp
  have hlogic := climb (r := .logicAnd) rfl (climb (r := .equality) rfl hcomp heq) hand
  exact climb_exprCase (climb (r := .logicOr) rfl hlogic hor) hcase

/-- A primary expression ends here: nothing is applied to it, and no operator follows. -/
def Idle (c : Cursor) : Prop :=
  ∀ p ∈ .rule .addon :: .word "(" :: Peg.followers, Matches p c .failed

theorem Idle.of_ink (front cs : List Char) (hi : Layout.isInk (front ++ cs) = true) (pos : Nat)
    (hf : (.rule .addon :: .word "(" :: Peg.followers).all (·.shuns front) = true) :
    Idle ⟨pos, front ++ cs⟩ :=
  fun p hp => .shun_ink front cs (all_eq_true.1 hf p hp) hi pos

theorem Matches.exprCase_of_primary (h : Matches (.rule .primary) c (.done [t] d))
    (hd : Idle d) : Matches (.rule .exprCase) c (.done [.ofCall (.node "call" [t])] d) :=
  .climb_call (.made rfl (both h (.stop (hd _ (mem_cons_self ..)))))
    fun p hp => hd p (mem_cons_of_mem _ (mem_cons_of_mem _ hp))

/-- The expressions that begin with a keyword. -/
def Peg.exprWords : List Peg := [.rule .exprFn, .rule .exprLet, .rule .exprEcho]

theorem Matches.expr_other (hk : ∀ p ∈ Peg.exprWords, Matches p c .failed)
    (h : Matches (.rule .exprCase) c (.done [t] d)) :
    Matches (.rule .expr) c (.done [.node "expr" [t]] d) := by
  simp only [Peg.exprWords, forall_mem_cons] at hk
  exact .made rfl (.next hk.1 (.next hk.2.1 (.next hk.2.2.1 h)))

theorem Matches.expr_of_exprCase (front : List Char) (hc : front <+: c.settle.rest)
    (hf : Peg.exprWords.all (·.shuns front) = true)
    (h : Matches (.rule .exprCase) c (.done [t] d)) :
    Matches (.rule .expr) c (.done [.node "expr" [t]] d) :=
  .expr_other (fun p hp => .shun front (all_eq_true.1 hf p hp) hc) h

theorem Cursor.settle_f (cs : List Char) :
    settle ⟨3, ' ' :: 'f' :: '(' :: cs⟩ = ⟨4, 'f' :: '(' :: cs⟩ := by
  rw [settle_blank rfl, settle_ink rfl]

theorem Matches.shun_f (hp : p.shuns ['f', '('] = true) (cs : List Char) :
    Matches p ⟨3, ' ' :: 'f' :: '(' :: cs⟩ .failed :=
  .shun _ hp (by rw [settle_f]; exact ⟨cs, rfl⟩)

theorem Matches.expr_f (front : List Char)
    (h : Matches (.rule .call) ⟨3, ' ' :: 'f' :: '(' :: cs⟩ (.done [t] c))
    (hc : front <+: c.settle.rest) (hf : Peg.followers.all (·.shuns front) = true) :
    Matches (.rule .expr) ⟨3, ' ' :: 'f' :: '(' :: cs⟩ (.done [.node "expr" [t.ofCall]] c) := by
  have hcase := climb_call h fun p hp => .shun front (all_eq_true.1 hf p hp) hc
  exact .expr_of_exprCase ['f', '('] (by rw [settle_f]; exact ⟨cs, rfl⟩) rfl hcase

theorem Matches.primary_f (cs : List Char) : Matches (.rule .primary) ⟨3, ' ' :: 'f' :: '(' :: cs⟩
      (.done [.node "primary" [.leaf "pr_Sym" "f" 4]] ⟨5, '(' :: cs⟩) := by
  have shun : ∀ {p : Peg}, p.shuns ['f', '('] = true →
      Matches p ⟨3, ' ' :: 'f' :: '(' :: cs⟩ .failed := fun hp => shun_f hp cs
  have hsym : Matches (.rule .prSym) ⟨3, ' ' :: 'f' :: '(' :: cs⟩
      (.done [.leaf "pr_Sym" "f" 4] ⟨5, '(' :: cs⟩) := by
    have := Matches.token (r := .prSym) rfl ⟨3, ' ' :: 'f' :: '(' :: cs⟩
    rw [Terminal.read, settle_f] at this
    exact this
  exact .made rfl (.next (shun rfl) (.next (shun rfl) (.next (shun rfl) (.next (shun rfl)
    (.next (shun rfl) (.here hsym))))))

/-! ## One argument -/

/-- The tree of a call of `f` with one argument without a name, which ends at `n`. -/
def Tree.callF (t : Tree) (n : Nat) : Tree :=
  .node "expr" [ofCall <| .node "call" [.node "primary" [.leaf "pr_Sym" "f" 4],
    .node "addon" [.node "add_args" [.leaf "" "(" 5,
      .node "arguments" [.node "argument_list" [.node "argument" [t]]], .leaf "" ")" n]]]]

section

variable {text : String} {n : Nat}

theorem Matches.argument_positional (h : Matches (.rule .expr) (.start text) (.done [t] ⟨n, []⟩))
    (hn : Matches (.seq (.rule .symbol) (.word "=")) (.start text) .failed) :
    Matches (.rule .arguments) ⟨6, text.toList ++ [')', ';']⟩
      (.done [.node "arguments" [.node "argument_list" [.node "argument" [t.shift 6]]]]
        ⟨n + 6, [')', ';']⟩) := by
  have hexpr : Matches (.rule .expr) ⟨6, text.toList ++ [')', ';']⟩
      (.done [t.shift 6] ⟨n + 6, [')', ';']⟩) := h.extend_of_whole rfl rfl h rfl rfl 6 [';']
  have hname : Matches (.seq (.rule .symbol) (.word "=")) ⟨6, text.toList ++ [')', ';']⟩ .failed :=
    h.extend_of_whole rfl rfl hn rfl rfl 6 [';']
  have hcomma : Matches (.word ",") ⟨n + 6, [')', ';']⟩ .failed :=
    .shun_ink [')'] [';'] rfl rfl _
  have harg : Matches (.rule .argument) ⟨6, text.toList ++ [')', ';']⟩
      (.done [.node "argument" [t.shift 6]] ⟨n + 6, [')', ';']⟩) :=
    .made rfl (.both (.absent hname) hexpr)
  have hlist := climb (r := .argumentList) rfl harg hcomma
  have hnone : Matches (.rule .optionalTrailingComma) ⟨n + 6, [')', ';']⟩
      (.done [] ⟨n + 6, [')', ';']⟩) := .nothing rfl (.absent hcomma)
  exact .made rfl (.present (both hlist hnone))

theorem Matches.callF (h : Matches (.rule .arguments) ⟨6, text.toList ++ [')', ';']⟩
      (.done [t] ⟨n, [')', ';']⟩)) :
    Matches (.rule .call) ⟨3, ' ' :: 'f' :: '(' :: (text.toList ++ [')', ';'])⟩
      (.done [.node "call" [.node "primary" [.leaf "pr_Sym" "f" 4],
        .node "addon" [.node "add_args" [.leaf "" "(" 5, t, .leaf "" ")" n]]]] ⟨n + 1, [';']⟩) := by
  have hopen : Matches (.word "(") ⟨5, '(' :: (text.toList ++ [')', ';'])⟩
      (.done [.leaf "" "(" 5] ⟨6, text.toList ++ [')', ';']⟩) := .word (settle_ink rfl)
  have hclose : Matches (.word ")") ⟨n, [')', ';']⟩ (.done [.leaf "" ")" n] ⟨n + 1, [';']⟩) :=
    .word (settle_ink rfl)
  have haddon : Matches (.rule .addon) ⟨5, '(' :: (text.toList ++ [')', ';'])⟩
      (.done [.node "addon" [.node "add_args" [.leaf "" "(" 5, t, .leaf "" ")" n]]]
        ⟨n + 1, [';']⟩) :=
    .made rfl (.here (.made rfl (both hopen (both h hclose))))
  have hend : Matches (.rule .addon) ⟨n + 1, [';']⟩ .failed :=
    .shun_ink [';'] [] rfl rfl _
  exact .made rfl (both (primary_f _) (again haddon (cons_ne_nil _ _) (.stop hend)))

theorem parse_callF (h : Matches (.rule .arguments) ⟨6, text.toList ++ [')', ';']⟩
      (.done [t] ⟨n, [')', ';']⟩)) :
    parse ("x = f(" ++ text ++ ");") = .ok (.assignX (.node "expr" [.ofCall (.node "call"
      [.node "primary" [.leaf "pr_Sym" "f" 4],
        .node "addon" [.node "add_args" [.leaf "" "(" 5, t, .leaf "" ")" n]]])]) (n + 1)) := by
  have ht : ("x = f(" ++ text ++ ");").toList =
      'x' :: ' ' :: '=' :: ' ' :: 'f' :: '(' :: (text.toList ++ [')', ';']) := by
    simp
  exact parse_assignX ht (.expr_f [';'] (.callF h) ⟨[], rfl⟩ rfl)

end

/-! ## Names before an equals sign -/

def isWordChar (c : Char) : Bool := isLetter c || isDigit c

/-- No operator stands here: the text goes on with a word, or with a single equals sign. -/
def Stuck (cs : List Char) : Prop :=
  (∃ c r, cs = c :: r ∧ (isWordChar c = true ∨ c = '$')) ∨
    ∃ r, cs = '=' :: r ∧ r.head? ≠ some '='

/-- What may stand where the text is stuck. -/
def Terminal.mayResume : Terminal → Bool
  | word text =>
    text.toList.head?.all (fun c => isWordChar c || c == '$' || c == '=') && text != "=="
  | _ => true

theorem Terminal.length?_of_stuck {t : Terminal} (h : Stuck cs)
    (ht : t.mayResume = false) : t.length? cs = none := by
  cases t with
  | word text =>
    have hn : ¬text.toList <+: cs := by
      intro hp
      simp only [mayResume, Bool.and_eq_false_iff, bne_eq_false_iff_eq] at ht
      rcases ht with ht | rfl
      · cases hl : text.toList with
        | nil => simp [hl] at ht
        | cons c l =>
          rw [hl] at hp ht
          obtain ⟨ds, rfl⟩ := hp
          simp only [head?_cons, Option.all_some, Bool.or_eq_false_iff,
            beq_eq_false_iff_ne] at ht
          rcases h with ⟨d, r, hd, hw⟩ | ⟨r, hd, -⟩
          · cases hd
            simp [ht] at hw
          · cases hd
            exact ht.2 rfl
      · obtain ⟨ds, rfl⟩ := hp
        rcases h with ⟨d, r, hd, hw⟩ | ⟨r, hd, hr⟩
        · cases hd
          revert hw
          decide
        · cases hd
          exact hr rfl
    simp only [length?, isPrefixOf_iff_prefix, hn, if_false]
  | lexeme | finish => cases ht

theorem Matches.failed_of_stuck (h : Stuck c.settle.rest)
    (hp : (p.isTame && !p.mayBeEmpty && !p.mayOpen (·.mayResume) p.rank) = true) :
    Matches p c .failed := by
  simp only [Bool.and_eq_true, Bool.not_eq_true'] at hp
  exact failed_of_mayOpen (fun t => Terminal.length?_of_stuck h) hp.1.1 hp.1.2 hp.2

theorem Lexeme.symbolLength_word {c : Char} (hc : isLetter c = true) :
    symbolLength (c :: cs) = some (countWhile isWordChar cs + 1) := by
  have hd : c ≠ '$' := by
    rintro rfl
    revert hc
    decide
  unfold symbolLength
  split
  · rename_i h
    cases h
    exact absurd rfl hd
  · simp only [identifierLength, hc, if_true]
    rfl

/-- What may stand before a name. -/
def Terminal.mayName : Terminal → Bool
  | word text => text.toList.head?.all fun c => isLetter c || c == '$'
  | lexeme .symbol => true
  | _ => false

theorem Lexeme.isDigit_of_name {c : Char} (h : (isLetter c || c == '$') = true) :
    isDigit c = false := by
  have late : ∀ d : Char, ¬d ≤ '9' → d ≤ c → isDigit c = false := by
    intro d hd hc
    have : ¬c ≤ '9' := fun h => hd (Char.le_trans hc h)
    simp [isDigit, this]
  simp only [isLetter, Bool.or_eq_true, Bool.and_eq_true, decide_eq_true_eq, beq_iff_eq] at h
  rcases h with ((h | h) | rfl) | rfl
  · exact late 'a' (by decide) h.1
  · exact late 'A' (by decide) h.1
  · rfl
  · rfl

theorem Lexeme.symbolLength_head (h : symbolLength cs = some n) :
    ∃ c r, cs = c :: r ∧ (isLetter c || c == '$') = true := by
  unfold symbolLength at h
  split at h
  · exact ⟨_, _, rfl, rfl⟩
  · cases cs with
    | nil => cases h
    | cons c r =>
      simp only [identifierLength] at h
      split at h <;> cases h
      rename_i hc
      exact ⟨c, r, rfl, by rw [hc]; rfl⟩

theorem Terminal.length?_of_name {t : Terminal}
    (h : symbolLength cs = some n) (ht : t.mayName = false) : t.length? cs = none := by
  obtain ⟨c, r, rfl, hc⟩ := symbolLength_head h
  refine length?_of_mayStand (cons_ne_nil c []) ⟨r, rfl⟩ ?_
  cases t with
  | word text =>
    cases hl : text.toList with
    | nil => simp [mayName, hl] at ht
    | cons d l =>
      have hd : d ≠ c := by
        rintro rfl
        simp [mayName, hl, hc] at ht
      simp [mayStand, hl, isPrefixOf, hd, Ne.symm hd]
  | lexeme l =>
    have hne : ∀ d, (isLetter d || d == '$') = false → c ≠ d := by
      rintro d hd rfl
      rw [hc] at hd
      cases hd
    cases l with
    | symbol => cases ht
    | number =>
      simp [mayStand, isDigit_of_name hc, hne '.' rfl]
    | doubleQuoted => simp [mayStand, hne '"' rfl]
    | singleQuoted => simp [mayStand, hne '\'' rfl]
    | path => simp [mayStand, hne '<' rfl]
  | finish => rfl

theorem Matches.failed_of_name {c : Cursor}
    (h : symbolLength c.settle.rest = some n)
    (hp : (p.isTame && !p.mayBeEmpty && !p.mayOpen (·.mayName) p.rank) = true) :
    Matches p c .failed := by
  simp only [Bool.and_eq_true, Bool.not_eq_true'] at hp
  exact failed_of_mayOpen (fun t => Terminal.length?_of_name h) hp.1.1 hp.1.2 hp.2

theorem Matches.symbolLength {c c' : Cursor} {ts : List Tree}
    (h : Matches (.rule .symbol) c (.done ts c')) : ∃ n, symbolLength c.settle.rest = some n := by
  generalize hm : Reading.done ts c' = m at h
  cases h with
  | token hb =>
    cases hb
    obtain ⟨n, hn, -⟩ := Terminal.read_eq_done hm.symm
    exact ⟨n, hn⟩
  | rule hb => exact absurd rfl (hb (.lexeme .symbol))

theorem Layout.isInk_of_word {c : Char} {cs : List Char} (hc : isWordChar c = true) :
    isInk (c :: cs) = true := by
  have hs : c ≠ '/' := by
    rintro rfl
    revert hc
    decide
  have hb : isBlank c = false := by
    cases hb : isBlank c with
    | false => rfl
    | true =>
      simp only [isBlank, Bool.or_eq_true, beq_iff_eq] at hb
      rcases hb with ((rfl | rfl) | rfl) | rfl <;> revert hc <;> decide
  simp [isInk, hb, commentLength_of_ne hs]

section

variable {c : Cursor} {n : Nat}

theorem Stuck.idle (h : Stuck c.settle.rest) : Idle c := fun p hp =>
  .failed_of_stuck h (all_eq_true.1 (rfl : (.rule .addon :: .word "(" :: Peg.followers).all
    (fun p => p.isTame && !p.mayBeEmpty && !p.mayOpen (·.mayResume) p.rank) = true) p hp)

/-- After a keyword that the text begins with, it goes on with the rest of its first name,
or with what follows the name. -/
theorem Stuck.or_end (text : String) (hn : symbolLength c.rest = some n) {a : Char}
    {as : List Char} (ht : text.toList = a :: as) (ha : isLetter a = true)
    (has : as.all isWordChar = true) (hp : text.toList <+: c.rest) :
    text.length = n ∨ text.length < n ∧ Stuck (c.advance text.length).settle.rest := by
  obtain ⟨ds, hds⟩ := hp
  have hl : text.length = as.length + 1 := by rw [← String.length_toList, ht, length_cons]
  rw [← hds, ht, cons_append, symbolLength_word ha, countWhile_all (all_eq_true.1 has),
    Option.some.injEq] at hn
  have hrest : (c.advance text.length).rest = ds := by
    rw [advance, ← hds, ← String.length_toList, drop_left]
  cases ds with
  | nil => exact .inl (hl.trans hn)
  | cons d ds =>
    by_cases hd : isWordChar d = true
    · have hi : Layout.isInk (c.advance text.length).rest = true := by
        rw [hrest]
        exact Layout.isInk_of_word hd
      rw [countWhile, if_pos hd] at hn
      rw [settle_ink hi, hrest]
      exact .inr ⟨by omega, .inl ⟨d, ds, rfl, .inl hd⟩⟩
    · rw [countWhile, if_neg hd] at hn
      exact .inl (hl.trans hn)

/-- A keyword is not followed by a parenthesis before the end of a name. -/
theorem Matches.keyword_call (hn : Lexeme.symbolLength c.settle.rest = some n)
    (hi : Idle (c.settle.advance n)) {a : Char} {as : List Char}
    (hr : r.body = .word text) (ht : text.toList = a :: as) (ha : isLetter a = true)
    (has : as.all isWordChar = true) (q : Peg) :
    Matches (.seq (.rule r) (.seq (.word "(") q)) c .failed := by
  by_cases hp : text.toList <+: c.settle.rest
  · have hidle : Idle (c.settle.advance text.length) := by
      rcases Stuck.or_end text hn ht ha has hp with h | h
      · rwa [h]
      · exact h.2.idle
    exact .seqVoid ( Matches.wordRule_of_prefix hr hp) (.seqFailed (hidle _ (by simp)))
  · exact .seqFailed (.wordRule_failed hr hp)

/-- The values that are told by a word of their own. -/
def constants : List (Rule × String) :=
  [(.prTrue, "true"), (.prFalse, "false"), (.prUndef, "undef")]

/-- The rule by which a text that begins with a name of length `n` is read as a primary expression,
and what is read. -/
def primaryName (n : Nat) (cs : List Char) : Rule × String :=
  (constants.find? (·.2.toList <+: cs)).getD (.prSym, String.ofList (cs.take n))

def Tree.ofName (c : Cursor) (n : Nat) : Tree :=
  .leaf (primaryName n c.rest).1.name (primaryName n c.rest).2 c.pos

/-- A name is read as a primary expression, as far as a constant that it begins with. -/
theorem Matches.primary_name (hn : Lexeme.symbolLength c.settle.rest = some n) :
    Matches (.rule .primary) c (.done [.node "primary" [.ofName c.settle n]]
      (c.settle.advance (primaryName n c.settle.rest).2.length)) := by
  have word {r : Rule} {text : String} (hr : r.body = .word text) :=
    wordRule_of_prefix (c := c) hr
  have hnum : Matches (.rule .prNum) c .failed := .failed_of_name hn rfl
  have hstr : Matches (.rule .prStr) c .failed := .failed_of_name hn rfl
  have hsym := Matches.token (r := .prSym) rfl c
  rw [Terminal.read, show (Terminal.lexeme .symbol).length? c.settle.rest = some n from hn] at hsym
  simp only [Tree.ofName, primaryName, constants, find?_cons, find?_nil]
  by_cases h1 : "true".toList <+: c.settle.rest
  · simp only [h1, decide_true]
    exact .made rfl (.here (word (r := .prTrue) rfl h1))
  have f1 : Matches (.rule .prTrue) c .failed := .wordRule_failed rfl h1
  by_cases h2 : "false".toList <+: c.settle.rest
  · simp only [h1, h2, decide_true, decide_false]
    exact .made rfl (.next f1 (.here (word (r := .prFalse) rfl h2)))
  have f2 : Matches (.rule .prFalse) c .failed := .wordRule_failed rfl h2
  by_cases h3 : "undef".toList <+: c.settle.rest
  · simp only [h1, h2, h3, decide_true, decide_false]
    exact .made rfl (.next f1 (.next f2 (.here (word (r := .prUndef) rfl h3))))
  have f3 : Matches (.rule .prUndef) c .failed := .wordRule_failed rfl h3
  simp only [h1, h2, h3, decide_false, Option.getD_none, String.length_ofList, length_take]
  rw [Nat.min_eq_left (Terminal.length?_le (t := .lexeme .symbol) hn)]
  exact .made rfl (.next f1 (.next f2 (.next f3 (.next hnum (.next hstr (.here hsym))))))

/-- What is read of a name ends where the name ends, or the text is stuck there. -/
theorem primaryName_end (hn : symbolLength c.rest = some n) : (primaryName n c.rest).2.length = n ∨
    (primaryName n c.rest).2.length < n ∧
      Stuck (c.advance (primaryName n c.rest).2.length).settle.rest := by
  unfold primaryName
  cases h : constants.find? (·.2.toList <+: c.rest) with
  | none =>
    refine .inl ?_
    rw [Option.getD_none, String.length_ofList, length_take]
    exact Nat.min_eq_left (Terminal.length?_le (t := .lexeme .symbol) hn)
  | some k =>
    have hp : k.2.toList <+: c.rest := by simpa using find?_some h
    have hk := mem_of_find?_eq_some h
    simp only [constants, mem_cons, not_mem_nil, or_false] at hk
    rcases hk with rfl | rfl | rfl
    · exact Stuck.or_end "true" hn rfl rfl rfl hp
    · exact Stuck.or_end "false" hn rfl rfl rfl hp
    · exact Stuck.or_end "undef" hn rfl rfl rfl hp

/-- A name after which nothing goes on is read as an expression. -/
theorem Matches.expr_name (hn : Lexeme.symbolLength c.settle.rest = some n)
    (hi : Idle (c.settle.advance n)) : Matches (.rule .expr) c
      (.done [.ofPrimary (.ofName c.settle n)]
        (c.settle.advance (primaryName n c.settle.rest).2.length)) := by
  have hd : Idle (c.settle.advance (primaryName n c.settle.rest).2.length) := by
    rcases primaryName_end hn with h | h
    · rwa [h]
    · exact h.2.idle
  refine expr_other (fun p hp => ?_) (exprCase_of_primary (primary_name hn) hd)
  simp only [Peg.exprWords, mem_cons, not_mem_nil, or_false] at hp
  rcases hp with rfl | rfl | rfl <;> exact .void rfl (keyword_call hn hi rfl rfl rfl rfl _)

end

/-- In an expression a name is not followed by a single equals sign. -/
theorem Matches.named_equals {t : Tree} {m : Nat}
    (h : Matches (.rule .expr) (.start text) (.done [t] ⟨n, []⟩))
    (hm : Lexeme.symbolLength (start text).settle.rest = some m)
    (he : ((start text).settle.advance m).settle.rest.head? = some '=') :
    ∃ r, ((start text).settle.advance m).settle.rest = '=' :: '=' :: r := by
  cases hr : ((start text).settle.advance m).settle.rest with
  | nil => simp [hr] at he
  | cons c r =>
    rw [hr] at he
    cases he
    by_cases hs : r.head? = some '='
    · cases r with
      | nil => cases hs
      | cons d r =>
        cases hs
        exact ⟨r, rfl⟩
    · -- Otherwise nothing is read after the name, and the text does not end there.
      have hidle : Idle ((start text).settle.advance m) := Stuck.idle (.inr ⟨r, hr, hs⟩)
      have hend : (primaryName m (start text).settle.rest).2.length ≤ m := by
        rcases primaryName_end hm with h | h <;> omega
      injection h.unique (expr_name hm hidle) with _ hc
      have hnil := congrArg (·.rest.length) hc
      have hlen := congrArg List.length hr
      have hle := rest_settle_le ((start text).settle.advance m)
      simp only [advance, List.length_drop, List.length_cons, List.length_nil] at hnil hlen hle
      omega

section

variable {text : String} {t : Tree} {n : Nat}

/-- A name before an equals sign is taken for the name of the argument, and then there is
no argument. -/
theorem Matches.addArgs_named (h : Matches (.rule .expr) (.start text) (.done [t] ⟨n, []⟩))
    (hb : beginsNamed text = true) :
    Matches (.rule .addArgs) ⟨5, '(' :: (text.toList ++ [')', ';'])⟩ .failed := by
  obtain ⟨m, hm, he⟩ : ∃ m, Lexeme.symbolLength (start text).settle.rest = some m ∧
      ((start text).settle.advance m).settle.rest.head? = some '=' := by
    unfold beginsNamed at hb
    dsimp only at hb
    split at hb
    · rename_i m hm
      exact ⟨m, hm, by simpa using hb⟩
    · cases hb
  obtain ⟨r, hr⟩ := h.named_equals hm he
  -- The name and the first equals sign are read, here and in the call.
  have hname := Matches.token (r := .symbol) rfl (start text)
  rw [Terminal.read, show (Terminal.lexeme .symbol).length? (start text).settle.rest = some m
    from hm] at hname
  have hequals : Matches (.word "=") ((start text).settle.advance m) (.done [_] ⟨_, '=' :: r⟩) :=
    .word (congrArg (mk _) hr)
  have hboth := h.extend_of_whole rfl rfl (both hname hequals) rfl rfl 6 [';']
  have hexpr : ∀ pos, Matches (.rule .expr) ⟨pos, '=' :: (r ++ [')', ';'])⟩ .failed :=
    .shun_ink ['='] _ rfl rfl
  have harg : Matches (.rule .argument) ⟨6, text.toList ++ [')', ';']⟩ .failed :=
    .void rfl (.seqVoid (.present hboth) (hexpr _))
  have hnone : Matches (.rule .arguments) ⟨6, text.toList ++ [')', ';']⟩
      (.done [] ⟨6, text.toList ++ [')', ';']⟩) :=
    .nothing rfl (.absent (.seqFailed (.void rfl (.seqFailed harg))))
  have hclose : Matches (.word ")") ⟨6, text.toList ++ [')', ';']⟩ .failed := by
    obtain ⟨k, hk⟩ := (h.extend_of_whole rfl rfl hname rfl rfl 6 [';']).symbolLength
    exact .failed_of_name hk rfl
  exact .void rfl (.seqVoid (.word (settle_ink rfl)) (.seqVoid hnone hclose))

theorem beginsNamed_eq_false (h : beginsNamed text = false) :
    Matches (.seq (.rule .symbol) (.word "=")) (.start text) .failed := by
  have hname := Matches.token (r := .symbol) rfl (start text)
  rw [Terminal.read] at hname
  unfold beginsNamed at h
  dsimp only at h
  cases hm : symbolLength (start text).settle.rest with
  | none =>
    rw [show (Terminal.lexeme .symbol).length? (start text).settle.rest = none
      from hm] at hname
    exact .seqFailed hname
  | some m =>
    rw [show (Terminal.lexeme .symbol).length? (start text).settle.rest = some m
      from hm] at hname
    refine .seqVoid hname ?_
    have hequals := Matches.terminal (.word "=") ((start text).settle.advance m)
    simp only [hm, beq_eq_false_iff_ne, ne_eq] at h
    have hnone : (Terminal.word "=").length? ((start text).settle.advance m).settle.rest =
        none := by
      cases hr : ((start text).settle.advance m).settle.rest with
      | nil => rfl
      | cons c r =>
        have hc : c ≠ '=' := by simpa [hr] using h
        simp [Terminal.length?, Ne.symm hc]
    rwa [Terminal.read, hnone] at hequals

/-- An expression is accepted as the one argument of a call, and read there as it is alone,
if it does not begin with a name before an equals sign; otherwise the call is refused. -/
theorem parse_call_argument (h : Rule.expr.whole? text = some t) :
    (beginsNamed text = false → parse ("x = f(" ++ text ++ ");") =
      .ok (((t.shift 6).callF (text.length + 6)).assignX (text.length + 7))) ∧
    (beginsNamed text = true → ∃ pos, parse ("x = f(" ++ text ++ ");") =
      .error (.noMatch pos)) := by
  obtain ⟨n, h⟩ := Rule.whole?_eq_some h
  have hn : n = text.length := by
    have := h.place
    simp only [Cursor.start, List.length_nil, String.length_toList] at this
    omega
  subst hn
  have ht : ("x = f(" ++ text ++ ");").toList =
      'x' :: ' ' :: '=' :: ' ' :: 'f' :: '(' :: (text.toList ++ [')', ';']) := by
    simp
  refine ⟨fun hb => ?_, fun hb => ?_⟩
  · exact parse_callF (h.argument_positional (beginsNamed_eq_false hb))
  · have hargs := h.addArgs_named hb
    have hs : ∀ cs, ['('] <+: (Cursor.settle ⟨5, '(' :: cs⟩).rest := by
      intro cs
      rw [Cursor.settle_ink rfl]
      exact ⟨cs, rfl⟩
    have hcall : Matches (.rule .call) ⟨3, ' ' :: 'f' :: '(' :: (text.toList ++ [')', ';'])⟩
        (.done [.node "call" [.node "primary" [.leaf "pr_Sym" "f" 4]]] _) :=
      .node rfl (.both (.primary_f _) (.stop (.void rfl (.neither hargs (.neither
        (.shun _ rfl (hs _)) (.shun _ rfl (hs _))))))) (List.cons_ne_nil _ _)
    obtain ⟨e, he⟩ := parse_assignX_error ht
      (.seqVoid (.expr_f _ hcall (hs _) rfl) (.shun _ rfl (hs _)))
    cases e with
    | noMatch pos => exact ⟨pos, he⟩
    | exhausted => exact absurd he (parse_ne_exhausted _)

/-- A comparison is refused as an argument, but accepted between parentheses. -/
theorem parse_call_argument_comparison :
    (∃ t pos, Rule.expr.whole? "a==b" = some t ∧ parse "x = f(a==b);" = .error (.noMatch pos)) ∧
    ∃ t, Rule.expr.whole? "(a==b)" = some t ∧
      parse "x = f((a==b));" = .ok (((t.shift 6).callF 12).assignX 13) := by
  have h : (Rule.expr.whole? "a==b").isSome = true := by decide +kernel
  have h' : (Rule.expr.whole? "(a==b)").isSome = true := by decide +kernel
  obtain ⟨t, ht⟩ := Option.isSome_iff_exists.1 h
  obtain ⟨t', ht'⟩ := Option.isSome_iff_exists.1 h'
  obtain ⟨pos, hp⟩ := (parse_call_argument ht).2 (by decide)
  exact ⟨⟨t, pos, ht, hp⟩, t', ht', (parse_call_argument ht').1 (by decide)⟩

end

end Scad
