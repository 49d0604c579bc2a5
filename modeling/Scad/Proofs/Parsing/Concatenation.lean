import Scad.Proofs.Parsing.Argument
import Scad.Proofs.Parsing.Items

/-!
Two programs one after the other, with a line end between them, are one program with
the items of both. Only a second program that begins with a name like `elsewhere` is
different: the keyword `else` is read without regard to the letters after it, so that
the rest of the name is taken for the branch of an `if` at the end of the first program.
-/

namespace Scad

open Layout Cursor Lexeme

variable {c : Char} {d : Cursor} {cs : List Char} {ts : List Tree} {pos : Nat} {text : String}

/-! ## The same text after layout -/

theorem Matches.of_settle_eq {p : Peg} {c : Cursor} {m : Reading} (h : Matches p c m)
    (hs : c.settle = d.settle) :
    ∃ m', Matches p d m' ∧ Reading.Both (fun c d => c.settle = d.settle) Eq m m' := by
  have congruent : Congruent Eq := by
    constructor
    · rfl
    · rintro ts us rfl
      exact Iff.rfl
    · rintro ts us name rfl
      rfl
    · rintro ts us ts' us' rfl rfl
      rfl
  refine h.both_of_terminals congruent (fun r _ => r.body.within_all) (fun t name c d _ hr => ?_)
    p.within_all hs
  unfold Terminal.read
  rw [hr]
  cases t.length? d.settle.rest with
  | none => exact .failed
  | some n => exact .done rfl rfl

theorem Gap.settle_newline {g : List Char} (h : Gap g []) (cs : List Char) (pos : Nat) :
    (mk pos (g ++ '\n' :: cs)).settle = (mk (pos + g.length + 1) cs).settle := by
  have hl : length (g ++ '\n' :: cs) = g.length + 1 + length cs := by
    generalize hn : ([] : List Char) = next at h
    induction h with
    | nil =>
      rw [List.nil_append, length_blank rfl, List.length_nil]
      omega
    | blank hc _ ih =>
      rw [List.cons_append, length_blank hc, ih hn, List.length_cons]
      omega
    | @comment y ds _ hc _ ih =>
      have hcl : commentLength (y ++ (ds ++ '\n' :: cs)) = some y.length := by
        refine Comment.length ?_
        subst hn
        cases hc with
        | block hl hf => exact .block hl hf
        | line h hn =>
          refine .line h fun c hc => ?_
          cases ds with
          | nil =>
            cases hc
            exact .inr rfl
          | cons d ds => exact hn c hc
      rw [List.append_assoc, length_comment hcl, List.drop_left, ih hn, List.length_append]
      omega
  rw [Cursor.settle, Cursor.settle, hl, Cursor.advance, Cursor.advance, Cursor.mk.injEq]
  refine ⟨by simp only [Nat.add_assoc], ?_⟩
  rw [Nat.add_assoc, ← List.drop_drop, List.drop_left, Nat.add_comm, List.drop_succ_cons]

/-! ## Programs that begin with `else` -/

/-- Does a program begin with the letters of `else` and another letter? -/
def opensElse (text : String) : Bool :=
  match text.toList.drop (length text.toList) with
  | 'e' :: 'l' :: 's' :: 'e' :: c :: _ => isLetter c
  | _ => false

/-- The terminals that may stand before a digit. -/
def Terminal.mayStandDigit : Terminal → Bool
  | word text => text.toList.head?.all isDigit
  | lexeme .number | finish => true
  | lexeme _ => false

theorem Terminal.length?_digit {t : Terminal} (h : t.mayStandDigit = false)
    (hc : isDigit c = true) (cs : List Char) : t.length? (c :: cs) = none := by
  refine length?_of_mayStand (List.cons_ne_nil c []) ⟨cs, rfl⟩ ?_
  have hne : ∀ d, isDigit d = false → c ≠ d := by
    rintro d hd rfl
    rw [hc] at hd
    cases hd
  cases t with
  | word text =>
    cases hl : text.toList with
    | nil => simp [mayStandDigit, hl] at h
    | cons d l =>
      have hd : c ≠ d := hne d (by simpa [mayStandDigit, hl] using h)
      simp [mayStand, hl, List.isPrefixOf, hd, Ne.symm hd]
  | finish => cases h
  | lexeme l =>
    cases l with
    | number => cases h
    | symbol =>
      have hname : (isLetter c || c == '$') = false := by
        by_contra hn
        rw [isDigit_of_name (Bool.not_eq_false _ ▸ hn)] at hc
        cases hc
      simpa [mayStand] using hname
    | doubleQuoted => simp [mayStand, hne '"' rfl]
    | singleQuoted => simp [mayStand, hne '\'' rfl]
    | path => simp [mayStand, hne '<' rfl]

theorem Matches.childStatement_digit (hc : isDigit c = true) :
    Matches (.rule .childStatement) ⟨pos, c :: cs⟩ .failed := by
  have hi : isInk (c :: cs) = true :=
    isInk_of_word (by rw [isWordChar, hc, Bool.or_true])
  have hopen : ∀ t : Terminal, t.mayStandDigit = false →
      t.length? (mk pos (c :: cs)).settle.rest = none := by
    intro t ht
    rw [settle_ink hi]
    exact Terminal.length?_digit ht hc cs
  exact failed_of_mayOpen hopen rfl rfl rfl

/-- A statement that begins with the letters of `else` is not an `else` branch, unless
another letter follows them. -/
theorem Matches.elseBranch_statement {v : List Char} {c' : Cursor}
    (h : Matches (.rule .statement) ⟨pos, cs⟩ (.done ts c'))
    (hc : (mk pos cs).settle.rest = ['e', 'l', 's', 'e'] ++ v)
    (hv : ∀ c ∈ v.head?, isLetter c = false) (q : Nat) : Matches .elseBranch ⟨q, cs⟩ .failed := by
  have hset : ∀ q, (mk q cs).settle.rest = ['e', 'l', 's', 'e'] ++ v := fun _ => hc
  obtain ⟨q', hq'⟩ : ∃ q', (mk q cs).settle = ⟨q', "else".toList ++ v⟩ :=
    ⟨_, congrArg (mk _) (hset q)⟩
  refine .seqVoid (.wordRule rfl hq') ?_
  -- What follows the four letters?
  by_cases hdigit : ∃ c r, v = c :: r ∧ isDigit c = true
  · obtain ⟨c, r, rfl, hd⟩ := hdigit
    exact childStatement_digit hd
  have hsym : Lexeme.symbolLength (mk pos cs).settle.rest = some 4 := by
    rw [hc]
    have hstop : ∀ c ∈ v.head?, (isLetter c || isDigit c) = false := by
      intro c hcv
      rw [hv c hcv, Bool.false_or]
      cases v with
      | nil => cases hcv
      | cons d r =>
        cases hcv
        exact Bool.eq_false_iff.2 fun hd => hdigit ⟨c, r, rfl, hd⟩
    have hcount := countWhile_append hstop []
    rw [List.nil_append] at hcount
    change some (countWhile _ v + 3 + 1) = _
    rw [hcount]
    rfl
  have hafter : ∀ q, ((mk q cs).settle.advance 4).settle.rest = (mk q v).settle.rest := by
    intro q
    rw [advance, hset q]
    rfl
  by_cases ho : ['('] <+: (mk pos v).settle.rest
  · exact .shun ['('] rfl ho
  by_cases he : ['='] <+: (mk pos v).settle.rest
  · exact .shun ['='] rfl he
  have hfail : Matches (.rule .statement) ⟨pos, cs⟩ .failed :=
    .statement_failed ['e', 'l'] rfl (by rw [hc]; exact ⟨'s' :: 'e' :: v, rfl⟩) hsym
      (by rwa [hafter]) (by rwa [hafter])
  cases hfail.unique h

/-- A program that can be read alone does not begin with an `else` branch, unless it begins
with the letters of `else` and another letter. -/
theorem Matches.elseBranch_items (ht : opensElse text = false)
    (h : Matches (.many .item) (.start text) (.done ts d)) (hd : d.settle.rest = []) (q : Nat) :
    Matches .elseBranch ⟨q, text.toList⟩ .failed := by
  by_cases hp : "else".toList <+: (mk q text.toList).settle.rest
  · obtain ⟨v, hv⟩ := hp
    have hset : (start text).settle.rest = ['e', 'l', 's', 'e'] ++ v := hv.symm
    have hlet : ∀ c ∈ v.head?, isLetter c = false := by
      intro c hc
      cases v with
      | nil => cases hc
      | cons e r =>
        cases hc
        change text.toList.drop (length text.toList) = _ at hset
        simpa [opensElse, hset] using ht
    -- The first item is a statement.
    generalize hm : Reading.done ts d = m at h
    cases h with
    | stop =>
      cases hm
      rw [hd] at hset
      cases hset
    | still ha =>
      exact absurd rfl (ha.ne_nil rfl)
    | more ha =>
      have front : ['e', 'l'] <+: (start text).settle.rest := by
        rw [hset]
        exact ⟨'s' :: 'e' :: v, rfl⟩
      rcases ha.alt_inv rfl with hinc | ⟨-, ha⟩
      · cases hinc.unique (.shun ['e', 'l'] rfl front)
      rcases ha.alt_inv rfl with huse | ⟨-, ha⟩
      · cases huse.unique (.shun ['e', 'l'] rfl front)
      · exact ha.elseBranch_statement hset hlet q
  · exact .seqFailed (.wordRule_failed rfl hp)

/-! ## One program after the other -/

/-- The items of a program: its tree without the mark of the end. -/
def Tree.items : Tree → List Tree
  | node _ ts => ts.dropLast
  | leaf _ _ _ => []

/-- A program is read exactly if its items are, up to layout at the end. -/
theorem parse_eq_ok {t : Tree} : parse text = .ok t ↔
    ∃ ts d, Matches (.many .item) (.start text) (.done ts d) ∧ d.settle.rest = [] ∧
      t = .node "Input" (ts ++ [.leaf "EOF" "" d.settle.pos]) := by
  refine parseRule_eq_ok.trans ⟨?_, ?_⟩
  · rintro ⟨us, c, h⟩
    obtain ⟨ts, d, hm, hd, heq⟩ := h.input_inv
    exact ⟨ts, d, hm, hd, (List.cons.inj heq).1⟩
  · rintro ⟨ts, d, hm, hd, rfl⟩
    have hfin := Matches.terminal .finish d
    rw [Terminal.read, hd] at hfin
    exact ⟨[], _, .node (r := .input) rfl (.both hm hfin) (by simp)⟩

/-- The items of two programs with a line end between them. -/
theorem Matches.items_append {a b : String} {us : List Tree} {e : Cursor}
    (hts : Matches (.many .item) (.start a) (.done ts d)) (hd : d.settle.rest = [])
    (hus : Matches (.many .item) (.start b) (.done us e)) (hue : e.settle.rest = [])
    (he : opensElse b = false) : ∃ f, f.settle.rest = [] ∧
      Matches (.many .item) (.start (a ++ "\n" ++ b))
        (.done (ts ++ Tree.shiftAll (a.length + 1) us) f) := by
  have hgap : Gap d.rest [] := by
    have := length_gap d.rest
    change d.rest.drop (length d.rest) = [] at hd
    rwa [hd, List.take_of_length_le (List.drop_eq_nil_iff.1 hd)] at this
  have hplace : d.pos + d.rest.length = a.length := by
    have := hts.place
    rwa [start, String.length_toList, Nat.zero_add] at this
  have settle : ∀ q, (mk q (d.rest ++ '\n' :: b.toList)).settle =
      (mk (q + d.rest.length + 1) b.toList).settle := hgap.settle_newline b.toList
  have hkeep : KeepsElse d.rest (d.rest ++ '\n' :: b.toList) := by
    intro q _
    obtain ⟨_, hm, hboth⟩ :=
      (hus.elseBranch_items he hue (q + d.rest.length + 1)).of_settle_eq (settle q).symm
    cases hboth
    exact hm
  -- The items of the second program at their new place.
  obtain ⟨_, hlater, hboth⟩ := hus.later (a.length + 1)
  cases hboth with
  | done hus' he' =>
    subst hus' he'
    obtain ⟨_, hmany, hboth⟩ := hlater.of_settle_eq (d := ⟨d.pos, d.rest ++ '\n' :: b.toList⟩) (by
      rw [settle, hplace, start, Nat.zero_add])
    cases hboth with
    | @done _ _ _ f hus' hf =>
      subst hus'
      obtain ⟨x, hx, hall, -⟩ := hts.items_swap hkeep hmany
      have htext : (a ++ "\n" ++ b).toList = x ++ (d.rest ++ '\n' :: b.toList) := by
        rw [← List.append_assoc, ← hx]
        simp [start]
      refine ⟨f, hf ▸ hue, ?_⟩
      rw [start, htext]
      exact hall

/-- Two programs with a line end between them are one program with the items of both, if
the second does not begin with the letters of `else` and another letter. -/
theorem parse_append {a b : String} {s t : Tree} (ha : parse a = .ok s) (hb : parse b = .ok t)
    (he : opensElse b = false) : ∃ u, parse (a ++ "\n" ++ b) = .ok u ∧
      u.items = s.items ++ Tree.shiftAll (a.length + 1) t.items := by
  obtain ⟨ts, d, hts, hd, rfl⟩ := parse_eq_ok.1 ha
  obtain ⟨us, e, hus, hue, rfl⟩ := parse_eq_ok.1 hb
  obtain ⟨f, hf, hall⟩ := hts.items_append hd hus hue he
  refine ⟨_, parse_eq_ok.2 ⟨_, f, hall, hf, rfl⟩, ?_⟩
  simp only [Tree.items, List.dropLast_concat]

/-- An `if` without `else` before a call of a module. -/
theorem parse_append_if : ∃ s t u, parse "if (a) b();" = .ok s ∧ parse "else(1); else2();" = .ok t ∧
    parse "if (a) b();\nelse(1); else2();" = .ok u ∧
      u.items = s.items ++ Tree.shiftAll 12 t.items := by
  have ha : (parse "if (a) b();").toOption.isSome = true := by decide +kernel
  have hb : (parse "else(1); else2();").toOption.isSome = true := by decide +kernel
  cases hs : parse "if (a) b();" with
  | error e =>
    rw [hs] at ha
    cases ha
  | ok s =>
    cases ht : parse "else(1); else2();" with
    | error e =>
      rw [ht] at hb
      cases hb
    | ok t =>
      obtain ⟨u, hu, hi⟩ := parse_append hs ht (by decide)
      exact ⟨s, t, u, rfl, rfl, hu, hi⟩

-- Before `elsewhere();` the same `if` becomes one item with it.
example : (parse "if (a) b();").toOption.map (·.items.length) = some 1 ∧
    (parse "elsewhere();").toOption.map (·.items.length) = some 1 ∧
    (parse "if (a) b();\nelsewhere();").toOption.map (·.items.length) = some 1 := by
  decide +kernel

end Scad
