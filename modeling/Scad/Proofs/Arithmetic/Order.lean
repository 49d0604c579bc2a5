import Scad.Proofs.Arithmetic.Yields
import Scad.Proofs.Parsing.Items
import Scad.Proofs.Scoping.Lexical

/-!
Rules of the grammar that no program makes use of. The choice of an operator between the
terms of a comparison tries `>` and `<` before `>=` and `<=`, and is not made again if
what follows is no term. So only the first two are ever read, and the evaluation
of a comparison takes no other branch, as long as the node is what was read. A program can
change the node of a default value in place, and so come to the other branches.
-/

namespace Scad

open Eval List Rule

variable {c d : Cursor} {p : Peg} {ts : List Tree} {t : Tree}

/-! ## What is read -/

def Rule.unreached : List Rule := [.opLe, .opGe, .exprAssert]

def Peg.order : Peg := any (word ">") [rule .opGe, word "<", rule .opLe]

/-- An operator of a comparison as it is read. -/
def Tree.IsOrder (t : Tree) : Prop := ∃ s ∈ ["<", ">"], ∃ pos, t = .leaf "" s pos

theorem Matches.order (h : Matches .order c (.done ts d)) : ∃ t, ts = [t] ∧ t.IsOrder := by
  have hword : ∀ {s : String}, s.toList <+: c.settle.rest →
      ∃ d, Matches (.word s) c (.done [.leaf "" s c.settle.pos] d) := by
    rintro s ⟨cs, hcs⟩
    exact ⟨_, .word (by rw [hcs])⟩
  by_cases hg : ">".toList <+: c.settle.rest
  · obtain ⟨d', hd⟩ := hword hg
    cases h.unique (.here hd)
    exact ⟨_, rfl, ">", by simp, _, rfl⟩
  have fails : Matches (.word ">") c .failed := .word_failed hg
  have hge : Matches (.rule .opGe) c .failed :=
    .wordRule_failed rfl fun h => hg (.trans ⟨['='], rfl⟩ h)
  by_cases hl : "<".toList <+: c.settle.rest
  · obtain ⟨d', hd⟩ := hword hl
    cases h.unique (.next fails (.next hge (.here hd)))
    exact ⟨_, rfl, "<", by simp, _, rfl⟩
  · have hle : Matches (.rule .opLe) c .failed :=
      .wordRule_failed rfl fun h => hl (.trans ⟨['='], rfl⟩ h)
    cases h.unique (.neither fails (.neither hge (.neither (.word_failed hl) hle)))

theorem Matches.row {item divider : Peg} {P D : Tree → Prop}
    (hitem : ∀ c us d, Matches item c (.done us d) → ∃ t, us = [t] ∧ P t)
    (hdiv : ∀ c us d, Matches divider c (.done us d) → ∃ t, us = [t] ∧ D t)
    (h : Matches (.separated item divider) c (.done ts d)) : Row P D ts := by
  obtain ⟨us, vs, c', hu, hv, rfl⟩ := h.seq_inv
  obtain ⟨t, rfl, ht⟩ := hitem _ _ _ hu
  clear h hu
  generalize hp : Peg.many (.seq divider item) = p at hv
  generalize hm : Reading.done vs d = m at hv
  replace hm := hm.symm
  induction hv generalizing t vs d with
  | stop | still =>
    cases hm
    exact .single ht
  | more h _ _ _ ih =>
    cases hp
    obtain ⟨ws, rfl, rfl⟩ := Reading.after_eq_done hm
    obtain ⟨ds, is, _, hds, his, rfl⟩ := h.seq_inv
    obtain ⟨d, rfl, hd⟩ := hdiv _ _ _ hds
    obtain ⟨t', rfl, ht'⟩ := hitem _ _ _ his
    exact .cons ht hd (ih ws t' ht' rfl rfl)
  | _ => cases hp

/-- No rule of the tree is unreached, and comparisons are rows of terms with read operators
between them. -/
inductive Tree.Reached : Tree → Prop
  | leaf {rule : String} (hr : rule ∉ unreached.map name)
      (hc : rule ≠ comparison.name) (s : String) (pos : Nat) : Reached (.leaf rule s pos)
  | node {rule : String} {ts : List Tree} (hr : rule ∉ unreached.map name)
      (hrow : rule = comparison.name → Row (·.Is .addition) IsOrder ts)
      (hts : ∀ t ∈ ts, Reached t) : Reached (.node rule ts)

/-- Does an expression lead to no unreached rule, but in the choice of an operator? -/
def Peg.leadsOn : Peg → Bool
  | terminal _ => true
  | rule r => !unreached.contains r
  | seq a b => a.leadsOn && b.leadsOn
  | alt a b => alt a b == order || a.leadsOn && b.leadsOn
  | many a | opt a => a.leadsOn

theorem Rule.body_leadsOn (r : Rule) : r.body.leadsOn = true := by
  cases r <;> rfl

theorem Rule.name_reached {r : Rule} (h : r ∉ unreached) : r.name ∉ unreached.map name := by
  revert h
  cases r <;> decide

theorem Rule.eq_comparison {r : Rule} (h : r.name = comparison.name) : r = comparison := by
  revert h
  cases r <;> decide

/-- The end of the text is no rule of its own. -/
theorem Rule.label_of_token {r : Rule} {t : Terminal} (h : r.body = .terminal t) :
    t.label r.name = r.name := by
  cases t with
  | finish => cases r <;> cases h
  | _ => rfl

theorem Matches.order_reached (h : Matches .order c (.done ts d)) : ∀ t ∈ ts, t.Reached := by
  obtain ⟨t, rfl, s, -, pos, rfl⟩ := h.order
  exact forall_mem_singleton.2 (.leaf (by decide) (by decide) s pos)

theorem Matches.reached (hp : p.leadsOn = true) (h : Matches p c (.done ts d)) :
    ∀ t ∈ ts, t.Reached := by
  generalize hm : Reading.done ts d = m at h
  replace hm := hm.symm
  have choice : ∀ {a b : Peg}, (Peg.alt a b).leadsOn = true →
      .alt a b = Peg.order ∨ a.leadsOn = true ∧ b.leadsOn = true := by
    intro a b h
    simpa only [Peg.leadsOn, Bool.or_eq_true, beq_iff_eq, Bool.and_eq_true] using h
  induction h generalizing ts d with
  | terminal t c =>
    obtain ⟨n, -, rfl, -⟩ := Terminal.read_eq_done hm
    have hl : t.label "" ∈ ["", "EOF"] := by cases t <;> simp [Terminal.label]
    generalize t.label "" = rule at hl
    refine forall_mem_singleton.2 (.leaf ?_ ?_ _ _) <;> revert rule <;> decide
  | @token r t hb c =>
    obtain ⟨n, -, rfl, -⟩ := Terminal.read_eq_done hm
    have hr : r ∉ unreached := by simpa [Peg.leadsOn] using hp
    have hc : r.name ≠ comparison.name := fun hn => by
      cases eq_comparison hn
      cases hb
    rw [label_of_token hb]
    exact forall_mem_singleton.2 (.leaf (name_reached hr) hc _ _)
  | @rule r hb _ _ h ih =>
    have hr : r ∉ unreached := by simpa [Peg.leadsOn] using hp
    obtain ⟨rfl, rfl⟩ | ⟨vs, rfl, hvs, rfl⟩ := Reading.under_eq_done hm
    · exact forall_mem_nil _
    · refine forall_mem_singleton.2 (.node (name_reached hr) (fun hn => ?_)
        (ih r.body_leadsOn rfl))
      cases eq_comparison hn
      exact h.row (fun _ _ _ h => h.derives.one rfl) fun _ _ _ => Matches.order
  | seq _ _ iha ihb =>
    obtain ⟨vs, rfl, rfl⟩ := Reading.after_eq_done hm
    rw [Peg.leadsOn, Bool.and_eq_true] at hp
    exact forall_mem_append.2 ⟨iha hp.1 rfl, ihb hp.2 rfl⟩
  | seqFailed => cases hm
  | first ha hts ih =>
    cases hm
    rcases choice hp with hp | hp
    · exact (hp ▸ Matches.first ha hts).order_reached
    · exact ih hp.1 rfl
  | second ha hf hb _ ih =>
    obtain ⟨rfl, hts⟩ := Reading.chosen_eq_done hm
    rcases choice hp with hp | hp
    · have h := Matches.second ha hf hb
      rw [hm, hp] at h
      exact h.order_reached
    · exact ih hp.2 rfl
  | more _ hts _ iha ihr =>
    obtain ⟨vs, rfl, rfl⟩ := Reading.after_eq_done hm
    exact forall_mem_append.2 ⟨iha hp rfl, ihr hp rfl⟩
  | still | stop | absent =>
    cases hm
    exact forall_mem_nil _
  | present _ ih =>
    cases hm
    exact ih hp rfl

/-! ## Looking for rules -/

theorem Tree.mem_selectAll {r : String} {n : Tree} :
    n ∈ selectAll r ts ↔ ∃ t ∈ ts, n ∈ t.select r := by
  induction ts with
  | nil => simp [selectAll]
  | cons t ts ih => simp [selectAll, ih]

theorem Tree.Reached.of_mem_select {r : String} {n : Tree} (h : t.Reached) (hn : n ∈ t.select r) :
    n.Reached ∧ n.rule = r := by
  induction h with
  | leaf hr hc s pos =>
    simp only [select] at hn
    split at hn
    · cases mem_singleton.1 hn
      exact ⟨.leaf hr hc s pos, ‹_›⟩
    · cases hn
  | @node rule ts hr hrow hts ih =>
    have below : n ∈ selectAll r ts → n.Reached ∧ n.rule = r := by
      intro hn
      obtain ⟨t, ht, hn⟩ := mem_selectAll.1 hn
      exact ih t ht hn
    simp only [select] at hn
    split at hn
    · rcases mem_cons.1 hn with rfl | hn
      · exact ⟨.node hr hrow hts, ‹_›⟩
      · exact below hn
    · exact below hn

/-! ## Evaluation -/

theorem Row.divider {P D : Tree → Prop} (h : Row P D ts) {i : Nat} (ht : ts[2 * i + 1]? = some t) :
    D t := by
  induction h generalizing i with
  | single => simp at ht
  | cons _ hd _ ih =>
    cases i with
    | zero =>
      cases ht
      exact hd
    | succ i => exact ih (i := i) ht

variable {rule : String} {sub : Sub} {breaks breaks' : Text → Value → Value → Run Bool}

/-- A chain of relations asks for the words between its terms only. -/
theorem relationChain_congr (h : ∀ i t, ts[2 * i + 1]? = some t → ∃ s pos, t = .leaf "" s pos ∧
      breaks (.ofString s) = breaks' (.ofString s)) (fuel i : Nat) (left : Value) :
    relationChain sub breaks (.code (.node rule ts)) fuel (2 * i + 1) left =
      relationChain sub breaks' (.code (.node rule ts)) fuel (2 * i + 1) left := by
  induction fuel generalizing i left with
  | zero => rfl
  | succ fuel ih =>
    have hreach : Node.reaches (2 * i + 1) (.code (.node rule ts)) =
        pure (decide (2 * i + 1 < ts.length)) := rfl
    have hnext : 2 * i + 1 + 2 = 2 * (i + 1) + 1 := by omega
    cases ht : ts[2 * i + 1]? with
    | none =>
      have hend : ¬2 * i + 1 < ts.length := by simpa using ht
      simp only [relationChain, hreach, pure_bind, hend, decide_false]
      rfl
    | some t =>
      obtain ⟨s, pos, rfl, hs⟩ := h i t ht
      have hword : Node.wordAt (2 * i + 1 : Nat) (.code (.node rule ts)) = pure (.ofString s) :=
        funext fun w => Arithmetic.gives_wordAt _ ht
      simp only [relationChain, hword, pure_bind, hs, hnext, ih]

/-- No tree of a text has a node of an unreached rule. The operators of its comparisons are `<`
and `>`, and what the others would do has no part in the evaluation of the tree. -/
theorem unreached_rules_absent {text : String} (h : parse text = .ok t) :
    (∀ r ∈ [opLe, .opGe, .exprAssert], t.select r.name = []) ∧
    ∀ n ∈ t.select comparison.name, ∃ ts, n = .node comparison.name ts ∧
      Row (·.Is .addition) Tree.IsOrder ts ∧
      ∀ sub breaks, (∀ s ∈ ["<", ">"], breaks (.ofString s) = breaksOrder (.ofString s)) →
        evalRelation sub breaks (.code n) = evalRelation sub breaksOrder (.code n) := by
  obtain ⟨ts, c, hm⟩ := parseRule_eq_ok.1 h
  have ht : t.Reached := hm.reached rfl t mem_cons_self
  refine ⟨fun r hr => eq_nil_iff_forall_not_mem.2 fun n hn => ?_, fun n hn => ?_⟩
  · obtain ⟨hreached, hrule⟩ := ht.of_mem_select hn
    have hmem := mem_map_of_mem (f := name) hr
    cases hreached with
    | leaf h | node h =>
      cases hrule
      exact h hmem
  · obtain ⟨hreached, hrule⟩ := ht.of_mem_select hn
    cases hreached with
    | leaf _ hc => exact absurd hrule hc
    | @node rule ts _ hrow _ =>
      cases hrule
      refine ⟨ts, rfl, hrow rfl, fun sub breaks hb => ?_⟩
      have hwords : ∀ i t, ts[2 * i + 1]? = some t → ∃ s pos, t = .leaf "" s pos ∧
          breaks (.ofString s) = breaksOrder (.ofString s) := by
        intro i t ht
        obtain ⟨s, hs, pos, rfl⟩ := (hrow rfl).divider ht
        exact ⟨s, pos, rfl, hb s hs⟩
      simp only [evalRelation, relationChain_congr hwords _ 0]

theorem unreached_rules_absent_sum : ∃ t, parse "x = 1 + 2 < 3;" = .ok t ∧
    ∀ r ∈ [opLe, .opGe, .exprAssert], t.select r.name = [] := by
  have h : (parse "x = 1 + 2 < 3;").isOk = true := by decide +kernel
  cases hp : parse "x = 1 + 2 < 3;" with
  | error e =>
    rw [hp] at h
    cases h
  | ok t => exact ⟨t, rfl, (unreached_rules_absent hp).1⟩

/-- A function that adds `<=` and the last term to the comparison that is its default, and
evaluates it then. -/
def lengthenedComparison : String :=
  "function g(a=0<1,b=0)=[b*0,b+[\"<=\"],a[0][0][0][0][0]+[b,a[0][0][0][0][0][2]],eval(a)][3];" ++
    "x=g();"

/-- The chain `0 < 1 <= 1` is true; with `<` or `>` in the last place it would be false. -/
theorem lengthened_comparison_holds : ∃ v w,
    (do perform (.read (← Environment.ofText lengthenedComparison) "x")) {} = .ok v w ∧
      v.int? = some 1 := by
  obtain ⟨v, w, hrun, htest⟩ := Run.passes_eq_true (w := {})
    (m := do perform (.read (← Environment.ofText lengthenedComparison) "x"))
    (t := fun v _ => v.int? == some 1) (by decide +kernel)
  exact ⟨v, w, hrun, beq_iff_eq.1 htest⟩

end Scad
