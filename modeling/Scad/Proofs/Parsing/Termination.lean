import Scad.Proofs.Parsing.Steps
import Mathlib.Logic.Relation

/-!
Parsing ends. What one match has to match next needs fewer steps, so no rule comes
back to itself at the place where it began, and the step bound of the parser is never
felt: it is a total function of the text.
-/

namespace Scad

variable {c : Cursor} {p : Peg} {s s' : Peg × Cursor}

namespace Peg

/-- An expression with all expressions it is made of. -/
def parts : Peg → List Peg
  | terminal t => [terminal t]
  | rule r => [rule r]
  | seq a b => seq a b :: (a.parts ++ b.parts)
  | alt a b => alt a b :: (a.parts ++ b.parts)
  | many a => many a :: a.parts
  | opt a => opt a :: a.parts

theorem isTame_of_mem_parts {q : Peg} (hq : q ∈ p.parts) (hp : p.isTame = true) :
    q.isTame = true := by
  induction p with
  | terminal | rule => cases List.mem_singleton.1 hq; rfl
  | seq a b iha ihb | alt a b iha ihb =>
    rcases List.mem_cons.1 hq with rfl | hq
    · exact hp
    · simp only [isTame, Bool.and_eq_true] at hp
      rcases List.mem_append.1 hq with hq | hq
      · exact iha hq (by simp_all)
      · exact ihb hq (by simp_all)
  | many a ih | opt a ih =>
    rcases List.mem_cons.1 hq with rfl | hq
    · exact hp
    · simp only [isTame, Bool.and_eq_true] at hp
      exact ih hq (by simp_all)

/-- One round of a repetition consumes something. -/
theorem many_shortens {a : Peg} (ha : many a ∈ p.parts) (hp : p.isTame = true) {c' : Cursor}
    {ts : List Tree} (h : Matches a c (.done ts c')) : c'.rest.length < c.rest.length := by
  have ht := isTame_of_mem_parts ha hp
  simp only [isTame, Bool.and_eq_true, Bool.not_eq_true'] at ht
  exact h.shortens ht.1.2

/-- A run looks at nothing but the runs it leads to. -/
theorem run_congr {size fuel fuel' far : Nat} (hs : c.rest.length ≤ size)
    (h : ∀ q c' far, Leads (p, c) (q, c') → q.run size fuel c' far = q.run size fuel' c' far) :
    p.run size (fuel + 1) c far = p.run size (fuel' + 1) c far := by
  cases p with
  | terminal t => rfl
  | rule r =>
    rw [Peg.run, Peg.run]
    split
    · rfl
    · rw [h _ _ _ (.body r c)]
  | seq a b =>
    rw [Peg.run, Peg.run, h _ _ _ (.front a b c)]
    split
    · rename_i hx
      rw [h _ _ _ (.back b (run_sound hs (by rw [hx]; rfl)))]
    · rfl
  | alt a b =>
    rw [Peg.run, Peg.run, h _ _ _ (.first a b c)]
    simp only [h _ _ _ (.second a b c)]
  | many a =>
    rw [Peg.run, Peg.run, h _ _ _ (.round a c)]
    split
    · rfl
    · rename_i hx
      rw [h _ _ _ (.again (run_sound hs (by rw [hx]; rfl)))]
    · rfl
    · rfl
  | opt a => rw [Peg.run, Peg.run, h _ _ _ (.inner a c)]

theorem run_fuel {size fuel fuel' far : Nat} (hs : c.rest.length ≤ size) (hp : p.isTame = true)
    (hf : need (p, c) ≤ fuel) (hf' : need (p, c) ≤ fuel') :
    p.run size fuel c far = p.run size fuel' c far := by
  induction fuel generalizing p c far fuel' with
  | zero => exact absurd hf (Nat.not_le_of_lt (need_pos (p, c)))
  | succ fuel ih =>
    cases fuel' with
    | zero => exact absurd hf' (Nat.not_le_of_lt (need_pos (p, c)))
    | succ fuel' =>
      refine run_congr hs fun q c' far h => ?_
      have ⟨ht, hn⟩ := h.descends hp
      exact ih (Nat.le_trans h.rest_le hs) ht (Nat.le_of_lt_succ (Nat.lt_of_lt_of_le hn hf))
        (Nat.le_of_lt_succ (Nat.lt_of_lt_of_le hn hf'))

namespace Leads

theorem descends_transGen (h : Relation.TransGen Leads s s') (ht : s.1.isTame = true) :
    s'.1.isTame = true ∧ need s' < need s := by
  induction h with
  | single h => exact h.descends ht
  | tail _ h ih =>
    have ⟨ht', hn⟩ := h.descends ih.1
    exact ⟨ht', Nat.lt_trans hn ih.2⟩

theorem acc (ht : s.1.isTame = true) : Acc (fun s' s => Leads s s') s := by
  induction hn : need s using Nat.strongRecOn generalizing s with
  | _ n ih =>
    subst hn
    exact ⟨s, fun s' h => ih _ (h.descends ht).2 (h.descends ht).1 rfl⟩

end Leads

end Peg

open Peg

/-- Parsing gives a tree or the place of a syntax error, whatever the step bound, once it
is as large as the parser's. It ends because every round of a repetition consumes a
character, no rule leads to itself before one is consumed, so that no chain of rules goes
on for ever, and comments, too, are skipped in finitely many rounds. -/
theorem parse_total (text : String) :
    ((∃ t, parse text = .ok t) ∨ ∃ pos, parse text = .error (.noMatch pos)) ∧
    (∀ r fuel, stepsPerChar * (text.length + 1) ≤ fuel →
      (rule r).run text.length fuel (.start text) 0 =
        (rule r).run text.length (stepsPerChar * (text.length + 1)) (.start text) 0) ∧
    (∀ (p : Peg) (c : Cursor) (size fuel fuel' far : Nat), c.rest.length ≤ size →
      (∀ q c' far, Leads (p, c) (q, c') → q.run size fuel c' far = q.run size fuel' c' far) →
      p.run size (fuel + 1) c far = p.run size (fuel' + 1) c far) ∧
    (∀ r a, many a ∈ (Rule.body r).parts → ∀ c ts c', Matches a c (.done ts c') →
      c'.rest.length < c.rest.length) ∧
    (∀ r c c', Relation.TransGen Leads (rule r, c) (rule r, c') →
      c'.rest.length < c.rest.length) ∧
    (∀ r c, Acc (fun s' s => Leads s s') (rule r, c)) ∧
    (∀ cs n, Layout.commentLength cs = some n → 0 < n ∧ n ≤ cs.length) ∧
    ∀ cs bound, cs.length ≤ bound → Layout.skip bound cs = Layout.skip cs.length cs := by
  refine ⟨?_, fun r fuel hf => ?_, fun p c size fuel fuel' far hs h => run_congr hs h,
    fun r a ha c ts c' h => many_shortens ha r.body_isTame h, fun r c c' h => ?_,
    fun r c => Leads.acc rfl, fun cs n h => ?_, fun cs b hb => Layout.skip_bound hb (Nat.le_refl _)⟩
  · cases h : parse text with
    | ok t => exact .inl ⟨t, rfl⟩
    | error e =>
      cases e with
      | noMatch pos => exact .inr ⟨pos, rfl⟩
      | exhausted => exact absurd h (parse_ne_exhausted text)
  · have hs : (Cursor.start text).rest.length ≤ text.length := Nat.le_of_eq String.length_toList
    have hn := need_start_le r text
    exact run_fuel hs rfl (Nat.le_trans hn hf) hn
  · -- The ranks at both ends are the same, so it is the rest that became shorter.
    have hn := (Leads.descends_transGen h rfl).2
    simp only [need, Nat.add_lt_add_iff_left] at hn
    exact Nat.lt_of_mul_lt_mul_left hn
  · have := Layout.commentLength_bounds h
    omega

end Scad
