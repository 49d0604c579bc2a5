import Scad.Syntax.Parser
import Mathlib.Data.List.Basic

/-!
What it means that a parsing expression matches at a place, without a bound on steps
and without the furthest failure. A run that is not cut short gives the one reading
there is, so statements about matching need not mention steps.
-/

namespace Scad

variable {c c' : Cursor} {ts : List Tree} {p : Peg}

/-! ## Layout -/

namespace Lexeme

theorem countWhile_le (p : Char → Bool) (cs : List Char) : countWhile p cs ≤ cs.length := by
  induction cs with
  | nil => exact Nat.le_refl 0
  | cons c cs ih =>
    simp only [countWhile, List.length_cons]
    split <;> omega

end Lexeme

namespace Layout

variable {cs : List Char} {n : Nat}

theorem untilClose_bounds (h : untilClose cs = some n) : 2 ≤ n ∧ n ≤ cs.length := by
  fun_induction untilClose cs generalizing n with
  | case1 rest =>
    cases h
    exact ⟨Nat.le_refl 2, by simp⟩
  | case2 => cases h
  | case3 c cs _ _ ih =>
    obtain ⟨m, hm, rfl⟩ := Option.map_eq_some_iff.1 h
    have := ih hm
    simp only [List.length_cons]
    omega
  | case4 => cases h

theorem commentLength_bounds (h : commentLength cs = some n) : 2 ≤ n ∧ n ≤ cs.length := by
  fun_cases commentLength cs with
  | case1 cs =>
    cases h
    have := Lexeme.countWhile_le (fun c => c != '\r' && c != '\n') cs
    simp only [List.length_cons]
    omega
  | case2 cs =>
    obtain ⟨m, hm, rfl⟩ := Option.map_eq_some_iff.1 h
    have := untilClose_bounds hm
    simp only [List.length_cons]
    omega
  | case3 => simp_all [commentLength]

theorem skip_le (bound : Nat) (cs : List Char) : skip bound cs ≤ cs.length := by
  induction bound generalizing cs with
  | zero => exact Lexeme.countWhile_le _ _
  | succ bound ih =>
    have hb := Lexeme.countWhile_le isBlank cs
    simp only [skip]
    split
    · rename_i n hn
      have hc := commentLength_bounds hn
      have hr := ih ((cs.drop (Lexeme.countWhile isBlank cs)).drop n)
      simp only [List.length_drop] at hc hr
      omega
    · exact hb

/-- A bound that is at least the length of the text does not matter. -/
theorem skip_bound {b b' : Nat} (h : cs.length ≤ b) (h' : cs.length ≤ b') :
    skip b cs = skip b' cs := by
  have short : ∀ b, skip b [] = 0 := fun b => by cases b <;> rfl
  induction b generalizing b' cs with
  | zero => simp [List.eq_nil_of_length_eq_zero (Nat.le_zero.1 h), short]
  | succ b ih =>
    cases b' with
    | zero => simp [List.eq_nil_of_length_eq_zero (Nat.le_zero.1 h'), short]
    | succ b' =>
      simp only [skip]
      split
      · rename_i n hn
        have hc := commentLength_bounds hn
        have hl : ((cs.drop (Lexeme.countWhile isBlank cs)).drop n).length < cs.length := by
          simp only [List.length_drop] at hc ⊢
          omega
        rw [ih (Nat.le_of_lt_succ (Nat.lt_of_lt_of_le hl h))
          (Nat.le_of_lt_succ (Nat.lt_of_lt_of_le hl h'))]
      · rfl

/-- How much white space and how many comments stand at the front, in characters. -/
def length (cs : List Char) : Nat := skip cs.length cs

theorem length_le (cs : List Char) : length cs ≤ cs.length := skip_le _ _

theorem skip_eq_length {size : Nat} (h : cs.length ≤ size) : skip size cs = length cs :=
  skip_bound h (Nat.le_refl _)

end Layout

/-! ## Readings -/

/-- What matching gives: trees and the place where the match ended, or nothing. -/
inductive Reading where
  | done (trees : List Tree) (rest : Cursor)
  | failed

namespace Reading

def after (ts : List Tree) : Reading → Reading
  | done us c => done (ts ++ us) c
  | failed => failed

/-- A rule makes one node of what it read, and none of nothing. -/
def under (name : String) : Reading → Reading
  | done [] c => done [] c
  | done ts c => done [.node name ts] c
  | failed => failed

/-- An alternative that read nothing has failed. -/
def chosen : Reading → Reading
  | done [] _ => failed
  | m => m

end Reading

def Match.reading? : Match → Option Reading
  | done ts c _ => some (.done ts c)
  | failed _ => some .failed
  | exhausted => none

def Cursor.settle (c : Cursor) : Cursor := c.advance (Layout.length c.rest)

def Terminal.read (name : String) (t : Terminal) (c : Cursor) : Reading :=
  match t.length? c.settle.rest with
  | some n =>
    .done [.leaf (t.label name) (String.ofList (c.settle.rest.take n)) c.settle.pos]
      (c.settle.advance n)
  | none => .failed

/-- An expression matches at a place with a reading. -/
inductive Matches : Peg → Cursor → Reading → Prop
  | terminal (t : Terminal) (c : Cursor) : Matches (.terminal t) c (t.read "" c)
  | token {r : Rule} {t : Terminal} (hb : r.body = .terminal t) (c : Cursor) :
      Matches (.rule r) c (t.read r.name c)
  | rule {r : Rule} (hb : ∀ t, r.body ≠ .terminal t) {c : Cursor} {m : Reading}
      (h : Matches r.body c m) : Matches (.rule r) c (m.under r.name)
  | seq {a b : Peg} {c c' : Cursor} {ts : List Tree} {m : Reading}
      (ha : Matches a c (.done ts c')) (hb : Matches b c' m) : Matches (.seq a b) c (m.after ts)
  | seqFailed {a b : Peg} {c : Cursor} (ha : Matches a c .failed) : Matches (.seq a b) c .failed
  | first {a b : Peg} {c c' : Cursor} {ts : List Tree} (ha : Matches a c (.done ts c'))
      (hts : ts ≠ []) : Matches (.alt a b) c (.done ts c')
  | second {a b : Peg} {c : Cursor} {m m' : Reading} (ha : Matches a c m)
      (hm : m.chosen = .failed) (hb : Matches b c m') : Matches (.alt a b) c m'.chosen
  | more {a : Peg} {c c' : Cursor} {ts : List Tree} {m : Reading}
      (ha : Matches a c (.done ts c')) (hts : ts ≠ []) (hr : Matches (.many a) c' m) :
      Matches (.many a) c (m.after ts)
  | still {a : Peg} {c c' : Cursor} (ha : Matches a c (.done [] c')) :
      Matches (.many a) c (.done [] c')
  | stop {a : Peg} {c : Cursor} (ha : Matches a c .failed) : Matches (.many a) c (.done [] c)
  | present {a : Peg} {c c' : Cursor} {ts : List Tree} (ha : Matches a c (.done ts c')) :
      Matches (.opt a) c (.done ts c')
  | absent {a : Peg} {c : Cursor} (ha : Matches a c .failed) : Matches (.opt a) c (.done [] c)

namespace Cursor

theorem rest_settle_le (c : Cursor) : c.settle.rest.length ≤ c.rest.length := by
  simp [settle, advance]

theorem rest_advance_le (n : Nat) (c : Cursor) : (c.advance n).rest.length ≤ c.rest.length := by
  simp [advance]

end Cursor

namespace Reading

variable {m : Reading} {us : List Tree}

theorem after_eq_done (h : m.after ts = .done us c) : ∃ vs, m = .done vs c ∧ us = ts ++ vs := by
  cases m with
  | failed => cases h
  | done vs d =>
    cases h
    exact ⟨vs, rfl, rfl⟩

theorem under_eq_done {name : String} (h : m.under name = .done us c) :
    m = .done [] c ∧ us = [] ∨ ∃ vs, m = .done vs c ∧ vs ≠ [] ∧ us = [.node name vs] := by
  cases m with
  | failed => cases h
  | done vs d =>
    cases vs with
    | nil =>
      cases h
      exact .inl ⟨rfl, rfl⟩
    | cons v vs =>
      cases h
      exact .inr ⟨v :: vs, rfl, List.cons_ne_nil v vs, rfl⟩

theorem chosen_eq_done (h : m.chosen = .done us c) : m = .done us c ∧ us ≠ [] := by
  cases m with
  | failed => cases h
  | done vs d =>
    cases vs with
    | nil => cases h
    | cons v vs =>
      cases h
      exact ⟨rfl, List.cons_ne_nil v vs⟩

theorem chosen_done (h : ts ≠ []) : (done ts c).chosen = .done ts c := by
  cases ts with
  | nil => exact absurd rfl h
  | cons => rfl

end Reading

theorem Terminal.read_eq_done {name : String} {t : Terminal}
    (h : t.read name c = .done ts c') : ∃ n, t.length? c.settle.rest = some n ∧
      ts = [.leaf (t.label name) (String.ofList (c.settle.rest.take n)) c.settle.pos] ∧
      c' = c.settle.advance n := by
  unfold read at h
  split at h
  · rename_i n hn
    cases h
    exact ⟨n, hn, rfl, rfl⟩
  · cases h

/-- Every terminal and every rule in an expression is one of the given ones. -/
def Peg.Within (ts : Terminal → Prop) (rs : Rule → Prop) : Peg → Prop
  | terminal t => ts t
  | rule r => rs r
  | seq a b | alt a b => a.Within ts rs ∧ b.Within ts rs
  | many a | opt a => a.Within ts rs

theorem Peg.within_all (p : Peg) : p.Within (fun _ => True) fun _ => True := by
  induction p with
  | terminal | rule => trivial
  | seq _ _ iha ihb | alt _ _ iha ihb => exact ⟨iha, ihb⟩
  | many _ ih | opt _ ih => exact ih

/-- What holds of the terminals of a part of the grammar and lasts when trees are put
together holds of all that is read in that part. -/
theorem Matches.induct_within {Q : Cursor → List Tree → Cursor → Prop} {T : Terminal → Prop}
    {R : Rule → Prop} (closed : ∀ r, R r → r.body.Within T R) (nothing : ∀ c, Q c [] c)
    (leaf : ∀ (t : Terminal) (c : Cursor) (name : String) (n : Nat), T t →
      t.length? c.settle.rest = some n →
      Q c [.leaf name (String.ofList (c.settle.rest.take n)) c.settle.pos] (c.settle.advance n))
    (node : ∀ name c ts c', Q c ts c' → Q c [.node name ts] c')
    (append : ∀ c ts c' us c'', Q c ts c' → Q c' us c'' → Q c (ts ++ us) c'') (hp : p.Within T R)
    (h : Matches p c (.done ts c')) : Q c ts c' := by
  generalize hm : Reading.done ts c' = m at h
  replace hm := hm.symm
  induction h generalizing ts c' with
  | terminal t c =>
    obtain ⟨n, hn, rfl, rfl⟩ := Terminal.read_eq_done hm
    exact leaf t c _ n hp hn
  | @token r t hb c =>
    obtain ⟨n, hn, rfl, rfl⟩ := Terminal.read_eq_done hm
    have ht := closed r hp
    rw [hb] at ht
    exact leaf t c _ n ht hn
  | @rule r _ _ _ _ ih =>
    replace ih : ∀ {us d}, _ = Reading.done us d → Q _ us d := ih (closed r hp)
    obtain ⟨rfl, rfl⟩ | ⟨vs, rfl, _, rfl⟩ := Reading.under_eq_done hm
    · exact ih rfl
    · exact node r.name _ vs _ (ih rfl)
  | seq _ _ iha ihb =>
    obtain ⟨vs, rfl, rfl⟩ := Reading.after_eq_done hm
    exact append _ _ _ _ _ (iha hp.1 rfl) (ihb hp.2 rfl)
  | seqFailed => cases hm
  | first _ _ ih =>
    cases hm
    exact ih hp.1 rfl
  | still _ ih | present _ ih =>
    cases hm
    exact ih hp rfl
  | second _ _ _ _ ih => exact ih hp.2 (Reading.chosen_eq_done hm).1
  | more _ _ _ iha ihr =>
    obtain ⟨vs, rfl, rfl⟩ := Reading.after_eq_done hm
    exact append _ _ _ _ _ (iha hp rfl) (ihr hp rfl)
  | stop | absent =>
    cases hm
    exact nothing _

/-- What holds of every terminal and lasts when trees are put together holds of all
that is read. -/
theorem Matches.induct {Q : Cursor → List Tree → Cursor → Prop} (nothing : ∀ c, Q c [] c)
    (leaf : ∀ (t : Terminal) (c : Cursor) (name : String) (n : Nat),
      t.length? c.settle.rest = some n →
      Q c [.leaf name (String.ofList (c.settle.rest.take n)) c.settle.pos] (c.settle.advance n))
    (node : ∀ name c ts c', Q c ts c' → Q c [.node name ts] c')
    (append : ∀ c ts c' us c'', Q c ts c' → Q c' us c'' → Q c (ts ++ us) c'')
    (h : Matches p c (.done ts c')) : Q c ts c' :=
  h.induct_within (fun r _ => r.body.within_all) nothing (fun t c name n _ => leaf t c name n) node
    append p.within_all

theorem Matches.rest_le (h : Matches p c (.done ts c')) : c'.rest.length ≤ c.rest.length :=
  h.induct (Q := fun c _ c' => c'.rest.length ≤ c.rest.length) (fun _ => Nat.le_refl _)
    (fun _ c _ n _ => Nat.le_trans (c.settle.rest_advance_le n) c.rest_settle_le)
    (fun _ _ _ _ h => h) (fun _ _ _ _ _ h h' => Nat.le_trans h' h)

/-! ## Runs -/

theorem Terminal.run_reading? (t : Terminal) {size : Nat} (hs : c.rest.length ≤ size)
    (name : String) (far : Nat) : (t.run size name c far).reading? = some (t.read name c) := by
  unfold Terminal.run Terminal.read Cursor.settle
  rw [Layout.skip_eq_length hs]
  dsimp only
  cases t.length? (c.advance (Layout.length c.rest)).rest <;> rfl

/-- A run that is not cut short reads what there is to read. -/
theorem Peg.run_sound {size fuel : Nat} {far : Nat} {m : Reading}
    (hs : c.rest.length ≤ size) (h : (p.run size fuel c far).reading? = some m) :
    Matches p c m := by
  induction fuel generalizing p c far m with
  | zero => cases h
  | succ fuel ih =>
    have part : ∀ {q : Peg} {c : Cursor} {far : Nat} {x : Match} {m : Reading},
        c.rest.length ≤ size → q.run size fuel c far = x → x.reading? = some m → Matches q c m :=
      fun hs hx hm => ih hs (hx ▸ hm)
    cases p with
    | terminal t =>
      rw [Peg.run, t.run_reading? hs] at h
      cases h
      exact .terminal t c
    | rule r =>
      rw [Peg.run] at h
      split at h
      · rename_i t hb
        rw [t.run_reading? hs] at h
        cases h
        exact .token hb c
      · rename_i hb
        generalize hx : r.body.run size fuel c far = x at h
        cases x with
        | exhausted => cases h
        | failed =>
          cases h
          exact .rule hb (part hs hx rfl)
        | done ts c' far' =>
          have hbody := Matches.rule hb (part hs hx rfl)
          cases ts <;> cases h <;> exact hbody
    | seq a b =>
      rw [Peg.run] at h
      generalize hx : a.run size fuel c far = x at h
      cases x with
      | exhausted => cases h
      | failed =>
        cases h
        exact .seqFailed (part hs hx rfl)
      | done ts c' far' =>
        have ha := part hs hx rfl
        have hs' := Nat.le_trans ha.rest_le hs
        dsimp only at h
        generalize hy : b.run size fuel c' far' = y at h
        cases y with
        | exhausted => cases h
        | failed | done =>
          cases h
          exact .seq ha (part hs' hy rfl)
    | alt a b =>
      rw [Peg.run] at h
      -- The second alternative, after the first has read nothing.
      have other : ∀ {far' : Nat} {x : Reading}, Matches a c x → x.chosen = .failed →
          (b.run size fuel c far').chosen.reading? = some m → Matches (.alt a b) c m := by
        intro far' x ha hx h
        generalize hy : b.run size fuel c far' = y at h
        cases y with
        | exhausted => cases h
        | failed =>
          cases h
          exact .second ha hx (part hs hy rfl)
        | done us c'' far'' =>
          have hb := Matches.second ha hx (part hs hy rfl)
          cases us <;> cases h <;> exact hb
      generalize hx : a.run size fuel c far = x at h
      cases x with
      | exhausted => cases h
      | failed =>
        exact other (part hs hx rfl) rfl h
      | done ts c' far' =>
        cases ts with
        | nil => exact other (part hs hx rfl) rfl h
        | cons t ts =>
          cases h
          exact .first (part hs hx rfl) (List.cons_ne_nil t ts)
    | many a =>
      rw [Peg.run] at h
      generalize hx : a.run size fuel c far = x at h
      cases x with
      | exhausted => cases h
      | failed =>
        cases h
        exact .stop (part hs hx rfl)
      | done ts c' far' =>
        have ha := part hs hx rfl
        have hs' := Nat.le_trans ha.rest_le hs
        cases ts with
        | nil =>
          cases h
          exact .still ha
        | cons t ts =>
          dsimp only at h
          generalize hy : (Peg.many a).run size fuel c' far' = y at h
          cases y with
          | exhausted => cases h
          | failed | done =>
            cases h
            exact .more ha (List.cons_ne_nil t ts) (part hs' hy rfl)
    | opt a =>
      rw [Peg.run] at h
      generalize hx : a.run size fuel c far = x at h
      cases x with
      | exhausted => cases h
      | failed =>
        cases h
        exact .absent (part hs hx rfl)
      | done =>
        cases h
        exact .present (part hs hx rfl)

theorem Matches.unique {m m' : Reading} (h : Matches p c m) (h' : Matches p c m') : m = m' := by
  induction h generalizing m' with
  | terminal =>
    cases h'
    rfl
  | token hb =>
    cases h' with
    | token hb' =>
      rw [hb] at hb'
      cases hb'
      rfl
    | rule hb' => exact absurd hb (hb' _)
  | rule hb _ ih =>
    cases h' with
    | token hb' => exact absurd hb' (hb _)
    | rule _ h => rw [ih h]
  | seq _ _ iha ihb =>
    cases h' with
    | seq ha hb =>
      cases iha ha
      rw [ihb hb]
    | seqFailed ha => cases iha ha
  | seqFailed _ ih =>
    cases h' with
    | seq ha hb => cases ih ha
    | seqFailed ha => rfl
  | first _ hts ih =>
    cases h' with
    | first ha _ =>
      cases ih ha
      rfl
    | second ha hm _ =>
      cases ih ha
      rw [Reading.chosen_done hts] at hm
      cases hm
  | second _ hm _ iha ihb =>
    cases h' with
    | first ha hts =>
      cases iha ha
      rw [Reading.chosen_done hts] at hm
      cases hm
    | second _ _ hb => rw [ihb hb]
  | more _ hts _ iha ihr =>
    cases h' with
    | more ha _ hr =>
      cases iha ha
      rw [ihr hr]
    | still ha =>
      cases iha ha
      exact absurd rfl hts
    | stop ha => cases iha ha
  | still _ ih =>
    cases h' with
    | more ha hts _ =>
      cases ih ha
      exact absurd rfl hts
    | still ha =>
      cases ih ha
      rfl
    | stop ha => cases ih ha
  | stop _ ih =>
    cases h' with
    | more ha | still ha => cases ih ha
    | stop ha => rfl
  | present _ ih =>
    cases h' with
    | present ha =>
      cases ih ha
      rfl
    | absent ha => cases ih ha
  | absent _ ih =>
    cases h' with
    | present ha => cases ih ha
    | absent ha => rfl

end Scad
