import Mathlib.Data.List.Forall2
import Scad.Proofs.Parsing.Lookahead

/-!
The shapes of parse trees. What an expression of the grammar reads are trees that it
derives, whatever the text is. A rule gives one node with the trees of its right side,
or no node if there are none, so that an empty part of a rule leaves no trace.
-/

namespace Scad

variable {p : Peg} {ts : List Tree}

/-- Trees that an expression can give. -/
inductive Derives : Peg → List Tree → Prop
  | terminal (t : Terminal) (s : String) (p : Nat) :
      Derives (.terminal t) [.leaf (t.label "") s p]
  | token {r : Rule} {t : Terminal} (hb : r.body = .terminal t) (s : String) (p : Nat) :
      Derives (.rule r) [.leaf (t.label r.name) s p]
  | rule {r : Rule} (hb : r.isToken = false) {ts : List Tree} (hts : ts ≠ [])
      (h : Derives r.body ts) : Derives (.rule r) [.node r.name ts]
  | void {r : Rule} (hb : r.isToken = false) (h : Derives r.body []) : Derives (.rule r) []
  | seq {a b : Peg} {ts us : List Tree} (ha : Derives a ts) (hb : Derives b us) :
      Derives (.seq a b) (ts ++ us)
  | first {a b : Peg} {ts : List Tree} (h : Derives a ts) (hts : ts ≠ []) : Derives (.alt a b) ts
  | second {a b : Peg} {ts : List Tree} (h : Derives b ts) (hts : ts ≠ []) : Derives (.alt a b) ts
  | none {a : Peg} : Derives (.many a) []
  | more {a : Peg} {ts us : List Tree} (ha : Derives a ts) (hts : ts ≠ [])
      (hr : Derives (.many a) us) : Derives (.many a) (ts ++ us)
  | absent {a : Peg} : Derives (.opt a) []
  | present {a : Peg} {ts : List Tree} (h : Derives a ts) : Derives (.opt a) ts

theorem Matches.derives {c c' : Cursor} (h : Matches p c (.done ts c')) : Derives p ts := by
  generalize hm : Reading.done ts c' = m at h
  replace hm := hm.symm
  induction h generalizing ts c' with
  | terminal t c =>
    obtain ⟨n, -, rfl, -⟩ := Terminal.read_eq_done hm
    exact .terminal t _ _
  | @token r t hb c =>
    obtain ⟨n, -, rfl, -⟩ := Terminal.read_eq_done hm
    exact .token hb _ _
  | @rule r hb _ _ _ ih =>
    have htok : r.isToken = false := by
      cases hbody : r.body <;> simp_all [Rule.isToken]
    obtain ⟨rfl, rfl⟩ | ⟨vs, rfl, hvs, rfl⟩ := Reading.under_eq_done hm
    · exact .void htok (ih rfl)
    · exact .rule htok hvs (ih rfl)
  | seq _ _ iha ihb =>
    obtain ⟨vs, rfl, rfl⟩ := Reading.after_eq_done hm
    exact .seq (iha rfl) (ihb rfl)
  | seqFailed => cases hm
  | first _ hts ih =>
    cases hm
    exact .first (ih rfl) hts
  | second _ _ _ _ ih =>
    obtain ⟨hm, hts⟩ := Reading.chosen_eq_done hm
    exact .second (ih hm) hts
  | more _ hts _ iha ihr =>
    obtain ⟨vs, rfl, rfl⟩ := Reading.after_eq_done hm
    exact .more (iha rfl) hts (ihr rfl)
  | still | stop =>
    cases hm
    exact .none
  | present _ ih =>
    cases hm
    exact .present (ih rfl)
  | absent =>
    cases hm
    exact .absent

section

variable {a b : Peg} {r : Rule}

theorem derives_terminal {t : Terminal} :
    Derives (.terminal t) ts ↔ ∃ s p, ts = [.leaf (t.label "") s p] := by
  constructor
  · rintro ⟨⟩
    exact ⟨_, _, rfl⟩
  · rintro ⟨s, p, rfl⟩
    exact .terminal t s p

theorem derives_seq :
    Derives (.seq a b) ts ↔ ∃ us vs, Derives a us ∧ Derives b vs ∧ ts = us ++ vs := by
  constructor
  · rintro ⟨⟩
    exact ⟨_, _, ‹_›, ‹_›, rfl⟩
  · rintro ⟨us, vs, ha, hb, rfl⟩
    exact .seq ha hb

theorem derives_alt : Derives (.alt a b) ts ↔ ts ≠ [] ∧ (Derives a ts ∨ Derives b ts) := by
  constructor
  · intro h
    cases h with
    | first h hts => exact ⟨hts, .inl h⟩
    | second h hts => exact ⟨hts, .inr h⟩
  · rintro ⟨hts, h | h⟩
    · exact .first h hts
    · exact .second h hts

theorem derives_opt : Derives (.opt a) ts ↔ ts = [] ∨ Derives a ts := by
  constructor
  · intro h
    cases h with
    | absent => exact .inl rfl
    | present h => exact .inr h
  · rintro (rfl | h)
    · exact .absent
    · exact .present h

end

def Tree.Is (r : Rule) (t : Tree) : Prop := Derives (.rule r) [t]

namespace Derives

variable {a b : Peg} {us : List Tree} {r r' : Rule} {t : Tree}

theorem is (h : Derives (.rule r) ts) : ts = [] ∨ ∃ t, ts = [t] ∧ t.Is r := by
  cases h with
  | token hb s p => exact .inr ⟨_, rfl, .token hb s p⟩
  | rule hb hts h => exact .inr ⟨_, rfl, .rule hb hts h⟩
  | void => exact .inl rfl

theorem ne_nil (he : a.mayBeEmpty = false) (h : Derives a ts) : ts ≠ [] := by
  induction h with
  | terminal | token | rule => exact List.cons_ne_nil _ _
  | @void r _ _ ih =>
    rw [Peg.mayBeEmpty, ← r.body_mayBeEmpty] at he
    exact absurd rfl (ih he)
  | seq _ _ iha ihb =>
    rcases Bool.and_eq_false_iff.1 he with he | he
    · exact fun h => iha he (List.append_eq_nil_iff.1 h).1
    · exact fun h => ihb he (List.append_eq_nil_iff.1 h).2
  | first _ hts | second _ hts => exact hts
  | none | more | absent | present => cases he

theorem one (he : (Peg.rule r).mayBeEmpty = false) (h : Derives (.rule r) ts) :
    ∃ t, ts = [t] ∧ t.Is r :=
  h.is.resolve_left (h.ne_nil he)

theorem forall_many {P : Tree → Prop} (ha : ∀ us, Derives a us → ∀ t ∈ us, P t)
    (h : Derives (.many a) ts) : ∀ t ∈ ts, P t := by
  generalize hp : Peg.many a = p at h
  induction h with
  | none => exact fun t ht => by cases ht
  | more h _ _ _ ih =>
    cases hp
    intro t ht
    rcases List.mem_append.1 ht with ht | ht
    · exact ha _ h t ht
    · exact ih rfl t ht
  | _ => cases hp

end Derives

/-- Items with dividers between them. -/
inductive Row (item divider : Tree → Prop) : List Tree → Prop
  | single {t : Tree} (ht : item t) : Row item divider [t]
  | cons {t d : Tree} {ts : List Tree} (ht : item t) (hd : divider d) (h : Row item divider ts) :
      Row item divider (t :: d :: ts)

theorem Derives.row {item divider : Peg} {P D : Tree → Prop}
    (hitem : ∀ us, Derives item us → ∃ t, us = [t] ∧ P t)
    (hdiv : ∀ us, Derives divider us → ∃ t, us = [t] ∧ D t)
    (h : Derives (.separated item divider) ts) : Row P D ts := by
  obtain ⟨us, vs, hu, hv, rfl⟩ := derives_seq.1 h
  obtain ⟨t, rfl, ht⟩ := hitem us hu
  clear h hu
  generalize hp : Peg.many (.seq divider item) = p at hv
  induction hv generalizing t with
  | none => exact .single ht
  | more h _ _ _ ih =>
    cases hp
    obtain ⟨ds, is, hds, his, rfl⟩ := derives_seq.1 h
    obtain ⟨d, rfl, hd⟩ := hdiv ds hds
    obtain ⟨t', rfl, ht'⟩ := hitem is his
    exact .cons ht hd (ih t' ht' rfl)
  | _ => cases hp

namespace Tree.Is

variable {r : Rule} {t : Tree}

theorem node (h : t.Is r) (hb : r.isToken = false) :
    ∃ us, t = .node r.name us ∧ us ≠ [] ∧ Derives r.body us := by
  cases h with
  | token ht =>
    rw [Rule.isToken, ht] at hb
    cases hb
  | rule _ hne h => exact ⟨_, rfl, hne, h⟩

theorem rule_eq (h : t.Is r) (hb : r.isToken = false) : t.rule = r.name := by
  obtain ⟨us, rfl, -, -⟩ := h.node hb
  rfl

theorem leaf {text : Terminal} (h : t.Is r) (hb : r.body = .terminal text) :
    ∃ s p, t = .leaf (text.label r.name) s p := by
  cases h with
  | token ht s p =>
    rw [hb] at ht
    cases ht
    exact ⟨s, p, rfl⟩
  | rule hr =>
    rw [Rule.isToken, hb] at hr
    cases hr

end Tree.Is

/-- The rules that an expression chooses from, if it is a choice among rules. -/
def Peg.choices? : Peg → Option (List Rule)
  | rule r => if r.mayBeEmpty then none else some [r]
  | alt a b =>
    match a.choices?, b.choices? with
    | some rs, some rs' => some (rs ++ rs')
    | _, _ => none
  | _ => none

theorem Derives.choice_mem {rs : List Rule} (hc : p.choices? = some rs)
    (h : Derives p ts) : ∃ t, ts = [t] ∧ ∃ r ∈ rs, t.Is r := by
  induction p generalizing rs ts with
  | rule r =>
    simp only [Peg.choices?] at hc
    split at hc
    · cases hc
    · rename_i he
      cases hc
      obtain ⟨t, rfl, ht⟩ := h.one (Bool.eq_false_iff.2 he)
      exact ⟨t, rfl, r, List.mem_singleton.2 rfl, ht⟩
  | alt a b iha ihb =>
    simp only [Peg.choices?] at hc
    split at hc
    · rename_i rs1 rs2 h1 h2
      cases hc
      rcases (derives_alt.1 h).2 with h | h
      · obtain ⟨t, ht, r, hr, hi⟩ := iha h1 h
        exact ⟨t, ht, r, List.mem_append_left _ hr, hi⟩
      · obtain ⟨t, ht, r, hr, hi⟩ := ihb h2 h
        exact ⟨t, ht, r, List.mem_append_right _ hr, hi⟩
    · cases hc
  | terminal | seq | many | opt => cases hc

/-- A tree of one of several rules. -/
def Tree.IsAny (t : Tree) : List Rule → Prop
  | [] => False
  | [r] => t.Is r
  | r :: rs => t.Is r ∨ t.IsAny rs

theorem Tree.Is.isAny {r : Rule} {t : Tree} (h : t.Is r) {rs : List Rule} (hr : r ∈ rs) :
    t.IsAny rs := by
  induction rs with
  | nil => cases hr
  | cons q rs ih =>
    cases rs with
    | nil => exact List.mem_singleton.1 hr ▸ h
    | cons =>
      rcases List.mem_cons.1 hr with rfl | hr
      · exact .inl h
      · exact .inr (ih hr)

theorem Derives.choice {rs : List Rule} (hc : p.choices? = some rs) (h : Derives p ts) :
    ∃ t, ts = [t] ∧ t.IsAny rs := by
  obtain ⟨t, rfl, r, hr, ht⟩ := h.choice_mem hc
  exact ⟨t, rfl, ht.isAny hr⟩

theorem Tree.Is.choice {r : Rule} {t : Tree} {rs : List Rule} (h : t.Is r)
    (hb : r.isToken = false) (hc : r.body.choices? = some rs) :
    ∃ x, t = .node r.name [x] ∧ x.IsAny rs := by
  obtain ⟨us, rfl, -, hd⟩ := h.node hb
  obtain ⟨x, rfl, hx⟩ := hd.choice hc
  exact ⟨x, rfl, hx⟩

/-- Expressions that give exactly one tree: terminals, rules that cannot be empty, and choices
among such. -/
def Peg.isOne : Peg → Bool
  | terminal _ => true
  | rule r => !r.mayBeEmpty
  | alt a b => a.isOne && b.isOne
  | _ => false

theorem Derives.single (h : Derives p ts) (hp : p.isOne = true) :
    ∃ t, ts = [t] ∧ Derives p [t] := by
  induction p with
  | terminal t =>
    obtain ⟨s, n, rfl⟩ := derives_terminal.1 h
    exact ⟨_, rfl, h⟩
  | rule r => exact h.one (Bool.not_eq_true' _ ▸ hp)
  | alt a b iha ihb =>
    obtain ⟨ha, hb⟩ := Bool.and_eq_true_iff.1 hp
    rcases (derives_alt.1 h).2 with h' | h'
    · obtain ⟨t, rfl, -⟩ := iha h' ha
      exact ⟨t, rfl, h⟩
    · obtain ⟨t, rfl, -⟩ := ihb h' hb
      exact ⟨t, rfl, h⟩
  | seq | many | opt => cases hp

theorem Derives.cons {a b : Peg} (h : Derives (.seq a b) ts)
    (ha : a.isOne = true) : ∃ t us, ts = t :: us ∧ Derives a [t] ∧ Derives b us := by
  obtain ⟨us, vs, hu, hv, rfl⟩ := derives_seq.1 h
  obtain ⟨t, rfl, ht⟩ := hu.single ha
  exact ⟨t, vs, rfl, ht, hv⟩

/-- The rows of children that an expression without repetitions gives, with the rules of those
that are not terminals. -/
def Peg.rows? : Peg → Option (List (List (Option Rule)))
  | terminal _ => some [[none]]
  | rule r => some (if r.mayBeEmpty then [[], [some r]] else [[some r]])
  | seq a b =>
    a.rows?.bind fun rows => b.rows?.map fun rows' => rows.flatMap fun row => rows'.map (row ++ ·)
  | alt a b => a.rows?.bind fun rows => b.rows?.map (rows ++ ·)
  | many _ => none
  | opt a => a.rows?.map ([] :: ·)

theorem Derives.fits_row {rows : List (List (Option Rule))} (h : Derives p ts)
    (hr : p.rows? = some rows) :
    ∃ row ∈ rows, List.Forall₂ (fun o t => ∀ r ∈ o, t.Is r) row ts := by
  induction p generalizing ts rows with
  | terminal t =>
    cases hr
    obtain ⟨s, n, rfl⟩ := derives_terminal.1 h
    exact ⟨_, List.mem_singleton_self _, .cons (fun _ h => by cases h) .nil⟩
  | rule r =>
    cases hr
    rcases h.is with rfl | ⟨t, rfl, ht⟩
    · refine ⟨[], ?_, .nil⟩
      by_cases he : r.mayBeEmpty = true
      · simp [he]
      · exact absurd rfl (h.ne_nil (a := .rule r) (Bool.eq_false_iff.2 he))
    · refine ⟨[some r], by split <;> simp, .cons (fun _ h => ?_) .nil⟩
      cases h
      exact ht
  | seq a b iha ihb =>
    obtain ⟨rows1, h1, hr⟩ := Option.bind_eq_some_iff.1 hr
    obtain ⟨rows2, h2, rfl⟩ := Option.map_eq_some_iff.1 hr
    obtain ⟨us, vs, ha, hb, rfl⟩ := derives_seq.1 h
    obtain ⟨x, hx, hxu⟩ := iha ha h1
    obtain ⟨y, hy, hyv⟩ := ihb hb h2
    exact ⟨x ++ y, List.mem_flatMap.2 ⟨x, hx, List.mem_map_of_mem hy⟩, List.rel_append hxu hyv⟩
  | alt a b iha ihb =>
    obtain ⟨rows1, h1, hr⟩ := Option.bind_eq_some_iff.1 hr
    obtain ⟨rows2, h2, rfl⟩ := Option.map_eq_some_iff.1 hr
    rcases (derives_alt.1 h).2 with h | h
    · exact (iha h h1).imp fun x => And.imp_left (List.mem_append_left _)
    · exact (ihb h h2).imp fun x => And.imp_left (List.mem_append_right _)
  | many a => cases hr
  | opt a ih =>
    obtain ⟨rows1, h1, rfl⟩ := Option.map_eq_some_iff.1 hr
    rcases derives_opt.1 h with rfl | h
    · exact ⟨[], List.mem_cons_self, .nil⟩
    · exact (ih h h1).imp fun x => And.imp_left (List.mem_cons_of_mem _)

end Scad
