import Scad.Proofs.Parsing.Pieces

/-!
Readings at two places side by side. If every terminal reads alike at related places
and goes on to related places, then so does every expression, with all the
alternatives that it tries and gives up. Two such relations matter: the same text at
another place, and the same text with other layout at one point.
-/

namespace Scad

open Layout Cursor

variable {c d : Cursor} {g g' u : List Char} {p : Peg}

/-! ## Readings side by side -/

/-- A relation between trees that is kept when trees are put together. -/
structure Congruent (T : List Tree → List Tree → Prop) : Prop where
  nil : T [] []
  nil_iff : ∀ {ts us}, T ts us → (ts = [] ↔ us = [])
  node : ∀ {ts us} name, T ts us → T [.node name ts] [.node name us]
  append : ∀ {ts us ts' us'}, T ts us → T ts' us' → T (ts ++ ts') (us ++ us')

/-- Both readings fail, or both end, with related trees and at related places. -/
inductive Reading.Both (R : Cursor → Cursor → Prop) (T : List Tree → List Tree → Prop) :
    Reading → Reading → Prop
  | done {ts us : List Tree} {c d : Cursor} (ht : T ts us) (hr : R c d) :
      Both R T (.done ts c) (.done us d)
  | failed : Both R T .failed .failed

namespace Reading.Both

variable {R : Cursor → Cursor → Prop} {T : List Tree → List Tree → Prop} {m m' : Reading}
  {ts us : List Tree}

section

variable (hT : Congruent T) (h : Both R T m m')

include hT h

theorem after (ht : T ts us) : Both R T (m.after ts) (m'.after us) := by
  cases h with
  | done ht' hr => exact .done (hT.append ht ht') hr
  | failed => exact .failed

theorem under (name : String) : Both R T (m.under name) (m'.under name) := by
  cases h with
  | failed => exact .failed
  | @done ts us c d ht hr =>
    have hn := hT.nil_iff ht
    cases ts with
    | nil =>
      rw [hn.1 rfl]
      exact .done hT.nil hr
    | cons =>
      cases us with
      | nil => cases hn.2 rfl
      | cons => exact .done (hT.node name ht) hr

theorem chosen : Both R T m.chosen m'.chosen := by
  cases h with
  | failed => exact .failed
  | @done ts us c d ht hr =>
    have hn := hT.nil_iff ht
    cases ts with
    | nil =>
      rw [hn.1 rfl]
      exact .failed
    | cons =>
      cases us with
      | nil => cases hn.2 rfl
      | cons => exact .done ht hr

end

end Reading.Both

/-- A number that goes along with a reading, from each part of an expression to the next. -/
structure Tracks (D : Peg → Nat → Nat → Prop) : Prop where
  rule : ∀ {r k k'}, D (.rule r) k k' → D r.body k k'
  seq : ∀ {a b k k'}, D (.seq a b) k k' → ∃ k1, D a k k1 ∧ D b k1 k'
  alt : ∀ {a b k k'}, D (.alt a b) k k' → D a k k' ∧ D b k k'
  many : ∀ {a k k'}, D (.many a) k k' → D a k k ∧ k' = k
  opt : ∀ {a k k'}, D (.opt a) k k' → D a k k ∧ k' = k

/-- What every terminal does at related places, every expression does. -/
theorem Matches.both_of_tracks {R : Nat → Cursor → Cursor → Prop}
    {T : List Tree → List Tree → Prop} (hT : Congruent T) {D : Peg → Nat → Nat → Prop}
    (hD : Tracks D) (terminal : ∀ (t : Terminal) (name : String) {c d : Cursor} {k k' : Nat},
      D (.terminal t) k k' → R k c d → Reading.Both (R k') T (t.read name c) (t.read name d))
    {k k' : Nat} (hp : D p k k') {m : Reading} (h : Matches p c m) (hr : R k c d) :
    ∃ m', Matches p d m' ∧ Reading.Both (R k') T m m' := by
  induction h generalizing d k k' with
  | terminal t c => exact ⟨_, .terminal t d, terminal t "" hp hr⟩
  | @token r t hb c => exact ⟨_, .token hb d, terminal t r.name (hb ▸ hD.rule hp) hr⟩
  | @rule r hb _ _ _ ih =>
    obtain ⟨m', hm', hb'⟩ := ih (hD.rule hp) hr
    exact ⟨_, .rule hb hm', hb'.under hT r.name⟩
  | seq _ _ iha ihb =>
    obtain ⟨k1, hpa, hpb⟩ := hD.seq hp
    obtain ⟨_, ha', hta⟩ := iha hpa hr
    cases hta with
    | done ht hr' =>
      obtain ⟨m', hb', htb⟩ := ihb hpb hr'
      exact ⟨_, .seq ha' hb', htb.after hT ht⟩
  | seqFailed _ ih =>
    obtain ⟨k1, hpa, -⟩ := hD.seq hp
    obtain ⟨_, ha', hta⟩ := ih hpa hr
    cases hta
    exact ⟨_, .seqFailed ha', .failed⟩
  | first _ hts ih =>
    obtain ⟨_, ha', hta⟩ := ih (hD.alt hp).1 hr
    cases hta with
    | done ht hr' => exact ⟨_, .first ha' fun h => hts ((hT.nil_iff ht).2 h), .done ht hr'⟩
  | second _ hm _ iha ihb =>
    obtain ⟨_, ha', hta⟩ := iha (hD.alt hp).1 hr
    obtain ⟨_, hb', htb⟩ := ihb (hD.alt hp).2 hr
    refine ⟨_, .second ha' ?_ hb', htb.chosen hT⟩
    have := hta.chosen hT
    rw [hm] at this
    generalize Reading.chosen _ = x at this ⊢
    cases this
    rfl
  | more _ hts _ iha ihr =>
    obtain ⟨hpa, rfl⟩ := hD.many hp
    obtain ⟨_, ha', hta⟩ := iha hpa hr
    cases hta with
    | done ht hr' =>
      obtain ⟨m', hb', htb⟩ := ihr hp hr'
      exact ⟨_, .more ha' (fun h => hts ((hT.nil_iff ht).2 h)) hb', htb.after hT ht⟩
  | still _ ih =>
    obtain ⟨hpa, rfl⟩ := hD.many hp
    obtain ⟨_, ha', hta⟩ := ih hpa hr
    cases hta with
    | done ht hr' =>
      cases (hT.nil_iff ht).1 rfl
      exact ⟨_, .still ha', .done ht hr'⟩
  | stop _ ih =>
    obtain ⟨hpa, rfl⟩ := hD.many hp
    obtain ⟨_, ha', hta⟩ := ih hpa hr
    cases hta
    exact ⟨_, .stop ha', .done hT.nil hr⟩
  | present _ ih =>
    obtain ⟨hpa, rfl⟩ := hD.opt hp
    obtain ⟨_, ha', hta⟩ := ih hpa hr
    cases hta with
    | done ht hr' => exact ⟨_, .present ha', .done ht hr'⟩
  | absent _ ih =>
    obtain ⟨hpa, rfl⟩ := hD.opt hp
    obtain ⟨_, ha', hta⟩ := ih hpa hr
    cases hta
    exact ⟨_, .absent ha', .done hT.nil hr⟩

theorem Matches.both_of_terminals {R : Cursor → Cursor → Prop} {T : List Tree → List Tree → Prop}
    (hT : Congruent T) {S : Terminal → Prop} {Q : Rule → Prop}
    (closed : ∀ r, Q r → r.body.Within S Q)
    (terminal : ∀ (t : Terminal) (name : String) {c d : Cursor}, S t → R c d →
      Reading.Both R T (t.read name c) (t.read name d))
    (hp : p.Within S Q) {m : Reading} (h : Matches p c m) (hr : R c d) :
    ∃ m', Matches p d m' ∧ Reading.Both R T m m' := by
  have hD : Tracks fun p k k' => p.Within S Q ∧ k' = k := by
    constructor
    · exact fun h => ⟨closed _ h.1, h.2⟩
    · exact fun h => ⟨_, ⟨h.1.1, rfl⟩, h.1.2, h.2⟩
    · exact fun h => ⟨⟨h.1.1, h.2⟩, h.1.2, h.2⟩
    · exact fun h => ⟨⟨h.1, rfl⟩, h.2⟩
    · exact fun h => ⟨⟨h.1, rfl⟩, h.2⟩
  exact h.both_of_tracks (R := fun _ => R) hT hD (fun t name _ _ _ _ h => terminal t name h.1)
    (k := 0) ⟨hp, rfl⟩ hr

/-! ## The same text at another place -/

mutual

/-- The same tree further on in a text. -/
def Tree.shift (n : Nat) : Tree → Tree
  | leaf r s p => leaf r s (p + n)
  | node r ts => node r (shiftAll n ts)

def Tree.shiftAll (n : Nat) : List Tree → List Tree
  | [] => []
  | t :: ts => t.shift n :: shiftAll n ts

end

theorem Tree.shiftAll_append (n : Nat) (ts us : List Tree) :
    shiftAll n (ts ++ us) = shiftAll n ts ++ shiftAll n us := by
  induction ts with
  | nil => rfl
  | cons t ts ih => simp [shiftAll, ih]

theorem Tree.shiftAll_congruent (n : Nat) : Congruent fun ts us => us = shiftAll n ts where
  nil := rfl
  nil_iff := by
    rintro ts us rfl
    cases ts <;> simp [shiftAll]
  node := by
    rintro ts us name rfl
    rfl
  append := by
    rintro ts us ts' us' rfl rfl
    rw [shiftAll_append]

/-- A text that begins `n` characters later. -/
def Cursor.Later (n : Nat) (c d : Cursor) : Prop := d = ⟨c.pos + n, c.rest⟩

theorem Matches.later {m : Reading} (h : Matches p c m) (n : Nat) :
    ∃ m', Matches p ⟨c.pos + n, c.rest⟩ m' ∧
      Reading.Both (Cursor.Later n) (fun ts us => us = Tree.shiftAll n ts) m m' := by
  refine h.both_of_terminals (Tree.shiftAll_congruent n) (fun r _ => r.body.within_all)
    (fun t name c d _ hr => ?_) p.within_all rfl
  subst hr
  have hset : (mk (c.pos + n) c.rest).settle = ⟨c.settle.pos + n, c.settle.rest⟩ := by
    simp only [settle, advance, mk.injEq, and_true]
    omega
  unfold Terminal.read
  rw [hset]
  dsimp only
  cases t.length? c.settle.rest with
  | none => exact .failed
  | some k =>
    refine .done rfl ?_
    simp only [Cursor.Later, advance, mk.injEq, and_true]
    omega

/-! ## Other layout at one point -/

theorem Tree.outlineAll_append (ts us : List Tree) :
    outlineAll (ts ++ us) = outlineAll ts ++ outlineAll us := by
  induction ts with
  | nil => rfl
  | cons t ts ih => simp [outlineAll, ih]

theorem Tree.outlineAll_congruent : Congruent fun ts us => outlineAll ts = outlineAll us where
  nil := rfl
  nil_iff := by
    intro ts us h
    cases ts <;> cases us <;> simp_all [outlineAll]
  node := by
    intro ts us name h
    simp [outlineAll, outline, h]
  append := by
    intro ts us ts' us' h h'
    simp [outlineAll_append, h, h']

/-- White space and comments that begin with white space, whatever follows them. -/
structure Spacing (g : List Char) : Prop where
  gap : ∀ next, Gap g next
  blank : ∃ c ∈ g.head?, isBlank c = true

theorem Gap.settle (h : Gap g u) (hu : isInk u = true) (pos : Nat) :
    (mk pos (g ++ u)).settle = ⟨pos + g.length, u⟩ := by
  have hl : length (g ++ u) = g.length := by
    induction h with
    | nil => exact length_ink hu
    | blank hc _ ih => rw [List.cons_append, length_blank hc, ih hu, List.length_cons]
    | comment hc _ ih =>
      rw [List.append_assoc, length_comment hc.length, List.drop_left, ih hu,
        List.length_append]
  rw [Cursor.settle, hl, Cursor.advance, List.drop_left]

theorem Layout.isBlank_ne_wordy {c : Char} (h : isBlank c = true) : isWordy c = false := by
  simp only [isBlank, Bool.or_eq_true, beq_iff_eq] at h
  rcases h with ((rfl | rfl) | rfl) | rfl <;> rfl

theorem Gap.head (h : Gap g u) {c : Char} (hc : c ∈ g.head?) : isBlank c = true ∨ c = '/' := by
  cases h with
  | nil => cases hc
  | blank hb =>
    cases hc
    exact .inl hb
  | comment hy =>
    cases hy <;> cases hc <;> exact .inr rfl

theorem Gap.halts (h : Gap g u) (hg : g ≠ []) : Halts (g ++ u) := by
  intro c hc
  rw [List.head?_append_of_ne_nil g hg] at hc
  rcases h.head hc with hb | rfl
  · exact isBlank_ne_wordy hb
  · rfl

theorem Spacing.border (h : Spacing g) (x u : List Char) : Border x (g ++ u) := by
  obtain ⟨b, hb, hblank⟩ := h.blank
  have hg : g ≠ [] := by
    rintro rfl
    cases hb
  refine ⟨fun _ c hc => ?_, .inr ((h.gap u).halts hg)⟩
  rw [List.head?_append_of_ne_nil g hg] at hc
  cases Option.mem_unique hb hc
  constructor <;> rintro rfl <;> cases hblank

/-- Two places in texts that differ in one gap. Up to the gap the texts consist of pieces. -/
inductive Respaced (g g' u : List Char) : Cursor → Cursor → Prop
  | before {x : List Char} {k : Int} {pos pos' : Nat} (hx : Pieces x k) (hb : Border x (g ++ u)) :
      Respaced g g' u ⟨pos, x ++ (g ++ u)⟩ ⟨pos', x ++ (g' ++ u)⟩
  | here {pos pos' : Nat} : Respaced g g' u ⟨pos, g ++ u⟩ ⟨pos', g' ++ u⟩
  | behind {v : List Char} {pos pos' : Nat} : Respaced g g' u ⟨pos, v⟩ ⟨pos', v⟩

theorem Terminal.read_respaced (hg : Gap g u) (hu : isInk u = true) (hg' : Spacing g')
    {t : Terminal} (ht : t.isSound = true) (name : String) (hr : Respaced g g' u c d) :
    Reading.Both (Respaced g g' u) (fun ts us => Tree.outlineAll ts = Tree.outlineAll us)
      (t.read name c) (t.read name d) := by
  cases hr with
  | @before x k pos pos' hx hb =>
    rcases read_pieces ht hx name with hf | ⟨g0, y, x', rfl, hx', -, hd⟩
    · rw [hf _ hb, hf _ (hg'.border x u)]
      exact .failed
    · rw [hd _ hb, hd _ (hg'.border _ u)]
      refine .done rfl ?_
      rcases hx' with ⟨rfl, -⟩ | hx'
      · exact .here
      · rw [← List.append_assoc] at hb
        exact .before hx' (hb.tail hx'.ne_nil)
  | here =>
    rw [read, read, hg.settle hu, (hg'.gap u).settle hu]
    dsimp only
    cases t.length? u with
    | none => exact .failed
    | some n => exact .done rfl .behind
  | behind =>
    simp only [read, settle, advance]
    split
    · exact .done rfl .behind
    · exact .failed

/-- The rules of statements and expressions. -/
def Rule.isInner : Rule → Bool
  | input | includeFile | useFile => false
  | _ => true

theorem Rule.body_within_sound {r : Rule} (hr : r.isInner = true) :
    r.body.Within (·.isSound = true) (·.isInner = true) := by
  cases r with
  | input | includeFile | useFile => cases hr
  | _ => simp [body, Peg.Within, Peg.all, Peg.any, Peg.word, Peg.lexeme, Peg.separated, isInner]
      <;> decide

/-- Reading does not depend on what is in a gap. -/
theorem Matches.respaced (hg : Gap g u) (hu : isInk u = true) (hg' : Spacing g')
    (hp : p.Within (·.isSound = true) (·.isInner = true)) {m : Reading} (h : Matches p c m)
    (hc : Respaced g g' u c d) : ∃ m', Matches p d m' ∧ Reading.Both (Respaced g g' u)
      (fun ts us => Tree.outlineAll ts = Tree.outlineAll us) m m' :=
  h.both_of_terminals Tree.outlineAll_congruent (fun _ => Rule.body_within_sound)
    (fun _ name _ _ ht hr => Terminal.read_respaced hg hu hg' ht name hr) hp hc

theorem Respaced.head (hg : Gap g u) (hu : isInk u = true) (hg' : Spacing g')
    (h : Respaced g g' u c d) : c.settle.rest.head? = d.settle.rest.head? := by
  cases h with
  | @before x k pos pos' hx hb =>
    obtain ⟨g0, x', rfl, hx', hl⟩ := hx.settle
    have hset : ∀ v q, Border (g0 ++ x') v →
        (mk q (g0 ++ x' ++ v)).settle.rest.head? = x'.head? := by
      intro v q hv
      rw [settle, (hl v hv.parts).1, advance, List.append_assoc, List.drop_left,
        List.head?_append_of_ne_nil x' hx'.ne_nil]
    rw [hset _ _ hb, hset _ _ (hg'.border _ u)]
  | here => rw [hg.settle hu, (hg'.gap u).settle hu]
  | behind => rfl

/-- Reading goes on in the same way where the same text stands after layout. -/
theorem Matches.of_rest_eq {m : Reading} (h : Matches p c m) (hs : c.settle.rest = d.settle.rest) :
    ∃ m', Matches p d m' ∧ Reading.Both (fun c d => c.settle.rest = d.settle.rest)
      (fun ts us => Tree.outlineAll ts = Tree.outlineAll us) m m' := by
  refine h.both_of_terminals Tree.outlineAll_congruent (fun r _ => r.body.within_all)
    (fun t name c d _ hr => ?_) p.within_all hs
  unfold Terminal.read
  rw [hr]
  cases t.length? d.settle.rest with
  | none => exact .failed
  | some n =>
    refine .done rfl ?_
    simp only [settle, advance] at hr ⊢
    rw [hr]

end Scad
