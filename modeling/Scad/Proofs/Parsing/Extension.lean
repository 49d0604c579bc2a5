import Scad.Proofs.Parsing.Confinement

/-!
What is read in a text is read in the same way when a closing parenthesis follows the
text. Alternatives that were given up at the end of the text could go wrong: one of
them might take the parenthesis and succeed. It cannot, because in every rule the
brackets are balanced, and so the text, once it is read to its end, leaves no
bracket open at any place that an alternative can start from.
-/

namespace Scad

open Terminal Reading Peg

variable {r : Rule} {x v : List Char} {k k' n pos : Nat} {ts : List Tree} {t : Terminal}

/-- The same reading further on in a text and with more text after it. -/
def Reading.extend (n : Nat) (v : List Char) : Reading → Reading
  | done ts c => done (Tree.shiftAll n ts) ⟨c.pos + n, c.rest ++ v⟩
  | failed => failed

theorem border_close (x v : List Char) : Border x (')' :: v) := by
  refine ⟨fun _ c hc => ?_, .inr fun c hc => ?_⟩ <;> cases hc
  · decide
  · rfl

theorem Terminal.read_close (ht : t.isSound = true) (hk : 0 ≤ t.turn) (name : String) (pos : Nat) :
    t.read name ⟨pos, []⟩ = .failed ∧ t.read name ⟨pos + n, ')' :: v⟩ = .failed := by
  have none_of {cs : List Char} (h : ∀ c ∈ cs.head?, c = ')') : t.length? cs = none := by
    refine Option.eq_none_iff_forall_ne_some.2 fun m hm => ?_
    have hp := pieces ht hm
    obtain ⟨c, cs, rfl⟩ : ∃ c ds, cs = c :: ds := List.exists_cons_of_ne_nil fun he => by
      subst he
      exact hp.ne_nil (by simp)
    cases h c rfl
    rcases sound_cases ht with ⟨d, hd, -, -, hturn⟩ | ⟨hw, -⟩ | ⟨q, hq, hlen, -⟩
    · rw [hd] at hm
      split at hm <;> cases hm
      rename_i hc
      cases hc
      rw [hturn] at hk
      cases hk
    · obtain ⟨hpos, hall⟩ := hw _ _ hm
      obtain ⟨i, rfl⟩ : ∃ i, m = i + 1 := ⟨m - 1, by omega⟩
      have := hall ')' (by simp)
      cases this
    · rw [hlen, Lexeme.quotedLength] at hm
      split at hm
      · rename_i hc
        subst hc
        cases hq
      · cases hm
  have settled (cs : List Char) (hi : Layout.isInk cs = true) (h : ∀ c ∈ cs.head?, c = ')')
      (pos : Nat) : t.read name ⟨pos, cs⟩ = .failed := by
    rw [read, Cursor.settle_ink hi, none_of h]
  exact ⟨settled [] rfl (fun _ h => by cases h) pos, settled _ rfl (fun _ h => by cases h; rfl) _⟩

/-- Two places with the same text in which `k` brackets are left to close, before the end
and before a closing parenthesis. -/
def Closing (n : Nat) (v : List Char) (k : Nat) (c d : Cursor) : Prop :=
  (c.rest = [] ∧ k = 0 ∨ Pieces c.rest (-k)) ∧ d = ⟨c.pos + n, c.rest ++ ')' :: v⟩

theorem Terminal.read_closing (ht : t.isSound = true) (hk : t.turn = k' - k) (name : String)
    {c d : Cursor} (h : Closing n v k c d) :
    Both (Closing n v k') (fun ts us => us = Tree.shiftAll n ts)
      (t.read name c) (t.read name d) := by
  obtain ⟨pos, x⟩ := c
  obtain ⟨⟨hx, rfl⟩ | hx, rfl⟩ := h
  · cases hx
    obtain ⟨hc, hd⟩ := read_close (n := n) (v := v) ht (by omega) name pos
    rw [hc, List.nil_append, hd]
    exact .failed
  · rcases read_pieces ht hx name with hf | ⟨g, y, x', rfl, hx', -, hd⟩
    · have := hf [] (.nil _) pos
      rw [List.append_nil] at this
      rw [this, hf _ (border_close _ v)]
      exact .failed
    · have := hd [] (.nil _) pos
      rw [List.append_nil, List.append_nil] at this
      rw [this, hd _ (border_close _ v)]
      refine .done ?_ ⟨?_, ?_⟩
      · simp only [Tree.shiftAll, Tree.shift, Nat.add_right_comm]
      · refine hx'.imp (fun h => ⟨h.1, by omega⟩) fun h => ?_
        rwa [show (-k - t.turn : Int) = -k' by omega] at h
      · simp only [Nat.add_right_comm]

/-- How many brackets are open before and after an expression, inside of others. -/
def Peg.Turns (p : Peg) (k k' : Nat) : Prop :=
  p.isSound = true ∧ ∃ j i i', k = j + i ∧ k' = j + i' ∧ p.nest? i = some i'

theorem Peg.turns_tracks : Tracks Peg.Turns where
  rule := by
    rintro r _ _ ⟨hs, j, i, _, rfl, rfl, hn⟩
    obtain ⟨hr, rfl⟩ := nest?_rule hn
    exact ⟨r.body_isSound hr, _, 0, 0, rfl, rfl, r.body_nest? hr⟩
  seq := by
    rintro a b _ _ ⟨hs, j, i, i', rfl, rfl, hn⟩
    obtain ⟨i1, ha, hb⟩ := nest?_seq hn
    simp only [isSound, Bool.and_eq_true] at hs
    exact ⟨j + i1, ⟨hs.1.1, j, i, i1, rfl, rfl, ha⟩, hs.1.2, j, i1, i', rfl, rfl, hb⟩
  alt := by
    rintro a b _ _ ⟨hs, j, i, i', rfl, rfl, hn⟩
    obtain ⟨ha, hb⟩ := nest?_alt hn
    simp only [isSound, Bool.and_eq_true] at hs
    exact ⟨⟨hs.1, j, i, i', rfl, rfl, ha⟩, hs.2, j, i, i', rfl, rfl, hb⟩
  many := by
    rintro a _ _ ⟨hs, j, i, _, rfl, rfl, hn⟩
    obtain ⟨ha, rfl⟩ := nest?_many hn
    simp only [isSound, Bool.and_eq_true] at hs
    exact ⟨⟨hs.1, j, _, _, rfl, rfl, ha⟩, rfl⟩
  opt := by
    rintro a _ _ ⟨hs, j, i, _, rfl, rfl, hn⟩
    obtain ⟨ha, rfl⟩ := nest?_opt hn
    exact ⟨⟨hs, j, _, _, rfl, rfl, ha⟩, rfl⟩

/-- What is read of a whole text is read also when a closing parenthesis follows. -/
theorem Matches.extend_of_whole {c c' : Cursor} (h : Matches (.rule r) c (.done ts c'))
    (hr : r.isInner = true) (hc : c'.rest = []) {q : Peg} {m : Reading} (hq : Matches q c m)
    (hs : q.isSound = true) (hn : q.nest? 0 = some 0) (n : Nat) (v : List Char) :
    Matches q ⟨c.pos + n, c.rest ++ ')' :: v⟩ (m.extend n (')' :: v)) := by
  have hx : c.rest = [] ∧ 0 = 0 ∨ Pieces c.rest (-(0 : Nat)) := by
    obtain ⟨x, hx, hp, -⟩ := h.covers (p := .rule r) hr
      (show (Peg.rule r).nest? 0 = some 0 from if_pos hr)
    rw [hc, List.append_nil] at hx
    rw [hx]
    exact hp.imp (fun h => ⟨h.1, rfl⟩) id
  obtain ⟨m', hm', hb⟩ := hq.both_of_tracks (Tree.shiftAll_congruent n) turns_tracks
    (R := Closing n v) (k := 0) (fun t name c d k k' ht hr => by
      obtain ⟨ht, j, i, i', rfl, rfl, hn⟩ := ht
      exact read_closing ht (by have := nest?_eq hn; omega) name hr)
    ⟨hs, 0, 0, 0, rfl, rfl, hn⟩ ⟨hx, rfl⟩
  cases hb with
  | failed => exact hm'
  | done ht hr =>
    cases ht
    cases hr.2
    exact hm'

end Scad
