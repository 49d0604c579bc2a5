import Scad.Proofs.Parsing.Concatenation

/-!
Layout does not matter. If white space and comments stand between two terminals of a
program, other white space and comments in their place give a program with the same
tree. All that is tried on the way keeps to the terminals of the text: it takes them
whole or not at all, so it comes to the gap where they end.
-/

namespace Scad

open Terminal Cursor List Scad.Tree

variable {c : Cursor} {ts : List Tree} {g : List Char}

/-! ## Terminals one after the other -/

/-- From one place to another the given leaves are read one after the other. -/
inductive Spelled (S : Terminal → Prop) : Cursor → List (String × Nat) → Cursor → Prop
  | nil {c : Cursor} : Spelled S c [] c
  | cons {t : Terminal} {c c' : Cursor} {n : Nat} {ls : List (String × Nat)} (ht : S t)
      (hn : t.length? c.settle.rest = some n) (h : Spelled S (c.settle.advance n) ls c') :
      Spelled S c ((String.ofList (c.settle.rest.take n), c.settle.pos) :: ls) c'

namespace Spelled

variable {S : Terminal → Prop} {c' d : Cursor} {ls ms : List (String × Nat)}

theorem append (h : Spelled S c ls d) (h' : Spelled S d ms c') : Spelled S c (ls ++ ms) c' := by
  induction h with
  | nil => exact h'
  | cons ht hn _ ih => exact .cons ht hn (ih h')

theorem split (h : Spelled S c (ls ++ ms) c') : ∃ d, Spelled S c ls d ∧ Spelled S d ms c' := by
  induction ls generalizing c with
  | nil => exact ⟨c, .nil, h⟩
  | cons l ls ih =>
    cases h with
    | cons ht hn h =>
      obtain ⟨d, h, h'⟩ := ih h
      exact ⟨d, .cons ht hn h, h'⟩

/-- The leaves say where they end. -/
theorem unique {S' : Terminal → Prop} (h : Spelled S c ls d)
    (h' : Spelled S' c ls c') : d = c' := by
  induction h with
  | nil =>
    cases h'
    rfl
  | @cons t c _ n ls _ hn _ ih =>
    generalize hl : (String.ofList (c.settle.rest.take n), c.settle.pos) :: ls = ks at h'
    cases h' with
    | nil => cases hl
    | @cons _ _ _ n' _ _ hn' h' =>
      obtain ⟨hs, rfl⟩ := cons.inj hl
      have hlen := congrArg (fun l => l.1.length) hs
      simp only [String.length_ofList, length_take_of_le (length?_le hn),
        length_take_of_le (length?_le hn')] at hlen
      subst hlen
      exact ih h'

theorem rest_le (h : Spelled S c ls d) : d.rest.length ≤ c.rest.length := by
  induction h with
  | nil => exact Nat.le_refl _
  | @cons _ c _ n _ _ _ _ ih =>
    exact Nat.le_trans ih (Nat.le_trans (rest_advance_le n _) c.rest_settle_le)

theorem rest_le_settle (h : Spelled S c ls d) (hl : ls ≠ []) :
    d.rest.length ≤ c.settle.rest.length := by
  cases h with
  | nil => exact absurd rfl hl
  | cons _ _ h => exact Nat.le_trans h.rest_le (rest_advance_le _ _)

theorem covers (h : Spelled (·.isSound = true) c ls d) {y u : List Char} (hy : c.rest = y ++ u)
    {k : Int} (hp : y = [] ∨ Pieces y k ∧ Border y u) (hd : u.length ≤ d.rest.length) :
    ∃ k', Covers c.rest k' d.rest := by
  induction h generalizing y k with
  | nil => exact ⟨0, .refl _⟩
  | @cons t c c' n ls ht hn h ih =>
    obtain ⟨ts, hread⟩ : ∃ ts, t.read "" c = .done ts (c.settle.advance n) :=
      ⟨_, by simp only [Terminal.read, hn]; rfl⟩
    have hcov := read_covers ht hread
    obtain ⟨pos, cs⟩ := c
    dsimp only at hy
    subst hy
    rcases hp with rfl | ⟨hp, hb⟩
    · -- Nothing can be read behind the pieces.
      rw [nil_append] at hn h
      have hpos := length_pos_iff.2 (pieces ht hn).ne_nil
      have hset : (mk pos u).settle.rest.length ≤ u.length := rest_settle_le _
      have hle := h.rest_le
      simp only [advance, length_drop] at hle
      rw [length_take] at hpos
      omega
    · rcases read_pieces ht hp "" with hf | ⟨g, y, x', rfl, hx', hparts, hdone⟩
      · rw [hf u hb] at hread
        cases hread
      · rw [hdone u hb] at hread
        obtain ⟨-, hcur⟩ := Reading.done.inj hread
        rw [← hcur] at ih hcov h
        rw [← append_assoc] at hb
        obtain ⟨k', hk'⟩ := ih rfl (hx'.imp (·.1) fun hp => ⟨hp, hb.tail hp.ne_nil⟩) hd
        refine ⟨_, hcov.trans hk' fun a b ha hb' hne hlast hstar => ?_⟩
        have ha' : a = g ++ y := by
          rw [← append_assoc, append_assoc (g ++ y)] at ha
          exact (append_cancel_right ha).symm
        subst ha'
        have hx0 : x' ≠ [] := by
          rintro rfl
          have := congrArg length hb'
          have := length_pos_iff.2 hne
          simp only [nil_append, length_append] at *
          omega
        have hhead : x'.head? = some '*' := by
          have := congrArg head? hb'
          rwa [head?_append_of_ne_nil x' hx0, head?_append_of_ne_nil b hne, hstar] at this
        exact (hparts hlast '*' hhead).2 rfl

end Spelled

theorem Matches.spelled {S : Terminal → Prop} {R : Rule → Prop}
    (closed : ∀ r, R r → r.body.Within S R) {p : Peg} (hp : p.Within S R) {c' : Cursor}
    (h : Matches p c (.done ts c')) : Spelled S c (leavesAll ts) c' := by
  refine h.induct_within (Q := fun c ts c' => Spelled S c (leavesAll ts) c') closed
    (fun c => .nil) (fun t c name n ht hn => .cons ht hn .nil) (fun name c ts c' h => ?_)
    (fun c ts c' us c'' h h' => ?_) hp
  · simpa [leavesAll, leaves] using h
  · rw [leavesAll_append]
    exact h.append h'

/-! ## Items around a gap -/

/-- At a place stands layout, with a text after it. -/
structure GapAt (d : Cursor) (g u : List Char) : Prop where
  rest : d.rest = g ++ u
  gap : Gap g u
  ink : Layout.isInk u = true
  ne_nil : g ≠ []

namespace GapAt

variable {d : Cursor} {u : List Char}

theorem settle (h : GapAt d g u) : d.settle.rest = u := by
  have := h.gap.settle h.ink d.pos
  rw [← h.rest] at this
  exact congrArg Cursor.rest this

theorem border (h : GapAt d g u) {x : List Char}
    (hs : x.getLast? = some '/' → d.rest.head? ≠ some '/') : Border x (g ++ u) := by
  refine ⟨fun hl c hc => ?_, .inr (h.gap.halts h.ne_nil)⟩
  have hslash : c ≠ '/' := by
    rintro rfl
    refine hs hl ?_
    rw [h.rest]
    exact hc
  refine ⟨hslash, ?_⟩
  rintro rfl
  rw [head?_append_of_ne_nil g h.ne_nil] at hc
  rcases h.gap.head hc with hb | hb
  · cases hb
  · exact hslash hb

theorem respaced (h : GapAt d g u) (g' : List Char) {cs : List Char} {k : Int}
    (hc : Covers cs k d.rest) :
    ∃ x, cs = x ++ (g ++ u) ∧ ∀ q q', Respaced g g' u ⟨q, cs⟩ ⟨q', x ++ (g' ++ u)⟩ := by
  obtain ⟨x, rfl, hx, hs⟩ := hc
  rw [h.rest]
  refine ⟨x, rfl, fun q q' => ?_⟩
  rcases hx with ⟨rfl, -⟩ | hx
  · exact .here
  · exact .before hx (h.border hs)

end GapAt

/-- A statement does not become an item that names a file when a gap changes. -/
theorem NamesFile.failed_respaced {g' u : List Char} (hg : Gap g u)
    (hu : Layout.isInk u = true) (hg' : Spacing g') {r : Rule} {text : String}
    (h : NamesFile r text) {d c' : Cursor} (hr : Respaced g g' u c d)
    (hs : Matches (.rule .statement) c (.done ts c')) : Matches (.rule r) d .failed := by
  refine .void h.isToken ?_
  rw [h.body]
  have hsound : (word text).isSound = true := by cases h <;> rfl
  have hboth := read_respaced hg hu hg' hsound "" hr
  have hword := Matches.terminal (.word text) d
  generalize hm : (word text).read "" c = m at hboth
  generalize (word text).read "" d = m' at hboth hword
  cases hboth with
  | failed => exact .seqFailed hword
  | @done us us' c2 d2 _ hr2 =>
    refine .seqVoid hword ?_
    have hne : d2.settle.rest.head? ≠ some '<' := by
      intro hh
      rw [← hr2.head hg hu hg'] at hh
      obtain ⟨v, hv⟩ := head?_eq_some_iff.1 hh
      cases (h.statement_failed hm ⟨v, hv.symm⟩).unique hs
    have := Matches.terminal (.lexeme .path) d2
    rw [Terminal.read] at this
    cases hcs : d2.settle.rest with
    | nil =>
      rw [hcs] at this
      exact this
    | cons e es =>
      rw [hcs] at hne this
      have he : e ≠ '<' := fun he => hne (by rw [he]; rfl)
      simpa [Peg.lexeme, length?, Lexeme.length?, Lexeme.pathLength, he] using this

section

variable {d c' : Cursor} {g' u : List Char} {ls ms : List (String × Nat)}

/-- With the gap `g'` in the place of `g`, an expression reads the same trees up to
places and the same text is left, and no `else` comes in sight. -/
def Rereads (p : Peg) (g g' u : List Char) (c c' : Cursor) (ts : List Tree) : Prop :=
  ∃ x us e, c.rest = x ++ (g ++ u) ∧ Matches p ⟨c.pos, x ++ (g' ++ u)⟩ (.done us e) ∧
    outlineAll us = outlineAll ts ∧ e.settle.rest = c'.settle.rest ∧
    KeepsElse c.rest (x ++ (g' ++ u))

theorem Matches.statement_respaced (hd : GapAt d g u) (hg' : Spacing g')
    (h : Matches (.rule .statement) c (.done ts c')) (hl : leavesAll ts = ls ++ ms)
    (hms : ms ≠ []) (hs : Spelled (fun _ => True) c ls d) : Rereads .item g g' u c c' ts := by
  have hspell := h.spelled (p := .rule .statement) (fun _ => Rule.body_within_sound) rfl
  rw [hl] at hspell
  obtain ⟨d', hd', hms'⟩ := hspell.split
  cases hd'.unique hs
  obtain ⟨y, hy, hne, hrem⟩ := h.statement_remains
  obtain ⟨hpieces, hborder⟩ := hrem.pieces hne
  obtain ⟨k, hk⟩ := hd'.covers hy (.inr ⟨hpieces, hborder _⟩) hms'.rest_le
  obtain ⟨x, hx, hr⟩ := hd.respaced g' hk
  have hrc := hr c.pos c.pos
  obtain ⟨_, hm, hboth⟩ := h.respaced hd.gap hd.ink hg' (p := .rule .statement) rfl hrc
  cases hboth with
  | @done _ us _ e hout hr' =>
    have hus := hm.ne_nil rfl
    -- The rest of the text begins behind the gap.
    have hrest : e.rest = c'.rest := by
      have hle := hms'.rest_le_settle hms
      rw [hd.settle] at hle
      have hpos := length_pos_iff.2 hd.ne_nil
      cases hr' with
      | before | here =>
        simp only [length_append] at hle
        omega
      | behind => rfl
    have hset : e.settle.rest = c'.settle.rest := by
      simp only [settle, advance, hrest]
    refine ⟨x, us, e, hx, ?_, hout.symm, hset, fun q hq => ?_⟩
    · exact .other (NamesFile.includeFile.failed_respaced hd.gap hd.ink hg' hrc h)
        (.other (NamesFile.useFile.failed_respaced hd.gap hd.ink hg' hrc h) hm hus) hus
    · obtain ⟨_, hm, hboth⟩ := hq.respaced hd.gap hd.ink hg' (p := .elseBranch) ⟨rfl, rfl⟩ (hr q q)
      cases hboth
      exact hm

theorem NamesFile.respaced {r : Rule} {text : String} (h : NamesFile r text) (hd : GapAt d g u)
    (hg' : Spacing g') (hm : Matches (.rule r) c (.done ts c'))
    (hl : leavesAll ts = ls ++ ms) (hls : ls ≠ []) (hms : ms ≠ [])
    (hs : Spelled (fun _ => True) c ls d) : ∃ x us e, c.rest = x ++ (g ++ u) ∧
      Matches (.rule r) ⟨c.pos, x ++ (g' ++ u)⟩ (.done us e) ∧ us ≠ [] ∧
      outlineAll us = outlineAll ts ∧ e.settle.rest = c'.settle.rest := by
  obtain ⟨us, vs, d', hw, hp, hne, rfl⟩ := h.inv hm
  have one : ∀ {t : Terminal} {c c' : Cursor} {ts : List Tree}, t.read "" c = .done ts c' →
      ∃ l, leavesAll ts = [l] := by
    intro t c c' ts ht
    obtain ⟨n, -, rfl, -⟩ := read_eq_done ht
    exact ⟨_, rfl⟩
  obtain ⟨l1, h1⟩ := one hw
  obtain ⟨l2, h2⟩ := one hp
  have hleaves : [l1, l2] = ls ++ ms := by
    rw [← hl, leavesAll, leaves, leavesAll_append, h1, h2]
    rfl
  -- The gap stands between the word and the name of the file.
  obtain ⟨l, rfl⟩ : ∃ l, ls = [l] := by
    have hlen := congrArg length hleaves
    have := length_pos_iff.2 hls
    have := length_pos_iff.2 hms
    simp only [length_append, length_cons, length_nil] at hlen
    exact length_eq_one_iff.1 (by omega)
  obtain ⟨rfl, -⟩ := cons.inj hleaves
  have hword := (Matches.of_read hw).spelled (fun r _ => r.body.within_all) (Peg.within_all _)
  rw [h1] at hword
  cases hs.unique hword
  obtain ⟨x, hx⟩ := (Matches.of_read hw).rest_suffix
  have hw' : (word text).read "" ⟨c.pos, x ++ (g ++ u)⟩ = .done us ⟨d.pos, g ++ u⟩ := by
    rw [← hd.rest, ← hx]
    exact hw
  obtain ⟨_, hpath, hboth⟩ := (Matches.of_read hp).of_rest_eq (d := ⟨d.pos, g' ++ u⟩) (by
    rw [(hg'.gap u).settle hd.ink, hd.settle])
  cases hboth with
  | @done _ vs' _ e hout hrest =>
    have hne' : us ++ vs' ≠ [] := by
      intro hnil
      rw [(append_eq_nil_iff.1 hnil).1] at h1
      cases h1
    have hbody : Matches r.body ⟨c.pos, x ++ (g' ++ u)⟩ (.done (us ++ vs') e) := by
      rw [h.body]
      exact .both (.of_read (h.plain.read hw' (g' ++ u))) hpath
    refine ⟨x, _, e, by rw [hx, hd.rest], .node h.isToken hbody hne', cons_ne_nil _ _, ?_,
      hrest.symm⟩
    simp only [outlineAll, outline, outlineAll_append, hout]

theorem Matches.item_respaced (hd : GapAt d g u) (hg' : Spacing g')
    (h : Matches .item c (.done ts c')) (hl : leavesAll ts = ls ++ ms) (hls : ls ≠ [])
    (hms : ms ≠ []) (hs : Spelled (fun _ => True) c ls d) : Rereads .item g g' u c c' ts := by
  have keeps : ∀ {r : Rule} {text : String} {cs : List Char} {us : List Tree} {e : Cursor},
      NamesFile r text → Matches (.rule r) ⟨c.pos, cs⟩ (.done us e) → KeepsElse c.rest cs := by
    intro r text cs us e hr hm q _
    have hw : text.toList <+: (mk c.pos cs).settle.rest := hr.word_prefix hm
    exact hr.elseBranch_failed (c := ⟨q, cs⟩) hw
  rcases h.alt_inv rfl with hinc | ⟨-, h⟩
  · obtain ⟨x, us, e, hx, hm, hus, hout, hrest⟩ :=
      NamesFile.includeFile.respaced hd hg' hinc hl hls hms hs
    exact ⟨x, us, e, hx, .first hm hus, hout, hrest, keeps .includeFile hm⟩
  rcases h.alt_inv rfl with huse | ⟨-, h⟩
  · obtain ⟨x, us, e, hx, hm, hus, hout, hrest⟩ :=
      NamesFile.useFile.respaced hd hg' huse hl hls hms hs
    have hinc : Matches (.rule .includeFile) ⟨c.pos, x ++ (g' ++ u)⟩ .failed :=
      .shun _ rfl (NamesFile.useFile.word_prefix hm)
    exact ⟨x, us, e, hx, .other hinc (.first hm hus) hus, hout, hrest, keeps .useFile hm⟩
  · exact h.statement_respaced hd hg' hl hms hs

end

/-- The items of a text with a gap at the end of a leaf are the same with another gap. -/
theorem Matches.items_respaced {d e : Cursor} {g' u : List Char} (hd : GapAt d g u)
    (hg' : Spacing g') {ls ms : List (String × Nat)}
    (h : Matches (.many .item) c (.done ts e)) (hl : leavesAll ts = ls ++ ms)
    (hs : Spelled (fun _ => True) c ls d) : Rereads (.many .item) g g' u c e ts := by
  -- The gap stands before the first leaf.
  have here : ∀ {c : Cursor} {ts : List Tree}, Matches (.many .item) c (.done ts e) → c = d →
      Rereads (.many .item) g g' u c e ts := by
    rintro c ts h rfl
    have hset : ∀ q q', (mk q c.rest).settle.rest = (mk q' (g' ++ u)).settle.rest := by
      intro q q'
      rw [(hg'.gap u).settle hd.ink]
      exact hd.settle
    obtain ⟨_, hm, hboth⟩ := h.of_rest_eq (hset c.pos c.pos)
    cases hboth with
    | @done _ us _ e' hout hrest =>
      refine ⟨[], us, e', hd.rest, hm, hout.symm, hrest.symm, fun q hq => ?_⟩
      obtain ⟨_, hm, hboth⟩ := hq.of_rest_eq (hset q q)
      cases hboth
      exact hm
  generalize hp : Peg.many .item = p at h
  generalize hm : Reading.done ts e = m at h
  replace hm := hm.symm
  induction h generalizing ts ls with
  | @more a c c1 ts1 _ ha hts hr _ ihr =>
    cases hp
    obtain ⟨ts2, rfl, rfl⟩ := Reading.after_eq_done hm
    by_cases hls : ls = []
    · subst hls
      cases hs
      exact here (.again ha hts hr) rfl
    rw [leavesAll_append] at hl
    -- The gap stands after the first item, or else inside.
    have after : ∀ as, ls = leavesAll ts1 ++ as → leavesAll ts2 = as ++ ms →
        Rereads (.many .item) g g' u c e (ts1 ++ ts2) := by
      rintro as rfl hl2
      obtain ⟨c1', hs1, hs2⟩ := hs.split
      have hspell := ha.spelled (fun r _ => r.body.within_all) (Peg.within_all _)
      cases hspell.unique hs1
      obtain ⟨x, us, e', hx, hmany, hout, hrest, hk⟩ := ihr hl2 hs2 rfl rfl
      obtain ⟨y, hy⟩ := ha.rest_suffix
      have ha : Matches .item ⟨c.pos, y ++ c1.rest⟩ (.done ts1 ⟨c1.pos, c1.rest⟩) := by
        rw [← hy]
        exact ha
      obtain ⟨ha', hk'⟩ := ha.item_swap hk
      rw [← append_assoc] at ha'
      rw [← hy, ← append_assoc] at hk'
      refine ⟨y ++ x, ts1 ++ us, e', by rw [hy, hx, append_assoc], .again ha' hts hmany, ?_,
        hrest, hk'⟩
      rw [outlineAll_append, outlineAll_append, hout]
    rcases append_eq_append_iff.1 hl with ⟨as, hls, hl2⟩ | ⟨bs, hl1, rfl⟩
    · exact after as hls hl2
    by_cases hbs : bs = []
    · subst hbs
      rw [append_nil] at hl1
      exact after [] (by rw [hl1, append_nil]) rfl
    obtain ⟨x, us, c1', hx, ha', hout, hrest, hk⟩ := ha.item_respaced hd hg' hl1 hls hbs hs
    have hus : us ≠ [] := fun h => hts ((outlineAll_congruent.nil_iff hout).1 h)
    obtain ⟨_, hmany, hboth⟩ := hr.of_rest_eq hrest.symm
    cases hboth with
    | @done _ us' _ e' hout' hrest' =>
      refine ⟨x, us ++ us', e', hx, .again ha' hus hmany, ?_, hrest'.symm, hk⟩
      rw [outlineAll_append, outlineAll_append, hout, hout']
  | still ha =>
    cases hp
    exact absurd rfl (ha.ne_nil rfl)
  | stop ha =>
    cases hp
    cases hm
    obtain ⟨rfl, -⟩ := append_eq_nil_iff.1 hl.symm
    cases hs
    exact here (.stop ha) rfl
  | _ => cases hp

/-! ## Programs -/

namespace Spelled

variable {S : Terminal → Prop} {d : Cursor} {ls : List (String × Nat)} {s : String} {p : Nat}

theorem place (h : Spelled S c ls d) : d.pos + d.rest.length = c.pos + c.rest.length := by
  induction h with
  | nil => rfl
  | @cons _ c _ n _ _ hn _ ih =>
    have hle := length?_le hn
    have hl := Layout.length_le c.rest
    simp only [settle, advance, length_drop] at hle ih
    omega

theorem pos_last (h : Spelled S c (ls ++ [(s, p)]) d) : d.pos = p + s.length := by
  obtain ⟨_, -, h⟩ := h.split
  cases h with
  | cons _ hn h =>
    cases h
    rw [String.length_ofList, length_take_of_le (length?_le hn)]
    rfl

theorem pos_first (h : Spelled S c ((s, p) :: ls) d) : c.settle.pos = p := by
  cases h
  rfl

end Spelled

/-- Layout between blanks is layout before every text. -/
theorem Spacing.of_gap {b c : Char} (hb : Layout.isBlank b = true)
    (hc : Layout.isBlank c = true) (h : Gap g [c]) : Spacing (b :: (g ++ [c])) := by
  refine ⟨fun next => .blank hb ?_, b, rfl, hb⟩
  generalize hn : [c] = cs at h
  induction h with
  | nil =>
    subst hn
    exact .blank hc .nil
  | blank hc' _ ih => exact .blank hc' (ih hn)
  | @comment y ds _ hy _ ih =>
    rw [append_assoc]
    refine .comment ?_ (ih hn)
    subst hn
    exact hy.append (by simp) next

/-- Layout between two leaves of a program can be replaced by other layout that begins
with white space: the program has the same tree up to places. -/
theorem parse_respaced {text : String} {t : Tree} (h : parse text = .ok t)
    {ls rs : List (String × Nat)} {s s' : String} {p p' : Nat}
    (hl : t.leaves = ls ++ (s, p) :: (s', p') :: rs) (hlt : p + s.length < p')
    {g : List Char} (hg : Spacing g) :
    ∃ u, parse (String.ofList (text.toList.take (p + s.length) ++ g ++ text.toList.drop p')) =
      .ok u ∧ u.outline = t.outline := by
  obtain ⟨ts, e, hm, he, rfl⟩ := parse_eq_ok.1 h
  -- The leaves of the items up to the gap, and those after it.
  obtain ⟨ms, hts, hms⟩ : ∃ ms, Tree.leavesAll ts = (ls ++ [(s, p)]) ++ ms ∧
      ms ++ [("", e.settle.pos)] = (s', p') :: rs := by
    have hall : Tree.leavesAll ts ++ [("", e.settle.pos)] =
        (ls ++ [(s, p)]) ++ (s', p') :: rs := by
      rw [List.append_assoc, List.singleton_append, ← hl, Tree.leaves, Tree.leavesAll_append]
      rfl
    obtain ⟨ms, l, hrs⟩ := (List.eq_nil_or_concat ((s', p') :: rs)).resolve_left
      (List.cons_ne_nil _ _)
    rw [List.concat_eq_append] at hrs
    rw [hrs, ← List.append_assoc] at hall
    obtain ⟨hts, hlast⟩ := List.append_inj' hall rfl
    exact ⟨ms, hts, by rw [hrs, hlast]⟩
  have hspell := hm.spelled (fun r _ => r.body.within_all) (Peg.within_all _)
  rw [hts] at hspell
  obtain ⟨d, hs, hs'⟩ := hspell.split
  have hpos : d.pos = p + s.length := hs.pos_last
  have hpos' : d.settle.pos = p' := by
    cases ms with
    | nil =>
      cases hs'
      cases hms
      rfl
    | cons m ms =>
      cases hms
      exact hs'.pos_first
  -- The gap itself.
  have hd : GapAt d (d.rest.take (Layout.length d.rest)) (d.rest.drop (Layout.length d.rest)) := by
    refine ⟨(List.take_append_drop _ _).symm, Layout.length_gap _, Layout.settled _, fun hnil => ?_⟩
    have hlen := congrArg List.length hnil
    rw [List.length_take_of_le (Layout.length_le _), List.length_nil] at hlen
    have : d.settle.pos = d.pos + Layout.length d.rest := rfl
    omega
  obtain ⟨x, us, e', hx, hm', hout, hrest, -⟩ := hm.items_respaced hd hg hts hs
  have hx : text.toList = x ++ d.rest := by rw [hd.rest]; exact hx
  have hlen : x.length = p + s.length := by
    have hplace := hs.place
    have hlen := congrArg List.length hx
    rw [List.length_append] at hlen
    simp only [Cursor.start, Nat.zero_add] at hplace
    omega
  have htext : text.toList.take (p + s.length) ++ g ++ text.toList.drop p' =
      x ++ (g ++ d.rest.drop (Layout.length d.rest)) := by
    have : p' = x.length + Layout.length d.rest := by
      rw [hlen, ← hpos]
      exact hpos'.symm
    rw [hx, ← hlen, List.take_left, this, List.append_assoc, ← List.drop_drop, List.drop_left]
  refine ⟨_, parse_eq_ok.2 ⟨us, e', ?_, hrest.trans he, rfl⟩, ?_⟩
  · rw [Cursor.start, String.toList_ofList, htext]
    exact hm'
  · simp only [Tree.outline, Tree.outlineAll_append, Tree.outlineAll, hout]

/-- A line comment in the place of a line end before an `else`. -/
theorem parse_respaced_else : ∃ t u, parse "if (a) b(1);\nelse c();" = .ok t ∧
    parse "if (a) b(1); // d\n\telse c();" = .ok u ∧ u.outline = t.outline := by
  have h : (parse "if (a) b(1);\nelse c();").toOption.any (fun t => t.leaves ==
      [("if", 0), ("(", 3), ("a", 4), (")", 5), ("b", 7), ("(", 8), ("1", 9), (")", 10)] ++
        (";", 11) :: ("else", 13) :: [("c", 18), ("(", 19), (")", 20), (";", 21), ("", 22)]) =
          true := by
    decide +kernel
  cases ht : parse "if (a) b(1);\nelse c();" with
  | error e =>
    rw [ht] at h
    cases h
  | ok t =>
    rw [ht] at h
    have hg : Gap (['/', '/', ' ', 'd'] ++ ['\n']) ['\t'] :=
      .comment (.line (by simp) (by simp)) (.blank rfl .nil)
    obtain ⟨u, hu, ho⟩ := parse_respaced ht (eq_of_beq h) (by decide)
      (.of_gap (b := ' ') rfl rfl hg)
    exact ⟨t, u, rfl, hu, ho⟩

end Scad
