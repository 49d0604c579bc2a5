import Scad.Proofs.Parsing.Confinement

/-!
The items of a program one after the other. An item is read the same whatever follows
it, unless an `else` branch comes in sight. So the text after an item can be replaced
by another one, and what the items before it are does not change.
-/

namespace Scad

open Layout Reading Terminal Cursor
open List hiding length

variable {text name : String} {r : Rule} {ts : List Tree} {c c' : Cursor} {v y : List Char}
  {a b : Peg} {t : Terminal}

def Peg.item : Peg := any (rule .includeFile) [rule .useFile, rule .statement]

/-- Statements that do not begin with a name. -/
def Peg.unnamed : List Peg :=
  [rule .stmtEmpty, rule .stmtList, rule .ifelseStatement, rule .modInstBang, rule .modInstHash,
    rule .modInstPerc, rule .modInstStar, rule .modInstSpecial, rule .stmtDeclMod, rule .stmtDeclFn]

/-- A statement that begins with a name goes on with an opening parenthesis or an equals
sign. -/
theorem Matches.statement_failed (front : List Char)
    (hs : Peg.unnamed.all (·.shuns front) = true) {c : Cursor} (hf : front <+: c.settle.rest)
    {n : Nat} (hn : Lexeme.symbolLength c.settle.rest = some n)
    (ho : ¬['('] <+: (c.settle.advance n).settle.rest)
    (he : ¬['='] <+: (c.settle.advance n).settle.rest) : Matches (.rule .statement) c .failed := by
  have name : ∀ {r : Rule}, r.body = .lexeme .symbol →
      ∃ ts, Matches (.rule r) c (.done ts (c.settle.advance n)) := by
    intro r hr
    have := Matches.token hr c
    rw [Terminal.read, show (Terminal.lexeme .symbol).length? c.settle.rest =
      some n from hn] at this
    exact ⟨_, this⟩
  have shun : ∀ p ∈ Peg.unnamed, Matches p c .failed := fun p hp =>
    .shun front (all_eq_true.1 hs p hp) hf
  simp only [Peg.unnamed, forall_mem_cons] at shun
  obtain ⟨hEmpty, hList, hIf, hBang, hHash, hPerc, hStar, hSpecial, hMod, hFn, -⟩ := shun
  obtain ⟨_, hid⟩ := name (r := .moduleId) rfl
  obtain ⟨_, hsym⟩ := name (r := .symbol) rfl
  have hcall : Matches (.rule .modCall) c .failed :=
    .void rfl (.seqVoid hid (.seqFailed (.word_failed ho)))
  have hassign : Matches (.rule .assignment) c .failed :=
    .void rfl (.seqVoid hsym (.seqFailed (.word_failed he)))
  have hinst : Matches (.rule .moduleInstantiation) c .failed :=
    .void rfl <| .neither hIf <| .neither hBang <| .neither hHash <| .neither hPerc <|
      .neither hStar <| .neither hSpecial <| .void rfl (.seqFailed hcall)
  exact .void rfl <| .neither hEmpty <| .neither (.void rfl (.neither hList hinst)) <|
    .neither hassign (.neither hMod hFn)

/-! ## Items that name a file -/

theorem Gap.swap {g : List Char} (h : Gap g (y ++ v)) (hy : y ≠ []) (v' : List Char) :
    Gap g (y ++ v') := by
  generalize hn : y ++ v = w at h
  induction h with
  | nil => exact .nil
  | blank hc _ ih => exact .blank hc (ih hn)
  | @comment cs ds _ hc _ ih =>
    refine .comment ?_ (ih hn)
    rw [← hn, ← append_assoc] at hc
    have hne : ds ++ y ≠ [] := by simp [hy]
    rw [← append_assoc]
    exact (hc.of_append hne).append hne v'

/-- The items that name a file, each with the word before the file. -/
inductive NamesFile : Rule → String → Prop
  | includeFile : NamesFile .includeFile "include"
  | useFile : NamesFile .useFile "use"

theorem NamesFile.body (h : NamesFile r text) : r.body = .seq (.word text) (.lexeme .path) := by
  cases h <;> rfl

/-- A terminal that can be seen from its own text and that begins like no layout. -/
structure Terminal.Plain (t : Terminal) : Prop where
  nonempty : t.mayBeEmpty = false
  local_ : ∀ {y v : List Char} (v' : List Char), t.length? (y ++ v) = some y.length →
    t.length? (y ++ v') = some y.length
  ink : ∀ {cs : List Char} {n : Nat}, t.length? cs = some n →
    ∃ c, cs.head? = some c ∧ isBlank c = false ∧ c ≠ '/'

theorem NamesFile.plain (h : NamesFile r text) : (word text).Plain := by
  have hne : text.toList ≠ [] := by cases h <;> decide
  refine ⟨by cases h <;> rfl, fun {y v} v' hn => ?_, fun {cs n} hn => ?_⟩
  · have hy := take_word hn
    rw [take_left] at hy
    subst hy
    simp only [length?]
    rw [if_pos ( isPrefixOf_iff_prefix.2 (prefix_append _ _)), String.length_toList]
  · have hw := take_word hn
    have hhead : cs.head? = text.toList.head? := by
      rw [← hw, head?_take, if_neg]
      rintro rfl
      exact hne hw.symm
    rw [hhead]
    cases h <;> exact ⟨_, rfl, rfl, by decide⟩

theorem Lexeme.pathLength_eq_some (h : pathLength (y ++ v) = some y.length) :
    ∃ cs, y = '<' :: (cs ++ ['>']) ∧ ∀ c ∈ cs, (c != '>' && c != '\r' && c != '\n') = true := by
  unfold pathLength at h
  split at h
  · rename_i cs heq
    dsimp only at h
    split at h
    · rename_i ds hd
      have hall := @countWhile_mem cs (fun c => c != '>' && c != '\r' && c != '\n')
      generalize countWhile (fun c => c != '>' && c != '\r' && c != '\n') cs = n at h hd hall
      have hcs : cs = cs.take n ++ ('>' :: ds) := by rw [← hd, take_append_drop]
      have hlen : (cs.take n).length = n := by
        refine length_take_of_le ?_
        have := congrArg List.length hd
        simp only [length_drop, length_cons] at this
        omega
      refine ⟨cs.take n, ?_, fun c => hall⟩
      rw [hcs, append_cons, ← cons_append] at heq
      refine append_inj_left heq ?_
      have := Option.some.inj h
      simp only [length_cons, length_append, hlen, length_nil]
      omega
    · cases h
  · cases h

theorem Lexeme.path_plain : (Terminal.lexeme .path).Plain := by
  refine ⟨rfl, fun {y v} v' hn => ?_, fun {cs n} hn => ?_⟩
  · obtain ⟨cs, rfl, hcs⟩ := pathLength_eq_some hn
    simp only [Terminal.length?, Lexeme.length?, pathLength, cons_append, append_assoc,
      nil_append]
    rw [countWhile_all hcs]
    simp [countWhile]
  · cases cs with
    | nil => cases hn
    | cons c cs =>
      by_cases hc : c = '<'
      · exact ⟨c, rfl, by rw [hc]; rfl, by rw [hc]; decide⟩
      · simp [Terminal.length?, Lexeme.length?, Lexeme.pathLength, hc] at hn

theorem Terminal.Plain.read (ht : t.Plain) {pos pos' : Nat} {x : List Char}
    (h : t.read name ⟨pos, x ++ v⟩ = .done ts ⟨pos', v⟩) (v' : List Char) :
    t.read name ⟨pos, x ++ v'⟩ = .done ts ⟨pos', v'⟩ := by
  obtain ⟨n, hn, rfl, he⟩ := read_eq_done h
  have hg := length_gap (x ++ v)
  generalize hL : length (x ++ v) = k at hg
  have hset : (Cursor.mk pos (x ++ v)).settle = ⟨pos + k, (x ++ v).drop k⟩ := by
    rw [settle, hL, advance]
  rw [hset] at hn he ⊢
  obtain ⟨rfl, hv⟩ := mk.inj he
  dsimp only at hn hv ⊢
  -- The text is the layout in front, what is read, and what follows.
  obtain ⟨g, y, rfl, hgk, hyn⟩ : ∃ g y, x = g ++ y ∧ g.length = k ∧ y.length = n := by
    have hk : k ≤ (x ++ v).length := hL ▸ length_le _
    have hle := length?_le hn
    refine ⟨(x ++ v).take k, ((x ++ v).drop k).take n, ?_, length_take_of_le hk,
      length_take_of_le hle⟩
    have : x ++ v = ((x ++ v).take k ++ ((x ++ v).drop k).take n) ++ v := by
      rw [append_assoc]
      nth_rewrite 4 [hv]
      rw [take_append_drop, take_append_drop]
    exact append_cancel_right this
  subst hgk hyn
  rw [append_assoc, take_left, drop_left] at hg
  rw [append_assoc g y v, drop_left] at hn ⊢
  have hy : y ≠ [] := by
    rintro rfl
    exact Nat.lt_irrefl _ (length?_pos hn ht.nonempty)
  have hink : isInk (y ++ v') = true := by
    obtain ⟨c, y, rfl⟩ := exists_cons_of_ne_nil hy
    obtain ⟨d, hd, hb, hs⟩ := ht.ink hn
    cases hd
    simp [isInk, hb, commentLength_of_ne hs]
  rw [Terminal.read, append_assoc, (hg.swap hy v').settle hink]
  simp only [ht.local_ v' hn, advance, take_left, drop_left]

theorem Matches.seq_inv (h : Matches (.seq a b) c (.done ts c')) :
    ∃ us vs d, Matches a c (.done us d) ∧ Matches b d (.done vs c') ∧ ts = us ++ vs := by
  generalize hm : done ts c' = m at h
  replace hm := hm.symm
  cases h with
  | seqFailed => cases hm
  | seq ha hb =>
    obtain ⟨vs, rfl, rfl⟩ := after_eq_done hm
    exact ⟨_, vs, _, ha, hb, rfl⟩

theorem Matches.alt_inv (he : a.mayBeEmpty = false) (h : Matches (.alt a b) c (.done ts c')) :
    Matches a c (.done ts c') ∨ Matches a c .failed ∧ Matches b c (.done ts c') := by
  generalize hm : done ts c' = m at h
  replace hm := hm.symm
  cases h with
  | first ha =>
    cases hm
    exact .inl ha
  | @second _ _ _ m m' ha hf hb =>
    rw [hm]
    rw [(chosen_eq_done hm).1] at hb
    cases m with
    | failed => exact .inr ⟨ha, hb⟩
    | done us d =>
      cases us with
      | nil =>
        exact absurd rfl (ha.ne_nil he)
      | cons => cases hf

theorem Matches.node_inv (hb : r.isToken = false) (h : Matches (.rule r) c (.done ts c')) :
    Matches r.body c (.done [] c') ∧ ts = [] ∨
      ∃ us, Matches r.body c (.done us c') ∧ us ≠ [] ∧ ts = [.node r.name us] := by
  generalize hm : done ts c' = m at h
  replace hm := hm.symm
  cases h with
  | token ht => exact absurd ht (Rule.body_ne_terminal hb _)
  | rule _ h =>
    obtain ⟨rfl, rfl⟩ | ⟨us, rfl, hus, rfl⟩ := under_eq_done hm
    · exact .inl ⟨h, rfl⟩
    · exact .inr ⟨us, h, hus, rfl⟩

namespace NamesFile

section

variable (h : NamesFile r text)

include h

theorem isToken : r.isToken = false := by
  cases h <;> rfl

theorem mayBeEmpty : (Peg.rule r).mayBeEmpty = false := by
  cases h <;> rfl

theorem inv (hm : Matches (.rule r) c (.done ts c')) : ∃ us vs d,
      (word text).read "" c = .done us d ∧
      (lexeme .path).read "" d = .done vs c' ∧ us ++ vs ≠ [] ∧ ts = [.node r.name (us ++ vs)] := by
  rcases hm.node_inv h.isToken with ⟨hnil, rfl⟩ | ⟨us, hb, hus, rfl⟩
  · exact absurd rfl (hm.ne_nil h.mayBeEmpty)
  · rw [h.body] at hb
    obtain ⟨us, vs, d, hw, hp, rfl⟩ := hb.seq_inv
    exact ⟨us, vs, d, (Matches.terminal _ c).unique hw, (Matches.terminal _ d).unique hp, hus, rfl⟩

theorem word_prefix (hm : Matches (.rule r) c (.done ts c')) : text.toList <+: c.settle.rest := by
  obtain ⟨us, vs, d, hw, -⟩ := h.inv hm
  exact prefix_of_read hw

/-- What follows the name of a file does not matter. -/
theorem swap {pos pos' : Nat} {x z : List Char}
    (hm : Matches (.rule r) ⟨pos, x ++ z⟩ (.done ts ⟨pos', z⟩)) (z' : List Char) :
    Matches (.rule r) ⟨pos, x ++ z'⟩ (.done ts ⟨pos', z'⟩) := by
  obtain ⟨us, vs, ⟨q, cs⟩, hw, hp, hne, rfl⟩ := h.inv hm
  obtain ⟨y, y', rfl, -, rfl⟩ :=
    split_rest (Matches.of_read hw).rest_suffix (Matches.of_read hp).rest_suffix rfl
  have hw := h.plain.read (x := y) (v := y' ++ z) (by rwa [← append_assoc]) (y' ++ z')
  have hp := Lexeme.path_plain.read hp z'
  rw [← append_assoc] at hw
  have hbody : Matches r.body ⟨pos, y ++ y' ++ z'⟩ (.done (us ++ vs) ⟨pos', z'⟩) := by
    rw [h.body]
    exact .both (.of_read hw) (.of_read hp)
  exact .node h.isToken hbody hne

theorem elseBranch_failed (hc : text.toList <+: c.settle.rest) : Matches .elseBranch c .failed := by
  refine .shun text.toList ?_ hc
  cases h <;> rfl

theorem symbolLength {v : List Char}
    (hv : ∀ c ∈ v.head?, (Lexeme.isLetter c || Lexeme.isDigit c) = false) :
    Lexeme.symbolLength (text.toList ++ v) = some text.length := by
  have hc := Lexeme.countWhile_append hv []
  cases h
  · change some (Lexeme.countWhile _ v + 6 + 1) = _
    rw [nil_append] at hc
    rw [hc]
    rfl
  · change some (Lexeme.countWhile _ v + 2 + 1) = _
    rw [nil_append] at hc
    rw [hc]
    rfl

theorem statement_failed {d : Cursor} {us : List Tree}
    (hw : (word text).read "" c = .done us d) (hd : ['<'] <+: d.settle.rest) :
    Matches (.rule .statement) c .failed := by
  obtain ⟨n, hn, -, rfl⟩ := read_eq_done hw
  obtain ⟨v, hv⟩ := prefix_of_read hw
  have hnl : n = text.length := by
    simp only [length?] at hn
    split at hn <;> cases hn
    rfl
  subst hnl
  have hrest : (c.settle.advance text.length).rest = v := by
    rw [advance, ← hv, ← String.length_toList, drop_left]
  -- The character after the word is an angle, white space or the mark of a comment.
  have hstop : ∀ e ∈ v.head?, (Lexeme.isLetter e || Lexeme.isDigit e) = false := by
    intro e he
    have hg := length_gap v
    have hset : (c.settle.advance text.length).settle.rest = v.drop (length v) := by
      rw [settle, hrest, advance, hrest]
    rw [hset] at hd
    rw [← take_append_drop (length v) v] at he
    cases htake : v.take (length v) with
    | nil =>
      rw [htake, nil_append] at he
      obtain ⟨w, hw⟩ := hd
      rw [← hw] at he
      cases he
      rfl
    | cons b bs =>
      rw [htake] at he hg
      cases he
      rcases hg.head rfl with hb | rfl
      · simp only [isBlank, Bool.or_eq_true, beq_iff_eq] at hb
        rcases hb with ((rfl | rfl) | rfl) | rfl <;> rfl
      · rfl
  have hsym : Lexeme.symbolLength c.settle.rest = some text.length := by
    rw [← hv]
    exact h.symbolLength hstop
  have other : ∀ e, e ≠ '<' → ¬[e] <+: (c.settle.advance text.length).settle.rest := by
    rintro e he ⟨w, hw⟩
    obtain ⟨w', hw'⟩ := hd
    rw [← hw] at hw'
    cases hw'
    exact he rfl
  refine .statement_failed text.toList ?_ ⟨v, hv⟩ hsym (other _ (by decide)) (other _ (by decide))
  cases h <;> rfl

end

end NamesFile

/-! ## All items -/

/-- A statement consists of pieces with balanced brackets up to its last character. -/
theorem Matches.statement_remains (h : Matches (.rule .statement) c (.done ts c')) :
    ∃ x, c.rest = x ++ c'.rest ∧ x ≠ [] ∧ Remains x 0 := by
  obtain ⟨x, hx, hp, -⟩ := h.covers rfl (k := 0) rfl
  have hne : x ≠ [] := by
    rintro rfl
    have := h.shortens rfl
    rw [hx, nil_append] at this
    exact Nat.lt_irrefl _ this
  refine ⟨x, hx, hne, .inr ⟨hp.resolve_left fun h => hne h.1, ?_⟩⟩
  obtain ⟨l, hl⟩ := Option.ne_none_iff_exists'.1 (mt getLast?_eq_none_iff.1 hne)
  exact ⟨l, hl, by simpa using h.last ending_other rfl rfl hx l hl⟩

section

variable {x z z' : List Char} {pos pos' : Nat}

/-- A statement does not become an item that names a file when the text after it changes. -/
theorem NamesFile.failed_swap {r : Rule} {text : String} (h : NamesFile r text) (hx : Remains x 0)
    (hne : x ≠ []) (hs : Matches (.rule .statement) ⟨pos, x ++ z⟩ (.done ts ⟨pos', z⟩)) :
    Matches (.rule r) ⟨pos, x ++ z'⟩ .failed := by
  refine .void h.isToken ?_
  rw [h.body]
  obtain ⟨hp, hb⟩ := hx.pieces hne
  have hsound : (word text).isSound = true := by cases h <;> rfl
  rcases read_pieces hsound hp "" with hf | ⟨g, y, x', rfl, hx', -, hd⟩
  · exact .seqFailed (.of_read (hf z' (hb z') pos))
  · refine .seqVoid (.of_read (hd z' (hb z') pos)) ?_
    have hturn : (word text).turn = 0 := by cases h <;> rfl
    rw [← append_assoc] at hx hb
    have hrem : Remains x' 0 := hx.tail (by simpa [hturn] using hx')
    have hne' : x' ≠ [] := by
      rintro rfl
      -- The word does not end a statement.
      have hread := Matches.of_read (hd z (by simpa using hb z) pos)
      have := hx.mayClose (a := .terminal (.word text)) (by simpa using hne) hsound
        (by simpa using hread)
      cases h <;> cases this
    obtain ⟨hp', hb'⟩ := hrem.pieces hne'
    obtain ⟨g', x'', rfl, hp'', hl⟩ := hp'.settle
    have hset : ∀ u q, (mk q (g' ++ x'' ++ u)).settle.rest = x'' ++ u := by
      intro u q
      rw [settle, (hl u (hb' u).parts).1, advance, append_assoc, drop_left]
    obtain ⟨e, x'', rfl⟩ := exists_cons_of_ne_nil hp''.ne_nil
    have he : e ≠ '<' := by
      rintro rfl
      have hfail := h.statement_failed (hd z (by simpa using hb z) pos)
        (by rw [hset]; exact ⟨x'' ++ z, rfl⟩)
      cases hfail.unique hs
    have := Matches.terminal (.lexeme .path) ⟨pos + g.length + y.length, g' ++ e :: x'' ++ z'⟩
    rw [Terminal.read, hset] at this
    simpa [Peg.lexeme, length?, Lexeme.length?, Lexeme.pathLength, he] using this

/-- A statement is read the same whatever follows it, if no `else` comes in sight. -/
theorem Matches.statement_swap (he : KeepsElse z z') (hx : Remains x 0) (hne : x ≠ [])
    (h : Matches (.rule .statement) ⟨pos, x ++ z⟩ (.done ts ⟨pos', z⟩)) :
    Matches (.rule .statement) ⟨pos, x ++ z'⟩ (.done ts ⟨pos', z'⟩) := by
  have hc := h.confined he rfl (j := 0) (k := 0) rfl (fun _ => rfl) hx hne
  generalize hm : done ts ⟨pos', z⟩ = m at hc
  cases hc with
  | failed => cases hm
  | within _ h' =>
    obtain ⟨rfl, hcur⟩ := done.inj hm
    obtain ⟨rfl, hz⟩ := mk.inj hcur
    cases append_cancel_right ((nil_append z).trans hz)
    exact h'
  | past _ _ hlt =>
    cases hm
    exact absurd hlt (Nat.lt_irrefl _)

theorem KeepsElse.statement (he : KeepsElse z z') (hx : Remains x 0) (hne : x ≠ []) :
    KeepsElse (x ++ z) (x ++ z') := by
  intro q hf
  have hc := hf.confined he rfl (j := 0) (k := 0) rfl (fun _ => rfl) hx hne
  cases hc with
  | failed h => exact h

/-- An item is read the same whatever follows it, and an `else` comes in sight before it
no more than after it. -/
theorem Matches.item_swap (he : KeepsElse z z')
    (h : Matches .item ⟨pos, x ++ z⟩ (.done ts ⟨pos', z⟩)) :
    Matches .item ⟨pos, x ++ z'⟩ (.done ts ⟨pos', z'⟩) ∧ KeepsElse (x ++ z) (x ++ z') := by
  have file : ∀ {r : Rule} {text : String}, NamesFile r text →
      Matches (.rule r) ⟨pos, x ++ z⟩ (.done ts ⟨pos', z⟩) →
      Matches (.rule r) ⟨pos, x ++ z'⟩ (.done ts ⟨pos', z'⟩) ∧ ts ≠ [] ∧
        KeepsElse (x ++ z) (x ++ z') := by
    intro r text hr hm
    have hm' := hr.swap hm z'
    have hw : text.toList <+: (mk pos (x ++ z')).settle.rest := hr.word_prefix hm'
    refine ⟨hm', ?_, fun q _ => hr.elseBranch_failed (c := ⟨q, x ++ z'⟩) hw⟩
    obtain ⟨us, vs, d, -, -, -, rfl⟩ := hr.inv hm
    exact cons_ne_nil _ _
  rcases h.alt_inv rfl with hinc | ⟨-, h⟩
  · obtain ⟨hm, hne, hk⟩ := file .includeFile hinc
    exact ⟨.first hm hne, hk⟩
  rcases h.alt_inv rfl with huse | ⟨-, hst⟩
  · obtain ⟨hm, hne, hk⟩ := file .useFile huse
    have hinc : Matches (.rule .includeFile) ⟨pos, x ++ z'⟩ .failed :=
      .shun _ rfl (NamesFile.useFile.word_prefix hm)
    exact ⟨.other hinc (.first hm hne) hne, hk⟩
  · obtain ⟨x', hx', hne, hrem⟩ := hst.statement_remains
    cases append_cancel_right hx'
    have hts := hst.ne_nil rfl
    have hm := hst.statement_swap he hrem hne
    exact ⟨.other (NamesFile.includeFile.failed_swap hrem hne hst)
      (.other (NamesFile.useFile.failed_swap hrem hne hst) hm hts) hts, he.statement hrem hne⟩

end

/-- The items of a text are read the same whatever follows the last of them, and what
follows is read after them. -/
theorem Matches.items_swap {d : Cursor} {us : List Tree} {z' : List Char} {e : Cursor}
    (h : Matches (.many .item) c (.done ts d)) (he : KeepsElse d.rest z')
    (hz : Matches (.many .item) ⟨d.pos, z'⟩ (.done us e)) :
    ∃ x, c.rest = x ++ d.rest ∧ Matches (.many .item) ⟨c.pos, x ++ z'⟩ (.done (ts ++ us) e) ∧
      KeepsElse c.rest (x ++ z') := by
  generalize hp : Peg.many .item = p at h
  generalize hm : done ts d = m at h
  replace hm := hm.symm
  induction h generalizing ts d with
  | @more a c c1 ts1 _ ha hts hr _ ihr =>
    cases hp
    obtain ⟨vs, rfl, rfl⟩ := after_eq_done hm
    obtain ⟨x, hx, hmany, hk⟩ := ihr he hz rfl rfl
    obtain ⟨y, hy⟩ := ha.rest_suffix
    -- The first item, with the changed text after it.
    have ha : Matches .item ⟨c.pos, y ++ c1.rest⟩ (.done ts1 ⟨c1.pos, c1.rest⟩) := by
      rw [← hy]
      exact ha
    obtain ⟨ha', hk'⟩ := ha.item_swap hk
    rw [← append_assoc] at ha'
    rw [← hy, ← append_assoc] at hk'
    refine ⟨y ++ x, by rw [hy, hx, append_assoc], ?_, hk'⟩
    rw [append_assoc ts1 vs us]
    exact .again ha' hts hmany
  | still ha =>
    cases hp
    exact absurd rfl (ha.ne_nil rfl)
  | stop =>
    cases hp
    cases hm
    exact ⟨[], rfl, hz, he⟩
  | _ => cases hp

end Scad
