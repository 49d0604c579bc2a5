import Scad.Proofs.Parsing.Transport

/-!
A statement is read the same whatever follows it, as long as what follows is not taken
for its `else` branch. A statement ends with a semicolon or a closing brace at which
all its brackets are closed. No alternative that is tried on the way gets past that
character: inside brackets the closing ones would be missing, and outside of brackets
only an `else` goes on after such a character.
-/

namespace Scad

open Terminal Reading Layout Peg
open Bool hiding true_and
open List hiding length

variable {r : Rule} {cs x z : List Char} {k k' n pos : Nat} {q : Char → Bool} {c c' : Cursor}
  {ts : List Tree} {p : Peg} {t : Terminal}

/-! ## The last character -/

/-- Can the last terminal of an expression be one of the given ones? -/
def Peg.mayEnd (ts : Terminal → Bool) (rs : Rule → Bool) : Peg → Bool
  | terminal t => ts t
  | rule r => rs r
  | seq a b => b.mayEnd ts rs || (b.mayBeEmpty && a.mayEnd ts rs)
  | alt a b => a.mayEnd ts rs || b.mayEnd ts rs
  | many a | opt a => a.mayEnd ts rs

def isSlash (c : Char) : Bool := c == '/'

def isEnd (c : Char) : Bool := c == ';' || c == '\x7d'

theorem isEnd_iff {c : Char} : isEnd c = true ↔ c = ';' ∨ c = '\x7d' := by
  simp [isEnd]

/-- Does a terminal end with a character of a class that no word and no quoted text
ends with? -/
def Terminal.endsIn (q : Char → Bool) : Terminal → Bool
  | word text => text.toList.getLast?.any q
  | _ => false

def Rule.isStatement : Rule → Bool
  | statement | stmtObj | stmtEmpty | stmtList | stmtDeclMod | stmtDeclFn | assignment
  | moduleInstantiation | modInstBang | modInstHash | modInstPerc | modInstStar | modInstChild
  | modInstSpecial | ifelseStatement | ifStatement | childStatements | childStatement | noChild
  | explicitChild => true
  | _ => false

/-- Sound terminals and rules, and nothing that begins with a star after a slash. -/
def Peg.isSound : Peg → Bool
  | terminal t => t.isSound
  | rule r => r.isInner
  | seq a b =>
    a.isSound && b.isSound &&
      (!a.mayEnd (·.endsIn isSlash) (fun _ => false) || b.shuns ['*'])
  | alt a b => a.isSound && b.isSound
  | many a => a.isSound && !a.mayEnd (·.endsIn isSlash) (fun _ => false)
  | opt a => a.isSound

theorem Rule.body_isSound (hr : r.isInner = true) : r.body.isSound = true := by
  cases r <;> first | rfl | cases hr

/-- Terminals and rules after which the last character is not in a class. -/
structure Ending (q : Char → Bool) (ts : Terminal → Bool) (rs : Rule → Bool) : Prop where
  terminal : ∀ {t : Terminal} {cs : List Char} {n : Nat}, t.isSound = true → ts t = false →
    t.length? cs = some n → ∀ l ∈ (cs.take n).getLast?, q l = false
  rule : ∀ {r : Rule}, r.isInner = true → rs r = false → r.body.mayEnd ts rs = false

theorem Matches.rest_suffix (h : Matches p c (.done ts c')) : ∃ x, c.rest = x ++ c'.rest := by
  refine h.induct (Q := fun c _ c' => ∃ x, c.rest = x ++ c'.rest) (fun _ => ⟨[], rfl⟩)
    (fun t c name n _ => ?_) (fun _ _ _ _ h => h) ?_
  · refine ⟨c.rest.take (length c.rest + n), ?_⟩
    simp [Cursor.settle, Cursor.advance]
  · rintro c ts c' us c'' ⟨x, hx⟩ ⟨y, hy⟩
    exact ⟨x ++ y, by rw [hx, hy, append_assoc]⟩

theorem Matches.idle_of_nil (h : Matches p c (.done [] c')) : c' = c := by
  refine h.induct (Q := fun c ts c' => ts = [] → c' = c) (fun _ _ => rfl)
    (fun _ _ _ _ _ h => by cases h) (fun _ _ _ _ _ h => by cases h) ?_ rfl
  rintro c ts c' us c'' h h' he
  obtain ⟨ht, hu⟩ := append_eq_nil_iff.1 he
  rw [h' hu, h ht]

theorem Matches.ne_nil (h : Matches p c (.done ts c')) (he : p.mayBeEmpty = false) : ts ≠ [] := by
  rintro rfl
  have := h.shortens he
  rw [h.idle_of_nil] at this
  exact Nat.lt_irrefl _ this

theorem split_rest {ds es : List Char} (h : ∃ y, cs = y ++ ds) (h' : ∃ y, ds = y ++ es)
    (hx : cs = x ++ es) : ∃ y y', x = y ++ y' ∧ cs = y ++ ds ∧ ds = y' ++ es := by
  obtain ⟨y, hy⟩ := h
  obtain ⟨y', hy'⟩ := h'
  refine ⟨y, y', ?_, hy, hy'⟩
  rw [hy, hy', ← append_assoc] at hx
  exact (append_cancel_right hx).symm

theorem last_append {y : List Char} (hx : y = [] → ∀ l ∈ x.getLast?, q l = false)
    (hy : ∀ l ∈ y.getLast?, q l = false) : ∀ l ∈ (x ++ y).getLast?, q l = false := by
  cases y with
  | nil =>
    rw [append_nil]
    exact hx rfl
  | cons c cs => rwa [getLast?_append_of_ne_nil x (cons_ne_nil c cs)]

theorem Matches.last {fs : Terminal → Bool} {rs : Rule → Bool} (he : Ending q fs rs)
    (hs : p.isSound = true) (hp : p.mayEnd fs rs = false) (h : Matches p c (.done ts c'))
    (hx : c.rest = x ++ c'.rest) : ∀ l ∈ x.getLast?, q l = false := by
  have terminal : ∀ {t : Terminal} {name : String} {c c' : Cursor} {ts : List Tree} {x : List Char},
      t.isSound = true → fs t = false → t.read name c = .done ts c' → c.rest = x ++ c'.rest →
      ∀ l ∈ x.getLast?, q l = false := by
    intro t name c c' ts x hs hf hr hx l hl
    obtain ⟨n, hn, -, rfl⟩ := read_eq_done hr
    have hxe : x = c.rest.take (length c.rest) ++ c.settle.rest.take n := by
      have : c.rest = (c.rest.take (length c.rest) ++ c.settle.rest.take n) ++
          (c.settle.advance n).rest := by
        simp only [Cursor.settle, Cursor.advance, append_assoc, take_append_drop]
      exact append_cancel_right (hx.symm.trans this)
    rw [hxe, getLast?_append_of_ne_nil _ (pieces hs hn).ne_nil] at hl
    exact he.terminal hs hf hn l hl
  generalize hm : done ts c' = m at h
  replace hm := hm.symm
  induction h generalizing ts c' x with
  | terminal t c => exact terminal hs hp hm hx
  | @token r t hb c =>
    have hs' := r.body_isSound hs
    have hp' := he.rule hs hp
    rw [hb] at hs' hp'
    exact terminal hs' hp' hm hx
  | @rule r _ _ _ _ ih =>
    have ih : ∀ {us d}, _ = done us d → _ = x ++ d.rest → ∀ l ∈ x.getLast?, q l = false :=
      fun hm hx => ih (r.body_isSound hs) (he.rule hs hp) hx hm
    obtain ⟨rfl, rfl⟩ | ⟨vs, rfl, _, rfl⟩ := under_eq_done hm <;> exact ih rfl hx
  | @seq a b _ _ _ _ ha hb iha ihb =>
    simp only [Peg.isSound, and_eq_true] at hs
    obtain ⟨vs, rfl, rfl⟩ := after_eq_done hm
    obtain ⟨hpb, hpa⟩ := or_eq_false_iff.1 hp
    obtain ⟨y, y', rfl, hy, hy'⟩ := split_rest ha.rest_suffix hb.rest_suffix hx
    refine last_append (fun hnil => ?_) (ihb hs.1.2 hpb hy' rfl)
    -- The second part is empty, so the first one is the last that reads something.
    have hemp : b.mayBeEmpty = true := by
      by_contra hne
      have := hb.shortens (eq_false_iff.2 hne)
      simp [hy', hnil] at this
    rw [hemp, Bool.true_and] at hpa
    exact iha hs.1.1 hpa hy rfl
  | seqFailed => cases hm
  | first _ _ ih =>
    cases hm
    simp only [Peg.isSound, and_eq_true] at hs
    exact ih hs.1 (or_eq_false_iff.1 hp).1 hx rfl
  | second _ _ _ _ ih =>
    simp only [Peg.isSound, and_eq_true] at hs
    exact ih hs.2 (or_eq_false_iff.1 hp).2 hx (chosen_eq_done hm).1
  | more ha _ hr iha ihr =>
    obtain ⟨vs, rfl, rfl⟩ := after_eq_done hm
    obtain ⟨y, y', rfl, hy, hy'⟩ := split_rest ha.rest_suffix hr.rest_suffix hx
    exact last_append (fun _ => iha (and_eq_true _ _ ▸ hs : _ ∧ _).1 hp hy rfl)
      (ihr hs hp hy' rfl)
  | still _ ih =>
    cases hm
    exact ih (and_eq_true _ _ ▸ hs : _ ∧ _).1 hp hx rfl
  | present _ ih =>
    cases hm
    exact ih hs hp hx rfl
  | stop | absent =>
    cases hm
    have : x = [] := append_cancel_right (hx.symm.trans (nil_append _).symm)
    subst this
    intro l hl
    cases hl

/-! ## Classes of last characters -/

theorem Terminal.take_word {text : String} (hn : (word text).length? cs = some n) :
    cs.take n = text.toList := by
  simp only [length?] at hn
  split at hn <;> cases hn
  rename_i hp
  obtain ⟨r, rfl⟩ := isPrefixOf_iff_prefix.1 hp
  rw [← String.length_toList, take_left]

theorem Terminal.endsIn_eq_false (hq : ∀ c, q c = true → isWordy c = false ∧ isQuote c = false)
    (hs : t.isSound = true) (ht : t.endsIn q = false)
    (hn : t.length? cs = some n) : ∀ l ∈ (cs.take n).getLast?, q l = false := by
  intro l hl
  by_contra hql
  obtain ⟨hw, hquote⟩ := hq l (not_eq_false _ ▸ hql)
  have wordy : (∀ c ∈ cs.take n, isWordy c = true) → False := fun h => by
    rw [h l (mem_of_getLast? hl)] at hw
    cases hw
  cases t with
  | word text =>
    rw [take_word hn] at hl
    rw [endsIn, Option.mem_def.1 hl] at ht
    exact hql ht
  | finish => cases hs
  | lexeme k =>
    cases k with
    | path => cases hs
    | number => exact wordy (Lexeme.numberLength_wordy hn)
    | symbol => exact wordy (Lexeme.symbolLength_wordy hn)
    | doubleQuoted | singleQuoted =>
      rw [(Lexeme.quotedLength_closed rfl hn).1] at hl
      cases hl
      cases hquote

theorem ending_slash : Ending isSlash (·.endsIn isSlash) fun _ => false where
  terminal := fun hs ht hn => endsIn_eq_false (q := isSlash) (fun c hc => by
    have hc : c = '/' := eq_of_beq hc
    subst hc
    exact ⟨rfl, rfl⟩) hs ht hn
  rule := by
    intro r _ _
    cases r <;> rfl

theorem ending_end : Ending isEnd (·.endsIn isEnd) Rule.isStatement where
  terminal := fun hs ht hn => endsIn_eq_false (q := isEnd) (fun c hc => by
    rcases isEnd_iff.1 hc with rfl | rfl <;> exact ⟨rfl, rfl⟩) hs ht hn
  rule := by
    intro r hr h
    cases r <;> first | rfl | exact absurd h (by decide) | cases hr

theorem ending_other :
    Ending (fun c => !isEnd c) (fun t => !t.endsIn isEnd) fun r => !r.isStatement where
  terminal := by
    intro t cs n _ ht hn l hl
    cases t with
    | word text =>
      rw [take_word hn] at hl
      simpa [endsIn, Option.mem_def.1 hl] using ht
    | lexeme | finish => cases ht
  rule := by
    intro r _ h
    cases r <;> first | rfl | exact absurd h (by decide)

/-! ## Brackets -/

def Terminal.nest? (t : Terminal) (k : Nat) : Option Nat := Int.toNat? (k + t.turn)

/-- How many brackets are open after an expression, if that is the same for all that the
expression reads. -/
def Peg.nest? : Peg → Nat → Option Nat
  | terminal t, k => t.nest? k
  | rule r, k => if r.isInner then some k else none
  | seq a b, k => (a.nest? k).bind b.nest?
  | alt a b, k => if a.nest? k = b.nest? k then a.nest? k else none
  | many a, k | opt a, k => if a.nest? k = some k then some k else none

theorem Rule.body_nest? (hr : r.isInner = true) : r.body.nest? 0 = some 0 := by
  cases r <;> first | rfl | cases hr

theorem Terminal.nest?_eq (h : t.nest? k = some k') : t.turn = k' - k := by
  have := Int.mem_toNat?.1 h
  omega

namespace Peg

variable {a b : Peg}

theorem nest?_rule (h : (rule r).nest? k = some k') : r.isInner = true ∧ k' = k := by
  simp only [nest?] at h
  split at h <;> cases h
  exact ⟨‹_›, rfl⟩

theorem nest?_seq (h : (seq a b).nest? k = some k') :
    ∃ k1, a.nest? k = some k1 ∧ b.nest? k1 = some k' :=
  Option.bind_eq_some_iff.1 h

theorem nest?_alt (h : (alt a b).nest? k = some k') : a.nest? k = some k' ∧
    b.nest? k = some k' := by
  simp only [nest?] at h
  split at h
  · rename_i he
    exact ⟨h, he ▸ h⟩
  · cases h

theorem nest?_many (h : (many a).nest? k = some k') : a.nest? k = some k ∧ k' = k := by
  simp only [nest?] at h
  split at h <;> cases h
  exact ⟨‹_›, rfl⟩

theorem nest?_opt (h : (opt a).nest? k = some k') : a.nest? k = some k ∧ k' = k := nest?_many h

end Peg

/-- What is read from one place to another is nothing, or pieces with a number of
brackets. A slash at the end is not followed by another one. -/
def Covers (cs : List Char) (d : Int) (ds : List Char) : Prop :=
  ∃ x, cs = x ++ ds ∧ (x = [] ∧ d = 0 ∨ Pieces x d) ∧
    (x.getLast? = some '/' → ds.head? ≠ some '/')

namespace Covers

variable {ds es : List Char} {d d' : Int}

theorem refl (cs : List Char) : Covers cs 0 cs :=
  ⟨[], rfl, .inl ⟨rfl, rfl⟩, fun h => by cases h⟩

theorem trans (h : Covers cs d ds) (h' : Covers ds d' es)
    (hp : ∀ x y, cs = x ++ ds → ds = y ++ es → y ≠ [] → x.getLast? = some '/' →
      y.head? ≠ some '*') : Covers cs (d + d') es := by
  obtain ⟨x, hx, hd, hs⟩ := h
  obtain ⟨y, hy, hd', hs'⟩ := h'
  rcases hd' with ⟨rfl, rfl⟩ | hpy
  · rw [nil_append] at hy
    subst hy
    rw [Int.add_zero]
    exact ⟨x, hx, hd, hs⟩
  have hlast : (x ++ y).getLast? = y.getLast? := getLast?_append_of_ne_nil x hpy.ne_nil
  refine ⟨x ++ y, by rw [hx, hy, append_assoc], .inr ?_, by rwa [hlast]⟩
  rcases hd with ⟨rfl, rfl⟩ | hpx
  · rwa [Int.zero_add]
  · refine hpx.append hpy fun hl c hc => ?_
    have hh : ds.head? = some c := by
      rw [hy, head?_append_of_ne_nil y hpy.ne_nil]
      exact hc
    refine ⟨?_, ?_⟩
    · rintro rfl
      exact hs hl hh
    · rintro rfl
      exact hp x y hx hy hpy.ne_nil hl hc

end Covers

theorem Terminal.read_covers (ht : t.isSound = true) {name : String}
    (h : t.read name c = .done ts c') : Covers c.rest t.turn c'.rest := by
  obtain ⟨n, hn, -, rfl⟩ := read_eq_done h
  have hg := length_gap c.rest
  have hink := settled c.rest
  refine ⟨c.rest.take (length c.rest) ++ c.settle.rest.take n, ?_, .inr ?_, ?_⟩
  · simp only [Cursor.settle, Cursor.advance, append_assoc, take_append_drop]
  · have hg' : Gap (c.rest.take (length c.rest))
        (c.settle.rest.take n ++ c.settle.rest.drop n) := by rwa [take_append_drop]
    exact Pieces.afterGap hg' (pieces ht hn)
  · rw [getLast?_append_of_ne_nil _ (pieces ht hn).ne_nil]
    intro hl hh
    obtain ⟨rfl, hslash⟩ := slash_of_last ht hn hl
    change isInk c.settle.rest = true at hink
    rw [hslash] at hink
    change (c.settle.rest.drop 1).head? = some '/' at hh
    cases hcs : c.settle.rest.drop 1 with
    | nil =>
      rw [hcs] at hh
      cases hh
    | cons e es =>
      rw [hcs] at hh hink
      cases hh
      simp [isInk, commentLength] at hink

/-- What an expression reads are pieces, with the brackets that the expression opens. -/
theorem Matches.covers (hs : p.isSound = true) (hn : p.nest? k = some k')
    (h : Matches p c (.done ts c')) : Covers c.rest (k' - k) c'.rest := by
  generalize hm : done ts c' = m at h
  replace hm := hm.symm
  induction h generalizing ts c' k k' with
  | terminal t c =>
    rw [← nest?_eq hn]
    exact t.read_covers hs hm
  | @token r t hb c =>
    obtain ⟨hr, rfl⟩ := nest?_rule hn
    have hs' := r.body_isSound hr
    have hn' := r.body_nest? hr
    rw [hb] at hs' hn'
    have := t.read_covers hs' hm
    rw [nest?_eq hn'] at this
    simpa using this
  | @rule r _ _ _ _ ih =>
    obtain ⟨hr, rfl⟩ := nest?_rule hn
    replace ih : ∀ {us d}, _ = done us d → Covers _ ((0 : Nat) - (0 : Nat)) d.rest :=
      ih (r.body_isSound hr) (r.body_nest? hr)
    rw [Int.sub_self] at ih ⊢
    obtain ⟨rfl, rfl⟩ | ⟨vs, rfl, _, rfl⟩ := under_eq_done hm <;> exact ih rfl
  | @seq a b c c1 _ _ ha hb iha ihb =>
    simp only [Peg.isSound, and_eq_true] at hs
    obtain ⟨vs, rfl, rfl⟩ := after_eq_done hm
    obtain ⟨k1, hka, hkb⟩ := nest?_seq hn
    have hd : (k' - k : Int) = (k1 - k) + (k' - k1) := by omega
    rw [hd]
    refine (iha hs.1.1 hka rfl).trans (ihb hs.1.2 hkb rfl) fun x y hx hy hne hl hstar => ?_
    rcases or_eq_true_iff.1 hs.2 with hend | hshun
    · have := ha.last ending_slash hs.1.1 (not_eq_true' _ ▸ hend) hx '/' hl
      cases this
    · obtain ⟨e, y, rfl⟩ := exists_cons_of_ne_nil hne
      cases hstar
      have hset : c1.settle = c1 := Cursor.settle_ink (by rw [hy]; rfl)
      cases hb.unique (.shun ['*'] hshun (by rw [hset, hy]; exact ⟨y ++ c'.rest, rfl⟩))
  | seqFailed => cases hm
  | first _ _ ih =>
    cases hm
    simp only [Peg.isSound, and_eq_true] at hs
    exact ih hs.1 (nest?_alt hn).1 rfl
  | second _ _ _ _ ih =>
    simp only [Peg.isSound, and_eq_true] at hs
    exact ih hs.2 (nest?_alt hn).2 (chosen_eq_done hm).1
  | more ha _ _ iha ihr =>
    obtain ⟨vs, rfl, rfl⟩ := after_eq_done hm
    obtain ⟨hka, rfl⟩ := nest?_many hn
    have hsa : _ ∧ _ := and_eq_true _ _ ▸ hs
    have := (iha hsa.1 hka rfl).trans (ihr hs hn rfl) fun x y hx _ _ hl _ => by
      have := ha.last ending_slash hsa.1 (not_eq_true' _ ▸ hsa.2) hx '/' hl
      cases this
    rwa [Int.sub_self] at this ⊢
  | still _ ih =>
    cases hm
    obtain ⟨hka, rfl⟩ := nest?_many hn
    exact ih (and_eq_true _ _ ▸ hs : _ ∧ _).1 hka rfl
  | present _ ih =>
    cases hm
    obtain ⟨hka, rfl⟩ := nest?_opt hn
    exact ih hs hka rfl
  | stop =>
    cases hm
    obtain ⟨-, rfl⟩ := nest?_many hn
    rw [Int.sub_self]
    exact .refl _
  | absent =>
    cases hm
    obtain ⟨-, rfl⟩ := nest?_opt hn
    rw [Int.sub_self]
    exact .refl _

/-! ## What follows a statement -/

def Peg.elseBranch : Peg := seq (rule .kwElse) (rule .childStatement)

/-- Can an expression end a statement? -/
def Peg.mayClose (p : Peg) : Bool := p.mayEnd (·.endsIn isEnd) Rule.isStatement

/-- Outside of brackets nothing but an `else` follows the end of a statement. -/
def Peg.isCalm : Peg → Nat → Bool
  | terminal _, _ => true
  | rule r, k => k != 0 || r != .childStatements
  | seq a b, k =>
    a.isCalm k &&
      (a.nest? k).any fun k' => b.isCalm k' && (k' != 0 || !a.mayClose || b == opt elseBranch)
  | alt a b, k => a.isCalm k && b.isCalm k
  | many a, k => a.isCalm k && (k != 0 || !a.mayClose)
  | opt a, k => a.isCalm k

theorem Rule.body_isCalm (hr : r.isInner = true) (h : r ≠ .childStatements) :
    r.body.isCalm 0 = true := by
  cases r <;> first | rfl | exact absurd rfl h | cases hr

def Remains (x : List Char) (k : Nat) : Prop :=
  x = [] ∧ k = 0 ∨ Pieces x (-k) ∧ ∃ l ∈ x.getLast?, isEnd l = true

theorem Remains.pieces (h : Remains x k) (hx : x ≠ []) : Pieces x (-k) ∧ ∀ u, Border x u := by
  rcases h with ⟨rfl, -⟩ | ⟨hp, l, hl, he⟩
  · exact absurd rfl hx
  · refine ⟨hp, fun u => ⟨fun hs => ?_, .inl ⟨l, hl, ?_⟩⟩⟩
    · cases Option.mem_unique hl hs
      cases he
    · rcases isEnd_iff.1 he with rfl | rfl <;> rfl

theorem Remains.tail {y : List Char} (h : Remains (y ++ x) k)
    (hp : x = [] ∧ k' = 0 ∨ Pieces x (-k')) : Remains x k' := by
  rcases hp with hp | hp
  · exact .inl hp
  · refine .inr ⟨hp, ?_⟩
    rcases h with ⟨hn, -⟩ | ⟨-, hl⟩
    · exact absurd (append_eq_nil_iff.1 hn).2 hp.ne_nil
    · rwa [getLast?_append_of_ne_nil y hp.ne_nil] at hl

theorem Remains.of_nil (h : Remains [] k) : k = 0 := by
  rcases h with ⟨-, hk⟩ | ⟨hp, -⟩
  · exact hk
  · exact absurd rfl hp.ne_nil

theorem Remains.mayClose (h : Remains x k) (hx : x ≠ []) {a : Peg} (hs : a.isSound = true)
    {pos' : Nat} (ha : Matches a ⟨pos, x ++ z⟩ (.done ts ⟨pos', [] ++ z⟩)) : a.mayClose = true := by
  by_contra hne
  rcases h with ⟨h, -⟩ | ⟨-, l, hl, hend⟩
  · exact hx h
  · have := ha.last ending_end hs (eq_false_iff.2 hne) (x := x) rfl l hl
    rw [hend] at this
    cases this

/-- What can come of reading in a statement when the text `z` after it is replaced by
`z'`: the same, or else the expression has gone past the end of the statement. -/
inductive Confined (p : Peg) (z z' : List Char) (d : Cursor) (k : Nat) : Reading → Prop
  | failed (h : Matches p d .failed) : Confined p z z' d k .failed
  | within {ts : List Tree} {pos : Nat} {x : List Char} (hx : Remains x k)
      (h : Matches p d (.done ts ⟨pos, x ++ z'⟩)) : Confined p z z' d k (.done ts ⟨pos, x ++ z⟩)
  | past {ts : List Tree} {e : Cursor} (hp : p.mayClose = true) (hk : k = 0)
      (he : e.rest.length < z.length) : Confined p z z' d k (.done ts e)

/-- No `else` branch comes in sight when the text after a statement is replaced. -/
def KeepsElse (z z' : List Char) : Prop :=
  ∀ pos, Matches .elseBranch ⟨pos, z⟩ .failed → Matches .elseBranch ⟨pos, z'⟩ .failed

theorem Terminal.read_confined {z' : List Char} (ht : t.isSound = true) {k' : Nat}
    (hk : t.turn = k' - k) (hx : Remains x k) (hn : x ≠ []) {name : String}
    (hm : ∀ c, Matches p c (t.read name c)) :
    Confined p z z' ⟨pos, x ++ z'⟩ k' (t.read name ⟨pos, x ++ z⟩) := by
  obtain ⟨hp, hb⟩ := hx.pieces hn
  have h' := hm ⟨pos, x ++ z'⟩
  rcases read_pieces ht hp name with hf | ⟨g, y, x', rfl, hx', -, hd⟩
  · rw [hf z (hb z)]
    rw [hf z' (hb z')] at h'
    exact .failed h'
  · rw [hd z (hb z)]
    rw [hd z' (hb z')] at h'
    refine .within ?_ h'
    rw [← append_assoc] at hx
    refine hx.tail ?_
    rw [hk] at hx'
    rcases hx' with ⟨rfl, he⟩ | hx'
    · exact .inl ⟨rfl, by omega⟩
    · have : (-k - (k' - k) : Int) = -k' := by omega
      rw [this] at hx'
      exact .inr hx'

/-- After the end of a statement an `else` branch goes past it. -/
theorem Matches.else_confined {z' : List Char} (he : KeepsElse z z') {m : Reading}
    (h : Matches (.opt .elseBranch) ⟨pos, z⟩ m) :
    Confined (.opt .elseBranch) z z' ⟨pos, z'⟩ 0 m := by
  cases h with
  | present ha => exact .past rfl rfl (ha.shortens rfl)
  | absent ha => exact .within (x := []) (.inl ⟨rfl, rfl⟩) (.absent (he pos ha))

/-- Reading in a statement does not depend on what follows the statement. Inside `j`
brackets the check on the expression is not needed. -/
theorem Matches.confined {z' : List Char} (he : KeepsElse z z') (hs : p.isSound = true)
    {j : Nat} (hn : p.nest? k = some k') (hc : j = 0 → p.isCalm k = true)
    (hx : Remains x (j + k)) (hx0 : x ≠ []) {m : Reading}
    (h : Matches p ⟨pos, x ++ z⟩ m) : Confined p z z' ⟨pos, x ++ z'⟩ (j + k') m := by
  generalize hcur : Cursor.mk pos (x ++ z) = c at h
  induction h generalizing x pos j k k' with
  | terminal t c =>
    subst hcur
    have ht := nest?_eq hn
    exact t.read_confined hs (by omega) hx hx0 (.terminal t)
  | @token r t hb c =>
    subst hcur
    obtain ⟨hr, rfl⟩ := nest?_rule hn
    have hs' := r.body_isSound hr
    have hn' := r.body_nest? hr
    rw [hb] at hs' hn'
    have ht := nest?_eq hn'
    exact t.read_confined hs' (by omega) hx hx0 (.token hb)
  | @rule r hb _ _ _ ih =>
    obtain ⟨hr, rfl⟩ := nest?_rule hn
    have hcalm : j + k' = 0 → r.body.isCalm 0 = true := by
      intro hz
      refine r.body_isCalm hr ?_
      have := hc (by omega)
      rw [isCalm, show k' = 0 by omega] at this
      simpa using this
    have ih := ih (r.body_isSound hr) (r.body_nest? hr) hcalm hx hx0 hcur
    cases ih with
    | failed h => exact .failed (.rule hb h)
    | @within ts _ _ hx' h =>
      cases ts with
      | nil => exact .within hx' (.rule hb h)
      | cons => exact .within hx' (.rule hb h)
    | @past ts _ hp hk hlt =>
      have hp' : (Peg.rule r).mayClose = true := by
        by_contra hne
        rw [mayClose, ending_end.rule hr (eq_false_iff.2 hne)] at hp
        cases hp
      cases ts with
      | nil => exact .past hp' hk hlt
      | cons => exact .past hp' hk hlt
  | @seq a b _ _ _ m ha hb iha ihb =>
    simp only [Peg.isSound, and_eq_true] at hs
    obtain ⟨k1, hka, hkb⟩ := nest?_seq hn
    have hcalm : j = 0 → a.isCalm k = true ∧ b.isCalm k1 = true ∧
        (k1 = 0 → a.mayClose = true → b = .opt .elseBranch) := by
      intro hj
      have := hc hj
      simp only [isCalm, hka, Option.any_some, and_eq_true, or_eq_true, bne_iff_ne,
        not_eq_true', beq_iff_eq] at this
      refine ⟨this.1, this.2.1, fun hk hcl => ?_⟩
      rcases this.2.2 with (h | h) | h
      · exact absurd hk h
      · rw [h] at hcl
        cases hcl
      · exact h
    have iha := iha hs.1.1 hka (fun hj => (hcalm hj).1) hx hx0 hcur
    cases iha with
    | @within ts pos' x' hx' ha' =>
      have ihb : Confined b z z' ⟨pos', x' ++ z'⟩ (j + k') m := by
        by_cases hx0' : x' = []
        · -- The first part has read the rest of the statement.
          subst hx0'
          have hk := hx'.of_nil
          rw [← hcur] at ha
          cases (hcalm (by omega)).2.2 (by omega) (hx.mayClose hx0 hs.1.1 ha)
          obtain ⟨-, rfl⟩ := nest?_opt hkb
          rw [hk]
          exact hb.else_confined he
        · exact ihb hs.1.2 hkb (fun hj => (hcalm hj).2.1) hx' hx0' rfl
      cases ihb with
      | failed hb' => exact .failed (.seq ha' hb')
      | within hx'' hb' => exact .within hx'' (.seq ha' hb')
      | past hp hk hlt => exact .past (by simp [mayClose, mayEnd] at hp ⊢; simp [hp]) hk hlt
    | past hp hk hlt =>
      have hb0 := (hcalm (by omega)).2.2 (by omega) hp
      subst hb0
      obtain ⟨-, rfl⟩ := nest?_opt hkb
      have hclose : (Peg.seq a (.opt .elseBranch)).mayClose = true := rfl
      cases hb with
      | present hb => exact .past hclose hk (Nat.lt_of_le_of_lt hb.rest_le hlt)
      | absent => exact .past hclose hk hlt
  | seqFailed _ ih =>
    simp only [Peg.isSound, and_eq_true] at hs
    obtain ⟨k1, hka, -⟩ := nest?_seq hn
    have hcalm : j = 0 → _ := fun hj => (and_eq_true_iff.1 (hc hj)).1
    have ih := ih hs.1.1 hka hcalm hx hx0 hcur
    cases ih with
    | failed h => exact .failed (.seqFailed h)
  | @first a b _ _ _ ha hts ih =>
    simp only [Peg.isSound, and_eq_true] at hs
    have ih := ih hs.1 (nest?_alt hn).1 (fun hj => (and_eq_true_iff.1 (hc hj)).1) hx hx0 hcur
    cases ih with
    | within hx' h => exact .within hx' (.first h hts)
    | past hp hk hlt => exact .past (or_eq_true_iff.2 (.inl hp)) hk hlt
  | @second a b _ _ _ ha hm hb iha ihb =>
    simp only [Peg.isSound, and_eq_true] at hs
    have iha := iha hs.1 (nest?_alt hn).1 (fun hj => (and_eq_true_iff.1 (hc hj)).1) hx hx0 hcur
    have ihb := ihb hs.2 (nest?_alt hn).2 (fun hj => (and_eq_true_iff.1 (hc hj)).2) hx hx0 hcur
    -- The first alternative gives nothing in both texts.
    obtain ⟨m1, ha', hm1⟩ : ∃ m1, Matches a ⟨pos, x ++ z'⟩ m1 ∧ m1.chosen = .failed := by
      cases iha with
      | failed h => exact ⟨_, h, rfl⟩
      | @within ts _ _ _ h =>
        cases ts with
        | nil => exact ⟨_, h, rfl⟩
        | cons => cases hm
      | @past ts e _ _ hlt =>
        cases ts with
        | cons => cases hm
        | nil =>
          rw [ha.idle_of_nil, ← hcur, length_append] at hlt
          omega
    cases ihb with
    | failed h => exact .failed (.second ha' hm1 h)
    | @within us _ _ hx' h =>
      have hsec := Matches.second ha' hm1 h
      cases us with
      | nil => exact .failed hsec
      | cons => exact .within hx' hsec
    | @past us _ hp hk hlt =>
      cases us with
      | nil =>
        rw [hb.idle_of_nil, ← hcur, length_append] at hlt
        omega
      | cons => exact .past (or_eq_true_iff.2 (.inr hp)) hk hlt
  | @more a _ _ _ _ ha hts hr iha ihr =>
    have hsa : _ ∧ _ := and_eq_true _ _ ▸ hs
    obtain ⟨hka, rfl⟩ := nest?_many hn
    have hcalm : j = 0 → a.isCalm k' = true ∧ (k' = 0 → a.mayClose = false) := by
      intro hj
      have := hc hj
      simp only [isCalm, and_eq_true, or_eq_true, bne_iff_ne, not_eq_true'] at this
      exact ⟨this.1, fun hk => this.2.resolve_left fun h => h hk⟩
    have iha := iha hsa.1 hka (fun hj => (hcalm hj).1) hx hx0 hcur
    cases iha with
    | @within ts pos' x' hx' ha' =>
      have h0' : x' ≠ [] := by
        rintro rfl
        have hk := hx'.of_nil
        rw [← hcur] at ha
        have hclose := hx.mayClose hx0 hsa.1 ha
        rw [(hcalm (by omega)).2 (by omega)] at hclose
        cases hclose
      have ihr := ihr hs hn hc hx' h0' rfl
      cases ihr with
      | failed hr' => exact .failed (.more ha' hts hr')
      | within hx'' hr' => exact .within hx'' (.more ha' hts hr')
      | past hp hk hlt => exact .past hp hk hlt
    | past hp hk hlt =>
      rw [(hcalm (by omega)).2 (by omega)] at hp
      cases hp
  | @still a _ _ ha ih =>
    have hsa : _ ∧ _ := and_eq_true _ _ ▸ hs
    obtain ⟨hka, rfl⟩ := nest?_many hn
    have ih := ih hsa.1 hka (fun hj => (and_eq_true_iff.1 (hc hj)).1) hx hx0 hcur
    cases ih with
    | within hx' h => exact .within hx' (.still h)
    | past hp hk hlt => exact .past hp hk hlt
  | @stop a _ _ ih =>
    have hsa : _ ∧ _ := and_eq_true _ _ ▸ hs
    obtain ⟨hka, rfl⟩ := nest?_many hn
    have ih := ih hsa.1 hka (fun hj => (and_eq_true_iff.1 (hc hj)).1) hx hx0 hcur
    cases ih with
    | failed h =>
      subst hcur
      exact .within hx (.stop h)
  | present _ ih =>
    obtain ⟨hka, rfl⟩ := nest?_opt hn
    have ih := ih hs hka hc hx hx0 hcur
    cases ih with
    | within hx' h => exact .within hx' (.present h)
    | past hp hk hlt => exact .past hp hk hlt
  | absent _ ih =>
    obtain ⟨hka, rfl⟩ := nest?_opt hn
    have ih := ih hs hka hc hx hx0 hcur
    cases ih with
    | failed h =>
      subst hcur
      exact .within hx (.absent h)

end Scad
