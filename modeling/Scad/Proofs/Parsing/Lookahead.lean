import Scad.Proofs.Parsing.Steps

/-!
What cannot be matched where. An expression fails at a place where none of the
terminals stands that it may begin with. So a reading is put together from the
alternatives that are taken, without looking into the others.
-/

namespace Scad

open Cursor Matches List

variable {c : Cursor} {cs : List Char} {name text : String} {p : Peg} {pos : Nat}

/-- Every expression of the grammar has a reading at every place. -/
theorem Peg.exists_reading (hp : p.isTame = true) (c : Cursor) : ∃ m, Matches p c m := by
  have hx := run_ne_exhausted 0 (Nat.le_refl c.rest.length) hp (Nat.le_refl _)
  cases hm : p.run c.rest.length (p.rank + stepsPerChar * c.rest.length) c 0 with
  | exhausted => exact absurd hm hx
  | done ts c' far => exact ⟨_, run_sound (Nat.le_refl _) (by rw [hm]; rfl)⟩
  | failed far => exact ⟨_, run_sound (Nat.le_refl _) (by rw [hm]; rfl)⟩

/-- May an expression consume something where only the given terminals can stand?
Looks at most `depth` expressions deep. -/
def Peg.mayOpen (may : Terminal → Bool) : (depth : Nat) → Peg → Bool
  | 0, _ => true
  | _ + 1, terminal t => may t
  | depth + 1, rule r => r.body.mayOpen may depth
  | depth + 1, seq a b => a.mayOpen may depth || (a.mayBeEmpty && b.mayOpen may depth)
  | depth + 1, alt a b => a.mayOpen may depth || b.mayOpen may depth
  | depth + 1, many a | depth + 1, opt a => a.mayOpen may depth

section

variable {may : Terminal → Bool} (hc : ∀ t, may t = false → t.length? c.settle.rest = none)

include hc

/-- An expression that cannot begin at a place consumes nothing there. -/
theorem Matches.idle {depth : Nat}
    (hp : p.mayOpen may depth = false) {ts : List Tree} {c' : Cursor}
    (h : Matches p c (.done ts c')) : ts = [] ∧ c' = c := by
  have terminal : ∀ {name : String} {t : Terminal} {ts : List Tree} {c' : Cursor},
      may t = false → t.read name c ≠ .done ts c' := by
    intro name t ts c' ht h
    obtain ⟨n, hn, -⟩ := Terminal.read_eq_done h
    rw [hc t ht] at hn
    cases hn
  generalize hm : Reading.done ts c' = m at h
  replace hm := hm.symm
  induction h generalizing ts c' depth with
  | terminal t c =>
    cases depth with
    | zero => cases hp
    | succ => exact absurd hm (terminal hp)
  | @token r t hb c =>
    cases depth with
    | zero => cases hp
    | succ depth =>
      rw [Peg.mayOpen, hb] at hp
      cases depth with
      | zero => cases hp
      | succ => exact absurd hm (terminal hp)
  | rule _ _ ih =>
    cases depth with
    | zero => cases hp
    | succ depth =>
      obtain ⟨rfl, rfl⟩ | ⟨vs, rfl, hvs, rfl⟩ := Reading.under_eq_done hm
      · exact ih hc hp terminal rfl
      · exact absurd (ih hc hp terminal rfl).1 hvs
  | @seq a b c c1 _ _ ha _ iha ihb =>
    cases depth with
    | zero => cases hp
    | succ depth =>
      obtain ⟨vs, rfl, rfl⟩ := Reading.after_eq_done hm
      obtain ⟨hpa, hpb⟩ := Bool.or_eq_false_iff.1 hp
      obtain ⟨rfl, rfl⟩ := iha hc hpa terminal rfl
      cases he : a.mayBeEmpty with
      | false => exact absurd (ha.shortens he) (Nat.lt_irrefl _)
      | true =>
        rw [he, Bool.true_and] at hpb
        exact ihb hc hpb terminal rfl
  | seqFailed => cases hm
  | first _ hts ih =>
    cases depth with
    | zero => cases hp
    | succ depth => exact absurd (ih hc (Bool.or_eq_false_iff.1 hp).1 terminal rfl).1 hts
  | second _ _ _ _ ih =>
    cases depth with
    | zero => cases hp
    | succ depth =>
      obtain ⟨hm, hts⟩ := Reading.chosen_eq_done hm
      exact absurd (ih hc (Bool.or_eq_false_iff.1 hp).2 terminal hm).1 hts
  | more _ hts _ ih =>
    cases depth with
    | zero => cases hp
    | succ depth => exact absurd (ih hc hp terminal rfl).1 hts
  | still _ ih | present _ ih =>
    cases depth with
    | zero => cases hp
    | succ depth =>
      cases hm
      exact ih hc hp terminal rfl
  | stop | absent =>
    cases hm
    exact ⟨rfl, rfl⟩

theorem Matches.failed_of_mayOpen (ht : p.isTame = true)
    (he : p.mayBeEmpty = false) (hp : p.mayOpen may p.rank = false) : Matches p c .failed := by
  obtain ⟨m, h⟩ := Peg.exists_reading ht c
  cases m with
  | failed => exact h
  | done ts c' =>
    obtain ⟨-, rfl⟩ := h.idle hc hp
    exact absurd (h.shortens he) (Nat.lt_irrefl _)

end

theorem Matches.failed_of_nil (ht : p.isTame = true)
    (he : p.mayBeEmpty = false) (hc : c.rest = []) : Matches p c .failed := by
  obtain ⟨m, h⟩ := Peg.exists_reading ht c
  cases m with
  | failed => exact h
  | done ts c' =>
    have := h.shortens he
    simp [hc] at this

/-- Can a terminal stand before a text that begins like this? -/
def Terminal.mayStand (front : List Char) : Terminal → Bool
  | word text => text.toList.isPrefixOf front || front.isPrefixOf text.toList
  | lexeme .number => front.head?.any fun c => Lexeme.isDigit c || c == '.'
  | lexeme .symbol => front.head?.any fun c => Lexeme.isLetter c || c == '$'
  | lexeme .doubleQuoted => front.head? == some '"'
  | lexeme .singleQuoted => front.head? == some '\''
  | lexeme .path => front.head? == some '<'
  | finish => front.isEmpty

theorem Terminal.length?_of_mayStand {t : Terminal} {front : List Char}
    (hf : front ≠ []) (hc : front <+: cs) (h : t.mayStand front = false) : t.length? cs = none := by
  obtain ⟨c, front, rfl⟩ := exists_cons_of_ne_nil hf
  obtain ⟨ds, rfl⟩ := hc
  cases t with
  | word text =>
    have hn : ¬text.toList.isPrefixOf (c :: front ++ ds) = true := by
      intro hp
      rcases prefix_or_prefix_of_prefix ( isPrefixOf_iff_prefix.1 hp)
        (prefix_append (c :: front) ds) with hp | hp
      · rw [mayStand, isPrefixOf_iff_prefix.2 hp] at h
        cases h
      · rw [mayStand, isPrefixOf_iff_prefix.2 hp, Bool.or_true] at h
        cases h
    simp only [length?, hn]
    rfl
  | lexeme k =>
    cases k with
    | number =>
      simp only [mayStand, head?_cons, Option.any_some, Bool.or_eq_false_iff,
        beq_eq_false_iff_ne] at h
      simp [length?, Lexeme.length?, Lexeme.numberLength, Lexeme.countWhile, h]
    | symbol =>
      simp only [mayStand, head?_cons, Option.any_some, Bool.or_eq_false_iff,
        beq_eq_false_iff_ne] at h
      simp [length?, Lexeme.length?, Lexeme.symbolLength, Lexeme.identifierLength, h]
    | doubleQuoted | singleQuoted =>
      simp only [mayStand, head?_cons, beq_eq_false_iff_ne, ne_eq, Option.some.injEq] at h
      simp [length?, Lexeme.length?, Lexeme.quotedLength, h]
    | path =>
      simp only [mayStand, head?_cons, beq_eq_false_iff_ne, ne_eq, Option.some.injEq] at h
      simp [length?, Lexeme.length?, Lexeme.pathLength, h]
  | finish => rfl

/-- Does an expression fail before every text that begins like this? -/
def Peg.shuns (front : List Char) (p : Peg) : Bool :=
  !front.isEmpty && p.isTame && !p.mayBeEmpty && !p.mayOpen (·.mayStand front) p.rank

theorem Matches.shun (front : List Char) (hp : p.shuns front = true)
    (hc : front <+: c.settle.rest) : Matches p c .failed := by
  simp only [Peg.shuns, Bool.and_eq_true, Bool.not_eq_true', isEmpty_eq_false_iff] at hp
  obtain ⟨⟨⟨hf, ht⟩, he⟩, ho⟩ := hp
  exact failed_of_mayOpen (fun t => Terminal.length?_of_mayStand hf hc) ht he ho

/-! ## Putting readings together -/

namespace Layout

theorem length_blank {b : Char} (hb : isBlank b = true) :
    length (b :: cs) = length cs + 1 := by
  have h : ∀ n cs, skip n (b :: cs) = skip n cs + 1 := by
    intro n cs
    cases n with
    | zero => simp [skip, Lexeme.countWhile, hb]
    | succ n =>
      simp only [skip, Lexeme.countWhile, hb, if_true, drop_succ_cons]
      split <;> omega
  rw [length, h, skip_eq_length (by simp)]

/-- No layout stands at the front. -/
def isInk : List Char → Bool
  | [] => true
  | c :: cs => !isBlank c && (commentLength (c :: cs)).isNone

theorem length_ink (h : isInk cs = true) : length cs = 0 := by
  cases cs with
  | nil => rfl
  | cons c cs =>
    simp only [isInk, Bool.and_eq_true, Bool.not_eq_true', Option.isNone_iff_eq_none] at h
    simp [length, skip, Lexeme.countWhile, h]

end Layout

namespace Cursor

theorem settle_blank {b : Char} (hb : Layout.isBlank b = true) :
    settle ⟨pos, b :: cs⟩ = settle ⟨pos + 1, cs⟩ := by
  simp only [settle, advance, Layout.length_blank hb, drop_succ_cons, mk.injEq, and_true]
  omega

theorem settle_ink (h : Layout.isInk c.rest = true) : c.settle = c := by
  simp [settle, advance, Layout.length_ink h]

end Cursor

theorem Matches.shun_ink (front cs : List Char) (hp : p.shuns front = true)
    (hi : Layout.isInk (front ++ cs) = true) (pos : Nat) : Matches p ⟨pos, front ++ cs⟩ .failed :=
  .shun front hp (by rw [settle_ink hi]; exact prefix_append front cs)

theorem Terminal.read_word
    (h : c.settle = ⟨pos, text.toList ++ cs⟩) :
    (word text).read name c = .done [.leaf name text pos] ⟨pos + text.length, cs⟩ := by
  have hl : (word text).length? (text.toList ++ cs) = some text.length := by
    simp only [length?]
    rw [if_pos ( isPrefixOf_iff_prefix.2 (prefix_append _ _))]
  rw [read, h, hl]
  have hn : text.length = text.toList.length := String.length_toList.symm
  simp [advance, label, hn]

theorem Terminal.read_word_failed
    (h : ¬text.toList <+: c.settle.rest) : (word text).read name c = .failed := by
  simp only [read, length?]
  rw [if_neg (mt isPrefixOf_iff_prefix.1 h)]

theorem Terminal.prefix_of_read {c' : Cursor} {ts : List Tree}
    (h : (word text).read name c = .done ts c') : text.toList <+: c.settle.rest := by
  by_contra hp
  rw [read_word_failed hp] at h
  cases h

def Rule.isToken (r : Rule) : Bool :=
  match r.body with
  | .terminal _ => true
  | _ => false

theorem Rule.body_ne_terminal {r : Rule} (h : r.isToken = false) (t : Terminal) :
    r.body ≠ .terminal t := by
  intro hb
  rw [isToken, hb] at h
  cases h

namespace Matches

variable {a b : Peg} {c c' c'' : Cursor} {ts us : List Tree} {cs : List Char} {pos : Nat} {r : Rule}
  {text : String}

theorem word (h : c.settle = ⟨pos, text.toList ++ cs⟩) :
    Matches (.word text) c (.done [.leaf "" text pos] ⟨pos + text.length, cs⟩) := by
  have := terminal (.word text) c
  rwa [Terminal.read_word h] at this

theorem wordRule (hr : r.body = .word text) (h : c.settle = ⟨pos, text.toList ++ cs⟩) :
    Matches (.rule r) c (.done [.leaf r.name text pos] ⟨pos + text.length, cs⟩) := by
  have := token hr c
  rwa [Terminal.read_word h] at this

theorem of_read {t : Terminal} {m : Reading} (h : t.read "" c = m) : Matches (.terminal t) c m :=
  h ▸ .terminal t c

theorem word_failed (h : ¬text.toList <+: c.settle.rest) : Matches (.word text) c .failed :=
  .of_read (Terminal.read_word_failed h)

theorem wordRule_of_prefix (hr : r.body = .word text) (h : text.toList <+: c.settle.rest) :
    Matches (.rule r) c
      (.done [.leaf r.name text c.settle.pos] (c.settle.advance text.length)) := by
  obtain ⟨ds, hds⟩ := h
  have hd : c.settle.advance text.length = ⟨c.settle.pos + text.length, ds⟩ := by
    rw [advance, ← hds, ← String.length_toList, drop_left]
  rw [hd]
  exact .wordRule hr (by rw [hds])

theorem wordRule_failed (hr : r.body = .word text) (h : ¬text.toList <+: c.settle.rest) :
    Matches (.rule r) c .failed := by
  have := Matches.token hr c
  rwa [Terminal.read_word_failed h] at this

theorem node (hb : r.isToken = false) (h : Matches r.body c (.done ts c')) (hts : ts ≠ []) :
    Matches (.rule r) c (.done [.node r.name ts] c') := by
  have := rule (Rule.body_ne_terminal hb) h
  cases ts with
  | nil => exact absurd rfl hts
  | cons => exact this

theorem made (hb : r.isToken = false) (h : Matches r.body c (.done (t :: ts) c')) :
    Matches (.rule r) c (.done [.node r.name (t :: ts)] c') :=
  node hb h (cons_ne_nil t ts)

theorem nothing (hb : r.isToken = false) (h : Matches r.body c (.done [] c')) :
    Matches (.rule r) c (.done [] c') :=
  .rule (Rule.body_ne_terminal hb) h

theorem void (hb : r.isToken = false) (h : Matches r.body c .failed) :
    Matches (.rule r) c .failed :=
  .rule (Rule.body_ne_terminal hb) h

theorem both (ha : Matches a c (.done ts c')) (hb : Matches b c' (.done us c'')) :
    Matches (.seq a b) c (.done (ts ++ us) c'') :=
  .seq ha hb

theorem seqVoid (ha : Matches a c (.done ts c')) (hb : Matches b c' .failed) :
    Matches (.seq a b) c .failed :=
  .seq ha hb

theorem other (ha : Matches a c .failed) (hb : Matches b c (.done ts c')) (hts : ts ≠ []) :
    Matches (.alt a b) c (.done ts c') := by
  have := second ha rfl hb
  rwa [Reading.chosen_done hts] at this

theorem here (h : Matches a c (.done (t :: ts) c')) : Matches (.alt a b) c (.done (t :: ts) c') :=
  .first h (cons_ne_nil t ts)

theorem next (ha : Matches a c .failed) (hb : Matches b c (.done (t :: ts) c')) :
    Matches (.alt a b) c (.done (t :: ts) c') :=
  other ha hb (cons_ne_nil t ts)

theorem neither (ha : Matches a c .failed) (hb : Matches b c .failed) :
    Matches (.alt a b) c .failed :=
  .second ha rfl hb

theorem again (ha : Matches a c (.done ts c')) (hts : ts ≠ [])
    (hr : Matches (.many a) c' (.done us c'')) : Matches (.many a) c (.done (ts ++ us) c'') :=
  .more ha hts hr

theorem alone (ha : Matches a c (.done ts c')) (hd : Matches b c' .failed) :
    Matches (.separated a b) c (.done ts c') := by
  have := both (b := .many (.seq b a)) ha (.stop (.seqFailed hd))
  rwa [append_nil] at this

end Matches

/-! ## One assignment -/

/-- The tree of a program with one assignment to `x` whose right side ends at `n`. -/
def Tree.assignX (t : Tree) (n : Nat) : Tree :=
  .node "Input" [
    .node "statement" [
      .node "assignment" [.leaf "Symbol" "x" 0, .leaf "" "=" 2, t, .leaf "" ";" n]],
    .leaf "EOF" "" (n + 1)]

section

variable {cs : List Char}

theorem Cursor.settle_x (pos : Nat) :
    settle ⟨pos, 'x' :: ' ' :: '=' :: cs⟩ = ⟨pos, 'x' :: ' ' :: '=' :: cs⟩ :=
  settle_ink rfl

theorem Matches.shun_x (hp : p.shuns ['x', ' '] = true) (pos : Nat) :
    Matches p ⟨pos, 'x' :: ' ' :: '=' :: cs⟩ .failed :=
  .shun _ hp (by rw [settle_x]; exact ⟨'=' :: cs, rfl⟩)

theorem Matches.read_x {r : Rule} (hr : r.body = .lexeme .symbol) (pos : Nat) :
    Matches (.rule r) ⟨pos, 'x' :: ' ' :: '=' :: cs⟩
      (.done [.leaf r.name "x" pos] ⟨pos + 1, ' ' :: '=' :: cs⟩) := by
  have := token hr ⟨pos, 'x' :: ' ' :: '=' :: cs⟩
  rw [Terminal.read, settle_x] at this
  exact this

theorem Matches.stmtObj_x (pos : Nat) :
    Matches (.rule .stmtObj) ⟨pos, 'x' :: ' ' :: '=' :: cs⟩ .failed := by
  have hopen : Matches (.word "(") ⟨pos + 1, ' ' :: '=' :: cs⟩ .failed := by
    refine .shun ['='] rfl ?_
    rw [settle_blank rfl, settle_ink rfl]
    exact ⟨cs, rfl⟩
  have hcall : Matches (.rule .modCall) ⟨pos, 'x' :: ' ' :: '=' :: cs⟩ .failed :=
    .void rfl (.seqVoid (read_x rfl pos) (.seqFailed hopen))
  have shun : ∀ {p : Peg}, p.shuns ['x', ' '] = true →
      Matches p ⟨pos, 'x' :: ' ' :: '=' :: cs⟩ .failed := fun hp => shun_x hp pos
  refine .void rfl (.neither (shun rfl) (.void rfl ?_))
  exact .neither (shun rfl) <| .neither (shun rfl) <| .neither (shun rfl) <|
    .neither (shun rfl) <| .neither (shun rfl) <| .neither (shun rfl) <|
    .void rfl (.seqFailed hcall)

theorem Matches.assignment_x {m : Reading}
    (h : Matches (.seq (.rule .expr) (.word ";")) ⟨pos + 3, cs⟩ m) :
    Matches (.rule .assignment) ⟨pos, 'x' :: ' ' :: '=' :: cs⟩
      ((m.after [.leaf "Symbol" "x" pos, .leaf "" "=" (pos + 2)]).under "assignment") := by
  have heq : Matches (.word "=") ⟨pos + 1, ' ' :: '=' :: cs⟩
      (.done [.leaf "" "=" (pos + 2)] ⟨pos + 3, cs⟩) :=
    .word (by rw [settle_blank rfl, settle_ink rfl]; rfl)
  have := rule (r := .assignment) (Rule.body_ne_terminal rfl) (.seq (read_x rfl pos) (.seq heq h))
  cases m <;> exact this

theorem parse_assignX {t : Tree} {n : Nat}
    (ht : text.toList = 'x' :: ' ' :: '=' :: cs)
    (h : Matches (.rule .expr) ⟨3, cs⟩ (.done [t] ⟨n, [';']⟩)) :
    parse text = .ok (t.assignX n) := by
  have hend : Matches (.word ";") ⟨n, [';']⟩ (.done [.leaf "" ";" n] ⟨n + 1, []⟩) :=
    .word (settle_ink rfl)
  have hstmt := made (r := .statement) rfl
    (.next (.shun_x rfl 0) (.next (.stmtObj_x 0)
      (.here (.assignment_x (.both h hend)))))
  have hitems : Matches (.many (.any (.rule .includeFile) [.rule .useFile, .rule .statement]))
      ⟨0, 'x' :: ' ' :: '=' :: cs⟩ (.done [.node "statement" _] ⟨n + 1, []⟩) :=
    .again (.next (.shun_x rfl 0) (.next (.shun_x rfl 0) hstmt)) (cons_ne_nil _ _)
      (.stop (.failed_of_nil rfl rfl rfl))
  refine parseRule_eq_ok.2 ⟨[], ⟨n + 1, []⟩, ?_⟩
  rw [start, ht]
  exact .made rfl (.both hitems (.terminal .finish ⟨n + 1, []⟩))

/-- A program is refused if its first assignment is not ended where its right side ends. -/
theorem parse_assignX_error (ht : text.toList = 'x' :: ' ' :: '=' :: cs)
    (h : Matches (.seq (.rule .expr) (.word ";")) ⟨3, cs⟩ .failed) :
    ∃ e, parse text = .error e := by
  have hstmt := void (r := .statement) rfl
    (.neither (.shun_x rfl 0) (.neither (.stmtObj_x 0)
      (.neither (.assignment_x h) (.neither (.shun_x rfl 0) (.shun_x rfl 0)))))
  have hitems : Matches (.many (.any (.rule .includeFile) [.rule .useFile, .rule .statement]))
      ⟨0, 'x' :: ' ' :: '=' :: cs⟩ (.done [] ⟨0, 'x' :: ' ' :: '=' :: cs⟩) :=
    .stop (.neither (.shun_x rfl 0) (.neither (.shun_x rfl 0) hstmt))
  have hinput : Matches (.rule .input) (.start text) .failed := by
    have hfinish := terminal .finish ⟨0, 'x' :: ' ' :: '=' :: cs⟩
    rw [Terminal.read, settle_x] at hfinish
    rw [start, ht]
    exact .void rfl (.seqVoid hitems hfinish)
  cases hp : parse text with
  | error e => exact ⟨e, rfl⟩
  | ok t =>
    obtain ⟨ts, c, hm⟩ := parseRule_eq_ok.1 hp
    cases hinput.unique hm

end

end Scad
