import Scad.Proofs.Parsing.Steps
import Mathlib.Data.List.TakeWhile

/-!
Parsing loses and invents nothing: a text that is accepted consists of the terminals
of its tree, in order and each at the place that its leaf records, with nothing but
white space and comments around them. Alternatives that were tried and given up leave
no trace in the tree.
-/

namespace Scad

open List

variable {c c' : Cursor} {ts : List Tree}

/-! ## Gaps -/

/-- A comment, with what follows it. A comment after two slashes goes up to the end of
its line; one between marks ends at the first closing mark, on its own line. -/
inductive Comment : List Char → List Char → Prop
  | line {cs next : List Char} (h : ∀ c ∈ cs, c ≠ '\r' ∧ c ≠ '\n')
      (hn : ∀ c ∈ next.head?, c = '\r' ∨ c = '\n') : Comment ('/' :: '/' :: cs) next
  | block {cs next : List Char} (hl : '\n' ∉ cs) (hf : ¬['*', '/'] <:+: cs ++ ['*']) :
      Comment ('/' :: '*' :: (cs ++ ['*', '/'])) next

/-- White space and comments, with what follows them. -/
inductive Gap : List Char → List Char → Prop
  | nil {next : List Char} : Gap [] next
  | blank {c : Char} {cs next : List Char} (hc : Layout.isBlank c = true) (h : Gap cs next) :
      Gap (c :: cs) next
  | comment {cs ds next : List Char} (hc : Comment cs (ds ++ next)) (h : Gap ds next) :
      Gap (cs ++ ds) next

theorem Gap.blanks {cs ds : List Char} (next : List Char) (hc : ∀ c ∈ cs, Layout.isBlank c = true)
    (h : Gap ds next) : Gap (cs ++ ds) next := by
  induction cs with
  | nil => exact h
  | cons c cs ih =>
    obtain ⟨hc, hcs⟩ := forall_mem_cons.1 hc
    exact .blank hc (ih hcs)

namespace Layout

theorem untilClose_spec {cs : List Char} {n : Nat} (h : untilClose cs = some n) :
    ∃ ds, cs.take n = ds ++ ['*', '/'] ∧ '\n' ∉ ds ∧ ¬['*', '/'] <:+: ds ++ ['*'] := by
  fun_induction untilClose cs generalizing n with
  | case1 rest =>
    cases h
    refine ⟨[], rfl, not_mem_nil, ?_⟩
    intro hi
    have := hi.length_le
    simp at this
  | case2 => cases h
  | case3 c cs hs hc ih =>
    obtain ⟨m, hm, rfl⟩ := Option.map_eq_some_iff.1 h
    obtain ⟨ds, hd, hl, hf⟩ := ih hm
    refine ⟨c :: ds, by simp [hd], ?_, ?_⟩
    · simp [hl, Ne.symm hc]
    · rw [cons_append, infix_cons_iff]
      rintro (hp | hi)
      · -- The two marks would already stand at the front of the text.
        have hcs := take_append_drop m cs
        rw [hd] at hcs
        cases ds with
        | nil => simp at hp
        | cons d ds =>
          simp only [cons_append, cons_prefix_cons, nil_prefix, and_true] at hp
          exact hs _ hp.1.symm (by rw [← hcs, ← hp.2]; rfl)
      · exact hf hi
  | case4 => cases h

theorem commentLength_spec {cs : List Char} {n : Nat} (h : commentLength cs = some n) :
    Comment (cs.take n) (cs.drop n) := by
  unfold commentLength at h
  split at h
  · rename_i cs
    cases h
    have hw := Lexeme.countWhile_spec (fun c => c != '\r' && c != '\n') cs
    simp only [take_succ_cons, drop_succ_cons, hw.1, hw.2]
    refine .line (fun c hc => ?_) fun c hc => ?_
    · simpa using mem_takeWhile_imp hc
    · have := head?_dropWhile_not (fun c => c != '\r' && c != '\n') cs
      rw [Option.mem_def.1 hc] at this
      simpa [imp_iff_not_or] using this
  · rename_i cs
    obtain ⟨m, hm, rfl⟩ := Option.map_eq_some_iff.1 h
    obtain ⟨ds, hd, hl, hf⟩ := untilClose_spec hm
    rw [take_succ_cons, take_succ_cons, hd]
    exact .block hl hf
  · cases h

theorem skip_gap (bound : Nat) (cs : List Char) :
    Gap (cs.take (skip bound cs)) (cs.drop (skip bound cs)) := by
  have blanks : ∀ cs : List Char, ∀ c ∈ cs.take (Lexeme.countWhile isBlank cs),
    isBlank c = true := by
    intro cs c hc
    rw [(Lexeme.countWhile_spec isBlank cs).2] at hc
    exact mem_takeWhile_imp hc
  induction bound generalizing cs with
  | zero => simpa [skip] using Gap.blanks (cs.drop (skip 0 cs)) (blanks cs) .nil
  | succ bound ih =>
    simp only [skip]
    split
    · rename_i n hn
      have hc := commentLength_spec hn
      have hg := ih ((cs.drop (Lexeme.countWhile isBlank cs)).drop n)
      generalize skip bound _ = k at hg ⊢
      rw [← take_append_drop k (drop n _)] at hc
      have hr := Gap.blanks _ (blanks cs) (.comment hc hg)
      rw [Nat.add_assoc, take_add, take_add, ← drop_drop, ← drop_drop]
      exact hr
    · simpa using Gap.blanks (cs.drop (Lexeme.countWhile isBlank cs)) (blanks cs) .nil

end Layout

theorem Layout.length_gap (cs : List Char) : Gap (cs.take (length cs)) (cs.drop (length cs)) :=
  skip_gap _ _

/-! ## Terminals -/

mutual

/-- The terminals below a tree from left to right, each with its place. -/
def Tree.leaves : Tree → List (String × Nat)
  | leaf _ s p => [(s, p)]
  | node _ ts => leavesAll ts

def Tree.leavesAll : List Tree → List (String × Nat)
  | [] => []
  | t :: ts => t.leaves ++ leavesAll ts

end

theorem Tree.leavesAll_append (ts us : List Tree) :
    leavesAll (ts ++ us) = leavesAll ts ++ leavesAll us := by
  induction ts with
  | nil => rfl
  | cons t ts ih => simp [leavesAll, ih]

/-- From one place to another a text consists of the given terminals, each at its
place, with a gap in front of each. -/
inductive Woven : Cursor → List (String × Nat) → Cursor → Prop
  | nil {c : Cursor} : Woven c [] c
  | cons {pos : Nat} {g cs : List Char} {s : String} {ls : List (String × Nat)} {c : Cursor}
      (hg : Gap g (s.toList ++ cs)) (hs : s ≠ "")
      (h : Woven ⟨pos + g.length + s.length, cs⟩ ls c) :
      Woven ⟨pos, g ++ (s.toList ++ cs)⟩ ((s, pos + g.length) :: ls) c

theorem Woven.append {c'' : Cursor} {ls ms : List (String × Nat)} (h : Woven c ls c')
    (h' : Woven c' ms c'') : Woven c (ls ++ ms) c'' := by
  induction h with
  | nil => exact h'
  | cons hg hs _ ih => exact .cons hg hs (ih h')

theorem Terminal.woven {t : Terminal} {n : Nat} (h : t.length? c.settle.rest = some n)
    (ht : t.mayBeEmpty = false) :
    Woven c [(String.ofList (c.settle.rest.take n), c.settle.pos)] (c.settle.advance n) := by
  obtain ⟨pos, cs⟩ := c
  have hle : n ≤ (cs.drop (Layout.length cs)).length := length?_le h
  have hpos := length?_pos h ht
  have hg := Layout.length_gap cs
  have hl : (cs.take (Layout.length cs)).length = Layout.length cs :=
    length_take_of_le (Layout.length_le cs)
  simp only [Cursor.settle, Cursor.advance] at h ⊢
  generalize Layout.length cs = k at hle hg hl ⊢
  have hs : (String.ofList ((cs.drop k).take n)).toList ++ (cs.drop k).drop n = cs.drop k := by
    rw [String.toList_ofList, take_append_drop]
  have hw : Woven ⟨pos, cs.take k ++ ((String.ofList ((cs.drop k).take n)).toList ++
      (cs.drop k).drop n)⟩ [(String.ofList ((cs.drop k).take n), pos + (cs.take k).length)]
      ⟨pos + (cs.take k).length + (String.ofList ((cs.drop k).take n)).length,
        (cs.drop k).drop n⟩ := by
    refine .cons (by rwa [hs]) (fun he => ?_) .nil
    have := congrArg String.length he
    simp [length_take_of_le hle] at this
    omega
  rwa [hs, take_append_drop, hl, String.length_ofList, length_take_of_le hle] at hw

theorem Rule.body_within_nonempty {r : Rule} (hr : r ≠ .input) :
    r.body.Within (·.mayBeEmpty = false) (· ≠ .input) := by
  cases r with
  | input => exact absurd rfl hr
  | _ => simp [body, Peg.Within, Peg.all, Peg.any, Peg.word, Peg.lexeme, Peg.separated,
      Terminal.mayBeEmpty]

theorem Matches.woven {p : Peg} (hp : p.Within (·.mayBeEmpty = false) (· ≠ .input))
    (h : Matches p c (.done ts c')) : Woven c (Tree.leavesAll ts) c' := by
  refine h.induct_within (Q := fun c ts c' => Woven c (Tree.leavesAll ts) c')
    (fun r => Rule.body_within_nonempty) (fun c => .nil) (fun t c name n ht hn => ?_)
    (fun name c ts c' h => ?_) (fun c ts c' us c'' h h' => ?_) hp
  · exact t.woven hn ht
  · simpa [Tree.leavesAll, Tree.leaves] using h
  · rw [Tree.leavesAll_append]
    exact h.append h'

theorem Matches.input_inv (h : Matches (.rule .input) c (.done ts c')) : ∃ us d,
      Matches (.many (.any (.rule .includeFile) [.rule .useFile, .rule .statement])) c
        (.done us d) ∧ d.settle.rest = [] ∧
      ts = [.node "Input" (us ++ [.leaf "EOF" "" d.settle.pos])] := by
  generalize hm : Reading.done ts c' = m at h
  replace hm := hm.symm
  cases h with
  | token hb => cases hb
  | rule _ h =>
    obtain ⟨rfl, -⟩ | ⟨vs, rfl, _, rfl⟩ := Reading.under_eq_done hm
    all_goals
      generalize hm' : Reading.done _ c' = m' at h
      replace hm' := hm'.symm
      cases h with
      | seqFailed => cases hm'
      | @seq _ _ _ d us _ ha hb =>
        obtain ⟨ws, rfl, hvs⟩ := Reading.after_eq_done hm'
        generalize hm' : Reading.done _ c' = m' at hb
        replace hm' := hm'.symm
        cases hb
        obtain ⟨n, hn, rfl, -⟩ := Terminal.read_eq_done hm'
        have he : d.settle.rest = [] := by
          simp only [Terminal.length?] at hn
          split at hn
          · rename_i he
            simpa using he
          · cases hn
        first
        | simp at hvs
        | exact ⟨us, d, ha, he, by simp [hvs, he, Rule.name, Terminal.label]⟩

/-- A text that is accepted consists of the terminals of its tree in order, with gaps
around them; the last leaf marks the end of the text. -/
theorem parse_woven {text : String} {t : Tree} (h : parse text = .ok t) :
    ∃ ls c, t.leaves = ls ++ [("", text.length)] ∧ Woven (.start text) ls c ∧ Gap c.rest [] := by
  obtain ⟨ts, c', h⟩ := parseRule_eq_ok.1 h
  obtain ⟨us, c, hu, he, heq⟩ := h.input_inv
  obtain ⟨rfl, -⟩ := List.cons.inj heq
  have hw := hu.woven (by simp [Peg.Within, Peg.any])
  have hg := Layout.length_gap c.rest
  have hl : Layout.length c.rest = c.rest.length :=
    Nat.le_antisymm (Layout.length_le _) (List.drop_eq_nil_iff.1 he)
  refine ⟨_, c, ?_, hw, ?_⟩
  · have hp : c.settle.pos = text.length := by
      have := hu.place
      simp only [Cursor.start, String.length_toList] at this
      simp only [Cursor.settle, Cursor.advance]
      omega
    simp [Tree.leaves, Tree.leavesAll, Tree.leavesAll_append, hp]
  · simpa [hl] using hg

/-- Two assignments with comments and a line end around their parts. -/
theorem parse_woven_comments :
    ∃ t, parse "/* a */ x=1; // b\n y = x;" = .ok t ∧
      ∃ ls c, t.leaves = ls ++ [("", 25)] ∧
        Woven (.start "/* a */ x=1; // b\n y = x;") ls c ∧ Gap c.rest [] := by
  have h : (parse "/* a */ x=1; // b\n y = x;").isOk = true := by decide +kernel
  cases ht : parse "/* a */ x=1; // b\n y = x;" with
  | error e => simp [ht, Except.isOk, Except.toBool] at h
  | ok t => exact ⟨t, rfl, parse_woven ht⟩

end Scad
