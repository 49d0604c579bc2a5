import Scad.Proofs.Arithmetic.Rows

/-!
The trees of expressions evaluate to what the expressions mean.
-/

namespace Scad.Arithmetic

open Scad (Tree Value World Run Perform FrameId Task Fault)
open Kind Numeral List Nat

/-! ## Numerals -/

section

variable {ds : List (Fin 10)}

theorem value?_digitChar (d : Fin 10) : Digit.value? (digitChar d) = some d.val := by
  revert d
  decide

theorem readDigits_digitChar (ds : List (Fin 10)) {rest : List Char}
    (hr : ∀ n count, readDigits n count rest = (n, count, rest)) (n count : Nat) :
    readDigits n count (ds.map (fun (d : Fin 10) => digitChar d) ++ rest) =
      (ds.foldl (fun (n : Nat) (d : Fin 10) => 10 * n + d) n, count + ds.length, rest) := by
  have hscore : ∀ d : Fin 10, digitChar d ≠ '_' := by decide
  induction ds generalizing n count with
  | nil => exact hr n count
  | cons d ds ih =>
    have hd : isDigit (digitChar d) = true := by
      rw [isDigit, value?_digitChar]
      rfl
    have hv : n * 10 + digitValue (digitChar d) = 10 * n + d := by
      rw [digitValue, value?_digitChar, Option.getD_some, Nat.mul_comm]
    rw [map_cons, cons_append, readDigits.eq_3 _ _ _ _ fun _ _ h _ => hscore d h,
      if_pos hd, hv, ih, foldl_cons, length_cons, Nat.add_assoc, Nat.add_comm 1]

theorem trim_of_forall {cs : List Char} (h : ∀ c ∈ cs, Blank.isBlank c = false) :
    Blank.trim cs = cs := by
  have hkeep {cs : List Char} (h : ∀ c ∈ cs, Blank.isBlank c = false) :
      cs.dropWhile Blank.isBlank = cs := by
    cases cs with
    | nil => rfl
    | cons c cs => rw [dropWhile_cons, h c mem_cons_self, if_neg Bool.false_ne_true]
  rw [Blank.trim, hkeep h, hkeep fun c hc => h c (mem_reverse.1 hc), reverse_reverse]

theorem digitChar_not_blank {c : Char}
    (h : c ∈ ds.map fun (d : Fin 10) => digitChar d) : Blank.isBlank c = false := by
  have hblank : ∀ d : Fin 10, Blank.isBlank (digitChar d) = false := by decide
  obtain ⟨d, -, rfl⟩ := mem_map.1 h
  exact hblank d

theorem readSign_digitChar (d : Fin 10) (cs : List Char) :
    readSign (digitChar d :: cs) = (false, digitChar d :: cs) := by
  have : ∀ d : Fin 10, digitChar d ≠ '-' ∧ digitChar d ≠ '+' := by decide
  exact readSign.eq_3 _ (fun _ he => (this d).1 (cons.inj he).1)
    fun _ he => (this d).2 (cons.inj he).1

theorem int?_digitChar (d : Fin 10) (ds : List (Fin 10)) :
    int? (String.ofList ((d :: ds).map fun (d : Fin 10) => digitChar d)) =
      if ds.length < maxDigits then some (Expr.ofDigits (d :: ds) : Int) else none := by
  have hend (n count : Nat) : readDigits n count [] = (n, count, []) := rfl
  have hread := readDigits_digitChar (d :: ds) hend 0 0
  rw [append_nil, map_cons] at hread
  have hcount : (decide (0 + (d :: ds).length = 0) ||
      decide (maxDigits < 0 + (d :: ds).length)) = !decide (ds.length < maxDigits) := by
    simp only [length_cons, ← decide_not, ← Bool.decide_or, decide_eq_decide]
    omega
  rw [int?, String.toList_ofList, trim_of_forall fun _ => digitChar_not_blank, map_cons,
    readSign_digitChar]
  simp only [hread, hcount]
  by_cases hs : ds.length < maxDigits
  · rw [if_pos hs, decide_eq_true hs]
    rfl
  · rw [if_neg hs, decide_eq_false hs]
    rfl

end

/-! ## Expressions without an operator in front of others -/

namespace Yields

variable {need : Nat}

theorem leaf {rule s : String} {pos : Nat} {form : ExprForm} {v : Value}
    (hr : ExprForm.ofRule? rule = some form)
    (h : ∀ perform env w, Gives (Eval.evalForm perform env (.code (.leaf rule s pos)) form) w
      (some v)) :
    Yields 1 (.leaf rule s pos) (some v) := by
  intro depth env w hd hq
  obtain ⟨k, rfl⟩ := Nat.exists_eq_add_of_le' hd
  exact gives_evalNode hr (fun _ => rfl) hq (h _ _ _)

theorem num (d : Fin 10) (ds : List (Fin 10)) (short : ds.length < maxDigits) (pos : Nat) :
    Yields 2 ((Expr.num d ds short).tree pos) (some (.int (Expr.ofDigits (d :: ds)))) := by
  have htree : (Expr.num d ds short).tree pos =
      Arithmetic.atom (.leaf "pr_Num" (String.ofList (Expr.num d ds short).text) pos) := by
    rw [Expr.tree, Expr.row, Expr.level]
    rfl
  rw [htree]
  refine atom (leaf rfl fun perform env w => ?_)
  have hword : Gives (Node.word (.code (.leaf "pr_Num" (String.ofList (Expr.num d ds short).text)
      pos))) w (some (Text.ofString (String.ofList (Expr.num d ds short).text))) := rfl
  have hread : Gives (Eval.readNumber (Text.ofString (String.ofList (Expr.num d ds short).text))) w
      (some (.int (Expr.ofDigits (d :: ds)))) := by
    rw [Eval.readNumber, Text.toString_ofString, Expr.text, int?_digitChar d ds, if_pos short]
    rfl
  exact hword.step hread

theorem truth (b : Bool) (pos : Nat) : Yields 2 ((Expr.truth b).tree pos) (some (.bool b)) := by
  cases b with
  | true => exact atom (leaf rfl fun _ _ _ => rfl)
  | false => exact atom (leaf rfl fun _ _ _ => rfl)

theorem unary {α : Type} {t : Tree} {o : Option α} {inj : α → Value} {word : String} {pos : Nat}
    {g : α → Value} (h : Yields need t (o.map inj))
    (hop : ∀ x w, Gives (do
      if Text.ofString word = Text.ofString "+" then return inj x
      else if Text.ofString word = Text.ofString "-" then (inj x).negate
      else if Text.ofString word = Text.ofString "!" then return .bool !(← (inj x).truth)
      else throw .unknownOperator) w (some (g x))) :
    Yields (need + 1) (.node "unary" [.leaf "" word pos, t]) (o.map g) := by
  refine ofForm rfl (fun _ => rfl) fun depth env w hd hq => ?_
  have harity : Gives (Node.checkArity 1 2 (.code (.node "unary" [.leaf "" word pos, t]))) w
      (some ()) := rfl
  have hlast : Gives (Node.child (-1) (.code (.node "unary" [.leaf "" word pos, t]))) w
      (some (.code t)) := rfl
  rw [Option.map_eq_bind]
  refine harity.step (hlast.step ((h depth env w hd hq).bindMap fun x _ => ?_))
  refine (gives_size _ _ w).step ?_
  rw [if_neg (by simp)]
  refine (gives_wordAt 0 rfl).step ?_
  exact hop x w

theorem cond {c a b : Tree} {x : Option Bool} {oa ob : Option Value} {first second : Nat}
    (hc : Yields need c (x.map .bool)) (ha : Yields need a oa) (hb : Yields need b ob) :
    Yields (need + 1)
      (.node "expr" [.node "expr_case" [c, .leaf "" "?" first, a, .leaf "" ":" second, b]])
      (x.bind fun p => if p then oa else ob) := by
  refine wrapped rfl rfl (ofForm rfl (fun _ => rfl) fun depth env w hd hq => ?_)
  refine (gives_child 0 rfl).step ((hc depth env w hd hq).bindMap fun p _ => ?_)
  have harity : Gives (Node.checkArity 5 5 (.code (.node "expr_case"
      [c, .leaf "" "?" first, a, .leaf "" ":" second, b]))) w (some ()) := rfl
  have htruth : Gives (Value.truth (.bool p)) w (some p) := rfl
  refine (gives_size _ _ w).step ?_
  rw [if_neg (by simp)]
  refine harity.step (htruth.step ?_)
  cases p with
  | true =>
    refine (gives_child 2 rfl).step ?_
    exact ha depth env w hd hq
  | false =>
    refine (gives_child 4 rfl).step ?_
    exact hb depth env w hd hq

end Yields

/-! ## Levels of the kinds -/

def Family.level : Family → Nat
  | order => 4
  | equality => 3

theorem Test.level_sign {f : Family} (op : Test f) : op.sign.level = f.level := by
  cases op <;> rfl

/-- The operators before which an expression of a kind may be a row of its own. -/
def Kind.joins : Kind → Sign → Bool
  | value .int, s => s.level = 5 || s.level = 6
  | value .bool, s => s.level = 1 || s.level = 2
  | chain f, s => s.level = f.level

/-- At the end of a row the loop gives the value of the row. -/
theorem Kind.levelEnd_held {k : Kind} {s : Sign} (h : k.joins s = true) (m : k.Meaning) :
    (reached m).elim (some (.bool false)) (fun x => some (levelEnd s.level (held x))) =
      some (toValue m) := by
  cases k with
  | value y =>
    cases y with
    | int => cases s <;> first | rfl | cases h
    | bool => cases s <;> first | rfl | cases h
  | chain f =>
    cases m with
    | none => rfl
    | some n => cases f <;> cases s <;> first | rfl | cases h

namespace Expr

theorem level_chain {f : Family} (c : Expr (.chain f)) : c.level = f.level := by
  cases c with
  | test op a b => exact op.level_sign
  | more op front b => exact op.level_sign

theorem level_ne_chain (a : Expr (.value .int)) (f : Family) : a.level ≠ f.level := by
  cases a with
  | arith op a b =>
    have hop : op.sign.level ≠ f.level := by cases op <;> cases f <;> decide
    exact hop
  | num | neg | cond => cases f <;> simp [level, Family.level]

/-! ## All expressions -/

/-- A number of nested tasks that is enough to evaluate an expression. -/
def need : {k : Kind} → Expr k → Nat
  | _, num .. => 2
  | _, truth _ => 2
  | _, neg a => a.need + 3
  | _, not a => a.need + 3
  | _, arith _ a b => max a.need b.need + 3
  | _, logic _ a b => max a.need b.need + 3
  | _, test _ a b => max a.need b.need + 3
  | _, more _ a b => max a.need b.need + 3
  | _, holds c => c.need
  | _, cond c a b => max c.need (max a.need b.need) + 3

variable {k : Kind}

structure Evaluates (e : Expr k) : Prop where
  whole : ∀ pos, Yields e.need (e.tree pos) (e.meaning.map toValue)
  row : ∀ s : Sign, k.joins s = true → e.level = s.level →
    ∀ pos, Reaches e.need s.level e (e.row pos)

namespace Evaluates

variable {y : Ty}

theorem bracketed {a : Expr k} (ha : a.Evaluates) {least need : Nat} (hl : least ≤ 8)
    (hn : a.need + 2 ≤ need) (pos : Nat) :
    Yields need (bracketedTree least a.level a.text.length a.tree pos) (a.meaning.map toValue) :=
  (Yields.bracketed ha.whole hl a.readable.level_le).mono hn

theorem spine {a : Expr (.value y)} (ha : a.Evaluates) {s : Sign} {need : Nat}
    (hs : (value y).joins s = true ∨ a.level ≠ s.level) (hn : a.need + 2 ≤ need) (pos : Nat) :
    Reaches need s.level a (spine s.level a.level a.text.length a.row pos) := by
  have hle : s.level + 1 ≤ 8 := by cases s <;> decide
  unfold Expr.spine
  by_cases hl : a.level = s.level
  · rw [if_pos hl]
    exact (ha.row s (hs.resolve_right fun h => h hl) hl pos).mono (by omega)
  · rw [if_neg hl]
    exact .single (ha.bracketed hle hn pos)

theorem ofRow (s : Sign) {e : Expr k} {need : Nat} (hk : k.joins s = true)
    (hl : e.level = s.level) (hn : e.need = need + 1) (ht : ∀ pos, (e.row pos).tail ≠ [])
    (h : ∀ pos, Reaches need s.level e (e.row pos)) : e.Evaluates := by
  obtain ⟨h1, h6⟩ := s.level_bounds
  refine ⟨fun pos => ?_, fun s' _ hl' pos => ?_⟩
  · rw [hn, Expr.tree, Row.tree, hl, if_pos ⟨h1, h6⟩]
    exact (h pos).whole h1 h6 (ht pos) (levelEnd_held hk)
  · rw [hn, ← hl', hl]
    exact (h pos).mono (le_succ need)

theorem ofWhole {e : Expr k} (hl : e.level = 0 ∨ 7 ≤ e.level)
    (h : ∀ pos, Yields e.need (e.tree pos) (e.meaning.map toValue)) : e.Evaluates := by
  refine ⟨h, fun s _ hs => ?_⟩
  obtain ⟨h1, h6⟩ := s.level_bounds
  omega

end Evaluates

theorem evaluates (e : Expr k) : e.Evaluates := by
  induction e with
  | num d ds short => exact .ofWhole (.inr (by simp [level])) (Yields.num d ds short)
  | truth b => exact .ofWhole (.inr (by simp [level])) (Yields.truth b)
  | neg a iha =>
    refine .ofWhole (.inr (by simp [level])) fun pos => ?_
    rw [meaning_neg, Option.map_map]
    exact Yields.unary (iha.bracketed (le_refl 8) (le_refl _) (pos + 1)) fun m w => rfl
  | not a iha =>
    refine .ofWhole (.inr (by simp [level])) fun pos => ?_
    rw [meaning_not, Option.map_map]
    exact Yields.unary (iha.bracketed (le_refl 8) (le_refl _) (pos + 1)) fun m w => rfl
  | arith op a b iha ihb =>
    have hk : (value .int).joins op.sign = true := by cases op <;> rfl
    have hle : op.sign.level + 1 ≤ 8 := by cases op <;> decide
    refine .ofRow op.sign hk rfl rfl (fun _ => concat_ne_nil _ _) fun pos => ?_
    exact (iha.spine (.inl hk) (by omega) pos).arith op _ (ihb.bracketed hle (by omega) _)
  | logic op a b iha ihb =>
    have hk : (value .bool).joins op.sign = true := by cases op <;> rfl
    have hle : op.sign.level + 1 ≤ 8 := by cases op <;> decide
    refine .ofRow op.sign hk rfl rfl (fun _ => concat_ne_nil _ _) fun pos => ?_
    exact (iha.spine (.inl hk) (by omega) pos).logic op _ (ihb.bracketed hle (by omega) _)
  | test op a b iha ihb =>
    have hk : (chain _).joins op.sign = true := decide_eq_true op.level_sign
    have hle : op.sign.level + 1 ≤ 8 := by cases op <;> decide
    have hne : a.level ≠ op.sign.level := by
      rw [op.level_sign]
      exact level_ne_chain a _
    refine .ofRow op.sign hk rfl rfl (fun _ => concat_ne_nil _ _) fun pos => ?_
    exact (iha.spine (.inr hne) (by omega) pos).test op _ (ihb.bracketed hle (by omega) _)
  | more op front b ihf ihb =>
    have hk : (chain _).joins op.sign = true := decide_eq_true op.level_sign
    have hle : op.sign.level + 1 ≤ 8 := by cases op <;> decide
    have hl : front.level = op.sign.level := by
      rw [op.level_sign]
      exact level_chain front
    refine .ofRow op.sign hk rfl rfl (fun _ => concat_ne_nil _ _) fun pos => ?_
    -- The front has the level of the operator, so its row goes on.
    have hfront : Reaches (max front.need b.need + 2) op.sign.level front
        (spine op.sign.level front.level front.text.length front.row pos) := by
      rw [spine, if_pos hl]
      exact (ihf.row op.sign hk hl pos).mono (by omega)
    exact hfront.more op _ (ihb.bracketed hle (by omega) _)
  | @holds f c ih =>
    refine ⟨fun pos => ?_, fun s hk hl => ?_⟩
    · rw [meaning_holds, Option.map_map]
      exact ih.whole pos
    · have hchain : s.level = f.level := hl.symm.trans c.level_chain
      have hbool : s.level = 1 ∨ s.level = 2 := by simpa [joins] using hk
      cases f <;> simp only [Family.level] at hchain <;> omega
  | cond c a b ihc iha ihb =>
    refine .ofWhole (.inl rfl) fun pos => ?_
    have hmeaning : (cond c a b).meaning.map toValue = c.meaning.bind fun p : Bool =>
        if p then a.meaning.map toValue else b.meaning.map toValue := by
      rw [meaning_cond]
      cases c.meaning with
      | none => rfl
      | some p => cases p <;> rfl
    rw [hmeaning]
    exact Yields.cond (ihc.bracketed (by omega) (by omega) _)
      (iha.bracketed (by omega) (by omega) _)
      (ihb.bracketed (by omega) (by omega) _)

theorem yields_exprTree (e : Expr k) : Yields (e.need + 2) e.exprTree (e.meaning.map toValue) :=
  e.evaluates.bracketed (zero_le 8) (le_refl _) 4

end Expr

end Scad.Arithmetic
