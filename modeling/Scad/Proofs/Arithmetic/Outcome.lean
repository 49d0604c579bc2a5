import Scad.Proofs.Arithmetic.Evaluation
import Scad.Proofs.Correspondence.Still

/-!
Programs that assign an expression to a variable: they can be loaded, and the
variable has the value of the expression.
-/

namespace Scad.Arithmetic

open Environment

open Scad (Tree Value World Run Perform FrameId ScopeId Task Fault)
open Eval Run Environment

/-! ## Reading a variable -/

section

variable {env : FrameId} {w : World} {name : String} {scope : ScopeId} {t : Tree}

theorem quiet_newFrame (scope : ScopeId) (env : FrameId) (w : World) :
    ∃ w', newFrame scope env w = .ok w.frames.size w' ∧ Quiet w.frames.size w' := by
  refine ⟨_, rfl, ?_⟩
  simp [Quiet, Array.getD_eq_getD_getElem?]

/-- Reading a variable for the first time evaluates its definition in a new environment. -/
theorem read_eval (depth : Nat) (hn : name ≠ "$children") (hs : slot env name w = .ok none w)
    (hf : ∀ perform, findDefinition perform env name w = .ok (.expr scope (.code t)) w) :
    ∃ inner start, Quiet inner start ∧
      (∀ v u, performWith depth (.eval inner (.code t)) start = .ok v u → ∃ after,
        performWith (depth + 1) (.read env name) w = .ok v after ∧ after.lists = u.lists) ∧
      ∀ e u, performWith depth (.eval inner (.code t)) start = .error e u → ∃ after,
        performWith (depth + 1) (.read env name) w = .error e after := by
  obtain ⟨w1, hbusy⟩ : ∃ w1, setSlot env name .busy w = .ok () w1 := ⟨_, rfl⟩
  obtain ⟨w2, hframe, hq⟩ := quiet_newFrame scope env w1
  have hdefine : define (performWith depth) env (.expr scope (.code t)) w1 =
      performWith depth (.eval _ (.code t)) w2 := bind_of_ok hframe
  have hread : performWith (depth + 1) (.read env name) w =
      ((define (performWith depth) env (.expr scope (.code t))).orUndo
        (clearSlot env name) >>= fun v => do
          setValue env name v
          return v) w1 := by
    change readVariable _ env name w = _
    rw [readVariable, if_neg hn]
    exact (bind_of_ok hs).trans ((bind_of_ok (hf _)).trans (bind_of_ok hbusy))
  rw [hread]
  refine ⟨_, w2, hq, fun v u h => ?_, fun e u h => ?_⟩
  · exact ⟨_, (bind_of_ok (orUndo_of_ok (hdefine.trans h))).trans rfl, rfl⟩
  · exact ⟨_, bind_of_error (orUndo_of_error (hdefine.trans h) rfl)⟩

theorem read_yields {o : Option Value} {need depth : Nat} (hn : name ≠ "$children")
    (hs : slot env name w = .ok none w)
    (hf : ∀ perform, findDefinition perform env name w = .ok (.expr scope (.code t)) w)
    (h : Yields need t o) (hd : need + 1 ≤ depth) : ∃ w', performWith depth (.read env name) w =
      o.elim (.error .moduloByZero w') (.ok · w') := by
  obtain ⟨depth, rfl⟩ := Nat.exists_eq_add_of_le' (Nat.le_trans (Nat.le_add_left 1 need) hd)
  obtain ⟨inner, start, hq, hok, herror⟩ := read_eval depth hn hs hf
  have heval := h depth inner start (by omega) hq
  cases o with
  | none => exact herror _ _ heval
  | some v =>
    obtain ⟨after, hafter, -⟩ := hok _ _ heval
    exact ⟨after, hafter⟩

end

/-! ## Loading a program -/

section

variable {t : Tree} {n : Nat} {w : World}

theorem declare_assignX {main : ScopeId} {w' : World}
    (h : Run.addVar main "x" (.code t) w = .ok () w') :
    declare main (t.assignX n) w = .ok .undef w' := by
  obtain ⟨k, hk⟩ : ∃ k, (t.assignX n).height = k + 2 := by
    refine ⟨(t.assignX n).height - 2, ?_⟩
    simp only [Tree.assignX, Tree.height, Tree.heightAll]
    omega
  have hstatement : Declare.declareWith (k + 1) main (.node "statement"
      [.node "assignment" [.leaf "Symbol" "x" 0, .leaf "" "=" 2, t, .leaf "" ";" n]]) w =
        .ok .undef w' := by
    rw [Declare.declareWith_succ]
    change (Run.addVar main "x" (.code t) >>= fun _ => Pure.pure Value.undef) w = _
    exact (bind_of_ok h).trans rfl
  have heach : Declare.each (Declare.declareWith (k + 1)) main
      [.node "statement" [.node "assignment"
        [.leaf "Symbol" "x" 0, .leaf "" "=" 2, t, .leaf "" ";" n]], .leaf "EOF" "" (n + 1)] w =
          .ok () w' := by
    refine (bind_of_ok hstatement).trans ?_
    rw [Declare.each, Declare.declareWith_succ]
    rfl
  rw [declare, hk, Declare.declareWith_succ]
  change (Declare.each (Declare.declareWith (k + 1)) main _ >>= fun _ =>
    Pure.pure Value.undef) w = _
  exact (bind_of_ok heach).trans rfl

/-- The new environment with one variable declared. -/
def withX (t : Tree) (w : World) : World :=
  { opened w with
    scopes := (opened w).scopes.modify (w.scopes.size + 1) fun s =>
      { s with vars := s.vars.put "x" (.expr (w.scopes.size + 2) (.code t)) } }

theorem addVar_opened (t : Tree) (w : World) :
    Run.addVar (w.scopes.size + 2) "x" (.code t) (opened w) = .ok () (withX t w) := by
  have hscope : scope (w.scopes.size + 1) (opened w) = .ok _ (opened w) :=
    congrArg (EStateM.Result.ok · (opened w)) (opened_declared w)
  refine (bind_of_ok (declaring_opened w)).trans ?_
  exact (bind_of_ok hscope).trans rfl

theorem slot_withX (t : Tree) (w : World) :
    slot w.frames.size "x" (withX t w) = .ok none (withX t w) := by
  have hslots : slots w.frames.size (withX t w) =
      .ok { named := initialValues } (withX t w) := by
    change EStateM.Result.ok ((opened w).tables.getD
      ((opened w).frames.getD w.frames.size default).table {}) (withX t w) = _
    rw [opened_frame, opened_slots]
  exact (bind_of_ok hslots).trans rfl

theorem findDefinition_withX (perform : Perform) (t : Tree) (w : World) :
    findDefinition perform w.frames.size "x" (withX t w) =
      .ok (.expr (w.scopes.size + 2) (.code t)) (withX t w) := by
  have hframe : frame w.frames.size (withX t w) = .ok _ (withX t w) :=
    congrArg (EStateM.Result.ok · (withX t w)) (opened_frame w)
  have hmain : (withX t w).scopes.getD (w.scopes.size + 2) default =
      { kind := .main, parents := [w.scopes.size + 1, w.scopes.size] } := by
    rw [← opened_main w, withX, Array.getD_eq_getD_getElem?, Array.getElem?_modify,
      if_neg (Nat.succ_ne_self _).symm, Array.getD_eq_getD_getElem?]
  have hdeclared : (withX t w).scopes.getD (w.scopes.size + 1) default =
      { kind := .block, parents := [w.scopes.size],
        vars := [("x", .expr (w.scopes.size + 2) (.code t))] } := by
    have hsize : w.scopes.size + 1 < (opened w).scopes.size := by
      simp [opened]
    have hopened := opened_declared w
    rw [Array.getD_eq_getD_getElem?, Array.getElem?_eq_getElem hsize, Option.getD_some] at hopened
    rw [withX, Array.getD_eq_getD_getElem?, Array.getElem?_modify, if_pos rfl,
      Array.getElem?_eq_getElem hsize, hopened]
    rfl
  refine (bind_of_ok hframe).trans ?_
  change demand (.unknownName "x") (Scope.search (withX t w).scopes (Scope.findVar? "x")
    ((w.scopes.size + 2) :: ((withX t w).scopes.getD (w.scopes.size + 2) default).parents))
      (withX t w) = _
  rw [hmain]
  simp only [Scope.search]
  rw [hmain, hdeclared]
  rfl

theorem load_assignX {text : String} (hp : parse text = .ok (t.assignX n)) (w : World) :
    load w.frames.size text (opened w) = .ok () (withX t w) := by
  have hparse := parseText_of_ok hp (opened w)
  have hscope : scopeOf w.frames.size (opened w) =
      .ok (w.scopes.size + 2) (opened w) :=
    congrArg (fun f : Frame => EStateM.Result.ok f.scope (opened w)) (opened_frame w)
  refine (bind_of_ok hparse).trans ((bind_of_ok hscope).trans ?_)
  exact (Run.bind_of_ok (declare_assignX (addVar_opened t w))).trans rfl

theorem load_program {k : Kind} (e : Expr k) (w : World) :
    load w.frames.size e.program (opened w) = .ok () (withX e.exprTree w) :=
  load_assignX e.parse_program w

/-- Reading the variable of a program with one assignment gives the value of its right side. -/
theorem read_assignX {text : String} {need : Nat} {o : Option Value}
    (hp : parse text = .ok (t.assignX n)) (h : Yields need t o) (w : World) :
    ∃ env loaded,
      (do
        let env ← create
        load env text
        return env) w = .ok env loaded ∧
      ∀ depth, need + 1 ≤ depth → ∃ after, performWith depth (.read env "x") loaded =
        o.elim (.error .moduloByZero after) (.ok · after) := by
  refine ⟨w.frames.size, withX t w, ?_, fun depth hd => ?_⟩
  · refine (Run.bind_of_ok (create_eq w)).trans ?_
    exact (Run.bind_of_ok (load_assignX hp w)).trans rfl
  · exact read_yields (by decide) (slot_withX t w) (findDefinition_withX · t w) h hd

/-- A program that assigns what is read as one primary expression, such as a literal. -/
theorem read_primary {s : String} {v : Value} (front : List Char) (hs : front <+: s.toList)
    (hi : isInky front = true) (hf : Peg.exprWords.all (·.shuns front) = true)
    (hm : ∀ c : Cursor, c.settle = ⟨4, s.toList ++ [';']⟩ →
      Matches (.rule .primary) c (.done [.node "primary" [t]] ⟨4 + s.length, [';']⟩))
    (hy : Yields 1 t (some v)) (w : World) :
    ∃ env loaded after,
      (do
        let env ← create
        load env ("x = " ++ s ++ ";")
        return env) w = .ok env loaded ∧
      Eval.perform (.read env "x") loaded = .ok v after := by
  have ht : ("x = " ++ s ++ ";").toList = 'x' :: ' ' :: '=' :: ' ' :: (s.toList ++ [';']) := by
    simp
  have hp : front <+: s.toList ++ [';'] := hs.trans (List.prefix_append _ _)
  have hc : Cursor.settle ⟨3, ' ' :: (s.toList ++ [';'])⟩ = ⟨4, s.toList ++ [';']⟩ := by
    rw [Cursor.settle_blank rfl, Cursor.settle_ink (isInk_of_isInky hi hp)]
  have hidle : Idle ⟨4 + s.length, [';']⟩ := .of_ink [';'] [] rfl _ rfl
  have hexpr : Matches (.rule .expr) ⟨3, ' ' :: (s.toList ++ [';'])⟩ (.done [.ofPrimary t] _) :=
    .expr_of_exprCase front (by rwa [hc]) hf (.exprCase_of_primary (hm _ hc) hidle)
  have hyields : Yields 2 t.ofPrimary (some v) := hy.atom.wrapFrom 8 0 (Nat.le_refl 8)
  obtain ⟨env, loaded, hload, hread⟩ := read_assignX (parse_assignX ht hexpr) hyields w
  obtain ⟨after, hafter⟩ := hread Eval.depthLimit (by decide)
  exact ⟨env, loaded, after, hload, hafter⟩

end

/-- A program that assigns an expression to `x` can be loaded into a new environment,
and reading `x` there gives the value of the expression, or the fault of a division
by zero if it has none. -/
theorem read_program {t : Ty} (e : Expr (.value t)) (w : World) :
    ∃ env loaded,
      (do
        let env ← create
        load env e.program
        return env) w = .ok env loaded ∧
      ∀ depth, e.need + 3 ≤ depth →
        ∃ after, Eval.performWith depth (.read env "x") loaded =
          e.meaning.elim (.error .moduloByZero after) fun m => .ok (Kind.toValue m) after := by
  refine ⟨w.frames.size, withX e.exprTree w, ?_, fun depth hd => ?_⟩
  · refine (Run.bind_of_ok (create_eq w)).trans ?_
    exact (Run.bind_of_ok (load_program e w)).trans rfl
  · obtain ⟨after, hafter⟩ := read_yields (by decide) (slot_withX e.exprTree w)
      (findDefinition_withX · e.exprTree w) e.yields_exprTree hd
    refine ⟨after, hafter.trans ?_⟩
    cases e.meaning <;> rfl

/-- The side with the division by zero is not taken. -/
def Expr.guarded : Expr (.value .int) :=
  .cond (.truth true) (.arith .mod (.num 7 [] (by decide)) (.neg (.num 2 [] (by decide))))
    (.arith .mod (.num 1 [] (by decide)) (.num 0 [] (by decide)))

theorem read_program_guarded :
    Expr.guarded.program = "x = true?7%-2:1%0;" ∧ Expr.guarded.need + 3 ≤ Eval.depthLimit ∧
      ∃ env loaded after,
        (do
          let env ← create
          load env Expr.guarded.program
          return env) {} = .ok env loaded ∧
        Eval.perform (.read env "x") loaded = .ok (.int (-1)) after := by
  have hneed : Expr.guarded.need + 3 ≤ Eval.depthLimit := by decide
  obtain ⟨env, loaded, hload, hread⟩ := read_program Expr.guarded {}
  obtain ⟨after, hafter⟩ := hread Eval.depthLimit hneed
  exact ⟨by decide, hneed, env, loaded, after, hload, hafter⟩

end Scad.Arithmetic
