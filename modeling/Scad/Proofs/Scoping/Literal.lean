import Scad.Proofs.Scoping.Children

/-!
Functions without a name. A literal that has parameters can be declared, but no call gets past
its parameter list, which has no meaning as an expression. One that has none is called like a
function of the same body that is declared where the literal stands.
-/

namespace Scad

open Run

namespace Eval

open Arithmetic (Quiet Gives evalNode_found evalNode_wrapped gives_child gives_size)

variable {env : FrameId} {w : World} {kw o c body : Tree} {depth : Nat}

theorem eval_parameters (us : List Tree) (w : World) :
    performWith (depth + 1) (.eval env (.code (.node "parameters" us))) w =
      .error (.noMeaning "parameters") w := rfl

theorem eval_literal (hq : Quiet env w) {ts : List Tree} :
    performWith (depth + 1) (.eval env (.code (.node "expr" [.node "expr_fn" ts]))) w =
      evalFound (performWith depth) env .exprFn (.code (.node "expr_fn" ts)) w := by
  have hexpr : ExprForm.ofRule? "expr" = some .expr := rfl
  have hfn : ExprForm.ofRule? "expr_fn" = some .exprFn := rfl
  exact (evalNode_wrapped _ hexpr rfl hq).trans (evalNode_found hfn Bool.noConfusion hq)

theorem literal_fails (us : List Tree) (hq : Quiet env w) : (performWith (depth + 2) (.eval env
      (.code (.node "expr" [.node "expr_fn" [kw, o, .node "parameters" us, c, body]])))).Fails w
        (.noMeaning "parameters") := by
  unfold Run.Fails
  rw [eval_literal hq]
  refine evalFound_fails (by decide) ?_
  refine ⟨w.raised env, ?_⟩
  have harity : Node.checkArity 4 5
    (.code (.node "expr_fn" [kw, o, .node "parameters" us, c, body]))
      (w.raised env) = .ok () (w.raised env) := rfl
  have hsize : Value.size (.code (.node "expr_fn" [kw, o, .node "parameters" us, c, body]))
      (w.raised env) = .ok 5 (w.raised env) := rfl
  have hchild : Node.child 2 (.code (.node "expr_fn" [kw, o, .node "parameters" us, c, body]))
      (w.raised env) = .ok (.code (.node "parameters" us)) (w.raised env) := rfl
  change evalFunction env _ _ _ = _
  unfold evalFunction
  rw [bind_of_ok harity, bind_of_ok hsize, if_pos rfl, bind_of_ok hchild,
    bind_of_error (eval_parameters us _)]

theorem literal_ok (hq : Quiet env w) : performWith (depth + 1)
      (.eval env (.code (.node "expr" [.node "expr_fn" [kw, o, c, body]]))) w =
        .ok (.function w.fresh (w.frameAt env).scope "‹noname›" (.named [] []) (.code body))
          { w with fresh := w.fresh + 1 } := by
  rw [eval_literal hq]
  refine Arithmetic.evalFound_ok (u := { w with fresh := w.fresh + 1 }) hq ?_
  obtain ⟨level, hlevel⟩ := w.frameAt_raised env env
  have hframe : frame env { w.raised env with fresh := w.fresh + 1 } =
      .ok { w.frameAt env with level := level }
        { w.raised env with fresh := w.fresh + 1 } :=
    congrArg (EStateM.Result.ok · _) hlevel
  have hident : newIdent (w.raised env) =
      .ok w.fresh { w.raised env with fresh := w.fresh + 1 } := rfl
  have harity : Node.checkArity 4 5 (.code (.node "expr_fn" [kw, o, c, body]))
      (w.raised env) = .ok () (w.raised env) := rfl
  have hsize : Value.size (.code (.node "expr_fn" [kw, o, c, body]))
      (w.raised env) = .ok 4 (w.raised env) := rfl
  have hchild : Node.child (-1) (.code (.node "expr_fn" [kw, o, c, body]))
      (w.raised env) = .ok (.code body) (w.raised env) := rfl
  change evalFunction env _ _ _ = _
  unfold evalFunction
  rw [bind_of_ok harity, bind_of_ok hsize, if_neg (by decide), pure_bind]
  exact (bind_of_ok hchild).trans ((bind_of_ok hident).trans
    ((bind_of_ok hframe).trans rfl))

theorem findCallee_found {name : String} {f : Callee}
    (h : lookupFunction (w.frameAt env).scope name w = .ok f w) (p : Perform) :
    findCallee p env name w = .ok f w := by
  unfold findCallee
  rw [frame_bind]
  exact orIfUnknown_of_ok h

/-- A variable that is declared by a function literal, called as a function. If the literal has
parameters, every call fails for want of a meaning of its parameter list. If it has none, the
call is that of a function declared in the same scope with the same body, but for the number
and the name of the function. -/
theorem call_of_literal (depth : Nat) (ps : List Tree) {scope : ScopeId} {name : String}
    {args : Args}
    (hps : ps = [] ∨ ∃ us, ps = [.node "parameters" us]) (hargs : checkNames args w = .ok () w)
    (hname : lookupFunction (w.frameAt env).scope name w = .ok (.deferred scope
      (.code (.node "expr" [.node "expr_fn" (kw :: o :: (ps ++ [c, body]))]))) w) :
    (ps ≠ [] →
      (performWith (depth + 3) (.apply env name args)).Fails w (.noMeaning "parameters")) ∧
    (ps = [] → performWith (depth + 3) (.apply env name args) w =
      callValue (performWith (depth + 2)) env
        (.function w.fresh scope "‹noname›" (.named [] []) (.code body)) args
        { entered w scope env with fresh := w.fresh + 1 }) := by
  have happly : performWith (depth + 3) (.apply env name args) w =
      (performWith (depth + 2) (.eval w.frames.size
        (.code (.node "expr" [.node "expr_fn" (kw :: o :: (ps ++ [c, body]))]))) >>=
        fun v => callValue (performWith (depth + 2)) env v args) (entered w scope env) := by
    change applyFunction _ env name args w = _
    unfold applyFunction
    rw [bind_of_ok hargs, bind_of_ok (findCallee_found hname _)]
    change (evalIn (performWith (depth + 2)) env scope _ >>= _) w = _
    unfold evalIn
    rw [bind_assoc, bind_of_ok (newFrame_entered w scope env)]
  have hinner := frameAt_entered w scope env
  have hquiet : Quiet w.frames.size (entered w scope env) := congrArg Frame.debug hinner
  rcases hps with rfl | ⟨us, rfl⟩
  · refine ⟨fun h => absurd rfl h, fun _ => happly.trans ?_⟩
    refine (bind_of_ok (literal_ok hquiet)).trans ?_
    rw [hinner]
    rfl
  · refine ⟨fun _ => ?_, fun h => by cases h⟩
    obtain ⟨w', hw'⟩ := literal_fails us hquiet
    exact ⟨w', happly.trans (bind_of_error hw')⟩

def assigned (name : String) (x : Tree) : World :=
  { Environment.opened {} with
    scopes := (Environment.opened {}).scopes.modify 1 fun s =>
      { s with vars := [(name, .expr 2 (.code x))] } }

/-- After `f = function (a) 1;` a call of `f` fails. -/
theorem call_of_literal_one : ∃ x : Tree,
    (performWith depthLimit (.apply 0 "f" ⟨[], []⟩)).Fails (assigned "f" x)
      (.noMeaning "parameters") := by
  let x : Tree := .node "expr" [.node "expr_fn" [.leaf "FUNCTION" "function" 4, .leaf "" "(" 13,
    .node "parameters" [.node "parameter_list" [.node "parameter" [.leaf "Symbol" "a" 14]]],
    .leaf "" ")" 15, .leaf "pr_Num" "1" 17]]
  refine ⟨x, ?_⟩
  generalize hw : assigned "f" x = w
  have hname : lookupFunction (w.frameAt 0).scope "f" w = .ok (.deferred 2 (.code x)) w := by
    subst hw
    rfl
  exact (call_of_literal 2997 [_] (.inr ⟨_, rfl⟩) rfl hname).1 (by simp)

end Eval
end Scad
