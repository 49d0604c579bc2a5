import Scad.Proofs.Arithmetic.Reading
import Scad.Proofs.Environment.Fresh

/-!
Trees whose evaluation leaves the world as it was, and what nodes do that only pass
a value on: wrappers of the levels of precedence, and brackets.
-/

/-- The world in which a node is evaluated: the level is one higher. -/
def Scad.World.raised (env : FrameId) (w : World) : World :=
  { w with frames := w.frames.modify env fun f => { f with level := f.level + 1 } }

namespace Scad.Arithmetic

open Scad (Tree Value World Run Perform FrameId Task Fault)
open Eval

variable {n : Value} {pos : Nat} {rule : String} {t : Tree}

/-! ## Computations that change nothing -/

/-- A computation gives a value, or divides by zero if there is none, and leaves the
world as it was. -/
def Gives {α : Type} (m : Run α) (w : World) (o : Option α) : Prop :=
  m w = o.elim (.error .moduloByZero w) (.ok · w)

namespace Gives

variable {α β : Type} {m : Run α} {f : α → Run β} {w : World} {o : Option α}

theorem unique {o' : Option α} (h : Gives m w o) (h' : Gives m w o') : o = o' := by
  have : o.elim (EStateM.Result.error Fault.moduloByZero w) (.ok · w) =
      o'.elim (.error .moduloByZero w) (.ok · w) := h.symm.trans h'
  cases o <;> cases o' <;> cases this <;> rfl

theorem pure (a : α) : Gives (Pure.pure a) w (some a) := rfl

theorem bind {g : α → Option β} (h : Gives m w o) (hf : ∀ a, o = some a → Gives (f a) w (g a)) :
    Gives (m >>= f) w (o.bind g) := by
  change EStateM.bind m f w = _
  unfold EStateM.bind
  rw [show m w = _ from h]
  cases o with
  | none => rfl
  | some a => exact hf a rfl

theorem step {a : α} {o' : Option β} (h : Gives m w (some a)) (hf : Gives (f a) w o') :
    Gives (m >>= f) w o' :=
  h.bind fun _ he => Option.some.inj he ▸ hf

theorem map {g : α → β} (h : Gives m w o) : Gives (g <$> m) w (o.map g) := by
  change EStateM.map g m w = _
  unfold EStateM.map
  rw [show m w = _ from h]
  cases o <;> rfl

end Gives

/-! ## Looking at trees -/

section

variable {w : World} {rule : String} {ts : List Tree} {t : Tree}

theorem gives_size (rule : String) (ts : List Tree) (w : World) :
    Gives (Value.size (.code (.node rule ts))) w (some ts.length) :=
  rfl

theorem gives_itemAt {α : Type} {xs : List α} {x : α} (kind : SequenceKind) (i : Nat)
    (h : xs[i]? = some x) : Gives (Value.itemAt kind xs (.int i)) w (some x) := by
  have hi : i < xs.length := (List.getElem?_eq_some_iff.1 h).1
  have hplace : Value.place? xs.length i = some i := by
    have hn : ¬(i : Int) < 0 := by omega
    have hb : (decide (0 ≤ (i : Int)) && decide ((i : Int) < xs.length)) = true := by simpa using hi
    simp only [Value.place?, if_neg hn, if_pos hb, Int.toNat_natCast]
  simp only [Value.itemAt, Value.int?, hplace, Option.bind_some, h]
  exact .pure x

theorem gives_child (i : Nat) (h : ts[i]? = some t) :
    Gives (Node.child i (.code (.node rule ts))) w (some (.code t)) :=
  (gives_itemAt .list i h).map

theorem gives_wordAt (i : Nat) {r s : String} (h : ts[i]? = some (.leaf r s pos)) :
    Gives (Node.wordAt i (.code (.node rule ts))) w (some (Text.ofString s)) :=
  (gives_child i h).step rfl

theorem gives_reaches (i : Nat) (rule : String) (ts : List Tree) (w : World) :
    Gives (Node.reaches i (.code (.node rule ts))) w (some (decide (i < ts.length))) :=
  rfl

end

theorem listItems?_ok (v : Value) (w : World) : ∃ vs, v.listItems? w = .ok vs w := by
  cases v with
  | code t => cases t <;> exact ⟨_, rfl⟩
  | node cell =>
    have hcell : Run.nodeCell cell w = .ok (w.nodes.getD cell default) w := rfl
    cases hc : w.nodes.getD cell default with
    | leaf r s p => exact ⟨none, Run.bind_of_ok (hc ▸ hcell)⟩
    | inner r vs => exact ⟨some vs, Run.bind_of_ok (hc ▸ hcell)⟩
  | _ => exact ⟨_, rfl⟩

/-! ## Nodes -/

/-- An environment that is not being debugged. -/
def Quiet (env : FrameId) (w : World) : Prop := (w.frames.getD env default).debug = false

section

variable {env : FrameId} {w : World} {form : ExprForm} {perform : Perform}

theorem Quiet.raised (h : Quiet env w) : Quiet env (w.raised env) := by
  simp only [Quiet, World.raised, Array.getD_eq_getD_getElem?, Array.getElem?_modify,
    if_true] at h ⊢
  cases hf : w.frames[env]? with
  | none => rfl
  | some f =>
    rw [hf] at h
    exact h

theorem lowered_raised (env : FrameId) (w : World) : { w.raised env with
      frames := (w.raised env).frames.modify env fun f =>
        { f with level := f.level - 1 } } = w := by
  have hframes : (w.raised env).frames.modify env (fun f => { f with level := f.level - 1 }) =
      w.frames := by
    refine Array.ext_getElem? fun i => ?_
    simp only [World.raised, Array.getElem?_modify]
    split
    · cases w.frames[i]? <;> rfl
    · rfl
  exact congrArg (fun frames => { w with frames := frames }) hframes

theorem tell_quiet {f : Frame} (h : f.debug = false) (rule : String) :
    tell f rule = Pure.pure () := by
  rw [Eval.tell, h]
  rfl

theorem evalNode_wrapped (perform : Perform)
    (hr : ExprForm.ofRule? rule = some form) (ht : form.transparent = true) (hq : Quiet env w) :
    evalNode perform env (.code (.node rule [t])) w = evalNode perform env (.code t) w := by
  have hlocate : locate (tell (w.frames.getD env default)) (t.height + 1)
      (.code (.node rule [t])) w =
        locate (tell (w.frames.getD env default)) t.height (.code t) w := by
    simp only [locate, Node.ruleName, Tree.rule, pure_bind, hr, tell_quiet hq, ht,
      Bool.true_and]
    rfl
  have hdepth : Node.depth (.code (.node rule [t])) = t.height + 1 := by
    simp [Node.depth, Tree.height, Tree.heightAll]
  change EStateM.bind (locate _ _ _) _ w = EStateM.bind (locate _ _ _) _ w
  unfold EStateM.bind
  rw [hdepth, hlocate]
  rfl

theorem performWith_wrapped {depth : Nat} (hr : ExprForm.ofRule? rule = some form)
    (ht : form.transparent = true) (hq : Quiet env w) :
    performWith depth (.eval env (.code (.node rule [t]))) w =
      performWith depth (.eval env (.code t)) w := by
  cases depth with
  | zero => rfl
  | succ depth => exact evalNode_wrapped _ hr ht hq

theorem performWith_wrapFrom {depth : Nat} (n least : Nat) (hl : least + n ≤ 8) (hq : Quiet env w) :
    performWith depth (.eval env (.code (wrapFrom least n t))) w =
      performWith depth (.eval env (.code t)) w := by
  induction n generalizing least with
  | zero => rfl
  | succ n ih =>
    refine .trans ?_ (ih (least + 1) (by omega))
    obtain rfl | rfl | rfl | rfl | rfl | rfl | rfl | rfl : least = 0 ∨ least = 1 ∨ least = 2 ∨
      least = 3 ∨ least = 4 ∨ least = 5 ∨ least = 6 ∨ least = 7 := by omega
    · exact (performWith_wrapped rfl rfl hq).trans (performWith_wrapped rfl rfl hq)
    all_goals exact performWith_wrapped rfl rfl hq

/-- The node is evaluated one level up, and the level goes back to what it was. -/
theorem evalFound_ok {v : Value} {u : World} (hq : Quiet env u)
    (h : evalForm perform env n form (w.raised env) = .ok v (u.raised env)) :
    evalFound perform env form n w = .ok v u := by
  have hreport : reporting n (evalForm perform env n form) (w.raised env) = .ok v (u.raised env) :=
    Run.tryCatch_of_ok h
  have hdown : Run.modifyFrame env (fun f => { f with level := f.level - 1 }) (u.raised env) =
      .ok () u := congrArg (EStateM.Result.ok ()) (lowered_raised env u)
  have hensure : Run.ensuring (reporting n (evalForm perform env n form))
      (Run.modifyFrame env fun f => { f with level := f.level - 1 }) (w.raised env) = .ok v u := by
    unfold Run.ensuring
    rw [hreport]
    exact Run.bind_of_ok hdown
  have hframe : Run.frame env u = .ok (u.frames.getD env default) u := rfl
  have hraise : Run.modifyFrame env (fun f => { f with level := f.level + 1 }) w =
      .ok () (w.raised env) := rfl
  have hdebug : (u.frames.getD env default).debug ≠ true := Bool.eq_false_iff.1 hq
  unfold evalFound
  rw [Run.bind_of_ok hraise, Run.bind_of_ok hensure, Run.bind_of_ok hframe, if_neg hdebug]
  rfl

/-- A fault of the form comes through. -/
theorem evalFound_error {e : Fault} {w' : World} (he : e.faultClass ≠ .arity)
    (h : evalForm perform env n form (w.raised env) = .error e w') :
    evalFound perform env form n w = .error e { w' with
      frames := w'.frames.modify env fun f => { f with level := f.level - 1 } } := by
  have hreport : reporting n (evalForm perform env n form) (w.raised env) = .error e w' :=
    (Run.tryCatch_of_error h).trans (congrFun (if_neg he) w')
  have hraise : Run.modifyFrame env (fun f => { f with level := f.level + 1 }) w =
      .ok () (w.raised env) := rfl
  refine (Run.bind_of_ok hraise).trans (Run.bind_of_error ?_)
  unfold Run.ensuring
  rw [hreport]
  rfl

theorem gives_evalFound {o : Option Value} (hq : Quiet env w)
    (h : Gives (evalForm perform env n form) (w.raised env) o) :
    Gives (evalFound perform env form n) w o := by
  cases o with
  | none =>
    refine (evalFound_error (by decide) h).trans ?_
    exact congrArg (EStateM.Result.error _) (lowered_raised env w)
  | some v => exact evalFound_ok hq h

theorem hasOneChild_code (t : Tree) : ∃ b, Node.hasOneChild (.code t) = Pure.pure b := by
  cases t with
  | leaf => exact ⟨false, rfl⟩
  | node rule ts =>
    rcases ts with _ | ⟨_, _ | _⟩
    · exact ⟨false, rfl⟩
    · exact ⟨true, rfl⟩
    · exact ⟨false, rfl⟩

section

variable {o : Option Value} (hr : ExprForm.ofRule? t.rule = some form)
  (ho : form.transparent = true → Node.hasOneChild (.code t) = Pure.pure false) (hq : Quiet env w)

include hr ho hq

theorem evalNode_found : evalNode perform env (.code t) w =
      evalFound perform env form (.code t) w := by
  have hlocate (tell : String → Run Unit) (ht : ∀ rule, tell rule = Pure.pure ()) (fuel : Nat) :
      locate tell (fuel + 1) (.code t) w = .ok (form, .code t) w := by
    simp only [locate, Node.ruleName, pure_bind, hr, ht]
    cases hf : form.transparent with
    | false =>
      obtain ⟨b, hb⟩ := hasOneChild_code t
      rw [hb]
      rfl
    | true =>
      rw [ho hf]
      rfl
  have hheight : ∃ k, Node.depth (.code t) = k + 1 := by
    cases t with
    | leaf => exact ⟨0, rfl⟩
    | node rule ts => exact ⟨Tree.heightAll ts, by simp [Node.depth, Tree.height]⟩
  obtain ⟨k, hk⟩ := hheight
  have hfound := hlocate _ (tell_quiet hq) k
  rw [← hk] at hfound
  change EStateM.bind (locate _ _ _) _ w = _
  unfold EStateM.bind
  rw [hfound]

theorem gives_evalNode (h : Gives (evalForm perform env (.code t) form) (w.raised env) o) :
    Gives (evalNode perform env (.code t)) w o :=
  (evalNode_found hr ho hq).trans (gives_evalFound hq h)

end

/-! ## Nodes of a known shape -/

section

variable (p : Perform) (env : FrameId) (t : Tree)

theorem evalForm_argument : evalForm p env (.code (.node "argument" [t])) .argument =
    p (.eval env (.code t)) >>= fun v => pure (.tuple [v]) := rfl

theorem evalForm_arguments : evalForm p env (.code (.node "arguments" [t])) .arguments =
    p (.eval env (.code t)) := rfl

theorem evalForm_sym (name : String) (pos : Nat) :
    evalForm p env (.code (.leaf "pr_Sym" name pos)) .sym = p (.read env name) := by
  change readName p env (.str (Text.ofString name)) = _
  rw [readName, Text.toString?_ofString]

/-- A primary expression with nothing applied to it. -/
theorem evalForm_call : evalForm p env (.code (.node "call" [.node "primary" [t]])) .call =
    p (.eval env (.code (.node "primary" [t]))) := by
  have hnamed : isNamedCall (.code (.node "call" [.node "primary" [t]])) = pure false := by
    change (if t.rule != "pr_Sym" then pure false else pure false : Run Bool) = _
    split <;> rfl
  change evalCall _ _ _ _ = _
  rw [evalCall, hnamed, pure_bind, if_neg Bool.false_ne_true]
  change p (.eval env (.code (.node "primary" [t]))) >>= _ = _
  exact (bind_congr fun v => funext fun w => rfl).trans (bind_pure _)

theorem evalForm_modCall (rule s : String) (pos : Nat) (opening closing : Tree) (rest : List Tree) :
    evalForm p env (.code (.node "mod_call" (.leaf rule s pos :: opening :: t :: closing :: rest)))
      .modCall = (do p (.instantiate env s (← argsOf p (← p (.eval env (.code t)))))) := by
  generalize hts : (.leaf rule s pos :: opening :: t :: closing :: rest : List Tree) = ts
  have hword : Node.wordAt 0 (.code (.node "mod_call" ts)) = pure (Text.ofString s) :=
    funext fun w => gives_wordAt 0 (by rw [← hts]; rfl)
  have hchild : Node.child 2 (.code (.node "mod_call" ts)) = pure (.code t) :=
    funext fun w => gives_child 2 (by rw [← hts]; rfl)
  have hsize : Value.size (.code (.node "mod_call" ts)) = pure (rest.length + 4) := hts ▸ rfl
  change evalModCall _ _ _ _ = _
  simp [evalModCall, argumentsAt, hword, hsize, hchild, Text.toString_ofString]

end

/-! ## Trees that have a value -/

/-- The value of a tree in every environment, if at least `need` tasks may be nested. -/
def Yields (need : Nat) (t : Tree) (o : Option Value) : Prop :=
  ∀ depth env w, need ≤ depth → Quiet env w →
    Gives (performWith depth (.eval env (.code t))) w o

namespace Yields

variable {need : Nat} {t : Tree} {o : Option Value}

theorem mono (h : Yields need t o) {more : Nat} (hm : need ≤ more) : Yields more t o :=
  fun depth env w hd hq => h depth env w (Nat.le_trans hm hd) hq

theorem wrapped {form : ExprForm} (hr : ExprForm.ofRule? rule = some form)
    (ht : form.transparent = true) (h : Yields need t o) : Yields need (.node rule [t]) o :=
  fun depth env w hd hq => (performWith_wrapped hr ht hq).trans (h depth env w hd hq)

theorem wrapFrom (n least : Nat) (h : Yields need t o) (hl : least + n ≤ 8) :
    Yields need (wrapFrom least n t) o :=
  fun depth env w hd hq => (performWith_wrapFrom n least hl hq).trans (h depth env w hd hq)

/-- A node is evaluated with one task less for what it leads to. -/
theorem ofForm {form : ExprForm} {ts : List Tree}
    (hr : ExprForm.ofRule? rule = some form)
    (ho : form.transparent = true → Node.hasOneChild (.code (.node rule ts)) = Pure.pure false)
    (h : ∀ depth env w, need ≤ depth → Quiet env w →
      Gives (evalForm (performWith depth) env (.code (.node rule ts)) form) w o) :
    Yields (need + 1) (.node rule ts) o := by
  intro depth env w hd hq
  obtain ⟨k, rfl⟩ := Nat.exists_eq_add_of_le' (Nat.le_trans (Nat.le_add_left 1 need) hd)
  exact gives_evalNode hr ho hq (h k env (w.raised env) (by omega) hq.raised)

theorem call (h : Yields need t o) : Yields (need + 1) (.node "call" [.node "primary" [t]]) o := by
  have hprimary : Yields need (.node "primary" [t]) o := wrapped rfl rfl h
  refine ofForm rfl Bool.noConfusion fun depth env w hd hq => ?_
  rw [evalForm_call]
  exact hprimary depth env w hd hq

theorem atom (h : Yields need t o) : Yields (need + 1) (atom t) o :=
  wrapped rfl rfl h.call

theorem paren {size : Nat} {t : Nat → Tree} (h : Yields need (t (pos + 1)) o) :
    Yields (need + 2) (paren size t pos) o := by
  have hparen : Yields (need + 1) (.node "pr_paren"
      [.leaf "" "(" pos, t (pos + 1), .leaf "" ")" (pos + 1 + size)]) o := by
    refine ofForm rfl (fun _ => rfl) fun depth env w hd hq => ?_
    exact (gives_child 1 rfl).step (h depth env w hd hq)
  exact hparen.atom

theorem bracketed {least level size : Nat} {t : Nat → Tree} (h : ∀ pos, Yields need (t pos) o)
    (hm : least ≤ 8) (hl : level ≤ 8) :
    Yields (need + 2) (bracketedTree least level size t pos) o := by
  unfold bracketedTree
  split
  · refine wrapFrom (8 - least) least (paren ?_) (by omega)
    exact (h _).wrapFrom level 0 (by omega)
  · exact ((h pos).mono (by omega)).wrapFrom (level - least) least (by omega)

end Yields

end

end Scad.Arithmetic
