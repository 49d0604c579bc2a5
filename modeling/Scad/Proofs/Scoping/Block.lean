import Scad.Proofs.Arithmetic.Evaluation
import Scad.Proofs.Scoping.Parameter

/-!
Statements that need a name. A statement of a block is built in an environment that shares the
scope and the values of the one that builds it, so it fails if that one knows nothing of a name
the statement needs, whatever the block declares.
-/

namespace Scad

open ExprForm (ofRule?)

open Run Scad.Tree

variable {id : ScopeId} {name rule s : String} {t : Tree} {w : World}

/-! ## Faults that come through -/

def Run.Fails {α : Type} (m : Run α) (w : World) (e : Fault) : Prop := ∃ w', m w = .error e w'

namespace Run.Fails

variable {α β : Type} {m : Run α} {f : α → Run β} {w : World} {e : Fault}

theorem bind (h : m.Fails w e) : (m >>= f).Fails w e := by
  obtain ⟨w', h⟩ := h
  exact ⟨w', bind_of_error h⟩

theorem after {a : α} {w' : World} (h : m w = .ok a w') (hf : (f a).Fails w' e) :
    (m >>= f).Fails w e := by
  obtain ⟨w'', hf⟩ := hf
  exact ⟨w'', (bind_of_ok h).trans hf⟩

theorem result (h : m.Fails w e) : m.result w = .error e := by
  obtain ⟨w', h⟩ := h
  unfold Run.result
  rw [h]

end Run.Fails

/-! ## Names that are missing -/

theorem World.seek_self {α : Type} {ask : Scope → Option α} {a : α}
    (h : ask (w.scopeAt id) = some a) : w.seek id ask = some a := by
  unfold World.seek Scope.search
  rw [show ask (w.scopes.getD id default) = some a from h]

/-- Neither the values of an environment nor a scope around it know the name. -/
structure World.Lacks (w : World) (name : String) (e : FrameId) : Prop where
  slot : (w.slotsAt e).named.find? name = none
  scope : w.seek (w.frameAt e).scope (Scope.findVar? name) = none

theorem World.frameAt_raised (w : World) (env e : FrameId) :
    ∃ level, (w.raised env).frameAt e = { w.frameAt e with level := level } := by
  unfold World.raised World.frameAt
  rw [getD_modify]
  split
  · exact ⟨_, rfl⟩
  · exact ⟨_, rfl⟩

theorem World.Lacks.raised {e : FrameId} (h : w.Lacks name e)
    (env : FrameId) : (w.raised env).Lacks name e := by
  obtain ⟨level, hf⟩ := w.frameAt_raised env e
  refine ⟨?_, ?_⟩
  · unfold World.slotsAt
    rw [hf]
    exact h.slot
  · rw [hf]
    exact h.scope

/-! ## Expressions that are one word -/

/-- The rule and the text of a word with nothing applied to it. -/
def Tree.bareWord? : Tree → Option (String × String)
  | .node "primary" [.leaf rule s _] => some (rule, s)
  | _ => none

/-- The rule and the text of the word that an expression consists of. -/
def Tree.word? : Tree → Option (String × String)
  | .leaf _ _ _ => none
  | .node rule ts =>
    match ts with
    | [t] =>
      if rule = "call" then t.bareWord?
      else if (ofRule? rule).any ExprForm.transparent then t.word? else none
    | _ => none

/-- The name and the argument of a module call with one argument. -/
def Tree.onlyArgument? : Tree → Option (String × Tree)
  | .node "mod_call" [.leaf _ name _, _, .node "arguments" [.node "argument_list"
      [.node "argument" [t]]], _] => some (name, t)
  | _ => none

theorem Tree.onlyArgument?_eq_some {call : Tree}
    (h : call.onlyArgument? = some (name, t)) :
    ∃ rule pos opening closing, call = .node "mod_call" [.leaf rule name pos, opening,
      .node "arguments" [.node "argument_list" [.node "argument" [t]]], closing] := by
  unfold onlyArgument? at h
  split at h
  · cases h
    exact ⟨_, _, _, _, rfl⟩
  · cases h

theorem Tree.bareWord?_eq_some (h : t.bareWord? = some (rule, s)) :
    ∃ pos, t = .node "primary" [.leaf rule s pos] := by
  unfold bareWord? at h
  split at h
  · cases h
    exact ⟨_, rfl⟩
  · cases h

theorem Tree.word?_eq_some (h : t.word? = some (rule, s)) :
    (∃ pos, t = .node "call" [.node "primary" [.leaf rule s pos]]) ∨
      ∃ r form u, t = .node r [u] ∧ ofRule? r = some form ∧ form.transparent = true ∧
        u.word? = some (rule, s) := by
  cases t with
  | leaf => cases h
  | node r ts =>
    rcases ts with _ | ⟨u, _ | _⟩
    · cases h
    · rw [word?] at h
      split at h
      · rename_i hr
        subst hr
        obtain ⟨pos, rfl⟩ := bareWord?_eq_some h
        exact .inl ⟨pos, rfl⟩
      · split at h
        · rename_i ht
          obtain ⟨form, hform, ht⟩ := (Option.any_eq_true _ _).1 ht
          exact .inr ⟨r, form, u, rfl, hform, ht, h⟩
        · cases h
    · cases h

theorem Tree.height_lt_only (r : String) (t : Tree) : t.height < (node r [t]).height := by
  rw [height]
  exact Nat.lt_succ_of_le (height_le_heightAll (List.mem_singleton.2 rfl))

namespace Eval

open Arithmetic

section

variable {env : FrameId} {w : World} {e : Fault} {form : ExprForm} {p : Perform} {n : Value}

theorem evalFound_fails (he : e.faultClass ≠ .arity)
    (h : (evalForm p env n form).Fails (w.raised env) e) :
    (evalFound p env form n).Fails w e := by
  obtain ⟨w', h⟩ := h
  exact ⟨_, evalFound_error he h⟩

theorem eval_fails {depth : Nat} (hr : ofRule? t.rule = some form)
    (ho : form.transparent = true → Node.hasOneChild (.code t) = pure false) (hq : Quiet env w)
    (he : e.faultClass ≠ .arity)
    (h : (evalForm (performWith depth) env (.code t) form).Fails (w.raised env) e) :
    (performWith (depth + 1) (.eval env (.code t))).Fails w e := by
  obtain ⟨w', h⟩ := evalFound_fails he h
  exact ⟨w', (evalNode_found hr ho hq).trans h⟩

end

theorem eval_word (h : t.word? = some (rule, s)) :
    ∃ pos, ∀ depth env w, Quiet env w → performWith depth (.eval env (.code t)) w =
      performWith depth
        (.eval env (.code (.node "call" [.node "primary" [.leaf rule s pos]]))) w := by
  induction hh : t.height using Nat.strongRecOn generalizing t with
  | ind height ih =>
    subst hh
    obtain ⟨pos, rfl⟩ | ⟨r, form, u, rfl, hr, ht, hu⟩ := word?_eq_some h
    · exact ⟨pos, fun _ _ _ _ => rfl⟩
    · obtain ⟨pos, heval⟩ := ih _ (height_lt_only r u) hu rfl
      refine ⟨pos, fun depth env w hq => ?_⟩
      rw [← heval depth env w hq]
      cases depth with
      | zero => rfl
      | succ depth => exact evalNode_wrapped _ hr ht hq

/-- Arguments without names, each with its comma, are collected if they give their values. -/
theorem collectArguments_past {env : FrameId} {w : World} {sub : Sub} {ts rest : List Tree}
    {before : List (Tree × Tree × Value)} (fuel : Nat) (front : List Tree) (pos : List Value)
    (hbefore : ∀ x ∈ before, Gives (sub (.code x.1)) w (some (.tuple [x.2.2])))
    (hts : ts = front ++ (before.flatMap (fun x => [x.1, x.2.1]) ++ rest)) :
    collectArguments env sub (.code (.node rule ts)) (before.length + fuel) front.length pos [] w =
      collectArguments env sub (.code (.node rule ts)) fuel (front.length + 2 * before.length)
        (pos ++ before.map (·.2.2)) [] w := by
  induction before generalizing front pos with
  | nil => simp
  | cons x before ih =>
    obtain ⟨u, comma, v⟩ := x
    obtain ⟨hu, hbefore⟩ := List.forall_mem_cons.1 hbefore
    have hat : ts[front.length]? = some u := by simp [hts]
    have hlt := (List.getElem?_eq_some_iff.1 hat).1
    have hreaches : Gives (Node.reaches front.length (.code (.node rule ts))) w (some true) := by
      have hgives := gives_reaches front.length rule ts w
      rwa [decide_eq_true hlt] at hgives
    have hsize : Gives (Value.size (.tuple [v])) w (some 1) := rfl
    have hitem : Gives (Value.item (.tuple [v]) (.int 0)) w (some v) := rfl
    have hrest := ih (front ++ [u, comma]) (pos ++ [v]) hbefore (by simp [hts])
    rw [List.length_cons, Nat.add_right_comm]
    refine (bind_of_ok hreaches).trans ((bind_of_ok (gives_child _ hat)).trans
      ((bind_of_ok hu).trans ((bind_of_ok hsize).trans ((bind_of_ok hitem).trans ?_))))
    simpa [Nat.mul_add, Nat.add_assoc, Nat.add_comm] using hrest

/-- Evaluating the tree fails wherever the name is missing, if at least `need` tasks may be
nested. -/
def Misses (need : Nat) (t : Tree) (name : String) : Prop :=
  ∀ depth env w, need ≤ depth → Quiet env w → w.Lacks name env →
    (performWith depth (.eval env (.code t))).Fails w (.unknownName name)

namespace Misses

variable {need : Nat} {t : Tree} {name : String}

theorem wrapped {form : ExprForm} (hr : ofRule? rule = some form)
    (ht : form.transparent = true) (h : Misses need t name) :
    Misses need (.node rule [t]) name := by
  intro depth env w hd hq hl
  have ⟨w', hw⟩ := h depth env w hd hq hl
  cases depth with
  | zero => exact ⟨w', hw⟩
  | succ depth => exact ⟨w', (evalNode_wrapped _ hr ht hq).trans hw⟩

/-- A node whose form fails where it evaluates the part that misses the name. -/
theorem ofForm {form : ExprForm} {ts : List Tree}
    (hr : ofRule? rule = some form)
    (ho : form.transparent = true → Node.hasOneChild (.code (.node rule ts)) = pure false)
    (h : ∀ depth env w, need ≤ depth → Quiet env w → w.Lacks name env →
      (evalForm (performWith depth) env (.code (.node rule ts)) form).Fails w
        (.unknownName name)) : Misses (need + 1) (.node rule ts) name := by
  intro depth env w hd hq hl
  obtain ⟨k, rfl⟩ := Nat.exists_eq_add_of_le' (Nat.le_trans (Nat.le_add_left 1 need) hd)
  refine eval_fails hr ho hq (fun h => by cases h) ?_
  exact h k env _ (by omega) hq.raised (hl.raised env)

section

variable (hn : isDynamicName name = false) (hne : name ≠ "")

include hn hne

theorem symbol (pos : Nat) : Misses 2 (.leaf "pr_Sym" name pos) name := by
  intro depth env w hd hq hl
  obtain ⟨k, rfl⟩ := Nat.exists_eq_add_of_le' hd
  have hform : ofRule? "pr_Sym" = some .sym := rfl
  refine eval_fails hform Bool.noConfusion hq (fun h => by cases h) ?_
  have hl := hl.raised env
  rw [evalForm_sym]
  exact ⟨_, readVariable_undeclared hn hne hl.slot hl.scope _⟩

theorem call (pos : Nat) :
    Misses 3 (.node "call" [.node "primary" [.leaf "pr_Sym" name pos]]) name := by
  have hform : ofRule? "call" = some .call := rfl
  refine ofForm hform Bool.noConfusion fun depth env w hd hq hl => ?_
  rw [evalForm_call]
  have hwrap : ofRule? "primary" = some .primary := rfl
  exact wrapped hwrap rfl (symbol hn hne pos) depth env w hd hq hl

theorem ofWord (h : t.word? = some ("pr_Sym", name)) : Misses 3 t name := by
  obtain ⟨pos, heval⟩ := eval_word h
  intro depth env w hd hq hl
  obtain ⟨w', hw⟩ := call hn hne pos depth env w hd hq hl
  exact ⟨w', (heval depth env w hq).trans hw⟩

end

section

variable (ht : Misses need t name)

include ht

theorem argument : Misses (need + 1) (.node "argument" [t]) name := by
  have hform : ofRule? "argument" = some .argument := rfl
  refine ofForm hform Bool.noConfusion fun depth env w hd hq hl => ?_
  rw [evalForm_argument]
  exact Run.Fails.bind (ht depth env w hd hq hl)

/-- An argument that misses the name, after others that give their values. -/
theorem argumentList (before : List (Tree × Tree × Value))
    (hbefore : ∀ x ∈ before, Yields need x.1 (some (.tuple [x.2.2]))) (more : List Tree) :
    Misses (need + 1) (.node "argument_list"
      (before.flatMap (fun x => [x.1, x.2.1]) ++ t :: more)) name := by
  have hform : ofRule? "argument_list" = some .argumentList := rfl
  refine ofForm hform Bool.noConfusion fun depth env w hd hq hl => ?_
  let ts : List Tree := before.flatMap (fun x => [x.1, x.2.1]) ++ t :: more
  let sub : Sub := fun t => performWith depth (.eval env t)
  have hat : ts[2 * before.length]? = some t := by
    have hlength : (before.flatMap fun x => [x.1, x.2.1]).length = 2 * before.length := by
      simp [List.length_flatMap, Nat.mul_comm]
    simp [ts, ← hlength]
  have hreaches : Gives (Node.reaches (2 * before.length) (.code (.node "argument_list" ts))) w
      (some true) := by
    have hlt := (List.getElem?_eq_some_iff.1 hat).1
    have hgives := gives_reaches (2 * before.length) "argument_list" ts w
    rwa [decide_eq_true hlt] at hgives
  have hfails (fuel : Nat) : (collectArguments env sub (.code (.node "argument_list" ts))
      (before.length + (fuel + 1)) 0 [] []).Fails w (.unknownName name) := by
    obtain ⟨w', h⟩ : (collectArguments env sub (.code (.node "argument_list" ts)) (fuel + 1)
        (2 * before.length) (before.map (·.2.2)) []).Fails w (.unknownName name) :=
      .after hreaches (.after (gives_child _ hat) (.bind (ht depth env w hd hq hl)))
    refine ⟨w', Eq.trans ?_ h⟩
    have hvalues : ∀ x ∈ before, Gives (sub (.code x.1)) w (some (.tuple [x.2.2])) :=
      fun x hx => hbefore x hx depth env w hd hq
    have hts : ts = [] ++ ts := rfl
    have hpast : collectArguments env sub (.code (.node "argument_list" ts)) _ 0 [] [] w = _ :=
      collectArguments_past (fuel + 1) [] [] hvalues hts
    simpa using hpast
  have hrounds : Node.rounds (.code (.node "argument_list" ts)) w =
      .ok (before.length + (ts.length - before.length + 999999 + 1)) w := by
    have hle : before.length ≤ ts.length := by
      have hlt := (List.getElem?_eq_some_iff.1 hat).1
      omega
    have heq : ts.length + Node.growthLimit =
        before.length + (ts.length - before.length + 999999 + 1) := by
      change ts.length + 1000000 = _
      omega
    exact congrArg (EStateM.Result.ok · w) heq
  exact Run.Fails.after hrounds (hfails _)

theorem arguments : Misses (need + 1) (.node "arguments" [t]) name := by
  have hform : ofRule? "arguments" = some .arguments := rfl
  refine ofForm hform Bool.noConfusion fun depth env w hd hq hl => ?_
  rw [evalForm_arguments]
  exact ht depth env w hd hq hl

theorem modCall (rule s : String) (pos : Nat) (opening closing : Tree) (rest : List Tree) :
    Misses (need + 1) (.node "mod_call" (.leaf rule s pos :: opening :: t :: closing :: rest))
      name := by
  have hform : ofRule? "mod_call" = some .modCall := rfl
  refine ofForm hform Bool.noConfusion fun depth env w hd hq hl => ?_
  rw [evalForm_modCall]
  exact Run.Fails.bind (ht depth env w hd hq hl)

end

end Misses

/-! ## Children that are built where the call stands -/

section

variable {w : World} {e : FrameId} {name : String} {call : Tree} {need depth : Nat}

theorem buildStatement_fails (hc : Misses need call name) (hd : need ≤ depth)
    (hl : w.Lacks name e) (child : Option ScopeId) :
    (buildStatement (performWith depth) e call child).Fails w (.unknownName name) := by
  let f : Frame :=
    { scope := (w.frameAt e).scope, caller := some e, table := (w.frameAt e).table
      level := (w.frameAt e).level, child := child.map Value.scope }
  have hnew : sharedFrame e (child.map Value.scope) w =
      .ok w.frames.size { w with frames := w.frames.push f } := rfl
  have hframe : ({ w with frames := w.frames.push f } : World).frameAt w.frames.size = f := by
    simp [World.frameAt]
  refine Run.Fails.after hnew (hc depth _ _ hd ?_ ⟨?_, ?_⟩)
  · exact congrArg Frame.debug hframe
  · unfold World.slotsAt
    rw [hframe]
    exact hl.slot
  · rw [hframe]
    exact hl.scope

end

/-! ## Environments for a block -/

/-- The world with a new environment for a scope. -/
def entered (w : World) (body : ScopeId) (env : FrameId) : World :=
  { w with
    frames := w.frames.push
      { scope := body, caller := some env, table := w.tables.size, level := (w.frameAt env).level }
    tables := w.tables.push {} }

theorem newFrame_entered (w : World) (body : ScopeId) (env : FrameId) :
    newFrame body env w = .ok w.frames.size (entered w body env) := rfl

theorem frameAt_entered (w : World) (body : ScopeId) (env : FrameId) :
    (entered w body env).frameAt w.frames.size =
      { scope := body, caller := some env, table := w.tables.size,
        level := (w.frameAt env).level } := by
  simp [entered, World.frameAt]

end Eval

def Value.isScope (id : ScopeId) : Value → Bool
  | .scope id' => id' == id
  | _ => false

theorem Value.eq_of_isScope {v : Value} (h : v.isScope id = true) :
    v = .scope id := by
  unfold isScope at h
  split at h
  · exact congrArg _ (beq_iff_eq.1 h)
  · cases h

/-- The block after the first statement of a program, in a world where that statement is
evaluated. -/
def Environment.blockOfFirst (text : String) : Run ScopeId := do
  let env ← Environment.ofText text
  match (← scope 2).work with
  | .statement _ (some id) :: _ =>
    let _ ← sharedFrame env (some (.scope id))
    return id
  | _ => throw .malformed

end Scad
