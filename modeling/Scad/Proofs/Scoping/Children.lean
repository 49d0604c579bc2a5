import Scad.Proofs.Building.Joining

/-!
What the block after a call and the body of the module know of each other. A built-in module
that joins its children builds each of them in an environment that shares the scope and the
values of the call itself, so the statements of the block do not see what the block declares.
The body of a module of the program is built in an environment of its own, and its statements
in environments that share that one's values. None of these has a block, so `children` finds
nothing to build in the body, and the number of children is 0 there.
-/

namespace Scad

open Run

namespace Eval

open Arithmetic

section

variable {env : FrameId} {w : World}

theorem eval_lists {t : Tree} {form : ExprForm} {depth : Nat} {v : Value}
    {lists : Array (List Value)} (hr : ExprForm.ofRule? t.rule = some form)
    (ho : form.transparent = true → Node.hasOneChild (.code t) = pure false) (hq : Quiet env w)
    (h : evalForm (performWith depth) env (.code t) form (w.raised env) =
      .ok v { w.raised env with lists := lists }) :
    performWith (depth + 1) (.eval env (.code t)) w = .ok v { w with lists := lists } :=
  (evalNode_found hr ho hq).trans (evalFound_ok (u := { w with lists := lists }) hq h)

end

/-! ## A call with one argument -/

section

variable {env : FrameId} {w : World} {t : Tree} {v : Value} {need depth : Nat}

theorem yields_argument (ht : Yields need t (some v)) :
    Yields (need + 1) (.node "argument" [t]) (some (.tuple [v])) := by
  have hform : ExprForm.ofRule? "argument" = some .argument := rfl
  refine Yields.ofForm hform Bool.noConfusion fun depth env w hd hq => ?_
  rw [evalForm_argument]
  exact (ht depth env w hd hq).step rfl

theorem eval_argumentList (ht : Yields need t (some v)) (hd : need + 1 ≤ depth) (hq : Quiet env w) :
    performWith (depth + 1) (.eval env (.code (.node "argument_list" [.node "argument" [t]]))) w =
      .ok (.tuple [.list w.lists.size, .dict []]) { w with lists := w.lists.push [v] } := by
  have hform : ExprForm.ofRule? "argument_list" = some .argumentList := rfl
  refine eval_lists hform Bool.noConfusion hq ?_
  generalize hw' : w.raised env = w'
  have hq' : Quiet env w' := hw' ▸ hq.raised
  have hlists : w.lists = w'.lists := by
    rw [← hw']
    rfl
  rw [hlists]
  let n : Value := .code (.node "argument_list" [.node "argument" [t]])
  let sub : Sub := fun t => performWith depth (.eval env t)
  have hreaches : Gives (Node.reaches 0 n) w' (some true) := gives_reaches 0 _ _ w'
  have hchild : Gives (Node.child 0 n) w' (some (.code (.node "argument" [t]))) :=
    gives_child 0 rfl
  have hfirst : Gives (sub (.code (.node "argument" [t]))) w' (some (.tuple [v])) :=
    yields_argument ht depth env w' hd hq'
  have hsize : Gives (Value.size (.tuple [v])) w' (some 1) := rfl
  have hitem : Gives (Value.item (.tuple [v]) (.int 0)) w' (some v) := rfl
  have hend : Gives (Node.reaches 2 n) w' (some false) := gives_reaches 2 _ _ w'
  have hlast : ∀ fuel, collectArguments env sub n (fuel + 1) 2 [v] [] w' =
      .ok (.tuple [.list w'.lists.size, .dict []]) { w' with lists := w'.lists.push [v] } :=
    fun fuel => bind_of_ok hend
  have hall : ∀ fuel, collectArguments env sub n (fuel + 2) 0 [] [] w' =
      .ok (.tuple [.list w'.lists.size, .dict []]) { w' with lists := w'.lists.push [v] } := by
    intro fuel
    refine (bind_of_ok hreaches).trans ((bind_of_ok hchild).trans
      ((bind_of_ok hfirst).trans ((bind_of_ok hsize).trans ?_)))
    exact (bind_of_ok hitem).trans (hlast fuel)
  obtain ⟨fuel, hfuel⟩ : ∃ fuel, 1 + Node.growthLimit = fuel + 2 := ⟨999999, by decide⟩
  have hrounds : Node.rounds n w' = .ok (fuel + 2) w' := by
    rw [← hfuel]
    rfl
  exact (bind_of_ok hrounds).trans (hall fuel)

theorem eval_arguments (ht : Yields need t (some v)) (hd : need + 2 ≤ depth) (hq : Quiet env w) :
    performWith (depth + 1) (.eval env
        (.code (.node "arguments" [.node "argument_list" [.node "argument" [t]]]))) w =
      .ok (.tuple [.list w.lists.size, .dict []]) { w with lists := w.lists.push [v] } := by
  have hform : ExprForm.ofRule? "arguments" = some .arguments := rfl
  refine eval_lists hform Bool.noConfusion hq ?_
  obtain ⟨k, rfl⟩ := Nat.exists_eq_add_of_le' (Nat.le_trans (Nat.le_add_left 1 _) hd)
  rw [evalForm_arguments]
  exact eval_argumentList ht (Nat.le_of_succ_le_succ hd) hq.raised

theorem argsOf_list (p : Perform) (k : Nat) (entries : List (String × Value)) :
    argsOf p (.tuple [.list k, .dict entries]) w = .ok ⟨w.lists.getD k [], entries⟩ w := by
  have hfold : ∀ items done : List Value, (items.foldlM (fun done u => do return (← pure u) :: done)
      done : Run (List Value)) w = .ok (items.reverse ++ done) w := by
    intro items
    induction items with
    | nil => exact fun _ => rfl
    | cons u items ih =>
      intro done
      rw [List.reverse_cons, List.append_assoc]
      exact ih (u :: done)
  have hlist : itemsOf p (.list k) w = .ok (w.lists.getD k []) w := by
    refine (bind_of_ok (hfold (w.lists.getD k []) [])).trans ?_
    rw [List.append_nil, List.reverse_reverse]
    rfl
  exact bind_of_ok hlist

theorem eval_modCall {call : Tree} {name : String} {u : Value} (ht : Yields need t (some v))
    (hcall : call.onlyArgument? = some (name, t)) (hd : need + 3 ≤ depth) (hq : Quiet env w)
    (h : performWith depth (.instantiate env name ⟨[v], []⟩)
        { w.raised env with lists := w.lists.push [v] } =
      .ok u { w.raised env with lists := w.lists.push [v] }) :
    performWith (depth + 1) (.eval env (.code call)) w =
      .ok u { w with lists := w.lists.push [v] } := by
  obtain ⟨rule, pos, opening, closing, rfl⟩ := Tree.onlyArgument?_eq_some hcall
  have hform : ExprForm.ofRule? "mod_call" = some .modCall := rfl
  refine eval_lists hform Bool.noConfusion hq ?_
  obtain ⟨k, rfl⟩ := Nat.exists_eq_add_of_le' (Nat.le_trans (Nat.le_add_left 1 _) hd)
  let w' : World := { w.raised env with lists := w.lists.push [v] }
  have hvalues := eval_arguments ht (Nat.le_of_succ_le_succ hd) hq.raised
  have hlast : argsOf (performWith (k + 1)) (.tuple [.list w.lists.size, .dict []]) w' =
      .ok ⟨[v], []⟩ w' := by
    rw [argsOf_list]
    simp [w']
  rw [evalForm_modCall]
  exact (bind_of_ok hvalues).trans ((bind_of_ok hlast).trans h)

end

/-! ## The statements of the block -/

theorem lookupVar_declared {w : World} {id : ScopeId} {name : String} {d : VarDef}
    (h : (w.scopeAt id).vars.find? name = some d) : lookupVar id name w = .ok d w := by
  change demand (.unknownName name) (w.seek id (Scope.findVar? name)) w = _
  rw [World.seek_self h]
  rfl

/-- A statement in the block after a call of a built-in module that joins its children does
not see what the block declares: where the call stands a name is missing that the statement
needs, so it is missing when the statement has its turn. An environment of the block itself, as
a loop makes it, knows the name. -/
theorem block_variable_unseen {B : BuiltinModule} {j : Joining}
    (hj : BuiltinModule.joining? B = some j) {args : Args} {b : Bound}
    (hb : (BuiltinModule.signature B).bind args = .ok b) {w w0 w1 w2 : World} {e c : FrameId}
    {id : ScopeId} (hchild : (w.frameAt e).child = some (.scope id))
    (hc : childFrame e (BuiltinModule.begun B w) = .ok c w0) {before after rs : List Value}
    {call : Tree} {child : Option ScopeId}
    (hwork : (w0.scopeAt id).work = before ++ .statement call child :: after) {depth : Nat}
    {s : Value} (hbefore : j.Folds (performWith depth) e 0 .undef before w0 rs s w1)
    (hturn : childResult? e (.int before.length) w1 = .ok none w2) {name : String}
    (hn : isDynamicName name = false) (hne : name ≠ "") {need : Nat}
    (hneeds : Misses need call name) (hd : need ≤ depth) (hl : w2.Lacks name e) :
    Run.result (buildBuiltin (performWith depth) e B args) w = .error (.unknownName name) ∧
    ∀ d, (w2.scopeAt id).vars.find? name = some d →
      Run.result (do findDefinition (performWith depth) (← Run.newFrame id e) name) w2 = .ok d := by
  refine ⟨?_, fun d hdecl => ?_⟩
  · obtain ⟨σ, f, state, finish, hconsumes, hbuild⟩ :=
      buildBuiltin_consumes hj hb (performWith depth) e
    have hne : (w0.scopeAt id).work ≠ [] := by simp [hwork]
    have hchild : ((BuiltinModule.begun B w).frameAt e).child = some (.scope id) := by
      rwa [BuiltinModule.frameAt_begun]
    obtain ⟨w', hfails⟩ := buildStatement_fails hneeds hd hl child
    have hjoins := (hconsumes.joins state hchild hc hne).failing hwork hbefore hturn hfails
    exact Run.Fails.result ⟨w', (hbuild w).trans hjoins⟩
  · have hfind : findDefinition (performWith depth) w2.frames.size name (entered w2 id e) =
        .ok d (entered w2 id e) := by
      rw [findDefinition_plain hn hne, frameAt_entered]
      exact lookupVar_declared hdecl
    exact Run.result_of_ok ((Run.bind_of_ok (newFrame_entered w2 id e)).trans hfind)

/-! ## The body of a module -/

section

variable {env : FrameId} {w : World}

theorem oneChild_none (p : Perform) (h : (w.frameAt env).child = none) (v : Value) :
    oneChild p env v w = .ok .undef w := by
  unfold oneChild
  rw [frame_bind, h]
  rfl

theorem lookupModule_found {id : ScopeId} {name : String} {m : ModDef}
    (h : w.seek id (Scope.findModule? name) = some m) : lookupModule id name w = .ok m w := by
  change demand (.unknownName name) (w.seek id (Scope.findModule? name)) w = _
  rw [h]
  rfl

theorem instantiate_children (depth : Nat) (v : Value)
    (hc : w.seek (w.frameAt env).scope (Scope.findModule? "children") = some (.builtin .children))
    (hn : (w.frameAt env).child = none) :
    performWith (depth + 1) (.instantiate env "children" ⟨[v], []⟩) w = .ok .undef w := by
  have hcheck : checkNames ⟨[v], []⟩ w = .ok () w := rfl
  have hbind : lift ((BuiltinModule.signature .children).bind ⟨[v], []⟩) w =
      .ok ⟨[v], [], []⟩ w := rfl
  refine (bind_of_ok hcheck).trans ((frame_bind env _ w).trans
    ((bind_of_ok (lookupModule_found hc)).trans ((bind_of_ok hbind).trans ?_)))
  exact oneChild_none _ hn v

/-- The only statement of a block calls `children`, and the block is built in an environment
of its own. The environment of the statement has no block. -/
theorem buildScope_children (env : FrameId) {body : ScopeId} {call t : Tree} {need depth : Nat}
    {v : Value} (hwork : (w.scopeAt body).work = [.statement call none])
    (hcall : call.onlyArgument? = some ("children", t))
    (hc : w.seek body (Scope.findModule? "children") = some (.builtin .children))
    (ht : Yields need t (some v)) (hd : need + 5 ≤ depth) :
    ∃ w', buildScope (performWith depth) env body w = .ok .undef w' := by
  obtain ⟨k, rfl⟩ := Nat.exists_eq_add_of_le' (Nat.le_trans (Nat.le_add_left 3 _) hd)
  let inner : World := entered w body env
  have hframe : frame w.frames.size inner = .ok _ inner :=
    congrArg (EStateM.Result.ok · inner) (frameAt_entered w body env)
  let g : Frame :=
    { scope := body, caller := some w.frames.size, table := w.tables.size
      level := (w.frameAt env).level, child := none }
  let shared : World := { inner with frames := inner.frames.push g }
  have hshared : sharedFrame w.frames.size none inner = .ok inner.frames.size shared :=
    bind_of_ok hframe
  have hg : shared.frameAt inner.frames.size = g := by
    simp [shared, World.frameAt]
  have heval : performWith (k + 2) (.eval inner.frames.size (.code call)) shared =
      .ok .undef { shared with lists := w.lists.push [v] } := by
    have hquiet : Quiet inner.frames.size shared := congrArg Frame.debug hg
    obtain ⟨level, hraised⟩ := shared.frameAt_raised inner.frames.size inner.frames.size
    refine eval_modCall ht hcall (by omega) hquiet (instantiate_children k v ?_ ?_)
    · change shared.seek ((shared.raised _).frameAt _).scope _ = _
      rw [hraised, hg]
      exact hc
    · change ((shared.raised _).frameAt _).child = _
      rw [hraised, hg]
  have hstatement : buildItem (performWith (k + 2)) w.frames.size (.statement call none) inner =
      .ok .undef { shared with lists := w.lists.push [v] } :=
    (bind_of_ok hshared).trans heval
  have hitems : scope body inner = .ok (w.scopeAt body) inner := rfl
  have hbuild : build (performWith (k + 2)) w.frames.size inner =
      .ok .undef { shared with lists := w.lists.push [v] } := by
    refine (bind_of_ok hframe).trans ((bind_of_ok hitems).trans ?_)
    rw [hwork]
    exact bind_of_ok hstatement
  exact ⟨_, (bind_of_ok (newFrame_entered w body env)).trans hbuild⟩

/-- A module of the program whose body is a call of `children` gives nothing, whatever block
stands after the call. Where the call stands the number of children is that of the items of
the block, but in the body it is 0. -/
theorem module_children_undef {e : FrameId} {name origin : String} {body : ScopeId}
    (hm : w.seek (w.frameAt e).scope (Scope.findModule? name) =
      some (.module origin (.named [] []) body)) {call t : Tree}
    (hwork : (w.scopeAt body).work = [.statement call none])
    (hcall : call.onlyArgument? = some ("children", t))
    (hc : w.seek body (Scope.findModule? "children") = some (.builtin .children))
    {need : Nat} {v : Value} (ht : Yields need t (some v)) (depth : Nat) (hd : need + 5 ≤ depth) :
    result (instantiateModule (performWith depth) e name ⟨[], []⟩) w = .ok .undef ∧
    result (do readVariable (performWith depth) (← newFrame body e) "$children") w =
      .ok (.int 0) ∧
    ∀ id, (w.frameAt e).child = some (.scope id) →
      result (readVariable (performWith depth) e "$children") w =
        .ok (.int (w.scopeAt id).work.length) := by
  have hframe : frame e w = .ok (w.frameAt e) w := rfl
  refine ⟨?_, ?_, fun id hid => ?_⟩
  · have hcheck : checkNames ⟨[], []⟩ w = .ok () w := rfl
    obtain ⟨w', hbuild⟩ := buildScope_children e hwork hcall hc ht hd
    exact result_of_ok ((bind_of_ok hcheck).trans ((bind_of_ok hframe).trans
      ((bind_of_ok (lookupModule_found hm)).trans hbuild)))
  · have hinner : frame w.frames.size (entered w body e) = .ok _ (entered w body e) :=
      congrArg (EStateM.Result.ok · (entered w body e)) (frameAt_entered w body e)
    have hcount : readVariable (performWith depth) w.frames.size "$children" (entered w body e) =
        .ok (.int 0) (entered w body e) := bind_of_ok hinner
    exact result_of_ok ((bind_of_ok (newFrame_entered w body e)).trans hcount)
  · have hscope : scope id w = .ok (w.scopeAt id) w := rfl
    have hcount : readVariable (performWith depth) e "$children" w =
        .ok (.int (w.scopeAt id).work.length) w := by
      refine (bind_of_ok hframe).trans ?_
      rw [hid]
      exact bind_of_ok hscope
    exact result_of_ok hcount

end

end Eval

theorem Arithmetic.Yields.ofWord {t : Tree} {s : String} {n : Int}
    (h : t.word? = some ("pr_Num", s)) (hn : Numeral.int? s = some n) :
    Yields 2 t (some (.int n)) := by
  obtain ⟨pos, heval⟩ := Eval.eval_word h
  have hleaf : Yields 1 (.leaf "pr_Num" s pos) (some (.int n)) := by
    refine leaf rfl fun perform env w => ?_
    have hword : Gives (Node.word (.code (.leaf "pr_Num" s pos))) w
        (some (Text.ofString s)) := rfl
    have hread : Gives (Eval.readNumber (Text.ofString s)) w (some (.int n)) := by
      rw [Eval.readNumber, Text.toString_ofString, hn]
      rfl
    exact hword.step hread
  exact fun depth env w hd hq => (heval depth env w hq).trans (hleaf.call depth env w hd hq)

/-- Is the value a statement that calls a module with a number and a name? -/
def Value.passesNumberAndName (number name : String) : Value → Bool
  | .statement (.node "mod_call" [.leaf _ _ _, _, .node "arguments" [.node "argument_list"
      [.node "argument" [u], _, .node "argument" [t]]], _]) _ =>
    u.word? == some ("pr_Num", number) && t.word? == some ("pr_Sym", name)
  | _ => false

theorem Value.misses_of_passes {number name : String} {n : Int} {v : Value}
    (h : v.passesNumberAndName number name = true) (hnumber : Numeral.int? number = some n)
    (hn : Eval.isDynamicName name = false) (hne : name ≠ "") :
    ∃ call child, v = .statement call child ∧ Eval.Misses 7 call name := by
  unfold passesNumberAndName at h
  split at h
  · rename_i rule s pos opening u comma t closing child
    obtain ⟨hu, ht⟩ : u.word? = some ("pr_Num", number) ∧ t.word? = some ("pr_Sym", name) := by
      simpa using h
    have hfirst := Eval.yields_argument (Arithmetic.Yields.ofWord hu hnumber)
    have hmisses := (Eval.Misses.ofWord hn hne ht).argument
    have hlist := hmisses.argumentList [(.node "argument" [u], comma, .int n)]
      (List.forall_mem_singleton.2 (hfirst.mono (by decide))) []
    exact ⟨_, child, rfl, hlist.arguments.modCall rule s pos opening closing []⟩
  · cases h

/-- The second statement of a block needs the name for its second argument. -/
theorem Eval.block_variable_unseen_union : ∃ id w c w0 r w1 w2,
    Environment.blockOfFirst "union(){q=2; cube(3,center=true); cube(1,q);}" {} = .ok id w ∧
    childFrame 1 w = .ok c w0 ∧
    buildChild perform 1 0 ((w0.scopeAt id).work.getD 0 .undef) w0 = .ok r w1 ∧
    childResult? 1 (.int 1) w1 = .ok none w2 ∧
    Run.result (buildBuiltin perform 1 .union ⟨[], []⟩) w = .error (.unknownName "q") ∧
    ∀ d, (w2.scopeAt id).vars.find? "q" = some d →
      Run.result (do findDefinition perform (← Run.newFrame id 1) "q") w2 = .ok d := by
  obtain ⟨id, w, hload, htest⟩ := Run.passes_eq_true (w := {})
    (m := Environment.blockOfFirst "union(){q=2; cube(3,center=true); cube(1,q);}")
    (t := fun id w => (w.frameAt 1).child.any (Value.isScope id)) (by decide +kernel)
  obtain ⟨v, hv, hid⟩ := (Option.any_eq_true _ _).1 htest
  obtain rfl := Value.eq_of_isScope hid
  obtain ⟨⟨x, o⟩, w2, hrun, htest⟩ := Run.passes_eq_true (w := {})
    (m := do
      let first ← Environment.firstTurn (← Environment.blockOfFirst
        "union(){q=2; cube(3,center=true); cube(1,q);}")
      return (first, ← childResult? 1 (.int 1)))
    (t := fun x w => x.1.1.made?.isSome && x.1.2.length == 2 &&
      (x.1.2.getD 1 .undef).passesNumberAndName "1" "q" && x.2.isNone &&
      ((w.slotsAt 1).named.find? "q").isNone &&
      (w.seek (w.frameAt 1).scope (Scope.findVar? "q")).isNone) (by decide +kernel)
  simp only [Bool.and_eq_true, beq_iff_eq, Option.isNone_iff_eq_none] at htest
  obtain ⟨⟨⟨⟨⟨hmade, hlength⟩, hpasses⟩, rfl⟩, hslot⟩, hseek⟩ := htest
  rw [Run.bind_of_ok hload] at hrun
  obtain ⟨⟨r, work⟩, w1, hturn, hrun⟩ := Run.bind_ok hrun
  obtain ⟨c, w0, hc, hfirst, rfl⟩ := Environment.firstTurn_eq_ok hturn
  obtain ⟨o, w3, hresult, hrun⟩ := Run.bind_ok hrun
  cases hrun
  dsimp only at hmade hlength hpasses
  obtain ⟨hr, hne⟩ := Value.isSolid_of_made hmade
  obtain ⟨a, item, hwork⟩ := List.length_eq_two.1 hlength
  rw [hwork] at hpasses
  obtain ⟨call, child, rfl, hmisses⟩ := Value.misses_of_passes hpasses (n := 1)
    (by decide +kernel) (by decide) (by decide)
  have hfolds : Joining.sum.Folds perform 1 0 .undef [a] w0 [r] r w1 := by
    have hbuild := buildChild_eq_ok.1 hfirst
    rw [hwork] at hbuild
    exact .cons hbuild hr (fun h => by cases h) (by cases hr <;> rfl) .nil
  have hbind : (BuiltinModule.signature .union).bind ⟨[], []⟩ = .ok ⟨[], [], []⟩ := rfl
  have hunseen := block_variable_unseen rfl hbind hv hc hwork hfolds hresult (by decide)
    (by decide) hmisses (by decide) ⟨hslot, hseek⟩
  exact ⟨id, w, c, w0, r, w1, w2, hload, hc, hfirst, hresult, hunseen.1, hunseen.2⟩

/-- A variable of the block is missed by the statement in the block. -/
theorem Eval.block_variable_missed : ∃ e w,
    (do perform (.build (← Environment.ofText "union(){q=2; cube(q,center=true);}")) : Run Value)
      {} = .error e w ∧ e.faultClass = .key :=
  Run.failsWith_eq_true (by decide +kernel)

/-- Is the only statement of a block a call of a module with a number, and nothing after it? -/
def World.passesOnlyNumber (w : World) (name s : String) (body : ScopeId) : Bool :=
  match (w.scopeAt body).work with
  | [.statement call none] => match call.onlyArgument? with
    | some (callee, t) => callee == name && t.word? == some ("pr_Num", s)
    | none => false
  | _ => false

theorem World.passesOnlyNumber_eq_true {w : World} {name s : String} {body : ScopeId}
    (h : w.passesOnlyNumber name s body = true) :
    ∃ call t, (w.scopeAt body).work = [.statement call none] ∧
      call.onlyArgument? = some (name, t) ∧ t.word? = some ("pr_Num", s) := by
  unfold passesOnlyNumber at h
  split at h
  · rename_i call hwork
    split at h
    · rename_i callee t hcall
      obtain ⟨rfl, ht⟩ : callee = name ∧ t.word? = some ("pr_Num", s) := by simpa using h
      exact ⟨call, t, hwork, hcall, ht⟩
    · cases h
  · cases h

/-- The body of a module without parameters. -/
def ModDef.plainBody? : ModDef → Option ScopeId
  | .module _ (.named [] []) body => some body
  | _ => none

theorem ModDef.plainBody?_eq_some {m : ModDef} {body : ScopeId} (h : m.plainBody? = some body) :
    ∃ origin, m = .module origin (.named [] []) body := by
  unfold plainBody? at h
  split at h
  · exact ⟨_, congrArg _ (Option.some.inj h)⟩
  · cases h

def ModDef.isChildren : ModDef → Bool
  | .builtin .children => true
  | _ => false

theorem ModDef.eq_of_isChildren {m : ModDef} (h : m.isChildren = true) :
    m = .builtin .children := by
  unfold isChildren at h
  split at h
  · rfl
  · cases h

theorem Value.eq_of_isUndef {v : Value} (h : v.isUndef = true) : v = .undef := by
  unfold isUndef at h
  split at h
  · rfl
  · cases h

/-- A module that asks for its first child, called with a cube after it. -/
theorem Eval.module_children_undef_cube : ∃ id body w,
    Environment.blockOfFirst "module w(){children(0);} w(){cube(2,center=true);}" {} = .ok id w ∧
    (w.frameAt 1).child = some (.scope id) ∧
    result (instantiateModule perform 1 "w" ⟨[], []⟩) w = .ok .undef ∧
    result (do readVariable perform (← newFrame body 1) "$children") w = .ok (.int 0) ∧
    result (readVariable perform 1 "$children") w = .ok (.int (w.scopeAt id).work.length) := by
  obtain ⟨id, w, hrun, htest⟩ := passes_eq_true (w := {})
    (m := Environment.blockOfFirst "module w(){children(0);} w(){cube(2,center=true);}")
    (t := fun id w => (w.frameAt 1).child.any (Value.isScope id) &&
      ((w.seek (w.frameAt 1).scope (Scope.findModule? "w")).bind ModDef.plainBody?).any fun body =>
        w.passesOnlyNumber "children" "0" body &&
        (w.seek body (Scope.findModule? "children")).any ModDef.isChildren)
      (by decide +kernel)
  simp only [Bool.and_eq_true, Option.any_eq_true] at htest
  obtain ⟨⟨v, hv, hid⟩, body, hbody, hwork, m, hseek, hm⟩ := htest
  obtain ⟨d, hd, hplain⟩ := Option.bind_eq_some_iff.1 hbody
  obtain ⟨origin, rfl⟩ := ModDef.plainBody?_eq_some hplain
  obtain rfl := ModDef.eq_of_isChildren hm
  obtain rfl := Value.eq_of_isScope hid
  obtain ⟨call, t, hwork, hcall, ht⟩ := World.passesOnlyNumber_eq_true hwork
  obtain ⟨hbuild, hinside, hthere⟩ := Eval.module_children_undef hd hwork hcall hseek
    (Arithmetic.Yields.ofWord ht (n := 0) (by decide +kernel)) Eval.depthLimit (by decide)
  exact ⟨id, body, w, hrun, hv, hbuild, hinside, hthere id hv⟩

/-- The child of a call of a module is not built. -/
theorem Eval.children_missed : ∃ w,
    (do perform (.build (← Environment.ofText
      "module w(){children(0);} w(){cube(2,center=true);}")) : Run Value) {} = .ok .undef w := by
  obtain ⟨v, w, hrun, hv⟩ := passes_eq_true (w := {})
    (m := do perform (.build (← Environment.ofText
      "module w(){children(0);} w(){cube(2,center=true);}")))
    (t := fun v _ => v.isUndef) (by decide +kernel)
  obtain rfl := Value.eq_of_isUndef hv
  exact ⟨w, hrun⟩

end Scad
