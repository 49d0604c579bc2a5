import Scad.Proofs.Correspondence.Variable

/-!
Building blocks and the block after a call, running through children and loops
respect every lawful correspondence, if the tasks they lead to do.
-/

namespace Scad

open Eval Trace

inductive VisitRel {σ τ : Type} (S : σ → τ → Prop) : Eval.Visit σ → Eval.Visit τ → Prop
  | more {s : σ} {t : τ} (h : S s t) : VisitRel S (.more s) (.more t)
  | stop {s : σ} {t : τ} (h : S s t) : VisitRel S (.stop s) (.stop t)

namespace Correspondence
namespace Lawful

variable {C : Correspondence} (L : C.Lawful) {κ : Link} {v w x y : Value} {e f : FrameId}
  {p q : Perform} (P : C.Performs p q) (h : κ.same .frame e f)

include L

/-! ## The trace -/

section

variable {t u : FrameId} {vs ws : List Value} {es fs : List (String × Value)}

omit L in
theorem triple_alike (a b c : Int) :
    (Value.tuple [.int a, .int b, .int c]).Alike κ (.tuple [.int a, .int b, .int c]) :=
  .tuple (.cons (.int a) (.cons (.int b) (.cons (.int c) .nil)))

theorem sim_axisName? (ho : v.Alike κ w) (hd : x.Alike κ y) :
    C.Same κ (axisName? v x) (axisName? w y) := by
  refine (L.sim_equal ho (triple_alike 0 0 0)).bindEq fun _ => ?_
  refine .branch (.pure rfl) ?_
  refine (L.sim_equal hd.up (triple_alike 1 0 0)).bindEq fun _ => ?_
  refine .branch (.pure rfl) ?_
  refine (L.sim_equal hd.up (triple_alike 0 1 0)).bindEq fun _ => ?_
  refine .branch (.pure rfl) ?_
  refine (L.sim_equal hd.up (triple_alike 0 0 1)).bindEq fun _ => ?_
  exact .branch (.pure rfl) (.pure rfl)

section

variable (ht : C.Numbers κ t u)

include ht

theorem sim_traceName (h : v.Alike κ w) : C.Same κ (name t v) (name u w) := by
  have shown := L.sim_shown h
  have h' := h
  cases h with
  | axis hi ho hd =>
    refine (L.sim_axisName? ho hd).bindEq fun name => ?_
    cases name with
    | some s => exact .pure rfl
    | none =>
      refine (ht hi.up).bindEq fun _ => ?_
      refine .branch ?_ ?_
      · refine (L.sim_shown h'.up).bindEq fun _ => ?_
        exact (L.print _).bind fun _ => .pure rfl
      · refine (L.sim_shown h'.up).bindEq fun _ => ?_
        exact .pure rfl
  | shape hi made => exact (ht hi).bindEq fun _ => .pure rfl
  | _ => exact shown

theorem sim_traceNames (h : Values.Alike κ vs ws) : C.Same κ (names t vs) (names u ws) := by
  induction vs generalizing κ ws with
  | nil =>
    cases h
    exact .pure rfl
  | cons v vs ih =>
    cases h with
    | cons hv h =>
      refine (L.sim_traceName ht hv).bindEq fun _ => ?_
      exact (ih ht.up (Values.Alike.up h)).bindEq fun _ => .pure rfl

theorem sim_namedParts (h : Entries.Alike κ es fs) :
    C.Same κ (namedParts t es) (namedParts u fs) := by
  induction es generalizing κ fs with
  | nil =>
    cases h
    exact .pure rfl
  | cons e es ih =>
    cases h with
    | cons hv h =>
      obtain ⟨key, hv⟩ := hv
      refine (L.sim_traceName ht hv).bindEq fun _ => ?_
      exact (ih ht.up (Entries.Alike.up h)).bindEq fun _ => .pure rfl

theorem sim_traceLine (hv : Values.Alike κ vs ws) (he : Entries.Alike κ es fs) :
    C.Same κ (line t vs es) (line u ws fs) := by
  rcases hv with _ | ⟨hr, _ | @⟨op, op', vs, ws, ho, hv⟩⟩
  · exact .fail rfl
  · exact .fail rfl
  have joined : ∀ {κ' : Link} (sign start : String) [κ.Before κ'], C.Same κ'
      (do Run.print (start ++ String.intercalate sign (← names t vs) ++ "\n" : String))
      (do Run.print (start ++ String.intercalate sign (← names u ws) ++ "\n" : String)) :=
    fun _ _ => (L.sim_traceNames ht.up (Values.Alike.up hv)).bindEq fun _ => L.print _
  have called : ∀ {κ' : Link} (start : String) [κ.Before κ'], C.Same κ'
      (do let args ← names t vs
          let more ← namedParts t (Table.remove "_obj" es)
          let list : String := "(" ++ String.intercalate ", " (args ++ more) ++ ")\n"
          Run.print (Text.ofString start ++ (← op.display) ++ Text.ofString list))
      (do let args ← names u ws
          let more ← namedParts u (Table.remove "_obj" fs)
          let list : String := "(" ++ String.intercalate ", " (args ++ more) ++ ")\n"
          Run.print (Text.ofString start ++ (← op'.display) ++ Text.ofString list)) := by
    intro κ' start _
    refine (L.sim_traceNames ht.up (Values.Alike.up hv)).bind fun hs => ?_
    subst hs
    refine (L.sim_namedParts ht.up (he.up.remove "_obj")).bind fun hs => ?_
    subst hs
    exact (L.sim_display ho.up).bindEq fun _ => L.print _
  refine (L.sim_traceName ht hr).bind fun hs => ?_
  subst hs
  refine (L.sim_equal ho.up (.str _)).bind fun hw => ?_
  subst hw
  refine .branch (joined _ _) ?_
  refine (L.sim_equal ho.up (.str _)).bind fun hw => ?_
  subst hw
  refine (L.sim_equal ho.up (.str _)).bind @fun κ4 _ _ _ hw => ?_
  subst hw
  refine .branch (joined _ _) ?_
  have he : Entries.Alike κ4 es fs := he.up
  have hobj := he.find? "_obj"
  generalize Table.find? "_obj" es = o at hobj ⊢
  generalize Table.find? "_obj" fs = o' at hobj ⊢
  cases hobj with
  | none => exact called _
  | some hobj =>
    have named := L.sim_traceName ht.up hobj
    cases hobj with
    | undef => exact called _
    | _ => exact named.bindEq fun _ => called _

end

include P h in
theorem sim_trace (hv : Values.Alike κ vs ws) (he : Entries.Alike κ es fs) :
    C.Same κ (trace p e vs es) (trace q f ws fs) := by
  refine (P (.read h "$trace")).bind fun hr => ?_
  refine (L.sim_truth hr).bind fun hb => ?_
  subst hb
  refine .branch ?_ (.pure rfl)
  refine Sim.get.bind @fun _ l r _ hw => ?_
  have ht := L.tracer hw
  generalize l.tracer = t at ht ⊢
  generalize r.tracer = u at ht ⊢
  cases ht with
  | none => exact .fail rfl
  | some ht => exact L.sim_traceLine ht hv.up he.up

end

/-! ## The block after a call -/

omit L in
theorem unbuilt_alike {vs ws : List Value} (h : Values.Alike κ vs ws) :
    Values.Alike κ (vs.map fun _ => .unbuilt) (ws.map fun _ => .unbuilt) := by
  induction h with
  | nil => exact .nil
  | cons _ _ ih => exact .cons .unbuilt ih

include h

theorem sim_childFrame : C.Sim κ (fun κ' => κ'.same .frame) (childFrame e) (childFrame f) := by
  refine (L.sim_frame h).bind @fun _ fr gr _ hf => .withAgree fun hw => ?_
  have hc := hf.childFrame
  have hs := hf.child
  generalize fr.childFrame = c at hc ⊢
  generalize gr.childFrame = c' at hc ⊢
  generalize fr.child = d at hs ⊢
  generalize gr.child = d' at hs ⊢
  cases hc with
  | some hc => exact .pure hc
  | none =>
    cases hs with
    | none => exact .fail rfl
    | some hs =>
      cases hs with
      | scope hs =>
        refine (L.newFrame ((L.link hw).place_of_scope hs) (.inl h.up)).bind fun hn => ?_
        refine (L.sim_scope_work (((L.link hw).work_of_scope hs).up)).bind fun hx => ?_
        refine (L.newList (unbuilt_alike hx)).bind fun hr => ?_
        refine (L.modifyFrame {} {} h.up fun _ _ hf => ?_).bind fun _ => .pure hn.1.up
        exact { hf with childFrame := .some hn.1.up, childResults := hr }
      | _ => exact .fail rfl

theorem sim_resetChild : C.Same κ (resetChild e) (resetChild f) :=
  L.modifyFrame {} {} h fun _ _ hf => { hf with childFrame := .none, childResults := .unbuilt }

theorem sim_childResult? (hi : v.Alike κ w) :
    C.Sim κ (fun κ' => Option.Rel (Value.Alike κ')) (childResult? e v) (childResult? f w) := by
  refine (L.sim_frame h).bind fun hf => ?_
  refine (L.sim_item hf.childResults hi.up).bind @fun κ2 a b _ hv => ?_
  have found : C.Sim κ2 (fun κ' => Option.Rel (Value.Alike κ')) (pure (some a)) (pure (some b)) :=
    Sim.pure (.some hv)
  cases hv with
  | unbuilt => exact .pure .none
  | _ => exact found

theorem sim_setChildResult (hi : v.Alike κ w) (hv : x.Alike κ y) :
    C.Same κ (setChildResult e v x) (setChildResult f w y) := by
  refine (L.sim_frame h).bind @fun _ fr gr _ hf => ?_
  have hr := hf.childResults
  rw [hi.int?_eq]
  generalize fr.childResults = c at hr ⊢
  generalize gr.childResults = d at hr ⊢
  cases hr with
  | list hr =>
    cases w.int? with
    | none => exact .fail rfl
    | some n =>
      refine (L.sim_listItems hr).bind @fun _ _ ys _ hl => ?_
      rw [hl.length_eq]
      cases Value.place? ys.length n with
      | none => exact .fail rfl
      | some k =>
        exact L.setList hr.up (forall₂_set hl k hv.up)
  | _ => exact .fail rfl

theorem sim_buildLoneChild : C.Alike κ (buildLoneChild e) (buildLoneChild f) := by
  refine (L.sim_frame h).bind @fun κ1 fr gr _ hf => ?_
  have hr := hf.childResults
  have found : C.Alike κ1 (pure fr.childResults) (pure gr.childResults) := Sim.pure hr
  generalize fr.childResults = c at hr found ⊢
  generalize gr.childResults = d at hr found ⊢
  cases hr with
  | unbuilt => exact .fail rfl
  | _ => exact found

include P

/-! ## Work -/

theorem sim_buildStatement {call : Tree}
    (hc : κ.Call call) {c d : Option ScopeId} (hs : Option.Rel (κ.same .scope) c d)
    (hl : call.callee = "for" → ∀ a b, c = some a → d = some b → κ.same .cycle a b) :
    C.Alike κ (buildStatement p e call c) (buildStatement q f call d) :=
  (L.sharedFrame h hs).bind fun hf => P (.evalCall hf.1 hc.up fun h => hf.2 (hl h))

theorem sim_buildScope {a b : ScopeId} (hp : κ.same .place a b) (hw : κ.same .work a b) :
    C.Alike κ (buildScope p e a) (buildScope q f b) :=
  (L.newFrame hp (.inl h)).bind fun hf => P (.build hf.1 (hf.2.2 hw))

/-- A block is built alike wherever it is a value. -/
theorem sim_buildBlock {a b : ScopeId} (hs : κ.same .scope a b) :
    C.Alike κ (buildScope p e a) (buildScope q f b) :=
  Sim.withAgree fun hw => L.sim_buildScope P h ((L.link hw).place_of_scope hs)
    ((L.link hw).work_of_scope hs)

theorem sim_buildItem (hv : v.Alike κ w) : C.Alike κ (buildItem p e v) (buildItem q f w) := by
  have other : C.Alike κ
      (if v.isCallable then Run.within e (callPlain p v ⟨[], []⟩)
        else do throw (.strangeWork (← v.shown)))
      (if w.isCallable then Run.within f (callPlain q w ⟨[], []⟩)
        else do throw (.strangeWork (← w.shown))) := by
    refine .ite (by rw [hv.isCallable_eq]) (fun _ => ?_) fun _ => ?_
    · exact L.within h <| L.sim_callPlain P hv.up noArgs
    · exact (L.sim_shown hv).bindEq fun _ => .fail rfl
  cases hv with
  | shape hi made => exact .pure (.shape hi made)
  | statement hc => exact L.sim_buildStatement P h hc .none (by simp)
  | parent hc hs hl =>
    refine L.sim_buildStatement P h hc (.some hs) fun hf a b ha hb => ?_
    cases ha
    cases hb
    exact hl hf
  | scope hs => exact L.sim_buildBlock P h hs
  | host g =>
    refine .branch (.fail rfl) ?_
    exact L.within h (L.sim_callHost P g .none noArgs)
  | _ => exact other

theorem sim_unite (hv : v.Alike κ w)
    (hx : x.Alike κ y) : C.Alike κ (unite p e v x) (unite q f w y) := by
  have joined : C.Alike κ
      (do
        let both ← v.plus x
        trace p e [both, .str "_add", v, x] []
        return both)
      (do
        let both ← w.plus y
        trace q f [both, .str "_add", w, y] []
        return both) := by
    refine (L.sim_plus hv hx).bind fun hb => ?_
    refine (L.sim_trace P h.up (.cons hb (.cons (.str _) (.cons hv.up
      (.cons hx.up .nil)))) .nil).bind fun _ => ?_
    exact .pure hb.up
  have hv' := hv
  have hx' := hx
  cases hx with
  | undef => exact .pure hv'
  | _ =>
    cases hv with
    | undef => exact .pure hx'
    | _ => exact joined

theorem sim_buildAll (hv : v.Alike κ w) {xs ys : List Value} (hx : Values.Alike κ xs ys) :
    C.Alike κ (buildAll p e v xs) (buildAll q f w ys) := by
  induction xs generalizing κ v w ys with
  | nil =>
    cases hx
    exact .pure hv
  | cons x xs ih =>
    cases hx with
    | cons hx hxs =>
      refine (L.sim_buildItem P h hx).bind fun hn => ?_
      refine (L.sim_unite P h.up hv.up hn).bind fun hu => ?_
      exact ih h.up hu (Values.Alike.up hxs)

theorem sim_build (hb : κ.same .builder e f) : C.Alike κ (build p e) (build q f) := by
  have read : C.Sim κ (fun κ' fr gr =>
    κ'.same .work fr.scope gr.scope) (Run.frame e) (Run.frame f) :=
    Sim.get.bind fun hw => Sim.pure (L.builders hw h.up hb.up)
  refine read.bind fun hw => (L.sim_scope_work hw).bind fun hx => ?_
  exact L.sim_buildAll P h.up .undef hx

/-! ## Children -/

theorem sim_oneBuilt {c d : Value}
    (hc : c.Alike κ d) (hi : v.Alike κ w) :
    C.Alike κ
      (do
        let c' ← childFrame e
        let n ← (← Run.frame e).childResults.size
        if ← Value.related .lessEq (.int n) v then return .undef
        match ← childResult? e v with
        | some r => return r
        | none =>
          match c with
          | .scope id =>
            let item ← Value.itemAt .list (← Run.scope id).work v
            let r ← p (.eval c' item)
            setChildResult e v r
            return r
          | _ => throw .noAttribute)
      (do
        let c' ← childFrame f
        let n ← (← Run.frame f).childResults.size
        if ← Value.related .lessEq (.int n) w then return .undef
        match ← childResult? f w with
        | some r => return r
        | none =>
          match d with
          | .scope id =>
            let item ← Value.itemAt .list (← Run.scope id).work w
            let r ← q (.eval c' item)
            setChildResult f w r
            return r
          | _ => throw .noAttribute) := by
  refine (L.sim_childFrame h).bind fun hcf => ?_
  refine (L.sim_frame h.up).bind fun hf => (L.sim_size hf.childResults).bindEq fun n => ?_
  refine (L.sim_related .lessEq (.int n) hi.up).bindEq fun _ => ?_
  refine .branch (.pure .undef) ?_
  refine (L.sim_childResult? h.up hi.up).bind fun hr => ?_
  cases hr with
  | some hr => exact .pure hr
  | none =>
    cases hc with
    | scope hs =>
      refine .withAgree fun hw => ?_
      refine (L.sim_scope_items ((L.link hw).work_of_scope hs.up)).bind fun hx => ?_
      refine (sim_itemAt (R := fun κ v w => κ.Fit v ∧ v.Alike κ w) .list hx hi.up).bind
        fun hit => ?_
      refine (P (.eval hcf.up hit.2 hit.1)).bind fun hv => ?_
      refine (L.sim_setChildResult h.up hi.up hv).bind fun _ => ?_
      exact .pure hv.up
    | _ => exact .fail rfl

theorem sim_oneChild (hi : v.Alike κ w) : C.Alike κ (oneChild p e v) (oneChild q f w) := by
  refine (L.sim_frame h).bind @fun κ1 fr gr _ hf => ?_
  have lone : C.Alike κ1
      (do if ← v.equal (.int 0) then buildLoneChild e else return .undef)
      (do if ← w.equal (.int 0) then buildLoneChild f else return .undef) := by
    refine (L.sim_equal hi.up (.int 0)).bindEq fun _ => ?_
    exact .branch (L.sim_buildLoneChild h.up) (.pure .undef)
  have hc := hf.child
  generalize fr.child = c at hc ⊢
  generalize gr.child = d at hc ⊢
  cases hc with
  | none => exact .pure .undef
  | some hc =>
    have other := L.sim_oneBuilt P h.up hc hi.up
    cases hc with
    | statement | parent => exact lone
    | _ => exact other

theorem sim_buildChild (i : Nat) (hv : v.Alike κ w) :
    C.Alike κ (buildChild p e i v) (buildChild q f i w) := by
  refine (L.sim_childResult? h (.int i)).bind @fun κ1 _ _ _ hr => ?_
  cases hr with
  | some hr => exact .pure hr
  | none =>
    have keep : ∀ {κ' a b} [κ.Before κ'], a.Alike κ' b → C.Alike κ'
        (do setChildResult e (.int i) a; return a)
        (do setChildResult f (.int i) b; return b) :=
      fun hr => (L.sim_setChildResult h.up (.int i) hr).bind fun _ => .pure hr.up
    cases hv with
    | statement hc => exact (L.sim_buildStatement P h.up hc.up .none (by simp)).bind keep
    | parent hc hs hl =>
      refine (L.sim_buildStatement P h.up hc.up (.some hs.up) fun hf a b ha hb => ?_).bind keep
      cases ha
      cases hb
      exact (hl hf).up
    | scope hs => exact (L.sim_buildBlock P h.up hs.up).bind keep
    | _ => exact .failThen rfl

section Visit

variable {σ τ : Type} {S : Link → σ → τ → Prop} {g : σ → Value → Run (Eval.Visit σ)}
  {g' : τ → Value → Run (Eval.Visit τ)} {s : σ} {t : τ}

section

variable [Stable S]
  (hg : ∀ {κ' s t v w} [κ.Next κ'], S κ' s t → v.Alike κ' w →
    C.Sim κ' (fun κ'' => VisitRel (S κ'')) (g s v) (g' t w))

include hg

theorem sim_visitItems (i : Nat) (hs : S κ s t) {xs ys : List Value} (hx : Values.Alike κ xs ys) :
    C.Sim κ S (visitItems p e g i s xs) (visitItems q f g' i t ys) := by
  induction xs generalizing κ i s t ys with
  | nil =>
    cases hx
    exact .pure hs
  | cons x xs ih =>
    cases hx with
    | cons hx hxs =>
      refine (L.sim_buildChild P h i hx).bind fun hv => ?_
      refine (@hg _ _ _ _ _ ⟨Link.Before.le⟩ (Stable.up hs) hv).bind fun hr => ?_
      cases hr with
      | more hr =>
        exact ih h.up (fun hs hv => @hg _ _ _ _ _ ⟨Link.Before.le⟩ hs hv) _ hr (Values.Alike.up hxs)
      | stop hr => exact .pure hr

theorem sim_visitChildren (hs : S κ s t) :
    C.Sim κ S (visitChildren p e g s) (visitChildren q f g' t) := by
  have once : ∀ {κ' v w} [κ.Before κ'], v.Alike κ' w →
      C.Sim κ' S (Eval.Visit.state <$> g s v) (Eval.Visit.state <$> g' t w) := by
    intro κ' v w _ hv
    refine (@hg _ _ _ _ _ ⟨Link.Before.le⟩ (Stable.up hs) hv).map fun hr => ?_
    cases hr with
    | more hr | stop hr => exact hr
  refine (L.sim_frame h).bind @fun κ1 fr gr _ hf => ?_
  have lone : C.Sim κ1 S
      (do Eval.Visit.state <$> g s (← buildLoneChild e))
      (do Eval.Visit.state <$> g' t (← buildLoneChild f)) :=
    (L.sim_buildLoneChild h.up).bind once
  have hc := hf.child
  generalize fr.child = c at hc ⊢
  generalize gr.child = d at hc ⊢
  cases hc with
  | none => exact once .undef
  | some hc =>
    cases hc with
    | statement | parent => exact lone
    | scope hb =>
      refine .withAgree fun hw => ?_
      have hw1 := (L.link hw).work_of_scope hb
      refine (L.sim_childFrame h.up).bind fun _ => ?_
      refine (L.sim_scope_work hw1.up).bind fun hx => ?_
      exact L.sim_visitItems P h.up (fun hs hv => @hg _ _ _ _ _ ⟨Link.Before.le⟩ hs hv) 0
        (Stable.up hs) hx
    | _ => exact .fail rfl

end

end Visit

theorem sim_childUnion : C.Alike κ (childUnion p e) (childUnion q f) := by
  refine L.sim_visitChildren P h (fun hs hv => ?_) .undef
  exact (L.sim_unite P h.up hs hv).map fun hu => .more hu

theorem sim_children : C.Sim κ Values.Alike (children p e) (children q f) := by
  refine (L.sim_visitChildren P h (fun hs hv => ?_) .nil).bind fun hv => .pure (List.rel_reverse hv)
  exact .pure (.more (.cons hv hs))

end Lawful
end Correspondence
end Scad
