import Scad.Proofs.Correspondence.Build

/-!
Running through the items of a value, and loops over the block after a call,
respect every lawful correspondence, if the tasks they lead to do.
-/

namespace Scad

open Eval Eval.Loop

structure Eval.Loop.Alike (κ : Link) (m n : Eval.Loop) : Prop where
  env : κ.same .frame m.env n.env
  body : κ.same .scope m.body n.body
  cycle : κ.same .cycle m.body n.body
  inner : κ.same .frame m.inner n.inner
  intersect : m.intersect = n.intersect

theorem Eval.Loop.Alike.up {κ κ' : Link} [κ.Before κ'] {m n : Eval.Loop} (h : m.Alike κ n) :
    m.Alike κ' n where
  env := h.env.up
  body := h.body.up
  cycle := h.cycle.up
  inner := h.inner.up
  intersect := h.intersect

namespace Correspondence
namespace Lawful

variable {C : Correspondence} (L : C.Lawful) {κ : Link} {v w x y : Value} {e f : FrameId}
  {p q : Perform} {i j : Nat}

include L

/-! ## Children on demand -/

omit L in
theorem total_setStream (id : Nat) (s : Stream) : (Run.setStream id s).Total := fun _ => ⟨_, rfl⟩

variable (P : C.Performs p q)

include P

theorem sim_stepChild (hi : κ.same .stream i j) (h : κ.same .frame e f)
    {a b : ScopeId} (hs : κ.same .scope a b) (n : Nat) :
    C.Sim κ (fun κ' => Option.Rel (Value.Alike κ')) (stepChild p i e a n)
      (stepChild q j f b n) := by
  refine .withAgree fun hw => ?_
  refine (L.sim_scope_work ((L.link hw).work_of_scope hs)).bind @fun _ s t _ hx => ?_
  have hn := forall₂_getElem? hx n
  generalize s.work[n]? = o at hn ⊢
  generalize t.work[n]? = o' at hn ⊢
  cases hn with
  | none => exact (L.setStream hi.up .ended).bind fun _ => .pure .none
  | some hv =>
    refine (L.setStream hi.up .busy).bind fun _ => ?_
    refine (Sim.orUndo (L.sim_buildChild P h.up n hv.up) (@fun κ' _ =>
      L.setStream hi.up .ended) (total_setStream _ _)
      (total_setStream _ _)).bind fun hv => ?_
    refine (L.setStream hi.up (.walking h.up hs.up (n + 1))).bind fun _ => ?_
    exact .pure (.some hv.up)

theorem sim_nextChild (hi : κ.same .stream i j) :
    C.Sim κ (fun κ' => Option.Rel (Value.Alike κ')) (nextChild p i) (nextChild q j) := by
  refine (L.sim_stream hi).bind fun hs => ?_
  cases hs with
  | ended => exact .pure .none
  | busy => exact .fail rfl
  | walking h hs next => exact L.sim_stepChild P hi.up h hs next
  | waiting h =>
    refine (L.setStream hi.up .ended).bind fun _ => ?_
    refine (L.sim_frame h.up).bind @fun _ fr gr _ hf => ?_
    have hc := hf.child
    generalize fr.child = c at hc ⊢
    generalize gr.child = d at hc ⊢
    cases hc with
    | none => exact .pure (.some .undef)
    | some hc =>
      cases hc with
      | statement | parent => exact (L.sim_buildLoneChild h.up).map fun hv => .some hv
      | scope hs =>
        refine (L.sim_childFrame h.up).bind fun _ => ?_
        exact L.sim_stepChild P hi.up h.up hs.up 0
      | _ => exact .fail rfl

/-! ## Items of a value -/

section Each

variable {σ τ : Type} {S : Link → σ → τ → Prop} {g : σ → Value → Run σ} {g' : τ → Value → Run τ}
  {s : σ} {t : τ}

section

variable [Stable S]
  (hg : ∀ {κ' s t v w} [κ.Next κ'], S κ' s t → v.Alike κ' w → C.Sim κ' S (g s v) (g' t w))

include hg

theorem sim_eachChild (hi : κ.same .stream i j) (fuel : Nat) (hs : S κ s t) :
    C.Sim κ S (eachChild p g i fuel s) (eachChild q g' j fuel t) := by
  induction fuel generalizing κ s t with
  | zero => exact .fail rfl
  | succ fuel ih =>
    refine (L.sim_nextChild P hi).bind @fun κ1 _ _ _ ho => ?_
    cases ho with
    | none => exact .pure (Stable.up hs)
    | some hv =>
      refine (@hg _ _ _ _ _ ⟨Link.Before.le⟩ (Stable.up hs) hv).bind fun hs => ?_
      exact ih (fun hs hv => @hg _ _ _ _ _ ⟨Link.Before.le⟩ hs hv) hi.up hs

theorem sim_eachItem (hs : S κ s t) (hv : v.Alike κ w) :
    C.Sim κ S (eachItem p g s v) (eachItem q g' t w) := by
  have other : C.Sim κ S (do (← v.items).foldlM g s) (do (← w.items).foldlM g' t) :=
    (L.sim_items hv).bind fun hi => .foldlM hi
      (fun hs hv => @hg _ _ _ _ _ ⟨Link.Before.le⟩ hs hv) (Stable.up hs)
  cases hv with
  | pending hi => exact L.sim_eachChild P hg hi _ hs
  | _ => exact other

end

end Each

theorem sim_mapItems {α β : Type} {A : Link → α → β → Prop} [Stable A]
    {g : Value → Run α} {g' : Value → Run β}
    (hg : ∀ {κ' v w} [κ.Next κ'], v.Alike κ' w → C.Sim κ' A (g v) (g' w)) (hv : v.Alike κ w) :
    C.Sim κ (fun κ' => List.Forall₂ (A κ')) (mapItems p g v) (mapItems q g' w) := by
  have : Stable fun κ' => List.Forall₂ (A κ') := ⟨fun h => h.imp fun _ _ => Stable.up⟩
  refine (L.sim_eachItem P (S := fun κ' => List.Forall₂ (A κ')) (fun hs hv => ?_) .nil hv).bind
    fun h => .pure (List.rel_reverse h)
  exact (hg hv).bind fun ha => .pure (.cons ha (hs.imp fun _ _ => Stable.up))

theorem sim_itemsOf (hv : v.Alike κ w) : C.Sim κ Values.Alike (itemsOf p v) (itemsOf q w) :=
  L.sim_mapItems P (fun hv => .pure hv) hv

theorem sim_takeChildren (hi : κ.same .stream i j) {xs ys : List Value}
    (hx : Values.Alike κ xs ys) (n : Nat) :
    C.Sim κ Values.Alike (takeChildren p i xs n) (takeChildren q j ys n) := by
  induction n generalizing κ xs ys with
  | zero => exact .pure (List.rel_reverse hx)
  | succ n ih =>
    refine (L.sim_nextChild P hi).bind fun ho => ?_
    cases ho with
    | none => exact .pure (List.rel_reverse hx.up)
    | some hv => exact ih hi.up (.cons hv hx.up)

theorem sim_unpackItems (n : Nat) (hv : v.Alike κ w) :
    C.Sim κ Values.Alike (unpack p n v) (unpack q n w) := by
  have other := L.sim_unpack hv n
  cases hv with
  | pending hi =>
    refine (L.sim_takeChildren P hi .nil n).bind fun hx => ?_
    rw [hx.length_eq]
    refine .branch (.failThen rfl) ?_
    refine (L.sim_nextChild P hi.up).bind fun ho => ?_
    cases ho with
    | none => exact .pure hx.up
    | some => exact .fail rfl
  | _ => exact other

theorem sim_argsOf (hv : v.Alike κ w) : C.Sim κ Args.Alike (argsOf p v) (argsOf q w) := by
  refine (L.sim_unpackItems P 2 hv).bind fun hx => .two (fun _ _ _ _ hp hn => ?_) hx
  refine (L.sim_itemsOf P hp).bind fun hi => ?_
  cases hn with
  | dict hn ha => exact .pure ⟨⟨hi, Entries.Alike.up hn⟩, ha.up⟩
  | _ => exact .fail rfl

theorem sim_addItems (hv : v.Alike κ w) (hx : x.Alike κ y) :
    C.Alike κ (addTo p v x) (addTo q w y) := by
  have other := L.sim_addTo hv hx
  cases hx with
  | pending hi =>
    refine (L.sim_listItems? hv).bind @fun κ1 _ _ _ ho => ?_
    have each := L.sim_eachItem (κ := κ1) P (S := Value.Alike)
      (g := fun soFar v => soFar.addTo (.tuple [v])) (fun hs hv =>
        L.sim_addTo hs (.tuple (.cons hv .nil))) hv.up (.pending hi.up)
    cases ho with
    | none => exact .failThen rfl
    | some => exact each
  | _ => exact other

/-! ## Loops -/

section Over

variable {g g' : Value → Value → Run Value}

omit L P in
theorem sim_overItems (hg : ∀ {κ' a b v w} [κ.Next κ'], a.Alike κ' b → v.Alike κ' w →
      C.Alike κ' (g a v) (g' b w))
    {xs ys : List Value} (hx : Values.Alike κ xs ys) (hv : v.Alike κ w) :
    C.Alike κ (overItems g xs v) (overItems g' ys w) := by
  induction xs generalizing κ ys v w with
  | nil =>
    cases hx
    exact .pure hv
  | cons x xs ih =>
    cases hx with
    | cons hx hxs =>
      refine (@hg _ _ _ _ _ ⟨Link.Before.le⟩ hv hx).bind fun hs => ?_
      exact ih (fun hs hv => @hg _ _ _ _ _ ⟨Link.Before.le⟩ hs hv) (Values.Alike.up hxs) hs

omit L P in
theorem sim_overList {items items' : Run (List Value)}
    (hi : ∀ {κ'} [κ.Next κ'], C.Sim κ' Values.Alike items items')
    (hg : ∀ {κ' a b v w} [κ.Next κ'], a.Alike κ' b → v.Alike κ' w → C.Alike κ' (g a v) (g' b w))
    (fuel n : Nat) (hv : v.Alike κ w) : C.Alike κ (overList items g fuel n v)
      (overList items' g' fuel n w) := by
  induction fuel generalizing κ n v w with
  | zero => exact .fail rfl
  | succ fuel ih =>
    refine (@hi _ ⟨le_rfl⟩).bind @fun κ1 xs ys _ hx => ?_
    have hn := forall₂_getElem? hx n
    generalize xs[n]? = o at hn ⊢
    generalize ys[n]? = o' at hn ⊢
    cases hn with
    | none => exact .pure hv.up
    | some hn =>
      refine (@hg _ _ _ _ _ ⟨Link.Before.le⟩ hv.up hn).bind fun hs => ?_
      exact ih (fun {_} _ => @hi _ ⟨Link.Before.le⟩)
        (fun hs hv => @hg _ _ _ _ _ ⟨Link.Before.le⟩ hs hv) (n + 1) hs

omit P in
theorem sim_overValue (hg : ∀ {κ' a b v w} [κ.Next κ'], a.Alike κ' b → v.Alike κ' w →
      C.Alike κ' (g a v) (g' b w)) (hx : x.Alike κ y) (hv : v.Alike κ w) : C.Alike κ
      (do match ← x.listItems? with
        | none => throw .noAttribute
        | some xs =>
          overList (do return (← x.listItems?).getD []) g (xs.length + Node.growthLimit)
            0 v)
      (do match ← y.listItems? with
        | none => throw .noAttribute
        | some ys =>
          overList (do return (← y.listItems?).getD []) g' (ys.length + Node.growthLimit)
            0 w) := by
  refine (L.sim_listItems? hx).bind fun ho => ?_
  cases ho with
  | none => exact .fail rfl
  | some ho =>
    dsimp only
    rw [ho.length_eq]
    refine sim_overList ?_ (fun hs hv => @hg _ _ _ _ _ ⟨Link.Before.le⟩ hs hv) _ 0 hv.up
    refine (L.sim_listItems? hx.up).bind fun ho => ?_
    cases ho with
    | none => exact .pure .nil
    | some ho => exact .pure ho

end Over

omit L P in
theorem countUp_alike (m n : Int) : Values.Alike κ (countUp m n) (countUp m n) := by
  refine List.forall₂_same.2 fun v hv => ?_
  obtain ⟨k, _, rfl⟩ := List.mem_map.1 hv
  exact .int _

theorem sim_rangeItems (h : κ.same .frame e f) {a a' b b' c c' : Value}
    (ha : a.Alike κ a') (hb : b.Alike κ b') (hc : c.Alike κ c') (hf : κ.Fit a ∧ κ.Fit b ∧ κ.Fit c) :
    C.Sim κ Values.Alike (rangeItems p e a b c) (rangeItems q f a' b' c') := by
  have rest : ∀ {κ' s t} [κ.Before κ'], s.Alike κ' t → C.Sim κ' Values.Alike
      (do
        let start ← p (.eval e a)
        let stop ← (← p (.eval e b)).plus s
        let first ← Run.demand .typeMismatch start.int?
        return countUp first (← Run.demand .typeMismatch stop.int?))
      (do
        let start ← q (.eval f a')
        let stop ← (← q (.eval f b')).plus t
        let first ← Run.demand .typeMismatch start.int?
        return countUp first (← Run.demand .typeMismatch stop.int?)) := by
    intro κ' s t _ hs
    refine (P (.eval h.up ha.up hf.1.up)).bind fun hstart => ?_
    refine (P (.eval h.up hb.up hf.2.1.up)).bind fun hstop => ?_
    refine (L.sim_plus hstop hs.up).bind fun hstop => ?_
    rw [hstart.int?_eq, hstop.int?_eq]
    refine (Sim.demand_eq rfl _).bind fun hm => ?_
    refine (Sim.demand_eq rfl _).bind fun hn => ?_
    rw [← hm, ← hn]
    exact .pure (countUp_alike _ _)
  refine .ite (by rw [hc.isNumber_eq]) (fun _ => rest hc) fun _ => ?_
  exact (P (.eval h hc hf.2.2)).bind rest

theorem sim_round {m n : Eval.Loop} (h : m.Alike κ n) (hv : v.Alike κ w) :
    C.Alike κ (m.round p v) (n.round q w) := by
  refine (L.sim_buildBlock P h.inner h.body).bind @fun κ1 x y _ hx => ?_
  rw [h.intersect]
  refine .branch (L.sim_unite P h.env.up hv.up hx) ?_
  have joined : C.Alike κ1
      (do
        let both ← v.common x
        trace p m.env [both, .str "_inter", v, x] []
        return both)
      (do
        let both ← w.common y
        trace q n.env [both, .str "_inter", w, y] []
        return both) := by
    refine (L.sim_common hv.up hx).bind fun hb => ?_
    refine (L.sim_trace P h.env.up (.cons hb (.cons (.str _) (.cons hv.up
      (.cons hx.up .nil)))) .nil).bind fun _ => ?_
    exact .pure hb.up
  have hx' := hx
  cases hx with
  | undef => exact .pure hv.up
  | _ =>
    cases hv with
    | undef => exact .pure hx'
    | _ => exact joined

theorem sim_run {m n : Eval.Loop} (h : m.Alike κ n)
    {es fs : List (String × Value)} (he : Entries.Alike κ es fs) (hn : κ.Allows es)
    (hv : v.Alike κ w) : C.Alike κ (m.run p es v) (n.run q fs w) := by
  induction es generalizing κ fs v w with
  | nil =>
    cases he
    exact L.sim_round P h hv
  | cons entry es ih =>
    cases he with
    | @cons _ _ _ fs hs he =>
      obtain ⟨name, hs⟩ := hs
      obtain ⟨hname, hn⟩ := List.forall_mem_cons.1 hn
      have next : ∀ {κ' a b v w} [κ.Before κ'], a.Alike κ' b → v.Alike κ' w → C.Alike κ'
          (do m.setVariable name v; m.run p es a) (do n.setVariable name w; n.run q fs b) :=
        fun ha hv => (L.setVariable h.cycle.up hname.up hv).bind
            fun _ => ih h.up (Entries.Alike.up he) (Link.Allows.up hn) ha.up
      have other := L.sim_overValue next hs hv
      cases hs with
      | tuple hi => exact sim_overItems next hi hv
      | range _ ha hb hc hf =>
        refine (L.sim_rangeItems P h.env ha hb hc hf).bind fun hi => ?_
        exact sim_overItems next hi hv.up
      | _ => exact other

theorem sim_forModule (h : κ.same .frame e f) (hl : κ.same .loop e f)
    (hv : v.Alike κ w) {es fs : List (String × Value)} (he : Entries.Alike κ es fs)
    (hn : κ.Allows es) : C.Alike κ (forModule p e v es) (forModule q f w fs) := by
  refine .ite (by rw [forall₂_isEmpty he]) (fun _ => .failThen rfl) fun _ => ?_
  have read : C.Sim κ (fun κ' fr gr => fr.Alike κ' gr ∧ ∀ a b, fr.child = some (.scope a) →
      gr.child = some (.scope b) → κ'.same .cycle a b) (Run.frame e) (Run.frame f) :=
    Sim.get.bind fun hw => .pure ⟨L.frames hw h.up, fun _ _ ha hb => L.loops hw h.up hl.up ha hb⟩
  refine read.bind @fun _ fr gr _ hf => .withAgree fun hw => ?_
  obtain ⟨hf, hcycle⟩ := hf
  have hc := hf.child
  generalize fr.child = c at hc hcycle ⊢
  generalize gr.child = d at hc hcycle ⊢
  cases hc with
  | none => exact .fail rfl
  | some hc =>
    cases hc with
    | scope hs =>
      refine (L.newFrame ((L.link hw).place_of_scope hs) (.inl h.up)).bind fun hi => ?_
      refine (L.sim_truth hv.up).bind fun ht => ?_
      refine L.sim_run P ⟨h.up, hs.up, (hcycle _ _ rfl rfl).up, hi.1.up, ht⟩
        (List.rel_reverse he.up)
        (fun e hm => (hn e (List.mem_reverse.1 hm)).up) .undef
    | _ => exact .fail rfl

end Lawful
end Correspondence
end Scad
