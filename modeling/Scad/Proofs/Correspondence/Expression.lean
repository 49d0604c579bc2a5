import Scad.Proofs.Correspondence.Call
import Scad.Proofs.Correspondence.Declare

/-!
The evaluation of parse nodes respects every lawful correspondence, if the tasks it
leads to do. A loop over the children of a node takes as many rounds on both sides, so
each such loop is an induction on its fuel.
-/

namespace Scad

open Eval ExprForm Formula Node Value

variable {w w' : World} {t : Tree} {n m : Value} {κ : Link} {form : ExprForm} {ts : List Tree}
  {k length : Nat} {rule : String}

/-! ## The number of children -/

theorem Value.size_code (h : (code (.node rule ts)).size w = .ok k w') : k = ts.length := by
  cases h
  rfl

theorem Value.place?_ofNat {i : Nat} (h : place? length i = some k) : k = i := by
  have hi : ¬ (i : Int) < 0 := by omega
  simp only [place?, hi, if_false] at h
  split at h
  · cases h
    omega
  · cases h

theorem Value.place?_last (h : place? length (-1) = some k) : k + 1 = length := by
  simp only [place?, show (-1 : Int) < 0 by omega, if_true] at h
  split at h
  · rename_i hb
    cases h
    simp at hb
    omega
  · cases h

theorem Node.child_code {i : Int} {v : Value} (h : child i (.code (.node rule ts)) w = .ok v w') :
    ∃ k u, place? ts.length i = some k ∧ ts[k]? = some u ∧ v = .code u := by
  simp only [child, item, itemAt, int?] at h
  cases hk : (place? ts.length i).bind (ts[·]?) with
  | none =>
    rw [hk] at h
    cases h
  | some u =>
    rw [hk] at h
    obtain ⟨k, hp, hu⟩ := Option.bind_eq_some_iff.1 hk
    cases h
    exact ⟨k, u, hp, hu, rfl⟩

/-! ## The names in calls -/

theorem Node.child_zero_code {v : Value} (h : child 0 (.code t) w = .ok v w') :
    ∃ rule u ts, t = .node rule (u :: ts) ∧ v = .code u := by
  match t with
  | .leaf _ _ _ => exact nomatch h
  | .node rule [] => exact nomatch h
  | .node rule (u :: ts) =>
    have first : (place? (u :: ts).length 0).bind ((u :: ts)[·]?) = some u := by
      simp [place?]
    have hc : child 0 (.code (.node rule (u :: ts))) w = .ok (.code u) w := by
      simp only [child, item, itemAt, int?, first]
      rfl
    rw [hc] at h
    cases h
    exact ⟨rule, u, ts, rfl, rfl⟩

theorem Eval.calledName_code {s : String}
    (h : calledName (.code t) w = .ok s w') : s = t.applied := by
  obtain ⟨_, w1, hc, h⟩ := Run.bind_ok h
  obtain ⟨rule, u, ts, rfl, rfl⟩ := child_zero_code hc
  obtain ⟨_, w2, hc, h⟩ := Run.bind_ok h
  obtain ⟨rule', b, us, rfl, rfl⟩ := child_zero_code hc
  cases h
  simp [Tree.applied]

theorem Eval.isNamedCall_code {b : Bool}
    (h : isNamedCall n w = .ok b w') : ∀ t, n = .code t → b = true → t.isNamedCall = true := by
  rintro t rfl rfl
  obtain ⟨_, w1, hc, h⟩ := Run.bind_ok h
  obtain ⟨rule, u, ts, rfl, rfl⟩ := child_zero_code hc
  obtain ⟨_, w2, hc, h⟩ := Run.bind_ok h
  obtain ⟨rule', a, us, rfl, rfl⟩ := child_zero_code hc
  obtain ⟨s, w3, hs, h⟩ := Run.bind_ok h
  cases hs
  by_cases ha : a.rule = "pr_Sym"
  · rw [if_neg (by simp [ha])] at h
    obtain ⟨k, w4, hk, h⟩ := Run.bind_ok h
    cases hk
    cases ts with
    | nil => cases h
    | cons u ts =>
      rw [if_neg (by simp)] at h
      obtain ⟨_, w5, hc, h⟩ := Run.bind_ok h
      obtain ⟨k, u, hp, hu, rfl⟩ := child_code hc
      obtain rfl := place?_ofNat (i := 1) hp
      cases hu
      obtain ⟨_, w6, hc, h⟩ := Run.bind_ok h
      obtain ⟨rule'', b, vs, rfl, rfl⟩ := child_zero_code hc
      obtain ⟨s, w7, hs, h⟩ := Run.bind_ok h
      cases hs
      have hb : decide (b.rule = "add_args") = true := (EStateM.Result.ok.inj h).1
      simpa [Tree.isNamedCall, ha] using hb
  · rw [if_pos (by simp [ha])] at h
    cases h

theorem Node.wordAt_code {s : Text}
    (h : wordAt 0 (.code t) w = .ok s w') : Text.toString s = t.callee := by
  obtain ⟨_, w1, hc, h⟩ := Run.bind_ok h
  obtain ⟨rule, u, ts, rfl, rfl⟩ := child_zero_code hc
  cases h
  simp [Tree.callee]

/-! ## Nodes of a known form -/

/-- A node of a form that may be evaluated. -/
structure Value.Shaped (κ : Link) (form : ExprForm) (n m : Value) : Prop where
  alike : n.Alike κ m
  fit : κ.Fit n
  formed : ∀ t, n = .code t → ofRule? t.rule = some form
  node : n.isNode = true

theorem Value.Shaped.up {κ' : Link} [κ.Before κ'] (h : Shaped κ form n m) : Shaped κ' form n m :=
  ⟨h.alike.up, h.fit.up, h.formed, h.node⟩

/-- Nodes of a known form. A module call in a statement need not be a tree that may
occur in values; its parts are. -/
inductive Value.Formed (κ : Link) (e f : FrameId) : ExprForm → Value → Value → Prop
  | ruled {form : ExprForm} {rule : String} {n m : Value} (h : Value.Ruled κ rule n m)
      (hf : ofRule? rule = some form) (hs : κ.Fit n) : Formed κ e f form n m
  | call {rule : String} {ts : List Tree} (hr : ofRule? rule = some .modCall)
      (hw : κ.word (Tree.node rule ts).callee)
      (hl : (Tree.node rule ts).callee = "for" → κ.same .loop e f) (ht : ∀ u ∈ ts, κ.tree u)
      (hs : κ.Fit (.code (.node rule ts))) :
      Formed κ e f .modCall (.code (.node rule ts)) (.code (.node rule ts))

theorem Value.Formed.up {κ' : Link} [κ.Before κ'] {e f : FrameId}
    (h : Formed κ e f form n m) : Formed κ' e f form n m := by
  cases h with
  | ruled h hf hs => exact .ruled h.up hf hs.up
  | call hr hw hl ht hs =>
    exact .call hr hw.up (fun hn => (hl hn).up) (fun u hu => (ht u hu).up) hs.up

/-- What is known of the shape of a node of a known form. -/
theorem Value.Formed.fits {e f : FrameId} (h : Formed κ e f form n m) : κ.Fit n ∧ n.isNode = true ∧
      ∀ t, n = .code t → ofRule? t.rule = some form := by
  cases h with
  | ruled hr hf hs =>
    cases hr with
    | code =>
      refine ⟨hs, rfl, fun t ht => ?_⟩
      cases ht
      exact hf
    | node => exact ⟨hs, rfl, fun t ht => by cases ht⟩
  | call hr _ _ _ hs =>
    refine ⟨hs, rfl, fun t ht => ?_⟩
    cases ht
    exact hr

theorem Value.Ruled.shaped (h : Ruled κ rule n m)
    (hf : ofRule? rule = some form) (hs : κ.Fit n) : Shaped κ form n m := by
  obtain ⟨hs, hn, hf⟩ := (Value.Formed.ruled (e := 0) (f := 0) h hf hs).fits
  exact ⟨h.alike, hs, hf, hn⟩

/-- The form of a node that is evaluated is one that may be. -/
theorem Link.Fit.handles (h : κ.Fit n)
    (hn : n.isNode = true) (hf : ∀ t, n = .code t → ofRule? t.rule = some form) :
    κ.Handles form := by
  cases h with
  | loose h => exact .inl h
  | tree h => exact .inr ⟨_, h, hf _ rfl⟩
  | other h => exact absurd hn (by simp [h])

/-- Every second part of a form is evaluated. -/
def ExprForm.Alternates (form : ExprForm) : Prop :=
  ∀ length i, i % 2 = 0 → form.evaluates length i = true

namespace Correspondence

/-- Two ways to evaluate the parts of a node that respect a correspondence. -/
def Subs (C : Correspondence) (κ : Link) (s t : Eval.Sub) : Prop :=
  ∀ ⦃κ' v w⦄ [κ.Before κ'], v.Alike κ' w ∧ κ'.Fit v → C.Alike κ' (s v) (t w)

theorem Subs.up {C : Correspondence} {κ κ' : Link} [h' : κ.Before κ'] {s t : Eval.Sub}
    (h : C.Subs κ s t) : C.Subs κ' s t :=
  fun _ _ _ i => @h _ _ _ ⟨h'.le.trans i.le⟩

theorem Subs.after {C : Correspondence} {s t : Eval.Sub} {α : Type} {A : Link → α → α → Prop}
    {c c' : Run Value} {k k' : Value → Run α} (S : C.Subs κ s t)
    (hc : C.Sim κ (fun κ' v w => v.Alike κ' w ∧ κ'.Fit v) c c')
    (hk : ∀ {κ' v w} [κ.Next κ'], v.Alike κ' w → C.Sim κ' A (k v) (k' w)) :
    C.Sim κ A (do k (← s (← c))) (do k' (← t (← c'))) :=
  hc.bind fun hc => (S hc).bind fun hv => @hk _ _ _ ⟨Link.Before.le⟩ hv

/-- Nodes whose parts correspond. -/
structure Parted (C : Correspondence) (κ : Link) (n m : Value) : Prop where
  child : ∀ {κ'} [κ.Before κ'], ∀ i, C.Alike κ' (child i n) (child i m)
  size : ∀ {κ'} [κ.Before κ'], C.Same κ' n.size m.size

namespace Lawful

variable {C : Correspondence} (L : C.Lawful) {v w x y : Value} {e f : FrameId} {p q : Perform}
  {s t : Eval.Sub} {vs ws : List Value} {i : Nat} {u : Tree} {l r : World}

include L

/-! ## Parts of a node

The places of the parts that a form evaluates are known, and so the parts may be
evaluated if the node may be. -/

theorem fit_child (hw : C.agree κ l r) (hs : κ.Fit n) (hn : n.isNode = true)
    (hf : ∀ t, n = .code t → ofRule? t.rule = some form) {i : Int}
    (hi : ∀ rule ts k, n = .code (.node rule ts) → place? ts.length i = some k →
      form.evaluates ts.length k = true)
    {v : Value} {w w' : World} (h : child i n w = .ok v w') : κ.Fit v := by
  cases hs with
  | loose h => exact .loose h
  | @tree u hu =>
    cases u with
    | leaf => exact nomatch h
    | node rule ts =>
      obtain ⟨k, u, hp, hk, rfl⟩ := child_code h
      exact .tree ((L.link hw).fit_part hu (hf _ rfl) (hi rule ts k rfl hp) hk)
  | other h => exact absurd hn (by simp [h])

section

variable (hn : Value.Shaped κ form n m)

include hn

theorem sim_part (i : Int)
    (hi : ∀ rule ts k, n = .code (.node rule ts) → place? ts.length i = some k →
      form.evaluates ts.length k = true) :
    C.Sim κ (fun κ' v w => v.Alike κ' w ∧ κ'.Fit v) (child i n) (child i m) := by
  refine .withAgree fun hw => ?_
  refine ((L.sim_child i hn.alike).noting fun _ _ _ hc => ?_).weaken fun hc =>
    ⟨hc.1, Link.Fit.up (κ := κ) hc.2⟩
  exact L.fit_child hw hn.fit hn.node hn.formed hi hc

/-- A part at a place that the form evaluates whatever the number of parts is. -/
theorem sim_partAt (i : Nat) (hi : ∀ length, form.evaluates length i = true) :
    C.Sim κ (fun κ' v w => v.Alike κ' w ∧ κ'.Fit v) (child i n) (child i m) := by
  refine L.sim_part hn i fun rule ts k _ hp => ?_
  rw [place?_ofNat hp]
  exact hi _

theorem sim_count :
    C.Sim κ (fun _ k k' => k = k' ∧ ∀ rule ts, n = .code (.node rule ts) → k = ts.length)
      n.size m.size := by
  refine (L.sim_size hn.alike).noting fun _ k _ hk rule ts hc => ?_
  rw [hc] at hk
  exact size_code hk

theorem sim_arity {low high : Nat}
    (hok : ∀ rule ts, n = .code (.node rule ts) → form.allows ts.length = true →
      low ≤ ts.length ∧ ts.length ≤ high) :
    C.Same κ (checkArity low high n) (checkArity low high m) := by
  refine .withAgree fun hw => L.sim_checkArity hn.alike fun l k l' hk => ?_
  have hfit := hn.fit
  have hform := hn.formed
  have hnode := hn.node
  clear hn
  cases hfit with
  | loose h => exact .inl ((L.link hw).misfit_of_loose h _ rfl)
  | @tree u hu =>
    cases u with
    | leaf => exact nomatch hk
    | node rule ts =>
      rw [size_code hk]
      exact .inr (hok rule ts rfl ((L.link hw).fit_allows hu (hform _ rfl)))
  | other h => exact absurd hnode (by simp [h])

end

/-! ## Operators -/

theorem sim_breaksEquality (op : Text) (hv : v.Alike κ w) (hx : x.Alike κ y) :
    C.Same κ (breaksEquality op v x) (breaksEquality op w y) := by
  refine .branch ?_ ?_
  · exact (L.sim_equal hv hx).bindEq fun _ => .pure rfl
  · exact .branch (L.sim_equal hv hx) (.fail rfl)

theorem sim_breaksOrder (op : Text) (hv : v.Alike κ w) (hx : x.Alike κ y) :
    C.Same κ (breaksOrder op v x) (breaksOrder op w y) := by
  refine .branch (L.sim_related .greaterEq hv hx) ?_
  refine .branch (L.sim_related .greater hv hx) ?_
  refine .branch (L.sim_related .less hv hx) ?_
  exact .branch (L.sim_related .lessEq hv hx) (.fail rfl)

theorem sim_addOp (P : C.Performs p q) (op : Text) (hv : v.Alike κ w) (hx : x.Alike κ y) :
    C.Alike κ (addOp p op v x) (addOp q op w y) := by
  refine .branch (L.sim_addItems P hv hx) ?_
  exact .branch (L.sim_minus hv hx) (.fail rfl)

theorem sim_mulOp (op : Text) (hv : v.Alike κ w) (hx : x.Alike κ y) :
    C.Alike κ (mulOp op v x) (mulOp op w y) := by
  refine .branch (L.sim_timesTo hv hx) ?_
  refine .branch (L.sim_divide hv hx) ?_
  exact .branch (L.sim_modulo hv hx) (.fail rfl)

/-! ## Children in turn -/

section Parts

variable (S : C.Subs κ s t)

include S

theorem sim_subPart (hn : Value.Shaped κ form n m) (i : Nat)
    (hi : ∀ length, form.evaluates length i = true) :
    C.Alike κ (do s (← child i n)) (do t (← child i m)) :=
  (L.sim_partAt hn i hi).bind fun hc => S hc

section Rows

variable (h : Value.Shaped κ form n m)

include h

theorem sim_eachFrom (hi : ∀ length i, form.evaluates length i = true) (fuel i : Nat) :
    C.Same κ (eachFrom s n fuel i) (eachFrom t m fuel i) := by
  induction fuel generalizing κ i with
  | zero => exact .fail rfl
  | succ fuel ih =>
    refine (L.sim_reaches i h.alike).bindEq fun _ => ?_
    refine .branch ?_ (.pure rfl)
    refine S.up.after (L.sim_partAt h.up i fun _ => hi _ i) fun _ => ?_
    exact ih S.up h.up (i + 1)

/-- If there is more than the first part, the number of parts is another. -/
theorem sim_headThen (hf : ∀ length, form.evaluates length 0 = true)
    {more more' : Value → Run Value}
    (hm : ∀ {κ' v w} [κ.Next κ'], (∀ rule ts, n = .code (.node rule ts) → ts.length ≠ 1) →
      v.Alike κ' w → C.Alike κ' (more v) (more' w)) :
    C.Alike κ (headThen s n more) (headThen t m more') := by
  refine S.after (L.sim_partAt h 0 hf) fun hv => ?_
  refine (L.sim_count h.up).bind fun he => ?_
  obtain ⟨rfl, hk⟩ := he
  refine .ite Iff.rfl (fun _ => .pure hv.up) fun hone => ?_
  exact @hm _ _ _ ⟨Link.Before.le⟩ (fun rule ts hc => hk rule ts hc ▸ hone) hv.up

variable (hf : form.Alternates)

include hf

theorem sim_everySecond (hd : Values.Alike κ vs ws) (fuel : Nat) (hi : i % 2 = 0) :
    C.Sim κ Values.Alike (everySecond s n vs fuel i) (everySecond t m ws fuel i) := by
  induction fuel generalizing κ vs ws i with
  | zero => exact .fail rfl
  | succ fuel ih =>
    refine (L.sim_reaches i h.alike).bindEq fun _ => ?_
    refine .branch ?_ (.pure (List.rel_reverse hd.up))
    refine S.up.after (L.sim_partAt h.up i fun _ => hf _ i hi) fun hv => ?_
    exact ih S.up h.up (.cons hv hd.up) (by omega)

/-! ## Chains of operators -/

theorem sim_logicChain (word : Text) (final : Bool) (fuel : Nat) (hi : i % 2 = 1)
    (hv : v.Alike κ w) :
    C.Alike κ (logicChain s word final n fuel i v) (logicChain t word final m fuel i w) := by
  induction fuel generalizing κ i v w with
  | zero => exact .fail rfl
  | succ fuel ih =>
    refine (L.sim_reaches i h.alike).bindEq fun _ => ?_
    refine .branch ?_ (.pure hv.up)
    refine (L.sim_truth hv.up).bindEq fun _ => ?_
    refine .branch (.pure hv.up) ?_
    refine (L.sim_wordAt i h.alike.up).bindEq fun _ => ?_
    refine .branch (.failThen rfl) ?_
    refine S.up.after (L.sim_partAt h.up (i + 1) fun _ => hf _ _ (by omega)) fun hr => ?_
    exact ih S.up h.up (by omega) hr

theorem sim_evalLogic (word : Text) (final : Bool) :
    C.Alike κ (evalLogic s word final n) (evalLogic t word final m) := by
  refine S.after (L.sim_partAt h 0 fun _ => hf _ 0 rfl) fun hv => ?_
  refine (L.sim_rounds h.alike.up).bindEq fun k => ?_
  exact L.sim_logicChain S.up h.up hf word final k rfl hv.up

section Relations

variable {breaks : Text → Value → Value → Run Bool}
  (hb : ∀ ⦃κ' op v w x y⦄, v.Alike κ' w → x.Alike κ' y → C.Same κ' (breaks op v x) (breaks op w y))

include hb

theorem sim_relationChain (fuel : Nat) (hi : i % 2 = 1) (hv : v.Alike κ w) :
    C.Alike κ (relationChain s breaks n fuel i v) (relationChain t breaks m fuel i w) := by
  induction fuel generalizing κ i v w with
  | zero => exact .fail rfl
  | succ fuel ih =>
    refine (L.sim_reaches i h.alike).bindEq fun _ => ?_
    refine .branch ?_ (.pure (.bool true))
    refine S.up.after (L.sim_partAt h.up (i + 1) fun _ => hf _ _ (by omega)) fun hr => ?_
    refine (L.sim_wordAt i h.alike.up).bindEq fun _ => ?_
    refine (hb hv.up hr.up).bindEq fun _ => ?_
    refine .branch (.pure (.bool false)) ?_
    exact ih S.up h.up (by omega) hr.up

theorem sim_evalRelation : C.Alike κ (evalRelation s breaks n) (evalRelation t breaks m) := by
  refine L.sim_headThen S h (fun length => hf length 0 rfl) fun _ hv => ?_
  refine (L.sim_rounds h.alike.up).bindEq fun k => ?_
  exact L.sim_relationChain S.up h.up hf hb k rfl hv.up

end Relations

section Operators

variable {apply apply' : Text → Value → Value → Run Value}
  (ha : ∀ ⦃κ' op v w x y⦄, v.Alike κ' w → x.Alike κ' y →
    C.Alike κ' (apply op v x) (apply' op w y))

include ha

theorem sim_operatorChain (fuel : Nat) {i : Nat} (hi : i % 2 = 1) (hv : v.Alike κ w) :
    C.Alike κ (operatorChain s apply n fuel i v) (operatorChain t apply' m fuel i w) := by
  induction fuel generalizing κ i v w with
  | zero => exact .fail rfl
  | succ fuel ih =>
    refine (L.sim_reaches i h.alike).bindEq fun _ => ?_
    refine .branch ?_ (.pure hv.up)
    refine S.up.after (L.sim_partAt h.up (i + 1) fun _ => hf _ _ (by omega)) fun hr => ?_
    refine (L.sim_wordAt i h.alike.up).bindEq fun _ => ?_
    refine (ha hv.up hr.up).bind fun hs => ?_
    exact ih S.up h.up (by omega) hs

theorem sim_evalOperators : C.Alike κ (evalOperators s apply n) (evalOperators t apply' m) := by
  refine L.sim_headThen S h (fun length => hf length 0 rfl) fun _ hv => ?_
  refine (L.sim_rounds h.alike.up).bindEq fun k => ?_
  exact L.sim_operatorChain S.up h.up hf ha k rfl hv.up

end Operators

end Rows

theorem sim_evalUnary (h : Value.Shaped κ .unary n m) :
    C.Alike κ (evalUnary s n) (evalUnary t m) := by
  refine (L.sim_arity h fun rule ts _ ha => ?_).bind fun _ => ?_
  · simp [allows] at ha
    omega
  refine S.up.after (L.sim_part h.up (-1) fun rule ts k _ hp => ?_) fun hv => ?_
  · simp [evaluates, place?_last hp]
  refine (L.sim_size h.alike.up).bindEq fun _ => ?_
  refine .branch (.pure hv.up) ?_
  refine (L.sim_wordAt 0 h.alike.up).bindEq fun _ => ?_
  refine .branch (.pure hv.up) ?_
  refine .branch (L.sim_negate hv.up) ?_
  refine .branch ?_ (.fail rfl)
  exact (L.sim_truth hv.up).bindEq fun _ => .pure (.bool _)

theorem sim_evalExponent (h : Value.Shaped κ .exponent n m) :
    C.Alike κ (evalExponent s n) (evalExponent t m) := by
  refine L.sim_headThen S h (fun _ => rfl) @fun κ1 _ _ _ hone hv => ?_
  refine (L.sim_arity h.up fun rule ts hc ha => ?_).bind fun _ => ?_
  · have := hone rule ts hc
    simp [allows] at ha
    omega
  refine S.up.after (L.sim_partAt h.up 2 fun _ => rfl) fun hx => ?_
  refine (L.sim_wordAt 1 h.alike.up).bindEq fun _ => ?_
  refine .branch ?_ (.fail rfl)
  exact L.sim_power hv.up hx.up

theorem sim_evalCase (h : Value.Shaped κ .exprCase n m) :
    C.Alike κ (evalCase s n) (evalCase t m) := by
  refine L.sim_headThen S h (fun _ => rfl) fun hone hv => ?_
  refine (L.sim_arity h.up fun rule ts hc ha => ?_).bind fun _ => ?_
  · have := hone rule ts hc
    simp [allows] at ha
    omega
  refine (L.sim_truth hv.up).bindEq fun _ => ?_
  exact .branch (L.sim_subPart S.up h.up 2 fun _ => rfl) (L.sim_subPart S.up h.up 4 fun _ => rfl)

/-! ## Arguments and calls -/

theorem sim_collectArguments (h : κ.same .frame e f)
    (hn : Value.Shaped κ .argumentList n m) (fuel : Nat) (hi : i % 2 = 0)
    (hp : Values.Alike κ vs ws) {es fs : List (String × Value)} (he : Entries.Alike κ es fs)
    (ha : κ.Allows es) : C.Alike κ (collectArguments e s n fuel i vs es)
      (collectArguments f t m fuel i ws fs) := by
  induction fuel generalizing κ i vs ws es fs with
  | zero => exact .fail rfl
  | succ fuel ih =>
    refine (L.sim_reaches i hn.alike).bindEq fun _ => ?_
    refine .branch ?_ ?_
    · refine S.up.after (L.sim_partAt hn.up i fun _ => by simp [evaluates, hi]) fun hv => ?_
      refine (L.sim_size hv).bindEq fun _ => ?_
      refine .branch ?_ ?_
      · refine (L.sim_item hv.up (.int 0)).bind fun hx => ?_
        exact ih S.up h.up hn.up (by omega) (List.rel_append hp.up (.cons hx .nil)) he.up ha.up
      refine (L.sim_item hv.up (.int 0)).bind @fun κ5 x y _ hx => ?_
      have other : C.Alike κ5
          (if x.isKey then throw .noAttribute else throw .typeMismatch)
          (if y.isKey then throw .noAttribute else throw .typeMismatch) :=
        Sim.ite (by rw [hx.isKey_eq]) (fun _ => .fail rfl) fun _ => .fail rfl
      cases hx with
      | str name =>
        refine .ite (by rw [he.has_eq]) (fun _ => .failThen rfl) fun _ => ?_
        refine (L.sim_item hv.up (.int 1)).bind fun hx => ?_
        refine .ite Iff.rfl (fun hd => ?_) fun hd => ?_
        · refine (L.assign h.up hd hx).bind fun _ => ?_
          exact ih S.up h.up hn.up (by omega) hp.up he.up ha.up
        · refine .withAgree fun hw => ?_
          have plain := (L.link hw).entry_of_plain (Bool.eq_false_iff.2 hd)
          exact ih S.up h.up hn.up (by omega) hp.up (List.rel_append he.up (.cons (.mk _ hx) .nil))
            (ha.up.append (List.forall_mem_singleton.2 plain))
      | _ => exact other
    · refine (L.newList hp.up).bind fun hl => ?_
      exact .pure (.tuple (.cons hl (.cons (.dict he.up ha.up) .nil)))

theorem sim_evalArgument (h : Value.Shaped κ .argument n m) :
    C.Alike κ (evalArgument s n) (evalArgument t m) := by
  refine (L.sim_count h).bind fun he => ?_
  obtain ⟨rfl, hk⟩ := he
  refine .ite Iff.rfl (fun hone => ?_) fun hone => ?_
  · refine S.up.after (L.sim_part h.up 0 fun rule ts i hc hp => ?_)
      fun hv => .pure (.tuple (.cons hv .nil))
    simp [evaluates, place?_ofNat (i := 0) hp, ← hk rule ts hc, hone]
  · refine (L.sim_arity h.up fun rule ts hc ha => ?_).bind fun _ => ?_
    · have := hk rule ts hc
      simp [allows] at ha
      omega
    refine (L.sim_wordAt 0 h.alike.up).bindEq fun _ => ?_
    refine S.up.after (L.sim_part h.up 2 fun rule ts i hc hp => ?_)
      fun hv => .pure (.tuple (.cons (.str _) (.cons hv .nil)))
    simp [evaluates, place?_ofNat (i := 2) hp, ← hk rule ts hc, hone]

theorem sim_applyAddons (P : C.Performs p q) (h : Value.Shaped κ .call n m)
    (fuel i : Nat) (hv : v.Alike κ w) :
    C.Alike κ (applyAddons p s n fuel i v) (applyAddons q t m fuel i w) := by
  induction fuel generalizing κ i v w with
  | zero => exact .fail rfl
  | succ fuel ih =>
    refine (L.sim_reaches i h.alike).bindEq fun _ => ?_
    refine .branch ?_ (.pure hv.up)
    refine S.up.after (L.sim_partAt h.up i fun _ => rfl) @fun κ2 _ _ _ ha => ?_
    have given : (⟨[v], []⟩ : Args).Alike κ2 ⟨[w], []⟩ :=
      ⟨⟨.cons hv.up .nil, .nil⟩, List.forall_mem_nil _⟩
    refine (L.sim_callPlain P ha given).bind fun hr => ?_
    exact ih S.up h.up (i + 1) hr

omit S in
theorem sim_isNamedCall (h : n.Alike κ m) : C.Same κ (isNamedCall n) (isNamedCall m) := by
  refine (L.sim_child 0 h).bind fun hc => ?_
  refine (L.sim_child 0 hc).bind fun hc => ?_
  refine (L.sim_ruleName hc).bind fun hr => ?_
  refine .ite (by rw [hr.1]) (fun _ => .pure rfl) fun _ => ?_
  refine (L.sim_size h.up).bindEq fun _ => ?_
  refine .branch (.pure rfl) ?_
  refine (L.sim_child 1 h.up).bind fun hc => ?_
  refine (L.sim_child 0 hc).bind fun hc => ?_
  exact (L.sim_ruleName hc).bind fun hr => .pure (by rw [hr.1])

omit S in
theorem parted_of_alike (h : n.Alike κ m) : C.Parted κ n m :=
  ⟨fun i => L.sim_child i h.up, L.sim_size h.up⟩

theorem sim_argumentsAt (P : C.Performs p q) (none : Bool) (i : Int) (h : none = false →
      C.Sim κ (fun κ' v w => v.Alike κ' w ∧ κ'.Fit v) (child i n) (child i m)) :
    C.Sim κ Args.Alike (argumentsAt p s none i n) (argumentsAt q t none i m) := by
  refine .ite Iff.rfl (fun _ => .pure noArgs) fun hsome => ?_
  exact S.after (h (Bool.eq_false_iff.2 hsome)) fun hv => L.sim_argsOf P hv

omit L S in
/-- Only where every node may be evaluated one that may change is. -/
theorem loose_of_node {cell : Nat} (h : κ.Fit (.node cell)) : κ.loose := by
  cases h with
  | loose h => exact h
  | other h => cases h

omit S in
theorem sim_calledName (hn : Value.Shaped κ .call n m)
    (hr : ∃ rule, Value.Ruled κ rule n m ∧ ofRule? rule = some .call)
    (hnamed : ∀ t, n = .code t → t.isNamedCall = true) :
    C.Sim κ (fun κ' s t => s = t ∧ κ'.word s) (calledName n) (calledName m) := by
  have name : C.Same κ (calledName n) (calledName m) := by
    refine (L.sim_child 0 hn.alike).bind fun hc => ?_
    refine (L.sim_child 0 hc).bind fun hc => ?_
    exact (L.sim_word hc).bindEq fun _ => .pure rfl
  refine .withAgree fun hw => ?_
  obtain ⟨rule, hr, hf⟩ := hr
  have hfit := hn.fit
  clear hn
  cases hr with
  | code ht =>
    refine (name.noting fun _ _ _ => calledName_code).weaken fun hs => ⟨hs.1, ?_⟩
    rw [hs.2]
    exact (((L.link hw).word_of_tree ht).1 hf (hnamed _ rfl)).up
  | node _ hr =>
    exact name.weaken @fun _ s _ _ he =>
      ⟨he, ((L.link hw).word_of_rule (loose_of_node hfit) hr (.inl hf) s).up⟩

theorem sim_evalCall (P : C.Performs p q) (h : κ.same .frame e f) (hn : Value.Shaped κ .call n m)
    (hr : ∃ rule, Value.Ruled κ rule n m ∧ ofRule? rule = some .call) :
    C.Alike κ (evalCall p e s n) (evalCall q f t m) := by
  have ha := hn.alike
  refine ((L.sim_isNamedCall ha).noting fun _ _ _ => isNamedCall_code).bind fun he => ?_
  obtain ⟨rfl, hnamed⟩ := he
  refine .ite Iff.rfl (fun hb => ?_) fun _ => ?_
  · refine (L.sim_child 1 ha.up).bind fun hc => ?_
    refine (L.sim_child 0 hc).bind fun hc => ?_
    refine (L.sim_size hc).bindEq fun size => ?_
    refine (L.sim_argumentsAt S.up P (size == 2) 1 fun _ =>
      L.sim_partAt hn.up 1 fun _ => rfl).bind @fun κ5 _ _ _ hargs => ?_
    have hr' : ∃ rule, Value.Ruled κ5 rule n m ∧ ofRule? rule = some .call :=
      hr.imp fun rule hr => ⟨hr.1.up, hr.2⟩
    refine (L.sim_calledName hn.up hr' fun t ht => hnamed t ht hb).bind fun hs => ?_
    obtain ⟨rfl, hword⟩ := hs
    refine (P (.apply h.up hword hargs.up)).bind fun hv => ?_
    refine (L.sim_rounds ha.up).bindEq fun k => ?_
    exact L.sim_applyAddons S.up P hn.up k 2 hv.up
  · refine S.up.after (L.sim_partAt hn.up 0 fun _ => rfl) fun hv => ?_
    refine (L.sim_rounds ha.up).bindEq fun k => ?_
    exact L.sim_applyAddons S.up P hn.up k 1 hv.up

omit L S in
theorem sim_partOf (ht : ∀ u ∈ ts, κ.tree u) (i : Int) : C.Alike κ (child i (.code (.node rule ts)))
      (child i (.code (.node rule ts))) := by
  have parts : List.Forall₂ (fun u v => u = v ∧ κ.tree u) ts ts :=
    List.forall₂_same.2 fun u hu => ⟨rfl, ht u hu⟩
  refine (sim_itemAt (R := fun κ' u v => u = v ∧ κ'.tree u) .list ?_ (.int i)).map fun hu => ?_
  · exact parts
  · rw [← hu.1]
    exact .code hu.2

omit S in
theorem parted_of_formed (hn : Value.Formed κ e f .modCall n m) : C.Parted κ n m := by
  cases hn with
  | ruled hr _ _ => exact L.parted_of_alike hr.alike
  | call _ _ _ ht _ =>
    exact ⟨fun i => sim_partOf (fun u hu => (ht u hu).up) i, .pure rfl⟩

theorem sim_evalModCall (P : C.Performs p q) (h : κ.same .frame e f)
    (hn : Value.Formed κ e f .modCall n m) :
    C.Alike κ (evalModCall p e s n) (evalModCall q f t m) := by
  have hp := L.parted_of_formed hn
  obtain ⟨hfit, hnode, hform⟩ := hn.fits
  have hmod := hfit.handles hnode hform
  have word : C.Same κ (wordAt 0 n) (wordAt 0 m) := (hp.child 0).bind fun hc => L.sim_word hc
  have name : C.Sim κ (fun κ' s t => s = t ∧ κ'.word (Text.toString s) ∧
      (Text.toString s = "for" → κ'.same .loop e f)) (wordAt 0 n) (wordAt 0 m) := by
    refine .withAgree fun hw => ?_
    cases hn with
    | ruled hr hf _ =>
      cases hr with
      | code ht =>
        refine (word.noting fun _ _ _ => wordAt_code).weaken fun hs => ⟨hs.1, ?_, ?_⟩
        · rw [hs.2]
          exact (((L.link hw).word_of_tree ht).2 hmod hf).up
        · exact fun _ => (L.loop_of_tree hw hmod ht hf h).up
      | node _ hr =>
        have hl := loose_of_node hfit
        exact word.weaken fun he => ⟨he, ((L.link hw).word_of_rule hl hr (.inr hf) _).up,
            fun _ => (L.loop_of_rule hw hl hr hf h).up⟩
    | call _ hw hl ht _ =>
      refine (word.noting fun _ _ _ => wordAt_code).weaken fun hs => ⟨hs.1, ?_⟩
      rw [hs.2]
      exact ⟨hw.up, fun hn => (hl hn).up⟩
  refine name.bind @fun κ1 _ _ _ hs => ?_
  obtain ⟨rfl, hword, hl⟩ := hs
  have count : C.Sim κ1 (fun _ k k' => k = k' ∧ ∀ rule ts, n = .code (.node rule ts) →
      k = ts.length) n.size m.size := by
    refine (hp.size).noting fun _ k _ hk rule ts hc => ?_
    rw [hc] at hk
    exact size_code hk
  refine count.bind @fun κ2 size _ _ he => ?_
  obtain ⟨rfl, hk⟩ := he
  refine (L.sim_argumentsAt S.up P (size == 3) 2 fun hsome => ?_).bind fun ha => ?_
  · refine .withAgree fun hw => ?_
    refine ((hp.child 2).noting fun _ _ _ hc => ?_).weaken fun hc =>
      ⟨hc.1, Link.Fit.up (κ := κ2) hc.2⟩
    refine L.fit_child hw hfit.up hnode hform (fun rule ts i hc hp => ?_) hc
    have hk := hk rule ts hc
    simp only [beq_eq_false_iff_ne] at hsome
    simp [evaluates, place?_ofNat (i := 2) hp, ← hk, hsome]
  exact P (.instantiate h.up hmod.up hword.up (fun hn => (hl hn).up) ha)

theorem sim_evalIndices (h : Value.Shaped κ .addIndex n m)
    (hd : Values.Alike κ vs ws) (fuel i : Nat) :
    C.Sim κ Values.Alike (evalIndices s n vs fuel i) (evalIndices t m ws fuel i) := by
  induction fuel generalizing κ vs ws i with
  | zero => exact .fail rfl
  | succ fuel ih =>
    refine (L.sim_reaches i h.alike).bindEq fun _ => ?_
    refine .branch ?_ (.pure (List.rel_reverse hd.up))
    refine S.up.after (L.sim_partAt h.up 1 fun _ => rfl) fun hv => ?_
    exact ih S.up h.up (.cons hv hd.up) (i + 2)

theorem sim_evalAddIndex (h : Value.Shaped κ .addIndex n m) :
    C.Alike κ (evalAddIndex s n) (evalAddIndex t m) := by
  refine (L.sim_count h).bind @fun _ k _ _ he => ?_
  obtain ⟨rfl, hk⟩ := he
  refine .ite Iff.rfl (fun _ => ?_) fun htwo => ?_
  · exact L.newIdent.bind fun hi => .pure (.invoke hi)
  refine (L.sim_arity h.up fun rule ts hc ha => ?_).bind fun _ => ?_
  · have := hk rule ts hc
    simp [allows] at ha
    omega
  refine (L.sim_rounds h.alike.up).bindEq fun k => ?_
  refine (L.sim_evalIndices S.up h.up .nil k 1).bind fun hv => ?_
  exact L.newIdent.bind fun hi => .pure (.pick hi hv.up)

theorem sim_evalAddArgs (P : C.Performs p q) (h : Value.Shaped κ .addArgs n m) :
    C.Alike κ (evalAddArgs p s n) (evalAddArgs q t m) := by
  refine (L.sim_count h).bind fun he => ?_
  obtain ⟨rfl, hk⟩ := he
  refine .ite Iff.rfl (fun _ => ?_) fun htwo => ?_
  · exact L.newIdent.bind fun hi => .pure (.invoke hi)
  refine (L.sim_arity h.up fun rule ts hc ha => ?_).bind fun _ => ?_
  · have := hk rule ts hc
    simp [allows] at ha
    omega
  refine S.up.after (L.sim_part h.up 1 fun rule ts i hc hp => ?_) fun hv => ?_
  · simp [evaluates, place?_ofNat (i := 1) hp, ← hk rule ts hc, htwo]
  exact (L.sim_unpackItems P 2 hv).bind fun hi => .pure (.tuple hi)

/-! ## Functions without a name -/

theorem sim_evalFunction (h : κ.same .frame e f) (hn : Value.Shaped κ .exprFn n m) :
    C.Alike κ (evalFunction e s n) (evalFunction f t m) := by
  refine (L.sim_arity hn fun rule ts _ ha => ?_).bind fun _ => ?_
  · simp [allows] at ha
    omega
  refine (L.sim_count hn.up).bind @fun κ2 _ _ _ he => ?_
  obtain ⟨rfl, hk⟩ := he
  have rest : ∀ {κ' c d} [κ.Before κ'], c.Alike κ' d → C.Alike κ'
      (do let body ← child (-1) n
          return .function (← Run.newIdent) (← Run.frame e).scope "‹noname›" c body)
      (do let body ← child (-1) m
          return .function (← Run.newIdent) (← Run.frame f).scope "‹noname›" d body) := by
    intro κ' c d _ hp
    refine (L.sim_part hn.up (-1) fun rule ts i _ hp => ?_).bind fun hb => ?_
    · simp [evaluates, place?_last hp]
    refine L.newIdent.bind fun hi => ?_
    refine (L.sim_frame h.up).bind fun hf => ?_
    exact .pure (.function hi.up hf.place _ hp.up hb.1.up hb.2.up)
  refine .ite Iff.rfl (fun hfive => ?_) fun _ => rest (.named [] .nil)
  refine S.up.after (L.sim_part hn.up 2 fun rule ts i hc hp => ?_) fun hv => ?_
  · simp [evaluates, place?_ofNat (i := 2) hp, ← hk rule ts hc, hfive]
  exact (sim_paramsOfValue L.sim_listItems hv).bind rest

end Parts

/-! ## Literals -/

theorem sim_readNumber (text : Text) : C.Alike κ (readNumber text) (readNumber text) := by
  unfold readNumber
  dsimp only
  split
  · exact .pure (.int _)
  · split
    · exact L.sim_newFloat _
    · exact .fail rfl

/-- A value of another world is the same seen from both sides. -/
theorem sim_renew (world : World) (fuel : Nat) (v : Value) :
    C.Alike κ (renew world fuel v) (renew world fuel v) := by
  induction fuel generalizing κ v with
  | zero => exact .fail rfl
  | succ fuel ih =>
    have items (xs : List Value) : C.Sim κ Values.Alike (xs.mapM (renew world fuel))
        (xs.mapM (renew world fuel)) :=
      Sim.mapM (R := fun _ => Eq) (List.forall₂_same.2 fun _ _ => rfl) fun he => he ▸ ih _
    cases v with
    | undef => exact .pure .undef
    | bool b => exact .pure (.bool b)
    | int n => exact .pure (.int n)
    | float x => exact .pure (.float x)
    | nan _ => exact L.newIdent.bind fun hi => .pure (.nan hi)
    | str t => exact .pure (.str t)
    | list cell => exact (items _).bind fun hv => L.newList hv
    | tuple xs => exact (items xs).bind fun hv => .pure (.tuple hv)
    | dict es =>
      cases es with
      | nil => exact .pure (.dict .nil (List.forall_mem_nil _))
      | cons _ _ => exact .fail rfl
    | native name => exact .pure (.native name)
    | method owner name => exact (ih owner).bind fun hv => .pure (.method hv name)
    | foreign type => exact .pure (.foreign type)
    | _ => exact .fail rfl

omit L in
theorem faultOf_isPlain (g : Fault) : (faultOf g).isPlain = true := by
  cases g <;> rfl

theorem sim_isolated (formula : Run Value) : C.Alike κ (isolated formula) (isolated formula) := by
  have warned (xs : List String) : C.Same κ (xs.forM Run.warn) (xs.forM Run.warn) :=
    Sim.forM (R := fun _ => Eq) (List.forall₂_same.2 fun _ _ => rfl) fun he => he ▸ L.warn _
  unfold isolated
  split
  · exact (warned _).bind fun _ => L.sim_renew _ _ _
  · exact (warned _).bind fun _ => .fail (faultOf_isPlain _)

theorem sim_evalLiteral (text : String) : C.Alike κ (evalLiteral text) (evalLiteral text) := by
  unfold evalLiteral
  split
  · split
    · exact .branch (.fail rfl) (.pure (.str _))
    · exact .fail rfl
  · exact L.sim_isolated _

/-! ## Nodes -/

theorem sim_evalBranch (P : C.Performs p q) (h : κ.same .frame e f) (S : C.Subs κ s t)
    (hn : Value.Shaped κ .ifStatement n m) :
    C.Alike κ (evalBranch p e s n) (evalBranch q f t m) := by
  have hif := hn.fit.handles hn.node hn.formed
  refine S.after (L.sim_partAt hn 2 fun _ => rfl) fun hv => ?_
  refine (L.sim_frame h.up).bind fun hf => ?_
  refine (L.sim_scope_branch hif.up hf.place).bind @fun _ sc sd _ hb => ?_
  refine (L.sim_truth hv.up).bindEq @fun κ5 _ b => ?_
  have side : Option.Rel (κ5.same .scope)
      (if b then sc.branch.map (·.yes) else sc.branch.bind (·.no))
      (if b then sd.branch.map (·.yes) else sd.branch.bind (·.no)) := by
    generalize sc.branch = x at hb ⊢
    generalize sd.branch = y at hb ⊢
    cases hb with
    | none => cases b <;> exact .none
    | some hb =>
      cases b with
      | true => exact .some hb.yes.up
      | false => exact hb.no.imp fun _ _ h => h.up
  dsimp only
  generalize (if b then sc.branch.map (·.yes) else sc.branch.bind (·.no)) = x at side ⊢
  generalize (if b then sd.branch.map (·.yes) else sd.branch.bind (·.no)) = y at side ⊢
  cases side with
  | none => exact .fail rfl
  | some hs =>
    exact L.sim_buildBlock P h.up hs

theorem sim_evalForm (P : C.Performs p q) (h : κ.same .frame e f)
    (hn : Value.Formed κ e f form n m) : C.Alike κ (evalForm p e n form) (evalForm q f m form) := by
  have S : C.Subs κ (fun t => p (.eval e t)) (fun t => q (.eval f t)) :=
    fun _ _ _ _ hv => P (.eval h.up hv.1 hv.2)
  have formed := hn
  cases hn with
  | call => exact L.sim_evalModCall S P h formed
  | @ruled _ rule _ _ hr hf hs =>
    have ha := hr.shaped hf hs
    have word {k k' : Text → Run Value} (hk : ∀ {κ'} [κ.Next κ'] s, C.Alike κ' (k s) (k' s)) :
        C.Alike κ (do k (← word n)) (do k' (← word m)) :=
      (L.sim_word ha.alike).bindEq hk
    have rounds {α : Type} {A : Link → α → α → Prop} {k k' : Nat → Run α}
        (hk : ∀ {κ'} [κ.Next κ'] i, C.Sim κ' A (k i) (k' i)) :
        C.Sim κ A (do k (← rounds n)) (do k' (← rounds m)) :=
      (L.sim_rounds ha.alike).bindEq hk
    have only (hone : ∀ k, form.allows k = true → k = 1)
        (hfirst : ∀ k, form.evaluates k 0 = true) : C.Alike κ
        (do checkArity 1 1 n; p (.eval e (← child 0 n)))
        (do checkArity 1 1 m; q (.eval f (← child 0 m))) := by
      refine (L.sim_arity ha fun rule ts _ hk => ?_).bind fun _ => L.sim_subPart S.up ha.up 0 hfirst
      rw [hone _ hk]
      exact ⟨Nat.le_refl 1, Nat.le_refl 1⟩
    have even {form : ExprForm} (hf : ∀ k i, form.evaluates k i = (i % 2 == 0)) :
        form.Alternates := by
      intro k i hi
      rw [hf, hi]
      rfl
    cases form with
    | sequence =>
      refine rounds fun i => ?_
      exact (L.sim_eachFrom S.up ha.up (fun _ _ => rfl) i 0).bind fun _ => .pure .undef
    | ifelseStatement => exact .pure .undef
    | ifStatement => exact L.sim_evalBranch P h S ha
    | modCall => exact L.sim_evalModCall S P h formed
    | arguments =>
      refine (L.sim_arity ha fun rule ts _ hk => ?_).bind fun _ =>
        L.sim_subPart S.up ha.up 0 fun _ => rfl
      simp [allows] at hk
      omega
    | argumentList =>
      exact rounds fun i => L.sim_collectArguments S.up h.up ha.up i rfl .nil .nil
          (List.forall_mem_nil _)
    | argument => exact L.sim_evalArgument S ha
    | vecEmpty => exact .pure (.tuple .nil)
    | vecElems => exact L.sim_subPart S ha 1 fun _ => rfl
    | vectorElements =>
      refine rounds fun i => ?_
      exact (L.sim_everySecond S.up ha.up (even fun _ _ => rfl) .nil i rfl).bind
        fun hv => L.newList hv
    | exprFn => exact L.sim_evalFunction S h ha
    | exprCase => exact L.sim_evalCase S ha
    | logicOr => exact L.sim_evalLogic S ha (even fun _ _ => rfl) _ true
    | logicAnd => exact L.sim_evalLogic S ha (even fun _ _ => rfl) _ false
    | equality =>
      exact L.sim_evalRelation S ha (even fun _ _ => rfl) fun _ op _ _ _ _ =>
        L.sim_breaksEquality op
    | comparison =>
      exact L.sim_evalRelation S ha (even fun _ _ => rfl) fun _ op _ _ _ _ => L.sim_breaksOrder op
    | addition =>
      exact L.sim_evalOperators S ha (even fun _ _ => rfl) fun _ op _ _ _ _ => L.sim_addOp P op
    | multiplication =>
      exact L.sim_evalOperators S ha (even fun _ _ => rfl) fun _ op _ _ _ _ => L.sim_mulOp op
    | unary => exact L.sim_evalUnary S ha
    | exponent => exact L.sim_evalExponent S ha
    | call => exact L.sim_evalCall S P h ha ⟨rule, hr, hf⟩
    | num => exact word L.sim_readNumber
    | sym => exact word fun s => sim_readName P h.up (.str s)
    | paren => exact L.sim_subPart S ha 1 fun _ => rfl
    | str => exact word fun _ => L.sim_evalLiteral _
    | lceFor | lceLet | lceIf => exact .fail rfl
    | for2 =>
      refine (L.sim_partAt ha 1 fun _ => rfl).bind fun hx => ?_
      refine L.newIdent.bind fun hi => ?_
      refine (L.sim_partAt ha.up 3 fun _ => rfl).bind fun hy => ?_
      exact .pure (.range hi.up hx.1.up hy.1 (.int 1) ⟨hx.2.up, hy.2, .other rfl⟩)
    | for3 =>
      refine (L.sim_partAt ha 1 fun _ => rfl).bind fun hx => ?_
      refine (L.sim_partAt ha.up 3 fun _ => rfl).bind fun hy => ?_
      refine L.newIdent.bind fun hi => ?_
      refine (L.sim_partAt ha.up 5 fun _ => rfl).bind fun hz => ?_
      exact .pure (.range hi.up hx.1.up hy.1.up hz.1 ⟨hx.2.up, hy.2.up, hz.2⟩)
    | addArgs => exact L.sim_evalAddArgs S P ha
    | addIndex => exact L.sim_evalAddIndex S ha
    | litTrue => exact .pure (.bool true)
    | litFalse => exact .pure (.bool false)
    | litUndef => exact .pure .undef
    | expr | primary | vectorElement | addon =>
      exact only (fun k hk => by simpa [allows] using hk) fun _ => rfl

/-- Without a form for its rule a node has no meaning; only some such nodes may be met. -/
theorem misfit_of_unknown (hw : C.agree κ l r) (hr : Value.Ruled κ rule n m)
    (hs : κ.Fit n) (hf : ofRule? rule = none) :
    κ.misfit (if rule = "" then .bareTerminal else .noMeaning rule) := by
  have hno : Fault.isAssertion (if rule = "" then .bareTerminal else .noMeaning rule) = false := by
    split <;> rfl
  cases hr with
  | code _ =>
    cases hs with
    | loose h => exact (L.link hw).misfit_of_loose h _ hno
    | tree h => exact (L.link hw).misfit_of_fit h hf
    | other h => cases h
  | node _ _ => exact (L.link hw).misfit_of_loose (loose_of_node hs) _ hno

omit L in
theorem evaluates_wrapped (h : form.transparent = true) : form.evaluates 1 0 = true := by
  cases form <;> first | rfl | cases h

omit L in
theorem hasOneChild_code {l' : World}
    (h : hasOneChild (.code (.node rule ts)) l = .ok true l') : ts.length = 1 := by
  rcases ts with _ | ⟨_, _ | _⟩
  · cases h
  · rfl
  · cases h

section

variable {tell tell' : String → Run Unit}
  (ht : ∀ {κ'} [κ.Next κ'] rule, C.Same κ' (tell rule) (tell' rule)) (fuel : Nat)

include ht fuel

theorem sim_locate
    (h : n.Alike κ m) (hs : κ.Fit n) :
    C.Sim κ (fun κ' a b => a.1 = b.1 ∧ Value.Formed κ' e f a.1 a.2 b.2) (locate tell fuel n)
      (locate tell' fuel m) := by
  induction fuel generalizing κ n m with
  | zero => exact .fail rfl
  | succ fuel ih =>
    refine (L.sim_ruleName h).bind @fun κ1 rule _ _ hr => ?_
    obtain ⟨rfl, hr⟩ := hr
    dsimp only
    split
    · next hf =>
      refine .withAgree fun hw => ?_
      have hm := L.misfit_of_unknown hw hr hs.up hf
      refine .ite Iff.rfl (fun hn => ?_) fun hn => ?_
      · rw [if_pos hn] at hm
        exact .throwThen (.misfit hm)
      · rw [if_neg hn] at hm
        exact (L.sim_checkOutline hr.alike).bind fun _ => Sim.throw (.misfit hm.up)
    · next form hf =>
      refine (ht rule).bind fun _ => ?_
      have hshape := hr.shaped hf hs.up
      refine ((L.sim_hasOneChild hr.alike.up).noting (Q := fun b => b = true →
        ∀ rule ts, n = .code (.node rule ts) → ts.length = 1) ?_).bind @fun _ b _ _ he => ?_
      · rintro l b l' hb rfl rule ts rfl
        exact hasOneChild_code hb
      obtain ⟨rfl, hone⟩ := he
      refine .ite Iff.rfl (fun hb => ?_) fun _ => .pure ⟨rfl, .ruled hr.up hf hs.up⟩
      obtain ⟨htr, hb⟩ := Bool.and_eq_true_iff.1 hb
      refine (L.sim_part hshape.up 0 fun rule ts k hc hp => ?_).bind fun hc => ?_
      · rw [place?_ofNat (i := 0) hp, hone hb rule ts hc]
        exact evaluates_wrapped htr
      · exact ih (fun rule => @ht _ ⟨Link.Before.le⟩ rule) hc.1 hc.2

theorem sim_locateCall
    (hu : κ.Call u) (hl : u.callee = "for" → κ.same .loop e f) :
    C.Sim κ (fun κ' a b => a.1 = b.1 ∧ Value.Formed κ' e f a.1 a.2 b.2)
      (locate tell fuel (.code u)) (locate tell' fuel (.code u)) := by
  cases hu with
  | tree hu hs => exact L.sim_locate ht fuel (.code hu) hs
  | @parts rule ts hr hw hp hs =>
    cases fuel with
    | zero => exact .fail rfl
    | succ fuel =>
      have formed : Value.Formed κ e f .modCall (.code (.node rule ts)) (.code (.node rule ts)) :=
        .call hr hw hl hp hs
      unfold locate
      simp only [ruleName, Tree.rule, pure_bind, hr]
      refine (@ht _ ⟨le_rfl⟩ rule).bind @fun κ1 _ _ _ _ => ?_
      have one : C.Same κ1 (hasOneChild (.code (.node rule ts)))
          (hasOneChild (.code (.node rule ts))) := by
        cases ts with
        | nil => exact .pure rfl
        | cons _ ts => cases ts <;> exact .pure rfl
      refine one.bind fun _ => ?_
      exact .pure ⟨rfl, formed.up⟩

end

theorem sim_reporting (hn : Value.Formed κ e f form n m)
    {body body' : Run Value} (hb : C.Alike κ body body') :
    C.Alike κ (reporting n body) (reporting m body') := by
  have outline {κ' : Link} [κ.Before κ'] : C.Same κ' (checkOutline n) (checkOutline m) := by
    cases hn with
    | ruled hr _ _ => exact L.sim_checkOutline hr.alike.up
    | call => exact .pure rfl
  refine hb.tryCatch (fun he => ?_) (fun w => ⟨w, rfl⟩) fun w => ⟨w, rfl⟩
  dsimp only
  refine .ite (by rw [he.faultClass_eq]) (fun _ => ?_) fun _ => .throw he
  exact (outline).bind fun _ => .throw he.up

omit L in
theorem evalFound_eq (form : ExprForm) (n : Value) :
    evalFound p e form n = (do
      let v ← Run.raised e (reporting n (evalForm p e n form))
      let last ← Run.frame e
      if last.debug then Run.print (debugLine last.level "<" (← v.display))
      return v) := by
  unfold evalFound Run.raised
  rw [bind_assoc]

section

variable (P : C.Performs p q) (h : κ.same .frame e f)

include P h

/-- The way to a node does not matter, only what it is found to be. -/
theorem sim_evalLocated
    (hl : ∀ {κ' tell tell'} [κ.Next κ'],
      (∀ {κ''} [κ'.Next κ''] rule, C.Same κ'' (tell rule) (tell' rule)) →
      C.Sim κ' (fun κ'' a b => a.1 = b.1 ∧ Value.Formed κ'' e f a.1 a.2 b.2)
        (locate tell (depth n) n) (locate tell' (depth m) m)) :
    C.Alike κ (evalNode p e n) (evalNode q f m) := by
  refine (L.sim_frame h).bind fun hf => ?_
  refine (hl fun _ => ?_).bind @fun _ a b _ hn => ?_
  · refine .ite (by rw [hf.debug]) (fun hd => ?_) fun _ => .pure rfl
    rw [hf.level hd]
    exact L.print _
  obtain ⟨form, n⟩ := a
  obtain ⟨form', m⟩ := b
  obtain ⟨rfl, hn⟩ := hn
  simp only [evalFound_eq]
  refine (L.raised h.up ?_).bind fun hv => ?_
  · exact L.sim_reporting hn.up (L.sim_evalForm P h.up hn.up)
  refine (L.sim_frame h.up).bind fun hf => ?_
  refine .ite (by rw [hf.debug]) (fun hd => ?_) fun _ => .pure hv.up
  refine (L.sim_display hv.up).bindEq fun _ => ?_
  rw [hf.level hd]
  exact (L.print _).bind fun _ => .pure hv.up

theorem sim_evalNode (hn : n.Alike κ m) (hs : κ.Fit n) :
    C.Alike κ (evalNode p e n) (evalNode q f m) := by
  refine L.sim_evalLocated P h fun ht => ?_
  rw [depth_eq hn]
  exact L.sim_locate ht _ hn.up hs.up

theorem sim_evalStatement (hu : κ.Call u) (hl : u.callee = "for" → κ.same .loop e f) :
    C.Alike κ (evalNode p e (.code u)) (evalNode q f (.code u)) :=
  L.sim_evalLocated P h fun ht => L.sim_locateCall ht _ hu.up fun hn => (hl hn).up

end

end Lawful
end Correspondence
end Scad
