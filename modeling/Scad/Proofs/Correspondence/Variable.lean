import Scad.Proofs.Correspondence.Argument

/-!
Looking at parse nodes, calling host functions and reading variables respect every
lawful correspondence, if the tasks they lead to do.
-/

namespace Scad

open Eval Run Node

namespace Correspondence

/-- Two ways to carry out tasks that respect a correspondence. -/
def Performs (C : Correspondence) (p q : Perform) : Prop :=
  ∀ ⦃κ t u⦄, t.Alike κ u → C.Alike κ (p t) (q u)

/-- Environments that answer alike when a key is asked, and keep the answer. -/
structure Asked (C : Correspondence) (κ : Link) (e f : FrameId) : Prop where
  seen : ∀ {κ'} [κ.Before κ'], κ'.same .frame e f ∨ κ'.same .origin e f
  count : ∀ {κ'} [κ.Before κ'], C.Alike κ' (childCount e) (childCount f)
  keyed : ∀ {κ'} [κ.Before κ'], C.Sim κ' (fun κ s t => List.Forall₂ (KeyRel κ) s.keyed t.keyed)
    (slots e) (slots f)
  callers : ∀ {κ'} [κ.Before κ'], C.Sim κ' (fun κ x y =>
    Option.Rel (fun c d => κ.same .frame c d ∨ κ.same .origin c d) x.caller y.caller)
    (frame e) (frame f)
  setKeyed : ∀ {κ' ks ks'} [κ.Before κ'], List.Forall₂ (KeyRel κ') ks ks' →
    C.Same κ' (modifySlots e fun t => { t with keyed := ks })
      (modifySlots f fun t => { t with keyed := ks' })
  within : ∀ {κ'} {m m' : Run Value} [κ.Before κ'], (∀ {κ''} [κ'.Next κ''], C.Alike κ'' m m') →
    C.Alike κ' (within e m) (within f m')

namespace Lawful

variable {C : Correspondence} (L : C.Lawful) {κ : Link} {v w x y : Value} {e f : FrameId}
  {name : String} {d d' : VarDef}

include L

/-! ## Parse nodes -/

theorem sim_ruleName (h : v.Alike κ w) :
    C.Sim κ (fun κ' s t => s = t ∧ Value.Ruled κ' s v w) (ruleName v) (ruleName w) := by
  cases h with
  | code h => exact .pure ⟨rfl, .code h⟩
  | node h =>
    refine (L.sim_nodeCell h).bind fun hn => ?_
    cases hn with
    | leaf hr | inner hr => exact .pure ⟨rfl, .node h.up hr⟩
  | _ => exact .fail rfl

theorem sim_child (i : Int) (h : v.Alike κ w) : C.Alike κ (child i v) (child i w) :=
  L.sim_item h (.int i)

theorem sim_reaches (i : Nat) (h : v.Alike κ w) : C.Same κ (reaches i v) (reaches i w) :=
  (L.sim_size h).bindEq fun _ => .pure rfl

theorem sim_word (h : v.Alike κ w) : C.Same κ (word v) (word w) := by
  have hd := L.sim_display h
  cases h with
  | code | node => exact hd
  | _ => exact .fail rfl

theorem sim_wordAt (i : Int) (h : v.Alike κ w) : C.Same κ (wordAt i v) (wordAt i w) :=
  (L.sim_child i h).bind fun h => L.sim_word h

theorem sim_checkArity {low high : Nat} (h : v.Alike κ w)
    (hk : ∀ l k l', v.size l = .ok k l' → κ.misfit .arity ∨ low ≤ k ∧ k ≤ high) :
    C.Same κ (checkArity low high v) (checkArity low high w) := by
  refine ((L.sim_size h).noting hk).bind fun he => ?_
  obtain ⟨rfl, hk⟩ := he
  refine .ite Iff.rfl (fun hout => ?_) fun _ => .pure rfl
  rcases hk with hm | hk
  · exact .throw (.misfit hm.up)
  · simp at hout
    omega

theorem sim_hasOneChild (h : v.Alike κ w) : C.Same κ (hasOneChild v) (hasOneChild w) := by
  refine (L.sim_listItems? h).bind fun ho => ?_
  cases ho with
  | none => exact .pure rfl
  | some ho =>
    cases ho with
    | nil => exact .pure rfl
    | cons _ ho => cases ho <;> exact .pure rfl

theorem sim_checkOutlineWith (fuel : Nat) (h : v.Alike κ w) :
    C.Same κ (checkOutlineWith fuel v) (checkOutlineWith fuel w) := by
  induction fuel generalizing κ v w with
  | zero => exact .fail rfl
  | succ fuel ih =>
    cases h with
    | code => exact .pure rfl
    | node h =>
      refine (L.sim_nodeCell h).bind fun hn => ?_
      cases hn with
      | leaf => exact .pure rfl
      | inner _ hc => exact .forM hc fun hv => ih hv
    | _ => exact .fail rfl

theorem sim_checkOutline (h : v.Alike κ w) : C.Same κ (checkOutline v) (checkOutline w) :=
  L.sim_checkOutlineWith nestingLimit h

theorem sim_rounds (h : v.Alike κ w) : C.Same κ (rounds v) (rounds w) :=
  (L.sim_size h).bindEq fun _ => .pure rfl

omit L in
theorem depth_eq (h : v.Alike κ w) : depth v = depth w := by
  cases h <;> rfl

/-! ## Host functions -/

theorem sim_childCount (h : κ.same .frame e f) : C.Alike κ (childCount e) (childCount f) := by
  refine (L.sim_frame h).bind @fun _ fr gr _ hf => .withAgree fun hw => ?_
  have hc := hf.child
  generalize fr.child = c at hc ⊢
  generalize gr.child = d at hc ⊢
  cases hc with
  | none => exact .pure (.int 0)
  | some hc =>
    cases hc with
    | scope hs =>
      refine (L.sim_scope_work ((L.link hw).work_of_scope hs)).bind fun h => ?_
      exact .pure (by rw [h.length_eq]; exact .int _)
    | _ => exact .fail rfl

variable {p q : Perform} (P : C.Performs p q) {a b : Args}

omit L in
theorem noArgs : (⟨[], []⟩ : Args).Alike κ ⟨[], []⟩ := ⟨⟨.nil, .nil⟩, List.forall_mem_nil _⟩

include P

omit L in
theorem sim_ask (h : κ.same .frame e f ∨ κ.same .origin e f)
    (hd : isDynamicName name = true) (hn : name ≠ "$children") :
    C.Alike κ (p (.read e name)) (q (.read f name)) :=
  P (h.elim (fun h => .read h name) fun h => .readOrigin h hd hn)

theorem sim_countArguments_env (h : κ.same .frame e f ∨ κ.same .origin e f) (ha : a.Alike κ b) :
    C.Alike κ (callHost p .countArguments (some e) a) (callHost q .countArguments (some f) b) := by
  refine (sim_bind rfl ha).bind fun hb => ?_
  refine (sim_ask P (h.imp (·.up) (·.up)) (by decide) (by decide)).bind fun hv => ?_
  refine L.newList (.cons ?_ (.cons hv .nil))
  rw [hb.rest.length_eq]
  exact .int _

theorem sim_callHost (g : Host) {o o' : Option FrameId}
    (ho : Option.Rel (fun c d => κ.same .frame c d ∨ κ.same .origin c d) o o') (ha : a.Alike κ b) :
    C.Alike κ (callHost p g o a) (callHost q g o' b) := by
  cases g with
  | number n => exact (sim_bind rfl ha).bind fun _ => .pure (.int n)
  | nothing => exact (sim_bind rfl ha).bind fun _ => .pure .undef
  | sum =>
    refine (sim_bind rfl ha).bind fun hb => ?_
    exact .two (fun _ _ _ _ hv hx => L.sim_plus hv hx) hb.values
  | currentFacets =>
    refine (sim_bind rfl ha).bind fun _ => Sim.get.bind @fun _ l r _ hw => ?_
    have hc := L.current hw
    generalize l.current = c at hc ⊢
    generalize r.current = d at hc ⊢
    cases hc with
    | some hc => exact sim_ask P (L.asked_of_current hw hc) (by decide) (by decide)
    | none => exact .fail rfl
  | box =>
    refine (sim_bind rfl ha).bind fun hb => ?_
    refine .one (fun _ _ hv => ?_) hb.values
    exact L.sim_construct "Box" (.cons hv (.cons hv (.cons hv .nil))) .nil
  | collect =>
    refine (L.newList ha.positional).bind fun hv => ?_
    exact L.newList (.cons hv (.cons (.dict ha.named.up ha.allowed.up) .nil))
  | countArguments =>
    cases ho with
    | some ho => exact L.sim_countArguments_env P ho ha
    | none =>
      refine (sim_bind rfl ha).bind fun hb => .one (fun _ _ hv => ?_) hb.values
      refine (L.sim_item hv (.str _)).bind fun hx => L.newList (.cons ?_ (.cons hx .nil))
      rw [hb.rest.length_eq]
      exact .int _
  | successor =>
    refine (sim_bind rfl ha).bind fun hb => ?_
    exact .one (fun _ _ hv => L.sim_plus hv (.int 1)) hb.values
  | noSolid => exact (sim_bind rfl ha).bind fun _ => .pure .undef

omit P in
theorem sim_pickAll {is js : List Value} (hi : Values.Alike κ is js) (h : v.Alike κ w) :
    C.Alike κ (pickAll is v) (pickAll js w) := by
  induction is generalizing κ js v w with
  | nil =>
    cases hi
    exact .pure h
  | cons i is ih =>
    cases hi with
    | cons hi his =>
      exact (L.sim_item h hi).bind fun h => ih (Values.Alike.up his) h

theorem sim_callPlain (h : v.Alike κ w) (ha : a.Alike κ b) :
    C.Alike κ (callPlain p v a) (callPlain q w b) := by
  have single : C.Sim κ Values.Alike
      (do return (← lift ((Signature.required ["x"]).bind a)).values)
      (do return (← lift ((Signature.required ["x"]).bind b)).values) :=
    (sim_bind rfl ha).bind fun hb => .pure hb.values
  cases h with
  | host g => exact L.sim_callHost P g .none ha
  | invoke =>
    refine single.bind @fun _ vs ws _ hv => ?_
    match vs, ws, hv with
    | [], _, .nil => exact .fail rfl
    | _ :: _ :: _, _, .cons hx (.cons _ _) => cases hx <;> exact .fail rfl
    | [_], [_], .cons hv .nil =>
      cases hv with
      | host g => exact L.sim_callHost P g .none noArgs
      | _ => exact .fail rfl
  | pick _ hi =>
    refine single.bind fun hv => .one (fun _ _ hx => ?_) hv
    exact L.sim_pickAll (Values.Alike.up hi) hx
  | _ => exact .fail rfl

/-! ## Variables -/

theorem sim_evalIn (h : κ.same .frame e f ∨ κ.same .origin e f)
    {s t : ScopeId} (hs : κ.same .place s t) (hv : v.Alike κ w) (hfit : κ.Fit v) :
    C.Alike κ (evalIn p e s v) (evalIn q f t w) :=
  (L.newFrame hs h).bind fun hf => P (.eval hf.1 hv.up hfit.up)

/-- A definition gives the same wherever host functions can be called. -/
theorem sim_define_of_within (h : κ.same .frame e f ∨ κ.same .origin e f)
    (hin : ∀ {m m' : Run Value}, (∀ {κ'} [κ.Next κ'], C.Alike κ' m m') →
      C.Alike κ (Run.within e m) (Run.within f m'))
    (hd : d.Alike κ d') : C.Alike κ (define p e d) (define q f d') := by
  cases hd with
  | expr hs hb hf => exact L.sim_evalIn P h hs hb hf
  | @value v w hv =>
    have other : C.Alike κ
        (if v.isCallable then Run.within e (callPlain p v ⟨[], []⟩) else pure v)
        (if w.isCallable then Run.within f (callPlain q w ⟨[], []⟩) else pure w) :=
      Sim.ite (by rw [hv.isCallable_eq]) (fun _ => hin <| L.sim_callPlain P hv.up noArgs)
        fun _ => .pure hv
    cases hv with
    | host g =>
      refine .branch (L.sim_callHost P g (.some h) noArgs) ?_
      exact hin <| L.sim_callHost P g .none noArgs
    | _ => exact other

theorem sim_define (h : κ.same .frame e f) (hd : d.Alike κ d') :
    C.Alike κ (define p e d) (define q f d') :=
  L.sim_define_of_within P (.inl h) (L.within h) hd

theorem sim_findDefinition (hn : name ≠ "$children")
    (read : C.Sim κ (fun κ' fr gr => κ'.same .place fr.scope gr.scope ∧
      (isDynamicName name = true → Option.Rel (fun c d =>
        κ'.same .frame c d ∨ κ'.same .origin c d) fr.caller gr.caller)) (frame e) (frame f)) :
    C.Sim κ VarDef.Alike (findDefinition p e name) (findDefinition q f name) := by
  refine read.bind @fun _ fr gr _ hf => ?_
  split
  · exact .fail rfl
  · rename_i hl
    have hd : isDynamicName name = true := by simp [isDynamicName, hl]
    refine .orIfUnknown ?_ <| L.sim_lookupVar hf.1.up name
    have hc := hf.2 hd
    generalize fr.caller = c at hc ⊢
    generalize gr.caller = d at hc ⊢
    cases hc with
    | none => exact .fail rfl
    | some hc => exact .map (sim_ask P hc hd hn) fun hv => .value hv
  · exact L.sim_lookupVar hf.1 name

omit P

/-- The environments that a name is looked up in. -/
theorem sim_frame_knows (h : κ.same .frame e f) (hk : κ.Knows e f name) :
    C.Sim κ (fun κ' fr gr => κ'.same .place fr.scope gr.scope ∧ (isDynamicName name = true →
      Option.Rel (fun c d => κ'.same .frame c d ∨ κ'.same .origin c d) fr.caller gr.caller))
      (frame e) (frame f) := by
  rcases hk with ho | ⟨_, hd⟩
  · exact (L.sim_frame_own h ho).weaken fun hf => ⟨hf.1.place, fun _ => hf.2⟩
  · exact (L.sim_frame h).weaken fun hf => ⟨hf.place, fun hn => by rw [hd] at hn; cases hn⟩

theorem sim_readVariable (P : C.Performs p q) (h : κ.same .frame e f) (hk : κ.Knows e f name) :
    C.Alike κ (readVariable p e name) (readVariable q f name) := by
  refine .ite Iff.rfl (fun _ => L.sim_childCount h) fun hn => ?_
  refine (L.sim_slot hk).bind fun hs => ?_
  cases hs with
  | some hs =>
    cases hs with
    | known hv => exact .pure hv
    | busy => exact .fail rfl
  | none =>
    refine (L.sim_findDefinition P hn (L.sim_frame_knows h.up hk.up)).bind fun hd => ?_
    exact L.computed h.up hk.up <| L.sim_define P h.up hd.up

/-! ## Keys -/

theorem sim_findKey (h : v.Alike κ w) {ks ks' : List (Value × Slot)}
    (hk : List.Forall₂ (KeyRel κ) ks ks') :
    C.Sim κ (fun κ' => Option.Rel (Slot.Alike κ')) (findKey v ks) (findKey w ks') := by
  induction ks generalizing κ ks' with
  | nil =>
    cases hk
    exact .pure .none
  | cons k ks ih =>
    cases hk with
    | cons hk hks =>
      refine (L.sim_sameOr hk.key h (L.sim_equal hk.key h)).bindEq fun _ => ?_
      exact .branch (.pure (.some hk.slot.up)) (ih h.up (hks.imp fun _ _ => KeyRel.up))

theorem sim_putKey (h : v.Alike κ w) {s t : Slot} (hs : s.Alike κ t) (hi : s ≠ .busy)
    {ks ks' : List (Value × Slot)} (hk : List.Forall₂ (KeyRel κ) ks ks') :
    C.Sim κ (fun κ' => List.Forall₂ (KeyRel κ')) (putKey v s ks) (putKey w t ks') := by
  induction ks generalizing κ ks' with
  | nil =>
    cases hk
    exact .pure (.cons ⟨h, hs, hi⟩ .nil)
  | cons k ks ih =>
    cases hk with
    | cons hk hks =>
      refine (L.sim_sameOr hk.key h (L.sim_equal hk.key h)).bindEq fun _ => ?_
      refine .branch ?_ ?_
      · exact .pure (.cons ⟨hk.key.up, hs.up, hi⟩ (hks.imp fun _ _ => KeyRel.up))
      · exact (ih h.up hs.up (hks.imp fun _ _ => KeyRel.up)).bind fun hr => .pure (.cons hk.up hr)

theorem asked (h : κ.same .frame e f) (ho : κ.same .own e f) : C.Asked κ e f where
  seen := .inl h.up
  count := L.sim_childCount h.up
  keyed := L.sim_keyed ho.up
  callers := (L.sim_frame_own h.up ho.up).weaken fun hf => hf.2
  setKeyed hk := L.setKeyed h.up ho.up hk
  within hm := L.within h.up hm

theorem sim_setKey {κ₀ : Link} [κ₀.Before κ] (A : C.Asked κ₀ e f) (hk : v.Alike κ w)
    (hv : x.Alike κ y) :
    C.Same κ (setKey e v x) (setKey f w y) := by
  refine .ite (by rw [hk.isKey_eq]) (fun _ => .failThen rfl) fun _ => ?_
  refine A.keyed.bind fun hs => ?_
  refine (L.sim_putKey hk.up (.known hv.up) Slot.noConfusion hs).bind fun hs => ?_
  exact A.setKeyed hs

omit L in
theorem unknownKey_alike (h : v.Alike κ w) : (unknownKey v).Alike κ (unknownKey w) := by
  cases h <;> exact .plain rfl

theorem sim_startsDynamic (h : v.Alike κ w) : C.Same κ (startsDynamic v) (startsDynamic w) :=
  (L.sim_item h (.int 0)).bind fun hi => L.sim_equal hi (.str _)

omit L in
theorem equal_str_self (s : Text) (l : World) : (Value.str s).equal (.str s) l = .ok true l := by
  have h : (Value.str s).equal (.str s) l = .ok (s == s) l := rfl
  rw [h, beq_self_eq_true]

theorem sim_readKey (P : C.Performs p q) (A : C.Asked κ e f) (hk : v.Alike κ w) :
    C.Alike κ (readKey p e v) (readKey q f w) := by
  have asked : ∀ l b l', v.equal (.str "$children") l = .ok b l' → v = .str "$children" →
      b = true := by
    rintro l b l' hb rfl
    rw [equal_str_self] at hb
    cases hb
    rfl
  refine ((L.sim_equal hk (.str _)).noting asked).bind fun he => ?_
  obtain ⟨rfl, hc⟩ := he
  refine .ite Iff.rfl (fun _ => ?_) fun hne => ?_
  · exact A.count
  replace hc : v ≠ .str "$children" := fun hv => hne (hc hv)
  refine .ite (by rw [hk.isKey_eq]) (fun _ => .failThen rfl) fun hkey => ?_
  replace hkey : v.isKey = true := by simpa using hkey
  refine A.keyed.bind fun hs => ?_
  refine (L.sim_findKey hk.up hs).bind fun hf => ?_
  cases hf with
  | some hf =>
    cases hf with
    | known hv => exact .pure hv
    | busy => exact (L.sim_shown hk.up).bindEq fun _ => .fail rfl
  | none =>
    refine (L.sim_startsDynamic hk.up).bindEq fun _ => ?_
    refine .branch (.throwThen (unknownKey_alike hk.up)) ?_
    refine A.callers.bind @fun _ fr gr _ hcaller => ?_
    generalize fr.caller = c at hcaller ⊢
    generalize gr.caller = d at hcaller ⊢
    cases hcaller with
    | none => exact .throw (unknownKey_alike hk.up)
    | some hcaller =>
      have ask : C.Alike _ (p (.readKey _ v)) (q (.readKey _ w)) :=
        P (hcaller.elim (fun h => .readKey h hk.up) fun h => .readKeyOrigin h hk.up hkey hc)
      refine ask.bind fun hv => ?_
      have value : C.Alike _ (define p e (.value _)) (define q f (.value _)) :=
        L.sim_define_of_within P A.seen A.within (.value hv)
      refine value.bind fun hv => ?_
      exact (L.sim_setKey A hk.up hv).bind fun _ => .pure hv.up

omit L in
theorem sim_readName (P : C.Performs p q) (h : κ.same .frame e f) (hv : v.Alike κ w) :
    C.Alike κ (readName p e v) (readName q f w) := by
  have other := P (.readKey h hv)
  cases hv with
  | str t =>
    unfold readName
    dsimp only
    split
    · exact P (.read h _)
    · exact other
  | _ => exact other

end Lawful
end Correspondence
end Scad
