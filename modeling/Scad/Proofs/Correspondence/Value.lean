import Scad.Proofs.Correspondence.Laws

/-!
Looking into values, writing, copying and comparing them respect every lawful
correspondence: what comes out is the same on both sides, item by item.
-/

namespace Scad

open Values.Alike Value

namespace Correspondence

variable (fuel : Nat)

variable {C : Correspondence} {κ : Link}

namespace Lawful

variable {test test' : Value → Value → Run Bool} (L : C.Lawful) {v w i j : Value} {xs ys : List Nat}
  {vs ws : List Value} {a b : Nat} {l r : World}

include L

/-! ## Items -/

theorem code_children (hw : C.agree κ l r) {rule : String} {ts : List Tree}
    (h : κ.tree (.node rule ts)) : Values.Alike κ (ts.map code) (ts.map code) := by
  refine List.forall₂_map_left_iff.2 (List.forall₂_map_right_iff.2 (List.forall₂_same.2 ?_))
  exact fun t ht => .code ((L.link hw).tree_child h ht)

section

variable (h : v.Alike κ w)

include h

theorem sim_listItems? :
    C.Sim κ (fun κ' => Option.Rel (Values.Alike κ')) v.listItems? w.listItems? := by
  cases h with
  | list h => exact (L.sim_listItems h).map fun h => .some h
  | node h =>
    refine (L.sim_nodeCell h).bind fun h => ?_
    cases h with
    | leaf => exact .pure .none
    | inner _ hc => exact .pure (.some hc)
  | @code t h =>
    cases t with
    | leaf => exact .pure .none
    | node rule ts => exact .withAgree fun hw => .pure (.some (L.code_children hw h))
  | _ => exact .pure .none

theorem sim_items : C.Sim κ Values.Alike v.items w.items := by
  have hl := L.sim_listItems? h
  cases h with
  | tuple h => exact .pure h
  | str s => exact .pure (.chars s)
  | dict h => exact .pure (Entries.Alike.keys h)
  | _ => exact hl.bind fun ho => .demand rfl ho

theorem sim_size : C.Same κ v.size w.size := by
  have other : C.Same κ (do return (← v.items).length)
      (do return (← w.items).length) :=
    (L.sim_items h).bind fun h => .pure h.length_eq
  cases h with
  | @code t h =>
    cases t with
    | leaf => exact other
    | node => exact .pure rfl
  | str s => exact .pure rfl
  | _ => exact other

theorem sim_unpack (n : Nat) : C.Sim κ Values.Alike (v.unpack n) (w.unpack n) := by
  refine (L.sim_items h).bind fun h => ?_
  rw [h.length_eq]
  split
  · exact .fail rfl
  · split
    · exact .fail rfl
    · exact .pure h

theorem sim_truth : C.Same κ v.truth w.truth := by
  have hl := L.sim_listItems? h
  cases h with
  | tuple h | dict h => exact .pure (by rw [forall₂_isEmpty h])
  | list | node | code =>
    refine hl.bind fun ho => ?_
    cases ho with
    | some ho => exact .pure (by rw [Option.any_some, forall₂_isEmpty ho, Option.any_some])
    | none => exact .pure rfl
  | _ => exact .pure rfl

end

omit L in
theorem sim_itemAt {α β : Type} {R : Link → α → β → Prop} (kind : SequenceKind) {xs : List α}
    {ys : List β} (h : List.Forall₂ (R κ) xs ys) (hi : i.Alike κ j) :
    C.Sim κ R (itemAt kind xs i) (itemAt kind ys j) := by
  unfold itemAt
  rw [hi.int?_eq, h.length_eq]
  split
  · exact .fail rfl
  · rename_i n _
    have bad : (if isIndex n then Fault.outOfRange kind else .indexTooWide).isPlain = true := by
      split <;> rfl
    cases place? ys.length n with
    | none => exact .fail bad
    | some p =>
      have hp := forall₂_getElem? h p
      simp only [Option.bind_some]
      generalize xs[p]? = x at hp ⊢
      generalize ys[p]? = y at hp ⊢
      cases hp with
      | some hp => exact .pure hp
      | none => exact .fail bad

theorem sim_item (h : v.Alike κ w) (hi : i.Alike κ j) : C.Alike κ (v.item i) (w.item j) := by
  have other : C.Alike κ
      (do itemAt .list (← Run.demand .typeMismatch (← v.listItems?)) i)
      (do itemAt .list (← Run.demand .typeMismatch (← w.listItems?)) j) :=
    (L.sim_listItems? h).bind fun ho => (Sim.demand rfl ho).bind fun ho => sim_itemAt .list ho hi.up
  cases h with
  | tuple h => exact sim_itemAt .tuple h hi
  | str s => exact sim_itemAt .string (chars s) hi
  | @code t h =>
    cases t with
    | leaf => exact other
    | node rule ts =>
      refine .withAgree fun hw => .map (A := fun κ' t u => t = u ∧ κ'.tree t) ?_ ?_
      · exact sim_itemAt .list (List.forall₂_same.2 fun t ht =>
          ⟨rfl, (L.link hw).tree_child h ht⟩) hi
      · rintro _ t _ _ ⟨rfl, ht⟩
        exact .code ht
  | dict h =>
    have bad : C.Alike κ
        (if i.isKey then throw .unknownKey else throw .typeMismatch)
        (if j.isKey then throw .unknownKey else throw .typeMismatch) :=
      Sim.ite (by rw [hi.isKey_eq]) (fun _ => .fail rfl) fun _ => .fail rfl
    cases hi with
    | str k =>
      cases hs : Text.toString? k with
      | none =>
        simp only [item, hs, Option.bind_none]
        exact .fail rfl
      | some name =>
        have hf := Entries.Alike.find? h name
        simp only [item, hs, Option.bind_some]
        generalize Table.find? name _ = x at hf ⊢
        generalize Table.find? name _ = y at hf ⊢
        cases hf with
        | some hf => exact .pure hf
        | none => exact .fail rfl
    | _ => exact bad
  | _ => exact other

theorem sim_dropItems (h : v.Alike κ w) (n : Nat) :
    C.Sim κ Values.Alike (v.dropItems n) (w.dropItems n) := by
  have hl := L.sim_listItems? h
  cases h with
  | tuple h => exact .pure (List.forall₂_drop n h)
  | str s => exact .pure (chars _)
  | _ =>
    exact hl.bind fun ho => (Sim.demand rfl ho).bind fun ho => Sim.pure (List.forall₂_drop n ho)

/-! ## Writing -/

omit L in
theorem sim_intText (n : Int) : C.Same κ (intText n) (intText n) :=
  Sim.branch (.pure rfl) (.fail rfl)

theorem contains_eq (hw : C.agree κ l r) (h : List.Forall₂ (κ.same .list) xs ys)
    (ha : κ.same .list a b) : xs.contains a = ys.contains b := by
  induction h with
  | nil => rfl
  | cons hx _ ih =>
    rw [List.contains_cons, List.contains_cons, ih]
    congr 1
    exact Bool.eq_iff_iff.2 (by simpa using L.unique hw rfl ha hx)

section

variable (h : v.Alike κ w)

include h

theorem sim_showWith (hx : List.Forall₂ (κ.same .list) xs ys) :
    C.Same κ (v.showWith fuel xs) (w.showWith fuel ys) := by
  induction fuel generalizing κ v w xs ys with
  | zero => exact .fail rfl
  | succ fuel ih =>
    have later : ∀ {κ'} [κ.Before κ'], List.Forall₂ (κ'.same .list) xs ys :=
      hx.imp fun _ _ h => h.up
    cases h with
    | int n => exact sim_intText n
    | @list a b h =>
      refine .withAgree fun hw => .ite (by rw [L.contains_eq hw hx h])
        (fun _ => .pure rfl) fun _ => ?_
      refine (L.sim_listItems h).bind fun hi => ?_
      refine (Sim.mapM_eq hi fun hv => ih hv ?_).bindEq fun _ => .pure rfl
      exact .cons h.up (later)
    | tuple h =>
      refine (Sim.mapM_eq h fun hv => ih hv (later)).bindEq fun _ => .pure rfl
    | dict h =>
      refine (Sim.mapM_eq (R := fun κ => EntryRel (Value.Alike κ)) h fun he =>
        ?_).bindEq fun _ => .pure rfl
      obtain ⟨name, hv⟩ := he
      exact (ih hv (later)).bindEq fun _ => .pure rfl
    | node h =>
      refine (L.sim_nodeCell h).bind fun hn => ?_
      cases hn with
      | leaf => exact .pure rfl
      | inner _ hc =>
        exact (Sim.mapM_eq hc fun hv => ih hv (later)).bindEq fun _ => .pure rfl
    | axis _ ho hd =>
      refine (ih ho hx).bind fun he => ?_
      exact (ih hd.up (later)).bind fun he' => .pure (by rw [he, he'])
    | _ => exact .pure rfl

theorem sim_shown : C.Same κ v.shown w.shown :=
  L.sim_showWith nestingLimit h .nil

theorem sim_displayWith : C.Same κ (v.displayWith fuel) (w.displayWith fuel) := by
  induction fuel generalizing κ v w with
  | zero => exact .fail rfl
  | succ fuel ih =>
    have other : C.Same κ (do return Text.ofString (← v.shown))
        (do return Text.ofString (← w.shown)) :=
      (L.sim_shown h).bindEq fun _ => .pure rfl
    cases h with
    | str s => exact .pure rfl
    | code => exact .pure rfl
    | node h =>
      refine (L.sim_nodeCell h).bind fun hn => ?_
      cases hn with
      | leaf => exact .pure rfl
      | inner _ hc =>
        exact (Sim.mapM_eq hc fun hv => ih hv).bindEq fun _ => .pure rfl
    | _ => exact other

theorem sim_display : C.Same κ v.display w.display :=
  L.sim_displayWith nestingLimit h

/-! ## Copying -/

theorem sim_nodeText : C.Same κ (nodeText fuel v) (nodeText fuel w) := by
  induction fuel generalizing κ v w with
  | zero => exact .fail rfl
  | succ fuel ih =>
    cases h with
    | node h =>
      refine (L.sim_nodeCell h).bind fun hn => ?_
      cases hn with
      | leaf => exact .pure rfl
      | inner _ hc =>
        exact (Sim.mapM_eq hc fun hv => ih hv).bindEq fun _ => .pure rfl
    | _ => exact .fail rfl

theorem sim_freezeWith : C.Same κ (v.freezeWith fuel) (w.freezeWith fuel) := by
  induction fuel generalizing κ v w with
  | zero => exact .fail rfl
  | succ fuel ih =>
    cases h with
    | int n => exact .branch (.pure rfl) (.fail rfl)
    | list h =>
      refine (L.sim_listItems h).bind fun hi => ?_
      exact (Sim.mapM_eq hi fun hv => ih hv).bindEq fun _ => .pure rfl
    | tuple h =>
      exact (Sim.mapM_eq h fun hv => ih hv).bindEq fun _ => .pure rfl
    | dict h =>
      refine (Sim.mapM_eq (R := fun κ => EntryRel (Value.Alike κ)) h fun he =>
        ?_).bindEq fun _ => .pure rfl
      obtain ⟨name, hv⟩ := he
      exact (ih hv).bindEq fun _ => .pure rfl
    | node h =>
      refine (L.sim_nodeCell h).bind fun hn => ?_
      cases hn with
      | leaf => exact .pure rfl
      | inner =>
        exact (L.sim_nodeText fuel (.node h.up)).bindEq fun _ => .pure rfl
    | axis _ ho hd =>
      refine (ih ho).bind fun he => ?_
      exact (ih hd.up).bind fun he' => .pure (by rw [he, he'])
    | function _ _ name hp =>
      cases hp with
      | named required h => exact .pure (by simp only [Entries.Alike.names h])
      | other => exact .pure rfl
    | range _ ha hb hc =>
      refine (ih ha).bind fun he => (ih hb.up).bind fun he' => ?_
      exact (ih hc.up).bind fun he'' => .pure (by rw [he, he', he''])
    | scope h =>
      refine (L.sim_scope_kind h).bind @fun _ _ t _ hk => ?_
      rw [hk]
      cases t.kind <;> exact .pure rfl
    | _ => exact .pure rfl

theorem sim_freeze : C.Same κ v.freeze w.freeze :=
  L.sim_freezeWith nestingLimit h

end

/-! ## Comparing -/

variable {x y : Value}

theorem beq_eq (hw : C.agree κ l r) {k : Role} {a' b' : Nat} (hk : k.isIdentity = true)
    (h : κ.same k a b) (h' : κ.same k a' b') : (a == a') = (b == b') :=
  Bool.eq_iff_iff.2 (by simpa using L.unique hw hk h h')

theorem same_eq (hw : C.agree κ l r) (h : v.Alike κ w) (h' : x.Alike κ y) :
    v.same x = w.same y := by
  cases h with
  | nan h =>
    cases h' with
    | nan h' => exact L.beq_eq hw rfl h h'
    | _ => rfl
  | list h =>
    cases h' with
    | list h' => exact L.beq_eq hw rfl h h'
    | _ => rfl
  | node h =>
    cases h' with
    | node h' => exact L.beq_eq hw rfl h h'
    | _ => rfl
  | shape h =>
    cases h' with
    | shape h' => exact L.beq_eq hw rfl h h'
    | _ => rfl
  | axis h =>
    cases h' with
    | axis h' => exact L.beq_eq hw rfl h h'
    | _ => rfl
  | _ => rfl

theorem sim_sameOr (h : v.Alike κ w) (h' : x.Alike κ y) (ht : C.Same κ (test v x) (test' w y)) :
    C.Same κ (if v.same x then pure true else test v x)
      (if w.same y then pure true else test' w y) :=
  Sim.withAgree fun hw => .ite (by rw [L.same_eq hw h h']) (fun _ => .pure rfl) fun _ => ht

section

variable (ht : ∀ {κ v w x y}, v.Alike κ w → x.Alike κ y → C.Same κ (test v x) (test' w y))

include ht

theorem sim_allEqual {xs ys : List Value} (h : Values.Alike κ vs ws) (h' : Values.Alike κ xs ys) :
    C.Same κ (allEqual test vs xs) (allEqual test' ws ys) := by
  induction vs generalizing κ ws xs ys with
  | nil =>
    cases h
    cases h' <;> exact .pure rfl
  | cons v vs ih =>
    cases h with
    | cons hv h =>
      cases h' with
      | nil => exact .pure rfl
      | cons hx h' =>
        refine (L.sim_sameOr hv hx (ht hv hx)).bindEq fun _ => ?_
        exact .branch (ih (up h) (up h')) (.pure rfl)

theorem sim_sameEntries
    {es fs gs hs : List (String × Value)} (h : Entries.Alike κ es fs) (h' : Entries.Alike κ gs hs) :
    C.Same κ (sameEntries test es gs) (sameEntries test' fs hs) := by
  induction gs generalizing κ hs with
  | nil =>
    cases h'
    exact .pure rfl
  | cons g gs ih =>
    cases h' with
    | cons he h' =>
      obtain ⟨name, ha⟩ := he
      have hf := h.find? name
      simp only [sameEntries]
      generalize Table.find? name es = x at hf ⊢
      generalize Table.find? name fs = y at hf ⊢
      cases hf with
      | none => exact .pure rfl
      | some hb =>
        refine (L.sim_sameOr ha hb (ht ha hb)).bindEq fun _ => ?_
        exact .branch (ih h.up (Entries.Alike.up h')) (.pure rfl)

end

theorem sim_leaf? (h : v.Alike κ w) : C.Same κ v.leaf? w.leaf? := by
  cases h with
  | node h =>
    refine (L.sim_nodeCell h).bind fun hn => ?_
    cases hn <;> exact .pure rfl
  | @code t h => cases t <;> exact .pure rfl
  | _ => exact .pure rfl

section

variable (h : v.Alike κ w) (h' : x.Alike κ y)

include h h'

theorem sim_bothListItems {α β : Type} {A : Link → α → β → Prop}
    {f : List Value → List Value → Run α}
    {g : List Value → List Value → Run β} {n : Run α} {n' : Run β}
    (hf : ∀ {κ' vs ws xs ys} [κ.Next κ'], Values.Alike κ' vs ws → Values.Alike κ' xs ys →
      C.Sim κ' A (f vs xs) (g ws ys)) (hn : ∀ {κ'} [κ.Next κ'], C.Sim κ' A n n') : C.Sim κ A
      (do match ← v.listItems?, ← x.listItems? with
        | some as, some bs => f as bs
        | _, _ => n)
      (do match ← w.listItems?, ← y.listItems? with
        | some as, some bs => g as bs
        | _, _ => n') := by
  refine (L.sim_listItems? h).bind fun ho => ?_
  refine (L.sim_listItems? h'.up).bind fun ho' => ?_
  cases ho with
  | none => exact @hn _ ⟨Link.Before.le⟩
  | some ho =>
    cases ho' with
    | none => exact @hn _ ⟨Link.Before.le⟩
    | some ho' => exact @hf _ _ _ _ _ ⟨Link.Before.le⟩ ho.up ho'

theorem sim_equalWith : C.Same κ (v.equalWith fuel x) (w.equalWith fuel y) := by
  induction fuel generalizing κ v w x y with
  | zero => exact .fail rfl
  | succ fuel ih =>
    simp only [equalWith]
    rw [h.num?_eq, h'.num?_eq]
    split
    · exact .pure rfl
    refine (L.sim_leaf? h).bindEq fun o => ?_
    cases o with
    | some text => exact (L.sim_display h'.up).bindEq fun _ => .pure rfl
    | none =>
    refine (L.sim_leaf? h'.up).bindEq @fun κ2 _ o => ?_
    replace h : v.Alike κ2 w := h.up
    replace h' : x.Alike κ2 y := h'.up
    cases o with
    | some text => exact (L.sim_display h).bindEq fun _ => .pure rfl
    | none =>
    have items : ∀ {κ' vs ws xs ys} [κ2.Next κ'], Values.Alike κ' vs ws → Values.Alike κ' xs ys →
        C.Same κ' (allEqual (equalWith fuel) vs xs)
          (allEqual (equalWith fuel) ws ys) :=
      fun hv hx => L.sim_allEqual ih hv hx
    have no : ∀ {κ'} [κ2.Next κ'], C.Same κ' (pure false) (pure false) := .pure rfl
    have other := L.sim_bothListItems h h' items no
    refine .withAgree fun hw => ?_
    cases h with
    | undef =>
      cases h' with
      | undef => exact .pure rfl
      | _ => exact other
    | str s =>
      cases h' with
      | str t => exact .pure rfl
      | _ => exact other
    | tuple h =>
      cases h' with
      | tuple h' => exact @items _ _ _ _ _ ⟨le_rfl⟩ h h'
      | _ => exact other
    | dict h =>
      cases h' with
      | dict h' =>
        exact .ite (by rw [h.length_eq, h'.length_eq])
          (fun _ => L.sim_sameEntries ih h' h) fun _ => .pure rfl
      | _ => exact other
    | axis _ ho hd =>
      cases h' with
      | axis _ ho' hd' =>
        exact @items _ _ _ _ _ ⟨le_rfl⟩ (.cons ho (.cons hd .nil)) (.cons ho' (.cons hd' .nil))
      | _ => exact other
    | shape h =>
      cases h' with
      | shape h' => exact .pure (L.beq_eq hw rfl h h')
      | _ => exact other
    | function h =>
      cases h' with
      | function h' => exact .pure (L.beq_eq hw rfl h h')
      | _ => exact other
    | range h =>
      cases h' with
      | range h' => exact .pure (L.beq_eq hw rfl h h')
      | _ => exact other
    | scope h =>
      cases h' with
      | scope h' => exact .pure (L.beq_eq hw rfl h h')
      | _ => exact other
    | host g =>
      cases h' with
      | host => exact .pure rfl
      | _ => exact other
    | invoke h =>
      cases h' with
      | invoke h' => exact .pure (L.beq_eq hw rfl h h')
      | _ => exact other
    | pick h =>
      cases h' with
      | pick h' => exact .pure (L.beq_eq hw rfl h h')
      | _ => exact other
    | pending h =>
      cases h' with
      | pending h' => exact .pure (L.beq_eq hw rfl h h')
      | _ => exact other
    | unbuilt =>
      cases h' with
      | unbuilt => exact .pure rfl
      | _ => exact other
    | native name =>
      cases h' with
      | native => exact .pure rfl
      | _ => exact other
    | _ => exact other

theorem sim_equal : C.Same κ (v.equal x) (w.equal y) :=
  L.sim_equalWith nestingLimit h h'

end

theorem sim_decideItems {decide decide' : Value → Value → Run Bool}
    (ht : ∀ {κ v w x y}, v.Alike κ w → x.Alike κ y → C.Same κ (test v x) (test' w y))
    (hd : ∀ {κ v w x y}, v.Alike κ w → x.Alike κ y → C.Same κ (decide v x) (decide' w y))
    (rel : Value.Relation) {xs ys : List Value} (h : Values.Alike κ vs ws)
    (h' : Values.Alike κ xs ys) : C.Same κ (decideItems test decide rel vs xs)
      (decideItems test' decide' rel ws ys) := by
  induction vs generalizing κ ws xs ys with
  | nil =>
    cases h
    exact .pure (by rw [h'.length_eq])
  | cons v vs ih =>
    cases h with
    | cons hv h =>
      cases h' with
      | nil => exact .pure (by rw [List.length_cons, List.length_cons, h.length_eq])
      | cons hx h' =>
        refine (L.sim_sameOr hv hx (ht hv hx)).bindEq fun _ => ?_
        exact .branch (ih (up h) (up h')) (hd hv.up hx.up)

theorem sim_relatedWith (rel : Value.Relation) (h : v.Alike κ w) (h' : x.Alike κ y) :
    C.Same κ (relatedWith fuel rel v x) (relatedWith fuel rel w y) := by
  induction fuel generalizing κ v w x y with
  | zero => exact .fail rfl
  | succ fuel ih =>
    simp only [relatedWith]
    rw [h.num?_eq, h'.num?_eq]
    split
    · split <;> exact .pure rfl
    have items : ∀ {κ' vs ws xs ys} [κ.Next κ'], Values.Alike κ' vs ws → Values.Alike κ' xs ys →
        C.Same κ'
          (decideItems (equalWith fuel) (relatedWith fuel rel) rel vs xs)
          (decideItems (equalWith fuel) (relatedWith fuel rel) rel ws ys) :=
      fun hv hx => L.sim_decideItems (L.sim_equalWith fuel) ih rel hv hx
    have no : ∀ {κ'} [κ.Next κ'], C.Sim κ' (fun _ => @Eq Bool) (throw .typeMismatch)
        (throw .typeMismatch) :=
      .fail rfl
    have other := L.sim_bothListItems h h' items no
    cases h with
    | str s =>
      cases h' with
      | str t => exact .pure rfl
      | _ => exact other
    | tuple h =>
      cases h' with
      | tuple h' => exact @items _ _ _ _ _ ⟨le_rfl⟩ h h'
      | _ => exact other
    | _ => exact other

theorem sim_related (rel : Value.Relation) (h : v.Alike κ w) (h' : x.Alike κ y) :
    C.Same κ (related rel v x) (related rel w y) :=
  L.sim_relatedWith nestingLimit rel h h'

end Lawful
end Correspondence
end Scad
