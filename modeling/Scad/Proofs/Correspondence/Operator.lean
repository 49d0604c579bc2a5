import Scad.Proofs.Correspondence.Value

/-!
Arithmetic, the filling of texts, the operators of the language and the making of
shapes respect every lawful correspondence.
-/

namespace Scad

open Format Run

variable (a b : Num) (d : Format.Directive)

/-! ## Numbers -/

namespace Num

theorem toFloat_rel (n : Num) : ExceptRel Eq n.toFloat n.toFloat := by
  cases n with
  | int n =>
    cases h : Binary64.ofInt? n <;> simp only [toFloat, h]
    · exact .error rfl
    · exact .ok rfl
  | float x => exact .ok rfl

theorem floats_rel (f : Float → Float → Except Fault Num)
    (hf : ∀ x y, ExceptRel Eq (f x y) (f x y)) :
    ExceptRel Eq (do f (← a.toFloat) (← b.toFloat)) (do f (← a.toFloat) (← b.toFloat)) := by
  refine a.toFloat_rel.bind fun x _ hx => b.toFloat_rel.bind fun y _ hy => ?_
  subst hx hy
  exact hf x y

theorem arith_rel (onInt : Int → Int → Int) (onFloat : Float → Float → Float) (a b : Num) :
    ExceptRel Eq (arith onInt onFloat a b) (arith onInt onFloat a b) := by
  have other := floats_rel a b (fun x y => .ok (float (onFloat x y))) fun _ _ => .ok rfl
  cases a with
  | int m =>
    cases b with
    | int n => exact .ok rfl
    | float y => exact other
  | float x => exact other

theorem div_rel : ExceptRel Eq (a.div b) (a.div b) := by
  have other := floats_rel a b
    (fun x y => if y == 0 then .error .floatDivisionByZero else .ok (float (x / y)))
    fun x y => .ite (.error rfl) (.ok rfl)
  cases a with
  | int m =>
    cases b with
    | int n =>
      refine .ite (.error rfl) ?_
      cases Binary64.ofQuotient? m n
      · exact .error rfl
      · exact .ok rfl
    | float y => exact other
  | float x => exact other

theorem mod_rel : ExceptRel Eq (a.mod b) (a.mod b) := by
  have other := floats_rel a b
    (fun x y => if y == 0 then .error .floatModuloByZero else .ok (float (Binary64.floorRem x y)))
    fun x y => .ite (.error rfl) (.ok rfl)
  cases a with
  | int m =>
    cases b with
    | int n => exact .ite (.error rfl) (.ok rfl)
    | float y => exact other
  | float x => exact other

theorem toWhole_rel (round : Bool → Nat → Int → Int) (n : Num) :
    ExceptRel Eq (n.toWhole round) (n.toWhole round) := by
  cases n with
  | int n => exact .ok rfl
  | float x =>
    cases h : Binary64.ofFloat x with
    | nan | infinite _ => simp only [toWhole, h]; exact .error rfl
    | finite _ _ _ => simp only [toWhole, h]; exact .ok rfl

end Num

namespace Elementary

theorem check_rel (mayOverflow : Bool) (x r : Float) :
    ExceptRel Eq (check mayOverflow x r) (check mayOverflow x r) :=
  .ite (.error rfl) (.ite (by cases mayOverflow <;> exact .error rfl) (.ok rfl))

theorem log_rel (x : Float) : ExceptRel Eq (log x) (log x) :=
  .ite (.ok rfl) (.ite (.error rfl) (.ok rfl))

theorem logInt_rel (n : Int) : ExceptRel Eq (logInt n) (logInt n) := by
  refine .ite (.error rfl) ?_
  cases Binary64.ofInt? n with
  | some x => exact .ok rfl
  | none =>
    cases h : Binary64.ofInt? (Binary64.splitExponent n.toNat).2 with
    | some e => simp only [h]; exact .ok rfl
    | none => simp only [h]; exact .error rfl

end Elementary

structure Format.Supply.Alike (κ : Link) (s t : Format.Supply) : Prop where
  whole : s.whole.Alike κ t.whole
  rest : Values.Alike κ s.rest t.rest
  single : s.single = t.single
  optional : s.optional = t.optional

theorem Format.Supply.Alike.up {κ κ' : Link} [κ.Before κ'] {s t : Format.Supply}
    (h : s.Alike κ t) : s.Alike κ' t :=
  { h with whole := h.whole.up, rest := h.rest.up }

namespace Correspondence
namespace Lawful

variable {s t : Format.Supply} {C : Correspondence} (L : C.Lawful) {κ : Link} {v w x y : Value}

include L

theorem sim_newFloat (f : Float) : C.Alike κ (newFloat f) (newFloat f) :=
  Sim.branch (L.newIdent.bind fun h => .pure (.nan h)) (.pure (.float f))

theorem sim_number (n : Num) : C.Alike κ (number n) (number n) := by
  cases n with
  | int n => exact .pure (.int n)
  | float f => exact L.sim_newFloat f

theorem sim_liftNumber {x : Except Fault Num} (h : ExceptRel Eq x x) :
    C.Alike κ (do number (← lift x)) (do number (← lift x)) := by
  refine .bindEq (.lift h) fun n => ?_
  exact L.sim_number n

omit L in
theorem sim_codePoint (h : v.Alike κ w) : C.Same κ v.codePoint w.codePoint := by
  unfold Value.codePoint
  rw [h.int?_eq]
  split
  · exact .fail rfl
  · exact .branch (.fail rfl) (.demand_eq rfl _)

omit L in
theorem sim_toFloat (h : v.Alike κ w) : C.Same κ v.toFloat w.toFloat := by
  unfold Value.toFloat
  rw [h.num?_eq]
  split
  · exact .lift (Num.toFloat_rel _)
  · exact .fail rfl

theorem sim_power (h : v.Alike κ w) (h' : x.Alike κ y) : C.Alike κ (v.power x) (w.power y) := by
  refine (sim_toFloat h).bind fun ha => (sim_toFloat h'.up).bind fun hb => ?_
  subst ha hb
  refine .branch ?_ ?_
  · exact .branch (.failThen rfl) (.failThen rfl)
  · exact L.sim_newFloat _

/-! ## Filling texts -/

omit L in
theorem sim_next (h : s.Alike κ t) :
    C.Sim κ (fun κ' p q => p.1.Alike κ' q.1 ∧ p.2.Alike κ' q.2) s.next t.next := by
  have hr := h.rest
  unfold Format.Supply.next
  cases hs : s.rest <;> cases ht : t.rest <;> rw [hs, ht] at hr
  · exact .fail rfl
  · cases hr
  · cases hr
  · cases hr with
    | cons hv hr => exact .pure ⟨hv, { h with rest := hr }⟩

theorem sim_ofValue (h : v.Alike κ w) :
    C.Sim κ Format.Supply.Alike (Format.Supply.ofValue v) (Format.Supply.ofValue w) := by
  have other : C.Sim κ Format.Supply.Alike (do return ⟨v, [v], true, (← v.listItems?).isSome⟩)
      (do return ⟨w, [w], true, (← w.listItems?).isSome⟩) := by
    refine (L.sim_listItems? h).bind fun ho => ?_
    cases ho <;> exact .pure ⟨h.up, .cons h.up .nil, rfl, rfl⟩
  cases h with
  | tuple h => exact .pure ⟨.tuple h, h, rfl, rfl⟩
  | dict h hn => exact .pure ⟨.dict h hn, .cons (.dict h hn) .nil, rfl, rfl⟩
  | _ => exact other

omit L in
theorem sim_readSize {rule : Format.SizeRule} (hw : rule.written.isPlain = true)
    (hs : rule.supplied.isPlain = true) (h : s.Alike κ t) (text : Text) :
    C.Sim κ (fun κ' p q => p.1 = q.1 ∧ p.2.1.Alike κ' q.2.1 ∧ p.2.2 = q.2.2)
      (readSize rule s text) (readSize rule t text) := by
  unfold readSize
  split
  · refine (sim_next h).bind @fun _ p q _ hp => ?_
    obtain ⟨a, s⟩ := p
    obtain ⟨b, t⟩ := q
    dsimp only at hp ⊢
    rw [hp.1.int?_eq]
    split
    · exact .branch (.failThen hs) (.pure ⟨rfl, hp.2, rfl⟩)
    · exact .fail rfl
  · exact .branch (.failThen hw) (.pure ⟨rfl, h, rfl⟩)

omit L in
theorem sim_wholeNumber (c : Char) (h : v.Alike κ w) :
    C.Same κ (wholeNumber c v) (wholeNumber c w) := by
  unfold wholeNumber
  rw [h.num?_eq]
  split
  · exact .fail rfl
  · exact .pure rfl
  · exact .branch (.lift (Num.toWhole_rel _ _)) (.fail rfl)

omit L in
theorem sim_writeWhole (c : Char) (n : Int) : C.Same κ (writeWhole d c n) (writeWhole d c n) :=
  Sim.branch (.failThen rfl) (.pure rfl)

omit L in
theorem sim_writeChar (h : v.Alike κ w) : C.Same κ (writeChar d v) (writeChar d w) := by
  cases h with
  | str s =>
    rcases s with _ | ⟨p, _ | ⟨_, _⟩⟩
    · exact .fail rfl
    · exact .pure rfl
    · exact .fail rfl
  | _ =>
    refine (Sim.demand_eq rfl _).bind fun hn => ?_
    cases hn
    exact (Sim.demand_eq rfl _).bind fun hp => .pure (by rw [hp])

theorem sim_convert (c : Char) (index : Nat) (h : v.Alike κ w) :
    C.Same κ (convert d c index v) (convert d c index w) := by
  unfold convert
  refine .branch ?_ ?_
  · exact (L.sim_display h).bindEq fun _ => .pure rfl
  refine .branch ?_ ?_
  · exact (L.sim_shown h).bindEq fun _ => .pure rfl
  refine .branch ?_ ?_
  · exact (L.sim_shown h).bindEq fun _ => .pure rfl
  refine .branch ?_ ?_
  · refine (sim_wholeNumber c h).bindEq fun n => ?_
    exact sim_writeWhole d c n
  refine .branch ?_ ?_
  · rw [h.num?_eq]
    split
    · exact (Sim.lift (A := fun _ => Eq) (Num.toFloat_rel _)).bindEq fun _ => .pure rfl
    · exact .fail rfl
  · exact .branch (sim_writeChar d h) (.fail rfl)

theorem sim_convertBy (p : CodePoint) (index : Nat) (h : v.Alike κ w) :
    C.Same κ (convertBy d p index v) (convertBy d p index w) := by
  cases p with
  | scalar c => exact L.sim_convert d c index h
  | _ => exact .fail rfl

theorem sim_readEntry (h : s.Alike κ t) (text : Text) :
    C.Sim κ (fun κ' p q => p.1.Alike κ' q.1 ∧ p.2 = q.2) (readEntry s text) (readEntry t text) := by
  unfold readEntry
  split
  next rest =>
    have other : C.Sim κ (fun κ' (p q : Format.Supply × Text) => p.1.Alike κ' q.1 ∧ p.2 = q.2)
        (do
          if !s.optional then throw .typeMismatch
          let found ← demand .incompleteFormatKey (readKey 0 rest)
          let v ← s.whole.item (.str found.1)
          return ({ s with rest := [v], single := true }, found.2))
        (do
          if !t.optional then throw .typeMismatch
          let found ← demand .incompleteFormatKey (readKey 0 rest)
          let v ← t.whole.item (.str found.1)
          return ({ t with rest := [v], single := true }, found.2)) := by
      refine .ite (by rw [h.optional]) (fun _ => .failThen rfl) fun _ => ?_
      refine (Sim.demand_eq rfl _).bind @fun _ found _ _ hk => ?_
      cases hk
      refine (L.sim_item h.whole.up (.str found.1)).bind fun hv => ?_
      exact .pure ⟨⟨h.whole.up, .cons hv .nil, rfl, h.optional⟩, rfl⟩
    have hv := h.whole
    generalize s.whole = v at hv other ⊢
    generalize t.whole = w at hv other ⊢
    cases hv with
    | tuple | str => exact .fail rfl
    | _ => exact other
  · exact .pure ⟨h, rfl⟩

omit L in
theorem sim_readPrecision (h : s.Alike κ t) (text : Text) :
    C.Sim κ (fun κ' p q => p.1 = q.1 ∧ p.2.1.Alike κ' q.2.1 ∧ p.2.2 = q.2.2)
      (readPrecision s text) (readPrecision t text) := by
  unfold readPrecision
  split
  · refine (sim_readSize rfl rfl h _).bind fun hp => ?_
    exact .pure ⟨by rw [hp.1], hp.2⟩
  · exact .pure ⟨rfl, h, rfl⟩

theorem sim_readDirective (h : s.Alike κ t) (text : Text) :
    C.Sim κ (fun κ' p q => p.1 = q.1 ∧ p.2.1.Alike κ' q.2.1 ∧ p.2.2 = q.2.2)
      (readDirective s text) (readDirective t text) := by
  refine (L.sim_readEntry h text).bind ?_
  rintro _ ⟨s, text⟩ ⟨t, _⟩ _ ⟨h, rfl⟩
  refine (sim_readSize rfl rfl h _).bind ?_
  rintro _ ⟨width, s, text⟩ ⟨_, t, _⟩ _ ⟨rfl, h, rfl⟩
  refine (sim_readPrecision h text).bind ?_
  rintro _ ⟨precision, s, text⟩ ⟨_, t, _⟩ _ ⟨rfl, h, rfl⟩
  exact .pure ⟨rfl, h, rfl⟩

theorem sim_fillDirective (total : Nat) {more more' : Format.Supply → Text → Run Text}
    (hm : ∀ {κ s t}, Format.Supply.Alike κ s t → ∀ text, C.Same κ (more s text) (more' t text))
    (h : s.Alike κ t) (text : Text) : C.Same κ (fillDirective total more s text)
      (fillDirective total more' t text) := by
  refine (L.sim_readDirective h text).bind ?_
  rintro _ ⟨d, s, text⟩ ⟨_, t, _⟩ _ ⟨rfl, h, rfl⟩
  cases text with
  | nil => exact .fail rfl
  | cons p text =>
    refine (sim_next h).bind fun hn => ?_
    refine (L.sim_convertBy _ p _ hn.1).bindEq fun _ => ?_
    refine .branch ?_ (.fail rfl)
    exact (hm hn.2.up text).bindEq fun _ => .pure rfl

theorem sim_fillFrom (total fuel : Nat) (h : s.Alike κ t) (text : Text) :
    C.Same κ (fillFrom total fuel s text) (fillFrom total fuel t text) := by
  induction fuel generalizing κ s t text with
  | zero => exact .fail rfl
  | succ fuel ih =>
    simp only [fillFrom]
    split
    · exact .ite (by rw [forall₂_isEmpty h.rest, h.optional]) (fun _ => .pure rfl)
        fun _ => .fail rfl
    · exact (ih h _).bindEq fun _ => .pure rfl
    · exact L.sim_fillDirective total ih h _
    · exact (ih h _).bindEq fun _ => .pure rfl

theorem sim_fill (text : Text) (h : v.Alike κ w) : C.Same κ (fill text v) (fill text w) :=
  (L.sim_ofValue h).bind fun h => L.sim_fillFrom _ _ h text

/-! ## Operators -/

theorem sim_newShape (made : Record) : C.Alike κ (newShape made) (newShape made) :=
  L.newIdent.bind fun h => .pure (.shape h made)

omit L in
theorem sim_repeated {α β : Type} {R : Link → α → β → Prop} (n : Int) {xs : List α} {ys : List β}
    (h : List.Forall₂ (R κ) xs ys) :
    C.Sim κ (fun κ' => List.Forall₂ (R κ')) (Value.repeated n xs) (Value.repeated n ys) := by
  unfold Value.repeated
  rw [h.length_eq]
  refine .branch (.fail rfl) (.branch (.fail rfl) ?_)
  refine .pure (List.rel_flatten ?_)
  induction n.toNat with
  | zero => exact .nil
  | succ k ih => exact .cons h ih

theorem sim_arith {f : Num → Num → Except Fault Num} (hf : ∀ m n, ExceptRel Eq (f m n) (f m n))
    {other other' : Run Value} (h : v.Alike κ w) (h' : x.Alike κ y) (ho : C.Alike κ other other') :
    C.Alike κ (match v.num?, x.num? with
      | some m, some n => do number (← lift (f m n))
      | _, _ => other)
      (match w.num?, y.num? with
      | some m, some n => do number (← lift (f m n))
      | _, _ => other') := by
  rw [h.num?_eq, h'.num?_eq]
  split
  · exact L.sim_liftNumber (hf _ _)
  · exact ho

variable (h : v.Alike κ w) (h' : x.Alike κ y)

include h h'

theorem sim_plus : C.Alike κ (v.plus x) (w.plus y) := by
  refine L.sim_arith (Num.arith_rel _ _) h h' ?_
  have lists : ∀ {κ' vs ws xs ys} [κ.Next κ'], Values.Alike κ' vs ws → Values.Alike κ' xs ys →
      C.Alike κ' (Run.newList (vs ++ xs)) (Run.newList (ws ++ ys)) :=
    fun hv hx => L.newList (List.rel_append hv hx)
  have no : ∀ {κ'} [κ.Next κ'], C.Alike κ' (throw .typeMismatch) (throw .typeMismatch) := .fail rfl
  have other := L.sim_bothListItems h h' lists no
  cases h with
  | str s =>
    cases h' with
    | str t => exact .pure (.str _)
    | _ => exact other
  | tuple h =>
    cases h' with
    | tuple h' => exact .pure (.tuple (List.rel_append h h'))
    | _ => exact other
  | shape _ m =>
    cases h' with
    | shape _ n => exact L.sim_newShape _
    | _ => exact other
  | _ => exact other

theorem sim_minus : C.Alike κ (v.minus x) (w.minus y) := by
  refine L.sim_arith (Num.arith_rel _ _) h h' ?_
  cases h with
  | shape _ m =>
    cases h' with
    | shape _ n => exact L.sim_newShape _
    | _ => exact .fail rfl
  | _ => exact .fail rfl

theorem sim_common : C.Alike κ (v.common x) (w.common y) := by
  have other : C.Alike κ
      (do
        let m ← demand .typeMismatch v.int?
        let n ← demand .typeMismatch x.int?
        return .int (Value.common.bitAnd m n))
      (do
        let m ← demand .typeMismatch w.int?
        let n ← demand .typeMismatch y.int?
        return .int (Value.common.bitAnd m n)) := by
    rw [h.int?_eq, h'.int?_eq]
    refine (Sim.demand_eq rfl _).bind fun hm => ?_
    refine (Sim.demand_eq rfl _).bind fun hn => ?_
    rw [← hm, ← hn]
    exact .pure (.int _)
  cases h with
  | shape _ m =>
    cases h' with
    | shape _ n => exact L.sim_newShape _
    | _ => exact other
  | bool a =>
    cases h' with
    | bool b => exact .pure (.bool _)
    | _ => exact other
  | _ => exact other

omit h' in
theorem sim_timesSequence (n : Int) : C.Alike κ (v.timesSequence n) (w.timesSequence n) := by
  have hl := L.sim_listItems? h
  cases h with
  | str s =>
    refine (sim_repeated (R := fun _ => Eq) n (List.forall₂_eq_eq_eq ▸ rfl)).map fun h => ?_
    rw [List.forall₂_eq_eq_eq] at h
    exact h ▸ .str _
  | tuple h => exact (sim_repeated n h).map fun h => .tuple h
  | _ =>
    exact hl.bind fun ho => (Sim.demand rfl ho).bind fun ho =>
      (sim_repeated n ho).bind fun h => L.newList h

theorem sim_times : C.Alike κ (v.times x) (w.times y) := by
  refine L.sim_arith (Num.arith_rel _ _) h h' ?_
  rw [h.int?_eq, h'.int?_eq]
  split
  · exact L.sim_timesSequence h _
  · exact L.sim_timesSequence h' _
  · exact .fail rfl

theorem sim_divide : C.Alike κ (v.divide x) (w.divide y) :=
  L.sim_arith Num.div_rel h h' (.fail rfl)

theorem sim_modulo : C.Alike κ (v.modulo x) (w.modulo y) := by
  have other := L.sim_arith (κ := κ) Num.mod_rel h h'
    (.fail rfl : C.Alike κ (throw .typeMismatch) (throw .typeMismatch))
  cases h with
  | str s => exact (L.sim_fill s h').bind fun he => .pure (he ▸ .str _)
  | _ => exact other

omit h' in
theorem sim_negate : C.Alike κ v.negate w.negate := by
  unfold Value.negate
  rw [h.num?_eq]
  split
  · exact L.sim_number _
  · exact .fail rfl

theorem sim_addTo : C.Alike κ (v.addTo x) (w.addTo y) := by
  have other := L.sim_plus h h'
  cases h with
  | list h =>
    refine (L.sim_items h').bind fun hm => ?_
    refine (L.sim_listItems h.up).bind fun hi => ?_
    refine (L.setList h.up (List.rel_append hi hm.up)).bind fun _ => ?_
    exact .pure (.list h.up)
  | node h =>
    refine (L.sim_listItems? (.node h)).bind fun ho => ?_
    cases ho with
    | none => exact .fail rfl
    | some ho =>
      refine (L.sim_items h'.up).bind fun hm => ?_
      refine (L.setNodeChildren h.up (List.rel_append ho.up hm)).bind fun _ => ?_
      exact .pure (.node h.up)
  | _ => exact other

theorem sim_timesTo : C.Alike κ (v.timesTo x) (w.timesTo y) := by
  have other := L.sim_times h h'
  cases h with
  | list h =>
    unfold Value.timesTo
    dsimp only
    rw [h'.int?_eq]
    split
    · exact .fail rfl
    · refine (L.sim_listItems h).bind fun hi => ?_
      refine (sim_repeated _ hi).bind fun hr => ?_
      exact (L.setList h.up hr).bind fun _ => .pure (.list h.up)
  | node h =>
    refine (L.sim_listItems? (.node h)).bind fun ho => ?_
    rw [h'.int?_eq]
    cases ho with
    | none => exact .fail rfl
    | some ho =>
      cases y.int? with
      | none => exact .fail rfl
      | some n =>
        refine (sim_repeated n ho).bind fun hr => ?_
        exact (L.setNodeChildren h.up hr).bind fun _ => Sim.pure (.node h.up)
  | _ => exact other

end Lawful
end Correspondence
end Scad
