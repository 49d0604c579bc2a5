import Scad.Proofs.Correspondence.Solid

/-!
The built-in functions and modules respect every lawful correspondence, if the tasks
they lead to do. Operations on the environment itself need an open one.
-/

namespace Scad

open Elementary Eval

namespace Correspondence
namespace Lawful

variable {g : Float → Except Fault Float} {C : Correspondence} (L : C.Lawful) {κ : Link}
  {v w x y s t height height' scale scale' twist twist' : Value} {e f : FrameId} {p q : Perform}
  {a b : Args} {xs ys : List Value} (P : C.Performs p q) (h : κ.same .frame e f)

include L

/-! ## Operations on the environment -/

section

variable (O : C.Open)

include P h O

theorem sim_setDynamic (hn : v.Alike κ w) (hx : x.Alike κ y) :
    C.Same κ (setDynamic p e v x) (setDynamic q f w y) := by
  refine (L.sim_startsDynamic hn).bindEq fun _ => ?_
  refine .branch (.failThen rfl) (.withAgree fun hw => ?_)
  refine (P (.eval h.up hx.up (.loose (O.loose hw)))).bind fun hv => ?_
  refine .withAgree fun hw => ?_
  have ho := O.frame (k := .own) hw (by decide) h.up
  have keyed := L.sim_setKey (L.asked h.up ho) hn.up hv
  cases hn with
  | str t =>
    dsimp only
    split
    · exact L.setValue h.up (.inl ho) hv
    · exact keyed
  | _ => exact keyed

omit L in
theorem sim_applyName (hn : v.Alike κ w) (ha : a.Alike κ b) :
    C.Alike κ (applyName p e v a) (applyName q f w b) := by
  have keyed : C.Alike κ (do p (.call e (← p (.readKey e v)) a))
      (do q (.call f (← q (.readKey f w)) b)) :=
    (P (.readKey h hn)).bind fun hv => P (.call h.up hv ha.up)
  have other : C.Alike κ
      (do if !v.isKey then throw .typeMismatch
          p (.call e (← p (.readKey e v)) a))
      (do if !w.isKey then throw .typeMismatch
          q (.call f (← q (.readKey f w)) b)) :=
    Sim.ite (by rw [hn.isKey_eq]) (fun _ => .failThen rfl) fun _ => keyed
  cases hn with
  | str t =>
    unfold applyName
    dsimp only
    split
    · exact .withAgree fun hw => P (.apply h (O.word hw _) ha)
    · exact keyed
  | _ => exact other

omit L in
theorem sim_instantiateName (hn : v.Alike κ w) (ha : a.Alike κ b) :
    C.Alike κ (instantiateName p e v a) (instantiateName q f w b) := by
  have other : C.Alike κ (if v.isKey then throw .unknownKey else throw .typeMismatch)
      (if w.isKey then throw .unknownKey else throw .typeMismatch) :=
    Sim.ite (by rw [hn.isKey_eq]) (fun _ => .fail rfl) fun _ => .fail rfl
  cases hn with
  | str t =>
    unfold instantiateName
    dsimp only
    split
    · exact .withAgree fun hw =>
        P (.instantiate h (.inl (O.loose hw)) (O.word hw _) (fun _ => O.frame hw (by decide) h) ha)
    · exact .fail rfl
  | _ => exact other

omit L P h O in
theorem operation_isScalar (op : EnvOperation) :
    (Eval.EnvOperation.signature op).isScalar = true := by
  cases op <;> rfl

theorem sim_runOperation (op : EnvOperation) (ha : a.Alike κ b) :
    C.Alike κ (runOperation p e op a) (runOperation q f op b) := by
  refine (sim_bind (operation_isScalar op) ha).bind @fun κ1 c d _ hb => ?_
  have hv := hb.values
  have args : (⟨c.rest, c.named⟩ : Args).Alike κ1 ⟨d.rest, d.named⟩ :=
    ⟨⟨hb.rest, hb.named⟩, hb.allowed⟩
  generalize c.values = vs at hv ⊢
  generalize d.values = ws at hv ⊢
  refine .withAgree fun hw => ?_
  cases op with
  | build => exact P (.build h.up (O.frame hw (by decide) h.up))
  | childUnion => exact L.sim_childUnion P h.up
  | resetChild => exact (L.sim_resetChild h.up).bind fun _ => .pure .undef
  | trace => exact (L.sim_trace P h.up hb.rest hb.named).bind fun _ => .pure .undef
  | buildOne =>
    rcases hv with _ | ⟨hx, _ | _⟩
    any_goals exact .fail rfl
    exact P (.buildOne h.up hx)
  | eval =>
    rcases hv with _ | ⟨hx, _ | _⟩
    any_goals exact .fail rfl
    exact P (.eval h.up hx (.loose (O.loose hw)))
  | func =>
    rcases hv with _ | ⟨hx, _ | _⟩
    any_goals exact .fail rfl
    exact sim_applyName P h.up O hx args
  | mod =>
    rcases hv with _ | ⟨hx, _ | _⟩
    any_goals exact .fail rfl
    exact sim_instantiateName P h.up O hx args
  | oneChild =>
    rcases hv with _ | ⟨hx, _ | _⟩
    any_goals exact .fail rfl
    exact L.sim_oneChild P h.up hx
  | var =>
    rcases hv with _ | ⟨hx, _ | _⟩
    any_goals exact .fail rfl
    exact sim_readName P h.up hx
  | setVar =>
    rcases hv with _ | ⟨hn, _ | ⟨hx, _ | _⟩⟩
    any_goals exact .fail rfl
    exact (L.sim_setDynamic P h.up O hn hx).bind fun _ => .pure .undef

end

/-! ## Functions -/

theorem sim_echo (hx : Values.Alike κ xs ys) {es fs : List (String × Value)}
    (he : Entries.Alike κ es fs) : C.Alike κ (echo xs es) (echo ys fs) := by
  refine (Sim.mapM_eq hx fun hv => L.sim_shown hv).bind fun hp => ?_
  subst hp
  refine (Sim.mapM_eq (R := fun κ => EntryRel (Value.Alike κ)) he.up fun he => ?_).bind fun hm => ?_
  · obtain ⟨name, hv⟩ := he
    exact (L.sim_shown hv).bindEq fun _ => .pure rfl
  · subst hm
    rw [forall₂_isEmpty he]
    exact (L.print _).bind fun _ => .pure .undef

include P in
theorem sim_charsOf (h : v.Alike κ w) : C.Same κ (charsOf p v) (charsOf q w) := by
  unfold charsOf
  rw [h.int?_eq]
  split
  · exact (sim_codePoint h).bindEq fun _ => .pure rfl
  · exact (L.sim_mapItems P (fun hv => sim_codePoint hv) h).weaken
      fun h => List.forall₂_eq_eq_eq ▸ h

section

variable (hv : v.Alike κ w) (hx : x.Alike κ y)

include hv hx

theorem sim_entryProduct (i j : Int) :
    C.Alike κ (entryProduct v x i j) (entryProduct w y i j) := by
  refine (L.sim_item hv (.int i)).bind fun ha => ?_
  refine (L.sim_item hx.up (.int j)).bind fun hb => ?_
  exact L.sim_times ha.up hb

theorem sim_minor (i j : Int) :
    C.Alike κ (minor v x i j) (minor w y i j) := by
  refine (L.sim_entryProduct hv hx i j).bind fun ha => ?_
  refine (L.sim_entryProduct hv.up hx.up j i).bind fun hb => ?_
  exact L.sim_minus ha.up hb

theorem sim_flatCross :
    C.Alike κ (flatCross v x) (flatCross w y) := by
  refine (L.sim_entryProduct hv hx 0 1).bind fun hp => ?_
  refine (L.sim_item hv.up (.int 1)).bind fun ha => ?_
  refine (L.sim_times hp.up ha).bind fun hp => ?_
  refine (L.sim_item hx.up (.int 0)).bind fun hb => ?_
  exact L.sim_times hp.up hb

theorem sim_solidCross :
    C.Alike κ (solidCross v x) (solidCross w y) := by
  refine (L.sim_minor hv hx 1 2).bind fun ha => ?_
  refine (L.sim_minor hv.up hx.up 2 0).bind fun hb => ?_
  refine (L.sim_minor hv.up hx.up 0 1).bind fun hc => ?_
  exact L.newList (.cons ha.up (.cons hb.up (.cons hc .nil)))

theorem sim_cross : C.Alike κ (cross v x) (cross w y) := by
  refine (L.sim_size hv).bindEq fun m => ?_
  have rest : ∀ {κ'} (n) [κ.Before κ'], C.Alike κ'
      (if m = 2 && n = 2 then flatCross v x
        else if m = 3 && n = 3 then solidCross v x
        else do throw (.notVectors (← v.shown) (← x.shown)))
      (if m = 2 && n = 2 then flatCross w y
        else if m = 3 && n = 3 then solidCross w y
        else do throw (.notVectors (← w.shown) (← y.shown))) := by
    intro κ' n _
    refine .branch (L.sim_flatCross hv.up hx.up) ?_
    refine .branch (L.sim_solidCross hv.up hx.up) ?_
    refine (L.sim_shown hv.up).bind fun ha => (L.sim_shown hx.up).bind fun hb => ?_
    subst ha hb
    exact .fail rfl
  refine .branch ?_ (rest 0)
  refine (L.sim_size hx.up).bindEq fun n => ?_
  exact rest n

end

theorem sim_sumSquares (h : v.Alike κ w) (hx : Values.Alike κ xs ys) :
    C.Alike κ (norm.sum v xs) (norm.sum w ys) := by
  induction xs generalizing κ v w ys with
  | nil =>
    cases hx
    exact .pure h
  | cons x xs ih =>
    cases hx with
    | cons hx hxs =>
      refine (L.sim_times hx hx).bind fun hs => ?_
      refine (L.sim_plus h.up hs).bind fun ht => ?_
      exact ih ht (Values.Alike.up hxs)

theorem sim_ofFloat (hg : ∀ r, ExceptRel Eq (g r) (g r)) (h : v.Alike κ w) :
    C.Alike κ (do Run.newFloat (← Run.lift (g (← v.toFloat))))
      (do Run.newFloat (← Run.lift (g (← w.toFloat)))) := by
  refine (sim_toFloat h).bindEq fun r => ?_
  refine .bindEq (.lift (hg r)) fun r => ?_
  exact L.sim_newFloat r

theorem sim_norm (hx : Values.Alike κ xs ys) : C.Alike κ (norm xs) (norm ys) :=
  (L.sim_sumSquares (.int 0) hx).bind fun ht => L.sim_ofFloat (fun _ => check_rel _ _ _) ht

theorem sim_better (rel : Value.Relation) {o o' : Option Value}
    (ho : Option.Rel (Value.Alike κ) o o') (h : v.Alike κ w) :
    C.Sim κ (fun κ' => Option.Rel (Value.Alike κ')) (better rel o v) (better rel o' w) := by
  cases ho with
  | none => exact .pure (.some h)
  | some ho =>
    refine (L.sim_related rel h ho).bindEq fun b => ?_
    cases b
    · exact .pure (.some ho.up)
    · exact .pure (.some h.up)

instance : Stable fun κ => Option.Rel (Value.Alike κ) := ⟨fun h => h.imp fun _ _ h => h.up⟩

include P in
theorem sim_extreme (rel : Value.Relation) {empty : Fault}
    (hp : empty.isPlain = true) (hx : Values.Alike κ xs ys) :
    C.Alike κ (extreme p rel empty xs) (extreme q rel empty ys) := by
  rcases hx with _ | ⟨hx, _ | ⟨hx', hxs⟩⟩
  · exact .failThen rfl
  · refine (L.sim_eachItem P (S := fun κ => Option.Rel (Value.Alike κ)) (fun hs hv =>
      L.sim_better rel hs hv) .none
      hx).bind fun ho => .demand hp ho
  · refine (Sim.foldlM (.cons hx (.cons hx' hxs)) (fun hs hv =>
      L.sim_better rel hs hv) .none).bind fun ho => .demand hp ho

theorem sim_rands (h : v.Alike κ w) (hx : x.Alike κ y) (hs : s.Alike κ t) {c d : Value}
    (hc : c.Alike κ d) : C.Alike κ (rands v x c s) (rands w y d t) := by
  refine .ite (by rw [hs.isUndef_eq]) (fun _ => .failThen rfl) fun _ => ?_
  refine (L.sim_minus hx h).bind @fun κ1 _ _ _ hsp => ?_
  rw [hc.int?_eq]
  split
  · exact .fail rfl
  · next n _ =>
    have halves : Values.Alike κ1 (List.replicate n.toNat (.float 0.5))
        (List.replicate n.toNat (.float 0.5)) :=
      List.forall₂_same.2 fun z hz => by
        rw [List.eq_of_mem_replicate hz]
        exact .float _
    refine (Sim.mapM halves fun hr => ?_).bind fun hd => L.newList hd
    refine (L.sim_times hr hsp.up).bind fun hm => ?_
    exact L.sim_plus hm h.up

theorem sim_ofDegrees (hg : ∀ r, ExceptRel Eq (g r) (g r))
    (h : v.Alike κ w) : C.Alike κ (ofDegrees g v) (ofDegrees g w) := by
  refine (L.sim_times h (.float _)).bind fun hm => ?_
  exact (L.sim_divide hm (.int 180)).bind fun hr => L.sim_ofFloat hg hr

omit L in
theorem sim_onFloat (hg : ∀ r, ExceptRel Eq (g r) (g r))
    (h : v.Alike κ w) : C.Same κ (onFloat g v) (onFloat g w) := by
  refine (sim_toFloat h).bindEq fun r => ?_
  exact .lift (hg r)

omit L in
theorem sim_toNum (h : v.Alike κ w) : C.Same κ (toNum v) (toNum w) := by
  unfold toNum
  rw [h.num?_eq]
  split
  · exact .pure rfl
  · exact .fail rfl

theorem sim_sign (h : v.Alike κ w) : C.Alike κ (sign v) (sign w) := by
  refine (L.sim_equal h (.int 0)).bindEq fun _ => ?_
  refine .branch (.pure (.int 0)) ?_
  refine (L.sim_related .greater h.up (.int 0)).bindEq fun _ => ?_
  exact .branch (.pure (.int 1)) (.pure (.int _))

omit L in
theorem sim_numThen {g : Num → Run Value} (hg : ∀ κ' n, C.Alike κ' (g n) (g n)) (h : v.Alike κ w) :
    C.Alike κ (do g (← toNum v)) (do g (← toNum w)) := by
  refine (sim_toNum h).bindEq fun n => ?_
  exact hg _ n

theorem sim_log (h : v.Alike κ w) : C.Alike κ (log v) (log w) := by
  refine sim_numThen (fun κ' n => ?_) h
  cases n with
  | int n =>
    refine .bindEq (.lift (logInt_rel n)) fun r => ?_
    exact L.sim_newFloat r
  | float r =>
    refine .bindEq (.lift (log_rel r)) fun r => ?_
    exact L.sim_newFloat r

theorem sim_roundNumber (h : v.Alike κ w) : C.Alike κ (round v) (round w) := by
  refine sim_numThen (fun κ' n => ?_) h
  cases n with
  | int n => exact .pure (.int n)
  | float r => exact L.sim_newFloat _

omit L in
theorem sim_elementary (hg : ∀ r, ExceptRel Eq (g r) (g r))
    {k : Float → Run Value} (hk : ∀ κ' r, C.Alike κ' (k r) (k r)) (h : v.Alike κ w) :
    C.Alike κ (do k (← onFloat g v)) (do k (← onFloat g w)) := by
  refine (sim_onFloat hg h).bindEq fun r => ?_
  exact hk _ r

omit L in
theorem sim_isKind (k : Value → Bool) (hk : ∀ v w, v.Alike κ w → k v = k w) (h : v.Alike κ w) :
    C.Alike κ (pure (.bool (k v))) (pure (.bool (k w))) := by
  rw [hk v w h]
  exact .pure (.bool _)

theorem sim_ofUnary (g : BuiltinFunction) (h : v.Alike κ w) :
    C.Alike κ (ofUnary g v) (ofUnary g w) := by
  have whole (round : Bool → Nat → Int → Int) : ∀ κ' n, C.Alike κ'
      (do return .int (← Run.lift (Num.toWhole round n)))
      (do return .int (← Run.lift (Num.toWhole round n))) := fun _ n =>
    (Sim.lift (A := fun _ => Eq) (Num.toWhole_rel round n)).bindEq fun m => .pure (.int m)
  cases g with
  | abs => exact sim_numThen (fun _ n => L.sim_number _) h
  | sign => exact L.sim_sign h
  | floor => exact sim_numThen (whole _) h
  | ceil => exact sim_numThen (whole _) h
  | round => exact L.sim_roundNumber h
  | len =>
    refine (L.sim_size h).bindEq fun _ => ?_
    exact .pure (.int _)
  | ord =>
    cases h with
    | str t =>
      match t with
      | [] => exact .fail rfl
      | [p] => exact .pure (.int _)
      | _ :: _ :: _ => exact .fail rfl
    | _ => exact .fail rfl
  | log => exact L.sim_log h
  | exp => exact sim_elementary (fun _ => check_rel ..) (fun _ r => L.sim_newFloat r) h
  | sqrt => exact sim_elementary (fun _ => check_rel ..) (fun _ r => L.sim_newFloat r) h
  | sin => exact L.sim_ofDegrees (fun _ => check_rel ..) h
  | cos => exact L.sim_ofDegrees (fun _ => check_rel ..) h
  | tan => exact L.sim_ofDegrees (fun _ => check_rel ..) h
  | asin => exact sim_elementary (fun _ => check_rel ..) (fun _ r => L.sim_newFloat _) h
  | acos => exact sim_elementary (fun _ => check_rel ..) (fun _ r => L.sim_newFloat _) h
  | atan => exact sim_elementary (fun _ => check_rel ..) (fun _ r => L.sim_newFloat _) h
  | isUndef => exact sim_isKind _ (fun _ _ => Value.Alike.isUndef_eq) h
  | isBool => cases h <;> exact .pure (.bool _)
  | isString => cases h <;> exact .pure (.bool _)
  | isList =>
    have other : C.Alike κ (do return .bool (← v.listItems?).isSome)
        (do return .bool (← w.listItems?).isSome) :=
      (L.sim_listItems? h).bind fun ho => by
        cases ho <;> exact .pure (.bool _)
    cases h with
    | tuple => exact .pure (.bool _)
    | _ => exact other
  | isFunction =>
    have other := sim_isKind (C := C) _ (fun _ _ => Value.Alike.isCallable_eq) h
    cases h with
    | function => exact .pure (.bool _)
    | _ => exact other
  | _ => exact .fail rfl

omit L in
theorem function_isScalar (g : BuiltinFunction) :
    (Eval.BuiltinFunction.signature g).isScalar = true := by
  cases g with
  | env op => exact operation_isScalar op
  | _ => rfl

theorem sim_assert (hv : v.Alike κ w) (hx : x.Alike κ y) : C.Alike κ
      (do if ← v.truth then return .undef
          throw (.failedAssertion (if x.isUndef then .str "Assertion failed" else x)))
      (do if ← w.truth then return .undef
          throw (.failedAssertion (if y.isUndef then .str "Assertion failed" else y))) := by
  refine (L.sim_truth hv).bindEq fun _ => ?_
  refine .branch (.pure .undef) (.throw (.failed ?_))
  rw [hx.isUndef_eq]
  split
  · exact .str _
  · exact hx.up

include P h in
theorem sim_callBuiltin (g : BuiltinFunction) (hg : C.ServesFunction g) (ha : a.Alike κ b) :
    C.Alike κ (callBuiltin p e g a) (callBuiltin q f g b) := by
  refine (sim_bind (function_isScalar g) ha).bind @fun κ1 c d _ hb => ?_
  have hv := hb.values
  have hr := hb.rest
  have joined {k k' : Value → Run Text} (hk : ∀ κ' v w, v.Alike κ' w →
      C.Same κ' (k v) (k' w)) :
      C.Alike κ1 (do return .str (Text.join (← c.rest.mapM k)))
        (do return .str (Text.join (← d.rest.mapM k'))) :=
    (Sim.mapM_eq hr fun h => hk _ _ _ h).bindEq fun _ => Sim.pure (.str _)
  generalize c.values = vs at hv ⊢
  generalize d.values = ws at hv ⊢
  cases g with
  | env op => exact L.sim_runOperation P h.up hg op ha.up
  | version => exact .pure (.str _)
  | children => exact L.newStream h.up
  | echo => exact L.sim_echo hr hb.named
  | assert =>
    rcases hv with _ | ⟨hx, _ | ⟨hy, _ | _⟩⟩
    any_goals exact .fail rfl
    exact L.sim_assert hx hy
  | str => exact joined fun _ _ _ => L.sim_display
  | chr => exact joined fun _ _ _ => L.sim_charsOf P
  | norm => exact L.sim_norm hr
  | min => exact L.sim_extreme P .less rfl hr
  | max => exact L.sim_extreme P .greater rfl hr
  | rands =>
    rcases hv with _ | ⟨hl, _ | ⟨hh, _ | ⟨hc, _ | ⟨hs, _ | _⟩⟩⟩⟩
    any_goals exact .fail rfl
    exact L.sim_rands hl hh hs hc
  | cross =>
    rcases hv with _ | ⟨hx, _ | ⟨hy, _ | _⟩⟩
    any_goals exact .fail rfl
    exact L.sim_cross hx hy
  | pow =>
    rcases hv with _ | ⟨hx, _ | ⟨hy, _ | _⟩⟩
    any_goals exact .fail rfl
    exact L.sim_power hx hy
  | atan2 =>
    rcases hv with _ | ⟨hx, _ | ⟨hy, _ | _⟩⟩
    any_goals exact .fail rfl
    refine (sim_toFloat hx).bind fun he => ?_
    refine (sim_toFloat hy.up).bind fun he' => ?_
    subst he he'
    exact L.sim_newFloat _
  | _ =>
    rcases hv with _ | ⟨hx, _ | _⟩
    · exact .fail rfl
    · exact L.sim_ofUnary _ hx
    · exact .fail rfl

/-! ## Modules -/

include P h

theorem sim_translate (hv : v.Alike κ w) : C.Alike κ (translate p e v) (translate q f w) := by
  refine (L.sim_childUnion P h).bind (.unlessUndef fun hs => ?_)
  refine (L.sim_moveBy hs hv.up).bind fun hr => ?_
  refine (L.sim_trace P h.up (.cons hr (.cons (.str _)
    (.cons hv.up .nil))) (.cons (.mk _ hs.up) .nil)).bind
    fun _ => ?_
  exact .pure hr.up

theorem sim_turn (hs : s.Alike κ t) (ha : v.Alike κ w) (hx : x.Alike κ y) :
    C.Alike κ (turn p e s v x) (turn q f t w y) := by
  refine (L.sim_method "rotate" hs (.cons ha (.cons hx .nil))).bind fun hr => ?_
  exact (L.sim_trace P h.up (.cons hr (.cons (.str _) (.cons ha.up
    (.cons hx.up .nil)))) (.cons (.mk _ hs.up) .nil)).bind
    fun _ => .pure hr.up

theorem sim_turnUnless (ha : v.Alike κ w) (i : Int)
    {axis axis' : Run Value} (hx : ∀ κ', C.Alike κ' axis axis') (hs : s.Alike κ t) :
    C.Alike κ (turnUnless p e v i axis s) (turnUnless q f w i axis' t) := by
  refine (L.sim_item ha (.int i)).bind fun hi => ?_
  refine (L.sim_truth hi).bindEq fun _ => ?_
  refine .branch ?_ (.pure hs.up)
  refine (hx _).bind fun hx => ?_
  refine (L.sim_item ha.up (.int i)).bind fun hi => ?_
  exact L.sim_turn P h.up hs.up hx.up hi

omit P h in
theorem sim_givesAxis (h : v.Alike κ w) : C.Same κ (givesAxis v) (givesAxis w) := by
  refine .ite (by rw [h.isUndef_eq]) (fun _ => .pure rfl) fun _ => ?_
  refine (L.newList (.cons (.int 0) (.cons (.int 0) (.cons (.int 0) .nil)))).bind fun hn => ?_
  exact (L.sim_equal h.up hn).bindEq fun _ => .pure rfl

theorem sim_rotated (ha : x.Alike κ y) (hv : v.Alike κ w) (hs : s.Alike κ t) :
    C.Alike κ (rotated p e x v s) (rotated q f y w t) := by
  refine (L.sim_givesAxis hv).bindEq fun _ => ?_
  refine .branch ?_ ?_
  · refine (L.sim_itemsOf P hv.up).bind fun hi => ?_
    refine (L.sim_axis (triple_alike 0 0 0) (.tuple hi)).bind fun hx => ?_
    exact L.sim_turn P h.up hs.up hx ha.up
  refine .ite (by rw [ha.isNumber_eq]) (fun _ => ?_) fun _ => ?_
  · refine (L.sim_unitAxis 0 0 1).bind fun hx => ?_
    exact L.sim_turn P h.up hs.up hx ha.up
  · refine (L.sim_turnUnless P h.up ha.up 0 (fun _ => L.sim_unitAxis 1 0 0) hs.up).bind fun hs => ?_
    refine (L.sim_turnUnless P h.up ha.up 1 (fun _ => L.sim_unitAxis 0 1 0) hs).bind fun hs => ?_
    exact L.sim_turnUnless P h.up ha.up 2 (fun _ => L.sim_unitAxis 0 0 1) hs

theorem sim_rotate (ha : x.Alike κ y)
    (hv : v.Alike κ w) : C.Alike κ (rotate p e x v) (rotate q f y w) :=
  (L.sim_childUnion P h).bind <| .unlessUndef fun hs => L.sim_rotated P h.up ha.up hv.up hs

theorem sim_difference : C.Alike κ (difference p e) (difference q f) := by
  refine (L.sim_visitChildren (S := fun κ' => Option.Rel (Value.Alike κ')) P h
    (@fun κ' _ _ v w _ hs hv => ?_) .none).bind fun ho => ?_
  · have first : C.Sim κ' (fun κ'' => VisitRel (Option.Rel (Value.Alike κ'')))
        (pure (.more (some v))) (pure (.more (some w))) := Sim.pure (.more (.some hv))
    cases hs with
    | none =>
      cases hv with
      | undef => exact .pure (.stop (.some .undef))
      | _ => exact first
    | @some s t hs =>
      have other : C.Sim κ' (fun κ'' => VisitRel (Option.Rel (Value.Alike κ'')))
          (do let r ← s.minus v
              trace p e [r, .str "_diff", s, v] []
              return .more (some r))
          (do let r ← t.minus w
              trace q f [r, .str "_diff", t, w] []
              return .more (some r)) := by
        refine (L.sim_minus hs hv).bind fun hr => ?_
        refine (L.sim_trace P h.up (.cons hr (.cons (.str _)
          (.cons hs.up (.cons hv.up .nil)))) .nil).bind fun _ => ?_
        exact .pure (.more (.some hr.up))
      cases hv with
      | undef => exact .pure (.more (.some hs))
      | _ => exact other
  · cases ho with
    | none => exact .fail rfl
    | some hv => exact .pure hv

theorem sim_intersection : C.Alike κ (intersection p e) (intersection q f) := by
  refine (L.sim_visitChildren P h (@fun κ' s t v w _ hs hv => ?_) .undef).bind
    fun hv => L.sim_method "clean" hv .nil
  have kept : C.Sim κ' (fun κ'' => VisitRel (Value.Alike κ'')) (pure (.more s)) (pure (.more t)) :=
    Sim.pure (.more hs)
  have first : C.Sim κ' (fun κ'' => VisitRel (Value.Alike κ'')) (pure (.more v))
      (pure (.more w)) := Sim.pure (.more hv)
  have other : C.Sim κ' (fun κ'' => VisitRel (Value.Alike κ''))
      (do let r ← s.common v
          trace p e [r, .str "_inter", s, v] []
          return .more r)
      (do let r ← t.common w
          trace q f [r, .str "_inter", t, w] []
          return .more r) := by
    refine (L.sim_common hs hv).bind fun hr => ?_
    refine (L.sim_trace P h.up (.cons hr (.cons (.str _)
      (.cons hs.up (.cons hv.up .nil)))) .nil).bind fun _ => ?_
    exact .pure (.more hr.up)
  cases hv with
  | undef => cases hs <;> exact kept
  | _ =>
    cases hs with
    | undef => exact first
    | _ => exact other

omit P h in
theorem sim_extrudedNode (h : κ.same .extruder e f) :
    C.Alike κ (extrudedNode e) (extrudedNode f) := by
  refine (L.sim_slot_extruded h).bind fun hs => ?_
  rcases hs with @⟨_, _, hs⟩ | _
  · cases hs with
    | known hv => exact .pure hv
    | busy => exact .pure .undef
  · exact .fail rfl

omit P h in
theorem sim_raised (straight scaled : Bool) (hh : height.Alike κ height')
    (ht : twist.Alike κ twist') (hc : scale.Alike κ scale') (hs : s.Alike κ t) :
    C.Alike κ (Eval.raised straight scaled height twist scale s)
      (Eval.raised straight scaled height' twist' scale' t) := by
  refine .branch ?_ ?_
  · exact L.sim_construct _ (.cons hs .nil) (.cons (.mk _ hh) .nil)
  refine (L.sim_freezeAll (.cons (.int 0) (.cons (.int 0) (.cons hh .nil)))).bindEq fun _ => ?_
  refine (L.sim_negate ht.up).bind fun hn => ?_
  refine (L.sim_freeze hn).bindEq @fun κ3 _ _ => ?_
  have factor : Value.Alike κ3 (if scaled then .int 1 else scale)
      (if scaled then .int 1 else scale') := by
    split
    · exact .int 1
    · exact hc.up
  refine (L.sim_method "scale" hs.up (.cons factor .nil)).bind fun hp => ?_
  refine (L.sim_freeze hp).bindEq fun _ => ?_
  refine (L.sim_newShape _).bind fun hq => ?_
  exact L.sim_construct _ (.cons (.tuple (.cons hs.up (.cons hq .nil))) .nil) .nil

theorem sim_linearExtrude (hx : κ.same .extruder e f)
    (hl : κ.loose) {center center' : Value} (hh : height.Alike κ height')
    (hc : center.Alike κ center') (ht : twist.Alike κ twist') (hs : scale.Alike κ scale') :
    C.Alike κ (linearExtrude p e height center twist scale)
      (linearExtrude q f height' center' twist' scale') := by
  refine (L.sim_equal ht (.int 0)).bindEq fun _ => ?_
  refine (L.sim_equal hs.up (.int 1)).bindEq fun _ => ?_
  dsimp only
  refine .whenThen Iff.rfl (L.warn _) ?_
  refine (L.sim_extrudedNode hx.up).bind fun hn => ?_
  refine (P (.eval h.up hn (.loose hl.up))).bind (.unlessUndef fun hv => ?_)
  refine (L.sim_raised _ _ hh.up ht.up hs.up hv).bind fun hr => ?_
  exact L.sim_centred hh.up hc.up hr

omit L P h in
theorem module_isScalar (m : BuiltinModule) : (Eval.BuiltinModule.signature m).isScalar = true := by
  cases m with
  | env op => exact operation_isScalar op
  | _ => rfl

theorem sim_buildBuiltin (m : BuiltinModule) (hm : C.ServesModule κ e f m) (ha : a.Alike κ b) :
    C.Alike κ (buildBuiltin p e m a) (buildBuiltin q f m b) := by
  refine (sim_bind (module_isScalar m) ha).bind @fun _ c d _ hb => ?_
  have hv := hb.values
  generalize c.values = vs at hv ⊢
  generalize d.values = ws at hv ⊢
  -- The number of values is that of the parameters; all other numbers are refused.
  cases m with
  | env op => exact L.sim_runOperation P h.up hm op ha.up
  | sphere =>
    rcases hv with _ | ⟨hr, _ | ⟨hd, _ | _⟩⟩
    any_goals exact .fail rfl
    exact L.sim_sphere P h.up hr hd
  | circle =>
    rcases hv with _ | ⟨hr, _ | ⟨hd, _ | _⟩⟩
    any_goals exact .fail rfl
    exact L.sim_circle hr hd
  | cube =>
    rcases hv with _ | ⟨hs, _ | ⟨hc, _ | _⟩⟩
    any_goals exact .fail rfl
    exact L.sim_cube P h.up hs hc
  | square =>
    rcases hv with _ | ⟨hs, _ | ⟨hc, _ | _⟩⟩
    any_goals exact .fail rfl
    exact L.sim_square P hs hc
  | cylinder =>
    rcases hv with _ | ⟨hh, _ | ⟨hr1,
      _ | ⟨hr2, _ | ⟨hr, _ | ⟨hd, _ | ⟨hd1, _ | ⟨hd2, _ | ⟨hc, _ | _⟩⟩⟩⟩⟩⟩⟩⟩
    any_goals exact .fail rfl
    exact L.sim_cylinder hh ⟨hr1, hr2, hr, hd, hd1, hd2⟩ hc
  | «for» =>
    rcases hv with _ | ⟨hi, _ | _⟩
    any_goals exact .fail rfl
    exact L.sim_forModule P h.up hm.up hi hb.named hb.allowed
  | intersectionFor => exact .fail rfl
  | translate =>
    rcases hv with _ | ⟨hv, _ | _⟩
    any_goals exact .fail rfl
    exact L.sim_translate P h.up hv
  | rotate =>
    rcases hv with _ | ⟨ha.up, _ | ⟨hv, _ | _⟩⟩
    any_goals exact .fail rfl
    exact L.sim_rotate P h.up ha.up hv
  | difference => exact L.sim_difference P h.up
  | union => exact L.sim_childUnion P h.up
  | intersection => exact L.sim_intersection P h.up
  | resolve => exact .fail rfl
  | resolveList => exact .fail rfl
  | children =>
    rcases hv with _ | ⟨hi, _ | _⟩
    any_goals exact .fail rfl
    exact L.sim_oneChild P h.up hi
  | importFile => exact (P (.read h.up "_path")).bind fun _ => .fail rfl
  | polyhedron =>
    rcases hv with _ | ⟨hp, _ | ⟨hf, _ | ⟨_, _ | _⟩⟩⟩
    any_goals exact .fail rfl
    exact L.sim_polyhedron P hp hf
  | polygon =>
    rcases hv with _ | ⟨hp, _ | ⟨hf, _ | _⟩⟩
    any_goals exact .fail rfl
    exact L.sim_polygon P hp hf
  | debug => exact .pure .undef
  | linearExtrude =>
    rcases hv with _ | ⟨hh, _ | ⟨hc, _ | ⟨_, _ | ⟨ht, _ | ⟨_, _ | ⟨hs, _ | _⟩⟩⟩⟩⟩⟩
    any_goals exact .fail rfl
    exact L.sim_linearExtrude P h.up hm.1.up hm.2.up hh hc ht hs
  | scale =>
    rcases hv with _ | ⟨hs, _ | _⟩
    any_goals exact .fail rfl
    exact (L.sim_sides P 3 hs).bind fun _ => (L.sim_childUnion P h.up).bind fun _ => .fail rfl
  | rotateExtrude => exact (L.sim_childUnion P h.up).bind fun _ => .fail rfl
  | color => exact (L.warn _).bind fun _ => L.sim_childUnion P h.up
  | text =>
    rcases hv with _ | ⟨ht, _ | ⟨hs,
      _ | ⟨hf, _ | ⟨hh, _ | ⟨hv, _ | ⟨hp, _ | ⟨hd, _ | ⟨_, _ | ⟨_, _ | _⟩⟩⟩⟩⟩⟩⟩⟩⟩
    any_goals exact .fail rfl
    exact L.sim_text ht hs hf hh hv hp hd

end Lawful
end Correspondence
end Scad
