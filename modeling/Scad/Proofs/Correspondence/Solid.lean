import Scad.Proofs.Correspondence.Stream

/-!
Solids and flat figures respect every lawful correspondence: they are records of the
calls that made them, and the same calls are made on both sides.
-/

namespace Scad

open Eval.Solid Eval.Solid.Radii

structure Eval.Solid.Radii.Alike (κ : Link) (g h : Eval.Solid.Radii) : Prop where
  r1 : g.r1.Alike κ h.r1
  r2 : g.r2.Alike κ h.r2
  r : g.r.Alike κ h.r
  d : g.d.Alike κ h.d
  d1 : g.d1.Alike κ h.d1
  d2 : g.d2.Alike κ h.d2

theorem Eval.Solid.Radii.Alike.up {κ κ' : Link} [κ.Before κ'] {g h : Eval.Solid.Radii}
    (hg : g.Alike κ h) : g.Alike κ' h :=
  ⟨hg.r1.up, hg.r2.up, hg.r.up, hg.d.up, hg.d1.up, hg.d2.up⟩

namespace Correspondence
namespace Lawful

variable {g g' : Eval.Solid.Radii} {C : Correspondence} (L : C.Lawful) {κ : Link}
  {v w x y s t a a' b b' d d' : Value} {e f : FrameId} {p q : Perform} {xs ys : List Value}

include L

theorem sim_moved {c c' : Value} (ha : a.Alike κ a') (hb : b.Alike κ b') (hc : c.Alike κ c')
    (h : s.Alike κ t) : C.Alike κ (moved a b c s) (moved a' b' c' t) := by
  cases h with
  | shape _ made =>
    refine (L.sim_freezeAll (.cons ha (.cons hb (.cons hc .nil)))).bindEq fun _ => ?_
    exact L.sim_newShape _
  | _ => exact .fail rfl

theorem sim_method (name : String) (h : s.Alike κ t) (hx : Values.Alike κ xs ys) :
    C.Alike κ (method name s xs) (method name t ys) := by
  cases h with
  | shape _ made =>
    refine (L.sim_freezeAll hx).bindEq fun _ => ?_
    exact L.sim_newShape _
  | _ => exact .fail rfl

theorem sim_itemThere? (h : v.Alike κ w) (hx : x.Alike κ y) :
    C.Sim κ (fun κ' => Option.Rel (Value.Alike κ')) (itemThere? v x) (itemThere? w y) := by
  refine .tryCatch ((L.sim_item h hx).map fun h => .some h)
    (fun he => ?_) (fun w => ⟨w, rfl⟩) (fun w => ⟨w, rfl⟩)
  rw [he.faultClass_eq]
  split
  · exact .pure .none
  · exact .pure .none
  · exact .throw he

theorem sim_replacePoint (h : v.Alike κ w) (c : CodePoint) :
    C.Same κ (replacePoint v c) (replacePoint w c) := by
  refine (L.sim_itemThere? h (.int _)).bind fun ho => ?_
  cases ho with
  | none => exact .pure rfl
  | @some a b ho =>
    cases ho with
    | undef => exact .pure rfl
    | str t => exact .pure rfl
    | _ =>
      refine (Sim.demand_eq rfl _).bind fun hn => ?_
      cases hn
      exact (Sim.demand_eq rfl _).bind fun hp => .pure (by rw [hp])

theorem sim_moveBy (h : s.Alike κ t) (hv : v.Alike κ w) :
    C.Alike κ (translate s v) (translate t w) := by
  have other := L.sim_method "translate" h (.cons hv .nil)
  cases h with
  | str text =>
    refine (Sim.mapM_eq (κ := κ) (R := fun _ => Eq) (List.forall₂_same.2 fun _ _ => rfl)
      fun h => ?_).bind fun he => .pure (he ▸ .str _)
    exact h ▸ L.sim_replacePoint hv.up _
  | _ => exact other

theorem sim_axis (ho : v.Alike κ w) (hd : x.Alike κ y) : C.Alike κ (axis v x) (axis w y) :=
  L.newIdent.bind fun hi => .pure (.axis hi ho.up hd.up)

theorem sim_unitAxis (a b c : Int) : C.Alike κ (unitAxis a b c) (unitAxis a b c) :=
  L.sim_axis (triple_alike 0 0 0) (triple_alike a b c)

theorem sim_sides (P : C.Performs p q) (n : Nat) (h : v.Alike κ w) :
    C.Sim κ Values.Alike (sides p n v) (sides q n w) := by
  refine .ite (by rw [h.isNumber_eq]) (fun _ => .pure ?_) fun _ => L.sim_unpackItems P n h
  induction n with
  | zero => exact .nil
  | succ n ih => exact .cons h ih

theorem sim_radius (what : String) (hr : v.Alike κ w) (hd : x.Alike κ y) :
    C.Alike κ (radius what v x) (radius what w y) := by
  have half := L.sim_divide hd (.int 2)
  have given : C.Alike κ (pure v) (pure w) := Sim.pure hr
  have both : C.Alike κ
      (do Run.warn (what ++ ": parameters are ambiguous"); return v)
      (do Run.warn (what ++ ": parameters are ambiguous"); return w) :=
    (L.warn _).bind fun _ => .pure hr.up
  cases hr with
  | undef =>
    cases hd with
    | undef => exact .pure (.int 1)
    | _ => exact half
  | _ =>
    cases hd with
    | undef => exact given
    | _ => exact both

theorem sim_sphere (P : C.Performs p q) (h : κ.same .frame e f) (hr : v.Alike κ w)
    (hd : x.Alike κ y) : C.Alike κ (sphere p e v x) (sphere q f w y) := by
  refine (L.sim_radius "sphere" hr hd).bind fun hr => ?_
  refine (L.sim_construct "Sphere" (.cons hr .nil) .nil).bind fun hs => ?_
  refine (L.sim_trace P h.up (.cons hs (.cons (.str _) (.cons hr.up .nil))) .nil).bind fun _ => ?_
  exact .pure hs.up

theorem sim_circle (hr : v.Alike κ w) (hd : x.Alike κ y) : C.Alike κ (circle v x) (circle w y) :=
  (L.sim_radius "circle" hr hd).bind fun hr => L.sim_construct "Circle" (.cons hr .nil) .nil

theorem sim_halves (h : Values.Alike κ xs ys) : C.Sim κ Values.Alike (halves xs) (halves ys) :=
  Sim.mapM h fun hv => L.sim_divide hv (.int 2)

theorem sim_cube (P : C.Performs p q) (h : κ.same .frame e f) (hs : v.Alike κ w)
    (hc : x.Alike κ y) : C.Alike κ (cube p e v x) (cube q f w y) := by
  refine (L.sim_sides P 3 hs).bind fun hs => ?_
  refine (L.sim_construct "Box" hs .nil).bind fun hb => ?_
  refine (L.sim_trace P h.up (.cons hb (.cons (.str _) hs.up)) .nil).bind fun _ => ?_
  refine (L.sim_truth hc.up).bindEq fun _ => ?_
  refine .branch (.pure hb.up) ?_
  refine (L.sim_halves hs.up).bind @fun _ as bs _ hh => ?_
  match as, bs, hh with
  | [], _, .nil | [_], _, .cons _ .nil | [_, _], _, .cons _ (.cons _ .nil)
  | _ :: _ :: _ :: _ :: _, _, .cons _ (.cons _ (.cons _ (.cons _ _))) => exact .fail rfl
  | [_, _, _], [_, _, _], .cons h1 (.cons h2 (.cons h3 .nil)) =>
    refine (L.sim_moved h1 h2 h3 hb.up).bind fun hm => ?_
    refine (L.sim_halves hs.up).bind fun hh => ?_
    refine (L.sim_trace P h.up (.cons hm.up (.cons (.str _) hh))
      (.cons (.mk _ hb.up) .nil)).bind fun _ => ?_
    exact .pure hm.up

theorem sim_square (P : C.Performs p q) (hs : v.Alike κ w) (hc : x.Alike κ y) :
    C.Alike κ (square p v x) (square q w y) := by
  refine (L.sim_sides P 2 hs).bind fun hs => ?_
  refine (L.sim_truth hc.up).bindEq @fun κ2 _ b => ?_
  have aligned : ∀ s : Text, Entries.Alike κ2 [("align", .tuple [.str s, .str s])]
      [("align", .tuple [.str s, .str s])] :=
    fun s => .cons (.mk _ (.tuple (.cons (.str s) (.cons (.str s) .nil)))) .nil
  cases b <;> exact L.sim_construct "Rectangle" hs.up (aligned _)

/-! ## Cylinders -/

omit L in
theorem choose_alike (h : v.Alike κ w) (ha : a.Alike κ b) :
    (if v.isUndef then a else v).Alike κ (if w.isUndef then b else w) := by
  rw [h.isUndef_eq]
  split
  · exact ha
  · exact h

theorem sim_orHalf (hd : d.Alike κ d') (hv : v.Alike κ w) (hr : x.Alike κ y) :
    C.Alike κ (orHalf d v x) (orHalf d' w y) :=
  Sim.ite (by rw [hd.isUndef_eq]) (fun _ => .pure hr) fun _ => L.sim_divide hv (.int 2)

theorem sim_bothHalf (hd : d.Alike κ d') (hv : v.Alike κ w) (hx : x.Alike κ y) :
    C.Sim κ (fun κ' p q => p.1.Alike κ' q.1 ∧ p.2.Alike κ' q.2) (bothHalf d v x)
      (bothHalf d' w y) := by
  refine .ite (by rw [hd.isUndef_eq]) (fun _ => .pure ⟨hv, hx⟩) fun _ => ?_
  exact (L.sim_divide hd (.int 2)).bind fun hh => .pure ⟨hh, hh⟩

theorem sim_resolve (h : g.Alike κ g') :
    C.Sim κ (fun κ' p q => p.1.Alike κ' q.1 ∧ p.2.Alike κ' q.2) g.resolve g'.resolve := by
  have start : (if g.r.isUndef then (g.r1, g.r2) else (g.r, g.r)).1.Alike κ
        (if g'.r.isUndef then (g'.r1, g'.r2) else (g'.r, g'.r)).1 ∧
      (if g.r.isUndef then (g.r1, g.r2) else (g.r, g.r)).2.Alike κ
        (if g'.r.isUndef then (g'.r1, g'.r2) else (g'.r, g'.r)).2 := by
    rw [h.r.isUndef_eq]
    split
    · exact ⟨h.r1, h.r2⟩
    · exact ⟨h.r, h.r⟩
  refine (L.sim_bothHalf h.d start.1 start.2).bind fun hr => ?_
  refine (L.sim_orHalf h.d1.up h.d1.up hr.1).bind fun hr1 => ?_
  refine (L.sim_orHalf h.d2.up h.d1.up hr.2.up).bind fun hr2 => ?_
  exact .pure ⟨choose_alike hr1.up (.int 1), choose_alike hr2 (choose_alike hr1.up (.int 1))⟩

omit L in
theorem ambiguous_eq (h : g.Alike κ g') : g.ambiguous = g'.ambiguous := by
  unfold ambiguous count
  rw [h.r1.isUndef_eq, h.r2.isUndef_eq, h.r.isUndef_eq, h.d.isUndef_eq, h.d1.isUndef_eq,
    h.d2.isUndef_eq]

theorem sim_centred (hh : v.Alike κ w) (hc : x.Alike κ y) (hs : s.Alike κ t) :
    C.Alike κ (centred v x s) (centred w y t) := by
  refine (L.sim_truth hc).bindEq fun _ => ?_
  refine .branch ?_ (.pure hs.up)
  refine (L.sim_negate hh.up).bind fun hn => ?_
  refine (L.sim_divide hn (.int 2)).bind fun hz => ?_
  exact L.sim_moved (.int 0) (.int 0) hz hs.up

theorem sim_frustum (hh : v.Alike κ w) (ha : a.Alike κ a') (hb : b.Alike κ b') :
    C.Alike κ (frustum v a b) (frustum w a' b') := by
  refine (L.sim_construct "Circle" (.cons ha .nil) .nil).bind fun hs => ?_
  refine (L.sim_equal ha.up hb.up).bindEq fun _ => ?_
  refine .branch ?_ ?_
  · exact L.sim_construct "extrude" (.cons hs.up (.cons hh.up .nil)) .nil
  · refine (L.sim_construct "Circle" (.cons hb.up .nil) .nil).bind fun ht => ?_
    refine (L.sim_moved (.int 0) (.int 0) hh.up ht).bind fun ht => ?_
    exact L.sim_construct "loft" (.cons (.tuple (.cons hs.up (.cons ht .nil))) .nil) .nil

theorem sim_cylinder (hh : v.Alike κ w) (h : g.Alike κ g') (hc : x.Alike κ y) :
    C.Alike κ (cylinder v g x) (cylinder w g' y) := by
  unfold cylinder
  refine .whenThen (by rw [ambiguous_eq h]) (L.warn _) ?_
  refine (L.sim_resolve h.up).bind fun hr => ?_
  refine (L.sim_frustum hh.up hr.1 hr.2).bind fun hs => ?_
  exact L.sim_centred hh.up hc.up hs

/-! ## Figures from points -/

theorem sim_point (P : C.Performs p q) (h : v.Alike κ w) : C.Alike κ (point p v) (point q w) :=
  (L.sim_itemsOf P h).bind fun hi => .pure (.tuple hi)

theorem sim_path (P : C.Performs p q) (hp : v.Alike κ w) (hn : x.Alike κ y) :
    C.Sim κ Values.Alike (path p v x) (path q w y) :=
  L.sim_mapItems P (fun hi => (L.sim_item hp.up hi).bind fun h => L.sim_point P h) hn

theorem sim_face (h : Values.Alike κ xs ys) : C.Alike κ (face xs) (face ys) := by
  refine (L.newList h).bind fun hl => ?_
  refine (L.sim_construct "Polyline" (.cons hl .nil) (.cons (.mk _ (.bool true)) .nil)).bind
    fun hs => ?_
  exact L.sim_construct "make_face" (.cons hs (.cons (.str _) .nil)) .nil

theorem sim_cutAll (h : v.Alike κ w) {xs ys : List (List Value)}
    (hx : List.Forall₂ (Values.Alike κ) xs ys) : C.Alike κ (cutAll v xs) (cutAll w ys) := by
  induction xs generalizing κ v w ys with
  | nil =>
    cases hx
    exact .pure h
  | cons x xs ih =>
    cases hx with
    | cons hx hxs =>
      refine (L.sim_face hx).bind fun hf => ?_
      refine (L.sim_minus h.up hf).bind fun hm => ?_
      exact ih hm (hxs.imp fun _ _ => Values.Alike.up)

theorem sim_polygon (P : C.Performs p q) (hp : v.Alike κ w) (hx : x.Alike κ y) :
    C.Alike κ (polygon p v x) (polygon q w y) := by
  have other : C.Alike κ
      (do
        let outline ← path p v (← x.item (.int 0))
        let holes ← (← x.dropItems 1).mapM (path p v)
        cutAll (← face outline) holes)
      (do
        let outline ← path q w (← y.item (.int 0))
        let holes ← (← y.dropItems 1).mapM (path q w)
        cutAll (← face outline) holes) := by
    refine (L.sim_item hx (.int 0)).bind fun hi => ?_
    refine (L.sim_path P hp.up hi).bind fun ho => ?_
    refine (L.sim_dropItems hx.up 1).bind fun hd => ?_
    refine (Sim.mapM hd fun hv => L.sim_path P hp.up hv).bind fun hh => ?_
    refine (L.sim_face ho.up).bind fun hf => ?_
    exact L.sim_cutAll hf (hh.imp fun _ _ => Values.Alike.up)
  cases hx with
  | undef =>
    exact (L.sim_mapItems P (fun hv => L.sim_point P hv) hp).bind fun h => L.sim_face h
  | _ => exact other

theorem sim_polyhedron (P : C.Performs p q) (hp : v.Alike κ w) (hx : x.Alike κ y) :
    C.Alike κ (polyhedron p v x) (polyhedron q w y) := by
  refine (L.sim_mapItems P (fun hv => L.sim_point P hv) hp).bind fun hp => ?_
  refine (L.newList hp).bind fun hp => ?_
  refine (L.sim_mapItems P (A := Value.Alike) (fun hf => ?_) hx.up).bind fun hs => ?_
  · refine (L.sim_mapItems P (fun hi => L.sim_item hp.up hi) hf).bind fun hc => ?_
    refine (L.sim_construct "Polyline" hc (.cons (.mk _ (.bool true)) .nil)).bind fun hl => ?_
    exact L.sim_construct "make_from_wires" (.cons hl .nil) .nil
  · refine (L.newList hs).bind fun hs => ?_
    refine (L.sim_construct "make_shell" (.cons hs .nil) .nil).bind fun hs => ?_
    exact L.sim_construct "make_solid" (.cons hs .nil) .nil

/-! ## Text -/

theorem sim_ifWord {α β : Type} {A : Link → α → β → Prop} (h : v.Alike κ w) (word : Text)
    {m n : Run α} {m' n' : Run β} (hm : ∀ {κ'} [κ.Next κ'], C.Sim κ' A m m')
    (hn : ∀ {κ'} [κ.Next κ'], C.Sim κ' A n n') : C.Sim κ A
      (do if ← v.equal (.str word) then m else n)
      (do if ← w.equal (.str word) then m' else n') := by
  refine (L.sim_equal h (.str word)).bindEq fun _ => ?_
  exact .branch hm hn

theorem sim_alignment (h : v.Alike κ w) : C.Alike κ (alignment v) (alignment w) := by
  refine .ite (by rw [h.isUndef_eq]) (fun _ => .pure .undef) fun _ => ?_
  refine L.sim_ifWord h _ (.pure .undef) ?_
  refine L.sim_ifWord h.up _ (.pure (.str _)) ?_
  refine L.sim_ifWord h.up _ (.pure (.str _)) ?_
  refine L.sim_ifWord h.up _ (.pure (.str _)) ?_
  refine L.sim_ifWord h.up _ (.pure (.str _)) ?_
  refine L.sim_ifWord h.up _ (.pure (.str _)) ?_
  refine (L.sim_shown h.up).bindEq fun _ => ?_
  exact (L.warn _).bind fun _ => .pure (.str _)

theorem sim_warnUnless {α β : Type} {A : Link → α → β → Prop} (h : v.Alike κ w)
    (hx : x.Alike κ y) (text : String) {k : Unit → Run α} {k' : Unit → Run β}
    (hk : ∀ {κ'} [κ.Next κ'], C.Sim κ' A (k ()) (k' ())) :
    C.Sim κ A (do if !(← v.equal x) then Run.warn text >>= k else k ())
      (do if !(← w.equal y) then Run.warn text >>= k' else k' ()) := by
  refine (L.sim_equal h hx).bindEq fun _ => ?_
  exact .whenThen Iff.rfl (L.warn text) @fun _ _ => @hk _ ⟨Link.Before.le⟩

theorem sim_text {t size font halign valign spacing direction t' size' font' halign'
    valign' spacing'
      direction' : Value} (ht : t.Alike κ t') (hs : size.Alike κ size') (hf : font.Alike κ font')
    (hh : halign.Alike κ halign') (hv : valign.Alike κ valign') (hp : spacing.Alike κ spacing')
    (hd : direction.Alike κ direction') :
    C.Alike κ (text t size font halign valign spacing direction)
      (text t' size' font' halign' valign' spacing' direction') := by
  refine (L.sim_alignment hh).bind fun ha => ?_
  refine (L.sim_alignment hv.up).bind fun hl => ?_
  refine L.sim_warnUnless hd.up (.str _) _ ?_
  refine (L.sim_times hs.up (.float _)).bind @fun κ4 _ _ _ hs => ?_
  have fonts : Entries.Alike κ4 (if font.isUndef then [] else [("font", font)])
      (if font'.isUndef then [] else [("font", font')]) := by
    rw [hf.isUndef_eq]
    split
    · exact .nil
    · exact .cons (.mk _ hf.up) .nil
  have aligned := Value.Alike.tuple (κ := κ4) (.cons ha.up (.cons hl.up .nil))
  have named := List.rel_append (.cons (.mk "align" aligned)
    (.cons (.mk "font_size" hs) .nil)) fonts
  refine (L.sim_construct "Text" (.cons ht.up .nil) named).bind fun hr => ?_
  exact L.sim_warnUnless hp.up (.int 1) _ <| .pure hr.up

end Lawful
end Correspondence
end Scad
