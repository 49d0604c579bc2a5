import Scad.Eval.Expression

/-!
Round solids by radius and by diameter. A diameter stands for the radius that is half of it, with
one exception: a diameter at the top of a cylinder is asked for, but the one at the bottom is
halved in its place.
-/

namespace Scad.Eval

open Solid Radii Value

variable {a b r : Value}

/-- No quotient is `undef`. -/
theorem divide_bind {α : Type} {f g : Value → Run α} (h : ∀ v, v.isUndef = false → f v = g v) :
    a.divide b >>= f = a.divide b >>= g := by
  unfold divide
  cases a.num? with
  | none => rfl
  | some m =>
    cases b.num? with
    | none => rfl
    | some n =>
      simp only [bind_assoc]
      refine bind_congr fun x => ?_
      cases x with
      | int n => exact h (.int n) rfl
      | float x =>
        change (Run.newFloat x >>= f) = (Run.newFloat x >>= g)
        unfold Run.newFloat
        split
        · exact funext fun w => congrFun (h (.nan w.fresh) rfl) _
        · exact h (.float x) rfl

theorem isUndef_undef : isUndef undef = true := rfl

/-! ## Spheres and circles -/

theorem radius_of_radius (what : String) (hr : r.isUndef = false) :
    radius what r undef = pure r := by
  cases r with
  | undef => cases hr
  | _ => rfl

theorem radius_of_diameter (what : String) (ha : a.isUndef = false) :
    radius what undef a = a.divide (int 2) := by
  cases a with
  | undef => cases ha
  | _ => rfl

section

variable (ha : a.isUndef = false)

include ha

theorem radius_bind {what : String} (f : Value → Run Value) :
    radius what undef a >>= f = a.divide (int 2) >>= fun r => radius what r undef >>= f := by
  rw [radius_of_diameter what ha]
  exact divide_bind fun r hr => by rw [radius_of_radius what hr, pure_bind]

/-! ## Cylinders -/

theorem resolve_diameter :
    resolve ⟨undef, undef, undef, a, undef, undef⟩ =
      a.divide (int 2) >>= (resolve ⟨undef, undef, ·, undef, undef, undef⟩) := by
  simp only [resolve, bothHalf, orHalf, isUndef_undef, ha, if_true, Bool.false_eq_true,
    if_false, pure_bind, bind_assoc]
  exact divide_bind fun r hr => by simp [hr]

theorem resolve_bottom :
    resolve ⟨undef, b, undef, undef, a, undef⟩ =
      a.divide (int 2) >>= (resolve ⟨·, b, undef, undef, undef, undef⟩) := by
  simp [resolve, bothHalf, orHalf, isUndef_undef, ha]

theorem resolve_both (hb : b.isUndef = false) :
    resolve ⟨undef, undef, undef, undef, a, b⟩ =
      a.divide (int 2) >>= fun r => a.divide (int 2) >>=
        (resolve ⟨r, ·, undef, undef, undef, undef⟩) := by
  simp [resolve, bothHalf, orHalf, isUndef_undef, ha, hb]

end

theorem resolve_top (hb : b.isUndef = false) :
    resolve ⟨a, undef, undef, undef, undef, b⟩ = throw .typeMismatch := by
  simp [resolve, bothHalf, orHalf, isUndef_undef, hb]
  rfl

/-- Without a warning only the two radii matter. -/
theorem cylinder_of_resolve {g : Radii} (hg : g.ambiguous = false) (h center : Value) :
    Solid.cylinder h g center = g.resolve >>= fun r => frustum h r.1 r.2 >>= centred h center := by
  simp [Solid.cylinder, hg]

/-- A diameter gives the same solid as the radius that is half of it, with the same warnings. At
the top of a cylinder a diameter counts as the one at the bottom does, and fails if there is
none. -/
theorem diameter_as_radius (perform : Perform) (env : FrameId) {a b : Value}
    (ha : a.isUndef = false) (hb : b.isUndef = false) (h center : Value) :
    let make (m : BuiltinModule) (sizes : List (String × Value)) : Run Value :=
      buildBuiltin perform env m ⟨[], sizes⟩
    let cylinder (sizes : List (String × Value)) : Run Value :=
      buildBuiltin perform env .cylinder ⟨[h], sizes ++ [("center", center)]⟩
    let half : Run Value := a.divide (int 2)
    make .sphere [("d", a)] = (do make .sphere [("r", ← half)]) ∧
    make .circle [("d", a)] = (do make .circle [("r", ← half)]) ∧
    cylinder [("d", a)] = (do cylinder [("r", ← half)]) ∧
    cylinder [("d1", a), ("r2", b)] = (do cylinder [("r1", ← half), ("r2", b)]) ∧
    cylinder [("d1", a), ("d2", b)] = (do cylinder [("r1", ← half), ("r2", ← half)]) ∧
    cylinder [("r1", a), ("d2", b)] = throw .typeMismatch := by
  have htwo {r s : Value} (hr : r.isUndef = false) (hs : s.isUndef = false) :
      ambiguous ⟨r, s, undef, undef, undef, undef⟩ = false := by
    simp [ambiguous, count, isUndef_undef, hr, hs]
  refine ⟨radius_bind ha _, radius_bind ha _, ?_, ?_, ?_, ?_⟩
  · refine (cylinder_of_resolve (g := ⟨undef, undef, undef, a, undef, undef⟩) ?_ h center).trans ?_
    · simp [ambiguous, count, isUndef_undef, ha]
    rw [resolve_diameter ha, bind_assoc]
    refine divide_bind fun r hr => (cylinder_of_resolve ?_ h center).symm
    simp [ambiguous, count, isUndef_undef, hr]
  · refine (cylinder_of_resolve (g := ⟨undef, b, undef, undef, a, undef⟩) ?_ h center).trans ?_
    · simp [ambiguous, count, isUndef_undef, ha, hb]
    rw [resolve_bottom ha, bind_assoc]
    exact divide_bind fun r hr => (cylinder_of_resolve (htwo hr hb) h center).symm
  · refine (cylinder_of_resolve (g := ⟨undef, undef, undef, undef, a, b⟩) ?_ h center).trans ?_
    · simp [ambiguous, count, isUndef_undef, ha, hb]
    rw [resolve_both ha hb, bind_assoc]
    refine divide_bind fun r hr => (bind_assoc ..).trans ?_
    exact divide_bind fun s hs => (cylinder_of_resolve (htwo hr hs) h center).symm
  · refine (cylinder_of_resolve (g := ⟨a, undef, undef, undef, undef, b⟩) ?_ h center).trans ?_
    · simp [ambiguous, count, isUndef_undef, ha, hb]
    rw [resolve_top hb]
    rfl

/-- A sphere with a diameter of 3, and a cone whose top is given by a diameter. -/
theorem diameter_as_radius_three :
    buildBuiltin perform 0 .sphere ⟨[], [("d", int 3)]⟩ =
      (do buildBuiltin perform 0 .sphere ⟨[], [("r", ← divide (int 3) (int 2))]⟩) ∧
    buildBuiltin perform 0 .cylinder ⟨[int 5],
      [("r1", int 3), ("d2", int 8), ("center", bool false)]⟩ =
      throw .typeMismatch := by
  have h := diameter_as_radius perform 0 (a := int 3) (b := int 8) rfl rfl (int 5) (bool false)
  exact ⟨h.1, h.2.2.2.2.2⟩

end Scad.Eval
