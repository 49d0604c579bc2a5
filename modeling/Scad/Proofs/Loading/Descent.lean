import Scad.Proofs.Correspondence.Mirror
import Scad.Proofs.Loading.Refusal

/-!
The declaration pass comes to an end on every tree, also on one that no text gives. Whatever a
node does, it calls the pass for parts of itself only, so the height of a tree bounds how deep
calls are nested. Nothing is evaluated on the way.
-/

namespace Scad

open Run Mirror

theorem Tree.Below.height_lt {t u : Tree} (h : u.Below t) : u.height < t.height := by
  induction h with
  | child hu => exact Nat.lt_succ_of_le (height_le_heightAll hu)
  | under ht _ ih => exact Nat.lt_succ_of_lt (Nat.lt_of_lt_of_le ih (height_le_heightAll ht))

namespace Declare

variable {pass pass' : Pass} {t : Tree}

theorem twins_declareWith (fuel : Nat) (t : Tree) (hf : t.height ≤ fuel) (scope : ScopeId) :
    (declareWith fuel scope t).Twins (declare scope t) := by
  induction hh : t.height using Nat.strongRecOn generalizing t fuel scope with
  | ind height ih =>
    subst hh
    obtain ⟨k, hk⟩ : ∃ k, t.height = k + 1 := by
      cases t with
      | leaf => exact ⟨0, rfl⟩
      | node r ts => exact ⟨Tree.heightAll ts, by rw [Tree.height]⟩
    obtain ⟨fuel, rfl⟩ := Nat.exists_eq_add_of_le' (Nat.le_trans (hk ▸ Nat.le_add_left 1 k) hf)
    rw [declare, hk, declareWith_succ, declareWith_succ]
    refine twins_body (fun s u hu w passes => ?_) scope
    have hlt := hu.height_lt
    have h1 := ih u.height hlt fuel u (by omega) s rfl
    have h2 := ih u.height hlt k u (by omega) s rfl
    exact (h1.eq.trans h2.eq.symm) ▸ declareWith_twins fuel s u w passes

theorem step_eq_declare (h : ∀ scope u, u.Below t → pass scope u = declare scope u)
    (scope : ScopeId) : step pass scope t = declare scope t := by
  have hp (s : ScopeId) (u : Tree) (hu : u.Below t) : (pass s u).Twins (pass s u) :=
    h s u hu ▸ declareWith_twins _ s u
  have hbody := twins_body hp scope
  rw [step_eq_body hbody, ← (twins_declareWith (t.height + 1) t (Nat.le_succ _) scope).eq,
    declareWith_succ]
  refine (twins_body (fun s u hu => ?_) scope).eq
  rw [h s u hu, ← (twins_declareWith t.height u (Nat.le_of_lt hu.height_lt) s).eq]
  exact declareWith_twins _ s u

/-- The declaration pass ends on every tree. It is the only solution of its own recursion, so
the recursion never goes on for ever, and a tree needs the pass for its proper parts only, nested
no deeper than the tree is high. The pass leaves environments, values and output alone. A
statement that contributes nothing is declared a second time, and then there is a fault. -/
theorem declare_ends :
    (∀ (pass : Pass) (t : Tree), (∀ scope u, u.Below t → pass scope u = declare scope u) →
      ∀ scope, step pass scope t = declare scope t) ∧
    (∀ pass : Pass, (∀ scope t, pass scope t = step pass scope t) ↔ pass = declare) ∧
    (∀ fuel (t : Tree), t.height ≤ fuel → ∀ scope, declareWith fuel scope t = declare scope t) ∧
    (∀ scope t w, (worldOf (declare scope t w)).dynamic = w.dynamic) ∧
    ∀ scope t w w1, declare scope t w = .ok .undef w1 →
      ∃ e w2, declare scope (.node "stmt_obj" [t]) w = .error e w2 ∧
        (declare scope t w1 = .error e w2 ∨
          e = .emptyStatement ∧ ∃ v, declare scope t w1 = .ok v w2) := by
  have hstep (scope : ScopeId) (t : Tree) : step declare scope t = declare scope t :=
    step_eq_declare (fun _ _ _ => rfl) scope
  refine ⟨fun pass t h => step_eq_declare h, fun pass => ⟨fun h => ?_, ?_⟩,
    fun fuel t hf scope => ?_,
    fun scope t w => ?_, fun scope t w w1 h => ?_⟩
  · funext scope t
    induction hh : t.height using Nat.strongRecOn generalizing t scope with
    | ind height ih =>
      subst hh
      exact (h scope t).trans (step_eq_declare (fun s u hu => ih _ hu.height_lt s u rfl) scope)
  · rintro rfl scope t
    exact (hstep scope t).symm
  · exact (twins_declareWith fuel t hf scope).eq
  · exact declare_still scope t w
  · have hnode : declare scope (.node "stmt_obj" [t]) w =
        (do let _ ← declare scope t; throw .emptyStatement : Run Value) w1 := by
      have hbody : declare scope (.node "stmt_obj" [t]) =
        body declare scope (.node "stmt_obj" [t]) :=
        (hstep scope _).symm.trans (step_eq_body (twins_body (fun s u _ =>
          declareWith_twins _ s u) scope))
      rw [hbody, body_node (f := .stmtObj) rfl [t] (.inl rfl)]
      exact bind_of_ok h
    cases hs : declare scope t w1 with
    | ok v w2 => exact ⟨_, w2, hnode.trans (bind_of_ok hs), .inr ⟨rfl, v, rfl⟩⟩
    | error e w2 => exact ⟨e, w2, hnode.trans (bind_of_error hs), .inl rfl⟩

/-- A statement that is only a semicolon, in the place of an object. -/
theorem declare_ends_empty : ∃ e w,
    declare 0 (.node "stmt_obj" [.leaf "no_child" ";" 0]) {} = .error e w := by
  obtain ⟨e, w, h, -⟩ := declare_ends.2.2.2.2 0 (.leaf "no_child" ";" 0) {} {} rfl
  exact ⟨e, w, h⟩

end Declare

end Scad
