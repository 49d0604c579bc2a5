import Scad.Proofs.Loading.Refusal

/-!
Loading a text that the grammar accepts: it is taken up, or it is refused for a construct
that it has.
-/

namespace Scad

theorem parse_is_input {text : String} {t : Tree} (h : parse text = .ok t) : t.Is .input := by
  obtain ⟨us, c, hm⟩ := parseRule_eq_ok.1 h
  rcases hm.derives.is with hnil | ⟨u, hu, hi⟩
  · cases hnil
  · cases hu
    exact hi

def Run.failsWith {α : Type} (c : FaultClass) (m : Run α) (w : World) : Bool :=
  match m w with
  | .ok _ _ => false
  | .error e _ => e.faultClass == c

theorem Run.failsWith_eq_true {α : Type} {c : FaultClass} {m : Run α} {w : World}
    (h : m.failsWith c w = true) : ∃ e w', m w = .error e w' ∧ e.faultClass = c := by
  unfold Run.failsWith at h
  cases hm : m w with
  | ok a w' =>
    rw [hm] at h
    cases h
  | error e w' =>
    rw [hm] at h
    exact ⟨e, w', rfl, by simpa using h⟩

def Run.succeeds {α : Type} (m : Run α) (w : World) : Bool :=
  match m w with
  | .ok _ _ => true
  | .error _ _ => false

theorem Run.succeeds_eq_true {α : Type} {m : Run α} {w : World} (h : m.succeeds w = true) :
    ∃ a w', m w = .ok a w' := by
  unfold Run.succeeds at h
  cases hm : m w with
  | ok a w' => exact ⟨a, w', rfl⟩
  | error e w' =>
    rw [hm] at h
    cases h

namespace Environment

theorem load_lands {text : String} {t : Tree} (h : parse text = .ok t) {I : World → Prop}
    {own : ScopeId → Prop} {clean : Tree → Prop} (U : Upkeep I own clean) {env : FrameId}
      {k : World}
    (hs : ∀ w, I w → own (w.frames.getD env default).scope) (hc : clean t) :
    Run.Ends I k (Refusal t) (load env text) := by
  refine Run.Lands.bind (P := fun _ u => u = t) (fun w _ hw =>
    .inl ⟨t, w, parseText_of_ok h w, .refl w, hw, rfl⟩) ?_
  rintro k _ - rfl
  refine Run.Lands.bind (P := fun _ scope => own scope) (fun w _ hw =>
    .inl ⟨_, w, rfl, .refl w, hw, hs w hw⟩) fun _ scope _ hs => ?_
  exact (Declare.input_lands U hs hc (parse_is_input h)).last fun _ => trivial

theorem upkeep_free : Upkeep (fun _ => True) (fun _ => True) (fun _ => True) :=
  .of_scopes (fun _ _ _ => trivial) (fun _ _ => ⟨trivial, trivial⟩) (fun _ _ _ => trivial)
    fun _ _ => trivial

/-- A text of the grammar is taken up by every environment, or the fault is a report of
the language: an unsupported construct or a repeated default. Only a module without an
object as its body, a special call with nothing to work on and an empty block can end in
a fault of another class. -/
theorem load_ok_or_refused {text : String} {t : Tree} (h : parse text = .ok t) (env : FrameId)
    (w : World) : (∃ w', load env text w = .ok () w') ∨
      ∃ e w', load env text w = .error e w' ∧ Refusal t e ∧
        ((e.faultClass = .runtime ∨ e.faultClass = .value) ∨
          (e.faultClass = .assertion ∧ t.contains Tree.isBareModule = true) ∨
          (e.faultClass = .arity ∧ t.contains Tree.isIdleSpecial = true) ∨
          ((e.faultClass = .type ∨ e.faultClass = .arity) ∧
            t.contains Tree.isEmptyBlock = true)) := by
  rcases load_lands h upkeep_free (fun _ _ => trivial) trivial w (.refl w) trivial with
    ⟨_, w', hw, -⟩ | ⟨e, w', hw, -, he⟩
  · exact .inl ⟨w', hw⟩
  · exact .inr ⟨e, w', hw, he, he.faultClass⟩

/-- A text with parameters, a child and a block. -/
def blocksText : String :=
  "module m(a, b = 1) \x7b cube(a); \x7d if (x) m(2) sphere(1);"

/-- Nothing in the text can be refused for more than an unsupported construct or a repeated
default. -/
theorem load_ok_or_refused_blocks : ∃ t, parse blocksText = .ok t ∧
    ((∃ w', load 0 blocksText (opened {}) = .ok () w') ∨
      ∃ e w', load 0 blocksText (opened {}) = .error e w' ∧
        (e.faultClass = .runtime ∨ e.faultClass = .value)) := by
  have hshape : (parse blocksText).toOption.any
      (fun t => !(t.contains Tree.isBareModule || t.contains Tree.isIdleSpecial ||
        t.contains Tree.isEmptyBlock)) = true := by decide +kernel
  cases ht : parse blocksText with
  | error e =>
    rw [ht] at hshape
    cases hshape
  | ok t =>
    rw [ht] at hshape
    have hno : (t.contains Tree.isBareModule = false ∧ t.contains Tree.isIdleSpecial = false) ∧
        t.contains Tree.isEmptyBlock = false := by
      simpa [Except.toOption] using hshape
    refine ⟨t, rfl, (load_ok_or_refused ht 0 (opened {})).imp_right ?_⟩
    rintro ⟨e, w', hw, -, hc | ⟨-, hc⟩ | ⟨-, hc⟩ | ⟨-, hc⟩⟩
    · exact ⟨e, w', hw, hc⟩
    · exact absurd hc (by simp [hno])
    · exact absurd hc (by simp [hno])
    · exact absurd hc (by simp [hno])

/-- A loop without a body is a program, but it cannot be loaded. -/
theorem load_idle_loop : (∃ t, parse "for(i=[0:1]);" = .ok t) ∧
    ∃ e w', (do load (← create) "for(i=[0:1]);") ({} : World) = .error e w' ∧
      e.faultClass = .arity := by
  have hparse : (parse "for(i=[0:1]);").toOption.isSome = true := by decide +kernel
  refine ⟨?_, Run.failsWith_eq_true (by decide +kernel)⟩
  cases ht : parse "for(i=[0:1]);" with
  | error e =>
    rw [ht] at hparse
    cases hparse
  | ok t => exact ⟨t, rfl⟩

end Environment
end Scad
