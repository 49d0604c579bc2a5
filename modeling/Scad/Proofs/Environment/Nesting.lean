import Scad.Proofs.Correspondence.Sound

/-!
Environments are entered and left again, any number of them and each any number of times.
The first time an environment keeps the one that was current before, and after that it only
counts, so what is left to undo is spread over counters and kept environments. While every
leave is on the environment that was entered last, together they are the stack of the
enters that are not undone yet.
-/

namespace Scad

open Run

namespace World

/-- The worlds that a bracketed sequence of enters and leaves leads to. On the stack are the
enters that succeeded and are not undone, each with the world before it. Only the latest of
them is undone; an enter that fails is not on the stack. -/
inductive Crosses (w0 : World) : World → List (FrameId × World) → Prop
  | start : Crosses w0 w0 []
  | enter {w w' : World} {e : FrameId} {opened : List (FrameId × World)} (h : Crosses w0 w opened)
      (he : e < w0.frames.size) (henter : enter e w = .ok () w') : Crosses w0 w' ((e, w) :: opened)
  | refused {w w' : World} {e : FrameId} {opened : List (FrameId × World)} {fault : Fault}
      (h : Crosses w0 w opened) (henter : Run.enter e w = .error fault w') : Crosses w0 w' opened
  | leave {w w' before : World} {e : FrameId} {opened : List (FrameId × World)}
      (h : Crosses w0 w ((e, before) :: opened)) (hleave : leave e w = .ok () w') :
      Crosses w0 w' opened

/-- An environment counts only while it keeps the one that was current before. -/
def Counts (w : World) : Prop := ∀ e, (w.frameAt e).token = none → (w.frameAt e).entries = 0

variable {w w' w0 : World} {e : FrameId} {opened : List (FrameId × World)}

theorem leave_eq_depart (h : (w.frameAt e).token ≠ none) : leave e w = depart e w := by
  obtain ⟨t, ht⟩ := Option.ne_none_iff_exists'.1 h
  rw [leave, frame_bind, ht, Option.isNone_some, Bool.and_false]
  rfl

theorem frames_undo (w : World) (e : FrameId) {F G : Frame → Frame}
    (h : G (F (w.frameAt e)) = w.frameAt e) :
    { w with frames := (w.frames.modify e F).modify e G } = w :=
  congrArg (fun frames => { w with frames := frames }) (modify_undo h)

/-- An environment that is entered is the current one, and leaving it undoes that. -/
theorem enter_spec (hw : w.Counts) (he : e < w.frames.size) (h : enter e w = .ok () w') :
    w'.frames.size = w.frames.size ∧ w'.current = some e ∧ w'.Counts ∧
      leave e w' = .ok () w := by
  cases ht : (w.frameAt e).token with
  | none =>
    cases (enter_of_none ht).symm.trans h
    have hf : ∀ e', (w.entered e).frameAt e' = if e = e' ∧ e' < w.frames.size then
        { w.frameAt e' with token := some w.current } else w.frameAt e' :=
      fun e' => getD_modify w.frames e e' _ default
    have hn : ((w.entered e).frameAt e).entries = 0 := by rw [hf, if_pos ⟨rfl, he⟩]; exact hw e ht
    have ht' : ((w.entered e).frameAt e).token = some w.current := by rw [hf, if_pos ⟨rfl, he⟩]
    refine ⟨Array.size_modify, rfl, fun e' => ?_, ?_⟩
    · rw [hf]
      split
      · exact fun h => absurd h (Option.some_ne_none _)
      · exact hw e'
    · refine (leave_eq_depart (ht' ▸ Option.some_ne_none _)).trans
        ((depart_of_token ht' hn).trans (congrArg (EStateM.Result.ok ()) ?_))
      exact frames_undo w e (F := fun f => { f with token := some w.current })
        (G := fun f => { f with token := none }) (by rw [← ht])
  | some t =>
    by_cases hc : w.current = some e
    · cases (enter_of_current ht hc).symm.trans h
      have hf := fun e' => frameAt_modify w e e' fun f => { f with entries := f.entries + 1 }
      have hf' := (hf e).trans (if_pos ⟨rfl, he⟩)
      refine ⟨Array.size_modify, hc, fun e' => ?_, ?_⟩
      · rw [hf]
        split
        · rename_i he'
          rw [← he'.1]
          exact fun h => absurd (ht.symm.trans h) (Option.some_ne_none _)
        · exact hw e'
      · refine (leave_eq_depart (by rw [hf', ht]; exact Option.some_ne_none _)).trans
          ((depart_of_entries (by rw [hf']; exact Nat.succ_ne_zero _)).trans
            (congrArg (EStateM.Result.ok ()) ?_))
        exact frames_undo w e (F := fun f => { f with entries := f.entries + 1 })
          (G := fun f => { f with entries := f.entries - 1 }) rfl
    · cases (enter_refused ht hc).symm.trans h

/-- The stack is one of enters alone. -/
inductive Nested (w0 : World) : World → List (FrameId × World) → Prop
  | start : Nested w0 w0 []
  | push {w w' : World} {e : FrameId} {opened : List (FrameId × World)} (h : Nested w0 w opened)
      (he : e < w0.frames.size) (henter : enter e w = .ok () w') : Nested w0 w' ((e, w) :: opened)

theorem Nested.counts (hw : w0.Counts) (h : Nested w0 w opened) :
    w.frames.size = w0.frames.size ∧ w.Counts := by
  induction h with
  | start => exact ⟨rfl, hw⟩
  | push _ he henter ih =>
    obtain ⟨hsize, -, hcounts, -⟩ := enter_spec ih.2 (ih.1.symm ▸ he) henter
    exact ⟨hsize.trans ih.1, hcounts⟩

theorem Nested.latest (hw : w0.Counts) {before : World} (h : Nested w0 w ((e, before) :: opened)) :
    w.current = some e ∧ leave e w = .ok () before ∧ Nested w0 before opened := by
  cases h with
  | push h he henter =>
    obtain ⟨hsize, hcounts⟩ := h.counts hw
    obtain ⟨-, hcurrent, -, hleave⟩ := enter_spec hcounts (hsize.symm ▸ he) henter
    exact ⟨hcurrent, hleave, h⟩

theorem enter_error {fault : Fault} (h : enter e w = .error fault w') : w' = w := by
  cases ht : (w.frameAt e).token with
  | none => cases (enter_of_none ht).symm.trans h
  | some t =>
    by_cases hc : w.current = some e
    · cases (enter_of_current ht hc).symm.trans h
    · cases (enter_refused ht hc).symm.trans h
      rfl

theorem Crosses.nested (hw : w0.Counts) (h : Crosses w0 w opened) : Nested w0 w opened := by
  induction h with
  | start => exact .start
  | enter _ he henter ih => exact .push ih he henter
  | refused _ henter ih => exact enter_error henter ▸ ih
  | leave _ hleave ih =>
    obtain ⟨-, hbefore, hn⟩ := ih.latest hw
    cases hbefore.symm.trans hleave
    exact hn

/-- No environment is entered, and then any of them are entered and left. As long as only the
latest enter that succeeded is undone, it is the current one, and undoing it restores the world
before it, so that all is as in the beginning when every enter is undone. To enter an
environment that is entered and not current fails and changes nothing. The fault is another
one if there is no current environment, which does not happen in a bracketed sequence. -/
theorem nested_enters_restore (hw : ∀ e, (w.frameAt e).token = none ∧ (w.frameAt e).entries = 0)
    (h : Crosses w w' opened) :
    (∀ e before rest, opened = (e, before) :: rest →
      w'.current = some e ∧ leave e w' = .ok () before) ∧
    (opened = [] → w' = w) ∧
    (∀ e, (w'.frameAt e).token ≠ none → w'.current ≠ some e →
      enter e w' = .error .recursiveCall w') ∧
    ∀ (u : World) e, (u.frameAt e).token ≠ none → u.current ≠ some e →
      enter e u = .error (if u.current.isSome then .recursiveCall else
        .noCurrentEnvironment) u := by
  have hcounts : w.Counts := fun e _ => (hw e).2
  have hn := h.nested hcounts
  have hrefused : ∀ (u : World) e, (u.frameAt e).token ≠ none → u.current ≠ some e →
      enter e u = .error u.refusal u := by
    intro u e ht hc
    obtain ⟨t, ht⟩ := Option.ne_none_iff_exists'.1 ht
    exact enter_refused ht hc
  refine ⟨?_, ?_, fun e ht hc => ?_, hrefused⟩
  · rintro e before rest rfl
    obtain ⟨hcurrent, hleave, -⟩ := hn.latest hcounts
    exact ⟨hcurrent, hleave⟩
  · rintro rfl
    cases hn
    rfl
  · rw [hrefused w' e ht hc, refusal, if_pos]
    cases opened with
    | nil =>
      cases hn
      exact absurd (hw e).1 ht
    | cons top rest => rw [(hn.latest hcounts).1]; rfl

/-- One environment is entered twice and another one after it, which keeps the first from
being entered again. -/
theorem nested_enters_restore_two :
    ∃ w' before rest, Crosses { frames := #[default, default] } w' ((1, before) :: rest) ∧
      leave 1 w' = .ok () before ∧ enter 0 w' = .error .recursiveCall w' := by
  have hc : Crosses { frames := #[default, default] } _ [(1, _), (0, _), (0, _)] :=
    .enter (.enter (.enter .start (e := 0) (by decide) rfl) (e := 0) (by decide) rfl)
      (by decide) rfl
  have h := nested_enters_restore (fun e => by rcases e with _ | _ | e <;> exact ⟨rfl, rfl⟩) hc
  exact ⟨_, _, _, hc, (h.1 1 _ _ rfl).2, h.2.2.1 0 (by decide) (by decide)⟩

/-- The environment that was entered first is left first. Then none is current, and the one
that is still entered cannot be entered for want of a current one. -/
theorem enter_without_current :
    (do
      enter 0
      enter 1
      leave 0
      enter 1 : Run Unit) { frames := #[default, default] } =
        .error .noCurrentEnvironment
          { frames := #[default, { (default : Frame) with token := some (some 0) }] } :=
  rfl

end World

end Scad
