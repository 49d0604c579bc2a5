import Scad.Session.Environment

/-!
A new top-level environment, and the world it is in.
-/

namespace Scad

section

variable {α β : Type} {m : Run α} {f : α → Run β} {w w' : World}

theorem Run.bind_of_ok {a : α} (h : m w = .ok a w') : (m >>= f) w = f a w' := by
  change EStateM.bind m f w = _
  unfold EStateM.bind
  rw [h]

theorem Run.bind_of_error {e : Fault} (h : m w = .error e w') : (m >>= f) w = .error e w' := by
  change EStateM.bind m f w = _
  unfold EStateM.bind
  rw [h]

theorem Run.bind_congr {m' : Run α} (h : m w = m' w') : (m >>= f) w = (m' >>= f) w' := by
  change EStateM.bind m f w = EStateM.bind m' f w'
  unfold EStateM.bind
  rw [h]

theorem Run.tryCatch_of_ok {g : Fault → Run α} {a : α} (h : m w = .ok a w') :
    tryCatch m g w = .ok a w' := by
  change EStateM.tryCatch m g w = _
  unfold EStateM.tryCatch
  rw [h]

theorem Run.tryCatch_of_error {g : Fault → Run α} {e : Fault} (h : m w = .error e w') :
    tryCatch m g w = g e w' := by
  change EStateM.tryCatch m g w = _
  unfold EStateM.tryCatch
  rw [h]
  rfl

theorem Run.orUndo_of_ok {u : Run Unit} {a : α} (h : m w = .ok a w') : m.orUndo u w = .ok a w' :=
  tryCatch_of_ok h

theorem Run.orUndo_of_error {u : Run Unit} {e : Fault} {w'' : World} (h : m w = .error e w')
    (hu : u w' = .ok () w'') : m.orUndo u w = .error e w'' :=
  (tryCatch_of_error h).trans ((bind_of_ok hu).trans rfl)

end

namespace Environment

theorem parseText_of_ok {text : String} {t : Tree} (h : parse text = .ok t) (w : World) :
    parseText text w = .ok t w := by
  unfold parseText
  rw [h]
  rfl

/-- The world with a new top-level environment: the three scopes it stands on, and
a table of its own. -/
def opened (w : World) : World :=
  { w with
    scopes := ((w.scopes.push builtins).push { kind := .block, parents := [w.scopes.size] }).push
      { kind := .main, parents := [w.scopes.size + 1, w.scopes.size] }
    frames := w.frames.push { scope := w.scopes.size + 2, caller := none, table := w.tables.size }
    tables := w.tables.push { named := initialValues } }

theorem innerScope_last (scopes : Array Scope) (s : Scope) (w : World) (kind : ScopeKind)
    (h : w.scopes = scopes.push s) : Run.innerScope scopes.size kind w =
      .ok (scopes.size + 1) { w with
        scopes := w.scopes.push { kind := kind, parents := scopes.size :: s.parents } } := by
  have hs : w.scopes.getD scopes.size default = s := by
    rw [h]
    simp [Array.getD_eq_getD_getElem?]
  have hsize : w.scopes.size = scopes.size + 1 := by
    rw [h, Array.size_push]
  change EStateM.Result.ok w.scopes.size { w with
    scopes := w.scopes.push
      { kind := kind, parents := scopes.size :: (w.scopes.getD scopes.size default).parents } } = _
  rw [hs, hsize]

theorem create_eq (w : World) : create w = .ok w.frames.size (opened w) := by
  have houter : Run.newScope builtins w =
      .ok w.scopes.size { w with scopes := w.scopes.push builtins } := rfl
  refine (Run.bind_of_ok houter).trans ?_
  refine (Run.bind_of_ok (innerScope_last w.scopes builtins _ .block rfl)).trans ?_
  have hmain := innerScope_last (w.scopes.push builtins)
    { kind := .block, parents := [w.scopes.size] }
    { w with
      scopes := (w.scopes.push builtins).push { kind := .block, parents := [w.scopes.size] } }
    .main rfl
  rw [Array.size_push] at hmain
  exact (Run.bind_of_ok hmain).trans rfl

section

variable (w : World)

theorem opened_main : (opened w).scopes.getD (w.scopes.size + 2) default =
    { kind := .main, parents := [w.scopes.size + 1, w.scopes.size] } := by
  simp only [opened, Array.getD_eq_getD_getElem?, Array.getElem?_push, Array.size_push]
  simp

theorem opened_declared : (opened w).scopes.getD (w.scopes.size + 1) default =
    { kind := .block, parents := [w.scopes.size] } := by
  simp only [opened, Array.getD_eq_getD_getElem?, Array.getElem?_push, Array.size_push]
  simp

theorem opened_frame : (opened w).frames.getD w.frames.size default =
    { scope := w.scopes.size + 2, caller := none, table := w.tables.size } := by
  simp [opened, Array.getD_eq_getD_getElem?]

theorem opened_slots : (opened w).tables.getD w.tables.size {} = { named := initialValues } := by
  simp [opened, Array.getD_eq_getD_getElem?]

/-- Programs declare in the scope above their own. -/
theorem declaring_opened :
    Run.declaring (w.scopes.size + 2) (opened w) = .ok (w.scopes.size + 1) (opened w) := by
  have hscope : Run.scope (w.scopes.size + 2) (opened w) = .ok _ (opened w) :=
    congrArg (EStateM.Result.ok · (opened w)) (opened_main w)
  exact (Run.bind_of_ok hscope).trans rfl

end

end Environment
end Scad
