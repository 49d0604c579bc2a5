import Scad.Proofs.Correspondence.Relation

/-!
Two computations that go the same way in corresponding worlds. What they have
in common is a relation between worlds, given for every link; a run may extend
the link, so whatever was linked stays so.

A run that nests too deep stands outside of this: nothing catches that fault, so
a correspondence may allow one of the two runs to give up where the other goes on.
-/

namespace Scad

theorem Run.bind_ok {α β : Type} {m : Run α} {f : α → Run β} {w w' : World} {b : β}
    (h : (m >>= f) w = .ok b w') : ∃ a w1, m w = .ok a w1 ∧ f a w1 = .ok b w' := by
  change EStateM.bind m f w = _ at h
  unfold EStateM.bind at h
  cases hm : m w with
  | ok a w1 =>
    rw [hm] at h
    exact ⟨a, w1, rfl, h⟩
  | error e w1 =>
    rw [hm] at h
    exact nomatch h

theorem getD_modify {α : Type} (xs : Array α) (i j : Nat) (f : α → α) (d : α) :
    (xs.modify i f).getD j d = if i = j ∧ j < xs.size then f (xs.getD j d) else xs.getD j d := by
  rw [Array.getD_eq_getD_getElem?, Array.getD_eq_getD_getElem?, Array.getElem?_modify]
  by_cases hj : j < xs.size
  · by_cases hij : i = j
    · simp [hij, hj]
    · simp [hij]
  · simp [hj]

theorem getD_setIfInBounds {α : Type} (xs : Array α) (i j : Nat) (x d : α) :
    (xs.setIfInBounds i x).getD j d = if i = j ∧ j < xs.size then x else xs.getD j d := by
  rw [Array.getD_eq_getD_getElem?, Array.getD_eq_getD_getElem?, Array.getElem?_setIfInBounds]
  by_cases hij : i = j
  · by_cases hj : j < xs.size <;> simp [hij, hj]
  · simp [hij]

theorem getD_push_eq {α : Type} (xs : Array α) (x d : α) (i : Nat) :
    (xs.push x).getD i d = if i = xs.size then x else xs.getD i d := by
  rw [Array.getD_eq_getD_getElem?, Array.getElem?_push]
  split
  · rfl
  · exact Array.getD_eq_getD_getElem?.symm

theorem getD_push {α : Type} {xs : Array α} {j : Nat} (hj : j < xs.size) (x d : α) :
    (xs.push x).getD j d = xs.getD j d := by
  rw [getD_push_eq, if_neg (Nat.ne_of_lt hj)]

def Run.Total (m : Run Unit) : Prop := ∀ w, ∃ w', m w = .ok () w'

/-- A relation between results that lasts when the link grows. -/
class Stable {α β : Type} (A : Link → α → β → Prop) : Prop where
  up : ∀ {κ κ' : Link} {a b} [κ.Before κ'], A κ a b → A κ' a b

instance {α : Type} : Stable fun _ => @Eq α := ⟨id⟩

instance : Stable Value.Alike := ⟨Value.Alike.up⟩

instance : Stable Values.Alike := ⟨Values.Alike.up⟩

instance : Stable fun κ => EntryRel (Value.Alike κ) where
  up h := by
    obtain ⟨name, h⟩ := h
    exact .mk name h.up

/-- A relation between the worlds of two runs, and what the first run does to its world on
the whole. -/
structure Correspondence where
  agree : Link → World → World → Prop
  /-- The first run may give up alone. -/
  leftStops : Prop
  /-- The second run may give up alone. -/
  rightStops : Prop
  /-- What is the same in the world of the first run before and after. -/
  keeps : World → World → Prop
  keeps_refl : ∀ w, keeps w w
  keeps_trans : ∀ {w w' w''}, keeps w w' → keeps w' w'' → keeps w w''

namespace Correspondence

variable {C : Correspondence} {α β γ δ : Type} {κ κ' : Link} {s s' l r : World}

/-- What two runs from corresponding worlds end in, if the first one began in `s`. -/
inductive Outcome (C : Correspondence) (κ : Link) (s : World) (A : Link → α → β → Prop) :
    EStateM.Result Fault World α → EStateM.Result Fault World β → Prop
  | left (h : C.leftStops) {l : World} {y : EStateM.Result Fault World β} :
      Outcome C κ s A (.error .tooDeep l) y
  | right (h : C.rightStops) {x : EStateM.Result Fault World α} {r : World} :
      Outcome C κ s A x (.error .tooDeep r)
  | ok {κ' : Link} (le : κ ≤ κ') {l r : World} (hk : C.keeps s l) (hw : C.agree κ' l r) {a : α}
      {b : β} (h : A κ' a b) : Outcome C κ s A (.ok a l) (.ok b r)
  | error {κ' : Link} (le : κ ≤ κ') {l r : World} (hk : C.keeps s l) (hw : C.agree κ' l r)
      {e f : Fault} (h : e.Alike κ' f) : Outcome C κ s A (.error e l) (.error f r)

/-- The runs of `m` and `m'` from worlds that correspond end in worlds that
correspond, with results related by `A` or with the same fault. -/
def Sim (C : Correspondence) (κ : Link) (A : Link → α → β → Prop) (m : Run α) (m' : Run β) : Prop :=
  ∀ l r, C.agree κ l r → C.Outcome κ l A (m l) (m' r)

/-- Runs with the same result. -/
abbrev Same (C : Correspondence) (κ : Link) (m m' : Run α) : Prop := C.Sim κ (fun _ => Eq) m m'

/-- Runs with results that are alike. -/
abbrev Alike (C : Correspondence) (κ : Link) (m m' : Run Value) : Prop := C.Sim κ Value.Alike m m'

variable {A : Link → α → β → Prop} {B : Link → γ → δ → Prop} {x : EStateM.Result Fault World α}
  {y : EStateM.Result Fault World β} {m n : Run α} {m' n' : Run β} {f : α → Run γ} {f' : β → Run δ}
  {e e' : Fault}

theorem Outcome.pure {a : α} {b : β} (hw : C.agree κ l r) (h : A κ a b) :
    C.Outcome κ l A (.ok a l) (.ok b r) :=
  .ok le_rfl (C.keeps_refl l) hw h

theorem Outcome.throw (hw : C.agree κ l r) (h : e.Alike κ e') :
    C.Outcome κ l A (.error e l) (.error e' r) :=
  .error le_rfl (C.keeps_refl l) hw h

/-- What holds of one correspondence, seen as another one that asks for no more. -/
theorem Outcome.imp {D : Correspondence} {A' : Link → α → β → Prop} (h : C.Outcome κ' s' A x y)
    (hl : C.leftStops → D.leftStops) (hr : C.rightStops → D.rightStops) (le : κ ≤ κ')
    (hk : ∀ w, C.keeps s' w → D.keeps s w) (hw : ∀ {κ' l r}, C.agree κ' l r → D.agree κ' l r)
    (hi : ∀ {κ'' l r a b} [κ'.Next κ''], C.agree κ'' l r → A κ'' a b → A' κ'' a b) :
    D.Outcome κ s A' x y := by
  cases h with
  | left h => exact .left (hl h)
  | right h => exact .right (hr h)
  | ok le' hk' hw' h => exact .ok (le.trans le') (hk _ hk') (hw hw') (@hi _ _ _ _ _ ⟨le'⟩ hw' h)
  | error le' hk' hw' h => exact .error (le.trans le') (hk _ hk') (hw hw') h

theorem Outcome.weaken {A' : Link → α → β → Prop} (h : C.Outcome κ s A x y)
    (hi : ∀ {κ' a b} [κ.Next κ'], A κ' a b → A' κ' a b) : C.Outcome κ s A' x y :=
  h.imp id id le_rfl (fun _ => id) id fun _ => hi

/-- What happens from a later world on has happened since an earlier one. -/
theorem Outcome.since (h : C.Outcome κ' s' A x y) (le : κ ≤ κ') (hk : C.keeps s s') :
    C.Outcome κ s A x y :=
  h.imp id id le (fun _ => C.keeps_trans hk) id fun _ => id

section

variable (h : C.Outcome κ s A (m l) (m' r))

include h

theorem Outcome.bindKept
    (hf : ∀ {κ' a b l' r'} [κ.Next κ'], C.keeps s l' → C.agree κ' l' r' → A κ' a b →
      C.Outcome κ' l' B (f a l') (f' b r')) :
    C.Outcome κ s B ((m >>= f) l) ((m' >>= f') r) := by
  change C.Outcome κ s B (EStateM.bind m f l) (EStateM.bind m' f' r)
  unfold EStateM.bind
  generalize m l = x at h ⊢
  generalize m' r = y at h ⊢
  cases h with
  | left hl => exact .left hl
  | right hr => cases x <;> exact .right hr
  | ok le hk hw' ha => exact (@hf _ _ _ _ _ ⟨le⟩ hk hw' ha).since le hk
  | error le hk hw' he => exact .error le hk hw' he

theorem Outcome.bind (hf : ∀ {κ' a b} [κ.Next κ'], A κ' a b → C.Sim κ' B (f a) (f' b)) :
    C.Outcome κ s B ((m >>= f) l) ((m' >>= f') r) :=
  h.bindKept fun _ hw ha => hf ha _ _ hw

/-- A handler never stops a run from giving up. -/
theorem Outcome.tryCatch {g : Fault → Run α} {g' : Fault → Run β}
    (hg : ∀ {κ' e f} [κ.Next κ'], e.Alike κ' f → C.Sim κ' A (g e) (g' f))
    (hl : ∀ w, ∃ w', g .tooDeep w = .error .tooDeep w')
    (hr : ∀ w, ∃ w', g' .tooDeep w = .error .tooDeep w') :
    C.Outcome κ s A (MonadExcept.tryCatch m g l) (MonadExcept.tryCatch m' g' r) := by
  change C.Outcome κ s A (EStateM.tryCatch m g l) (EStateM.tryCatch m' g' r)
  unfold EStateM.tryCatch
  generalize m l = x at h ⊢
  generalize m' r = y at h ⊢
  cases h with
  | @left hc w =>
    obtain ⟨w', hw'⟩ := hl w
    change C.Outcome κ s A (g .tooDeep w) _
    rw [hw']
    exact .left hc
  | @right hc _ w =>
    obtain ⟨w', hw'⟩ := hr w
    change C.Outcome κ s A _ (g' .tooDeep w)
    rw [hw']
    exact .right hc
  | ok le hk hw' ha => exact .ok le hk hw' ha
  | error le hk hw' he => exact (@hg _ _ _ ⟨le⟩ he _ _ hw').since le hk

theorem Outcome.orIfUnknown (hn : ∀ {κ'} [κ.Next κ'], C.Sim κ' A n n') :
    C.Outcome κ s A (m.orIfUnknown n l) (m'.orIfUnknown n' r) := by
  refine h.tryCatch (fun he => ?_) (fun w => ⟨w, rfl⟩) (fun w => ⟨w, rfl⟩)
  rw [he.faultClass_eq]
  split
  · exact hn
  · exact fun _ _ hw => .throw hw he

end

namespace Sim

variable {xs : List α} {ys : List β} {vs ws : List Value} {p q : Prop} {u u' : Run Unit}

theorem weaken {A' : Link → α → β → Prop} (h : C.Sim κ A m m')
    (hi : ∀ {κ' a b} [κ.Next κ'], A κ' a b → A' κ' a b) : C.Sim κ A' m m' :=
  fun l r hw => (h l r hw).weaken hi

theorem pure {a : α} {b : β} (h : A κ a b) : C.Sim κ A (Pure.pure a) (Pure.pure b) :=
  fun _ _ hw => .pure hw h

theorem throw (h : e.Alike κ e') : C.Sim κ A (MonadExcept.throw e) (MonadExcept.throw e') :=
  fun _ _ hw => .throw hw h

theorem fail (h : e.isPlain = true) : C.Sim κ A (MonadExcept.throw e) (MonadExcept.throw e) :=
  throw (.plain h)

theorem demand (h : e.isPlain = true) {o : Option α} {o' : Option β} (ho : Option.Rel (A κ) o o') :
    C.Sim κ A (Run.demand e o) (Run.demand e o') := by
  cases ho with
  | some h => exact pure h
  | none => exact fail h

theorem demand_eq (h : e.isPlain = true) (o : Option α) :
    C.Same κ (Run.demand e o) (Run.demand e o) := by
  cases o with
  | some a => exact pure rfl
  | none => exact fail h

theorem bind (h : C.Sim κ A m m')
    (hf : ∀ {κ' a b} [κ.Next κ'], A κ' a b → C.Sim κ' B (f a) (f' b)) :
    C.Sim κ B (m >>= f) (m' >>= f') :=
  fun l r hw => (h l r hw).bind hf

theorem bindEq {m' : Run α} {f' : α → Run δ} (h : C.Same κ m m')
    (hf : ∀ {κ'} [κ.Next κ'] a, C.Sim κ' B (f a) (f' a)) : C.Sim κ B (m >>= f) (m' >>= f') :=
  h.bind fun he => he ▸ hf _

theorem throwThen (h : e.Alike κ e') :
    C.Sim κ B (MonadExcept.throw e >>= f) (MonadExcept.throw e' >>= f') :=
  bind (A := fun _ _ _ => False) (throw h) False.elim

theorem failThen (h : e.isPlain = true) :
    C.Sim κ B (MonadExcept.throw e >>= f) (MonadExcept.throw e >>= f') :=
  throwThen (.plain h)

theorem map {f : α → γ} {f' : β → δ} (h : C.Sim κ A m m')
    (hf : ∀ {κ' a b} [κ.Next κ'], A κ' a b → B κ' (f a) (f' b)) :
    C.Sim κ B (f <$> m) (f' <$> m') := by
  rw [map_eq_pure_bind, map_eq_pure_bind]
  exact bind h fun ha => pure (hf ha)

theorem ite [Decidable p] [Decidable q] (h : p ↔ q)
    (ht : p → C.Sim κ A m m') (he : ¬p → C.Sim κ A n n') :
    C.Sim κ A (if p then m else n) (if q then m' else n') := by
  by_cases hp : p
  · rw [if_pos hp, if_pos (h.1 hp)]
    exact ht hp
  · rw [if_neg hp, if_neg (mt h.2 hp)]
    exact he hp

theorem branch [Decidable p] (ht : C.Sim κ A m m')
    (he : C.Sim κ A n n') : C.Sim κ A (if p then m else n) (if p then m' else n') :=
  ite Iff.rfl (fun _ => ht) fun _ => he

theorem whenThen [Decidable p] [Decidable q] {m m' : Run Unit} {k : Unit → Run α}
    {k' : Unit → Run β} (h : p ↔ q) (hm : C.Same κ m m')
    (hk : ∀ {κ'} [κ.Next κ'], C.Sim κ' A (k ()) (k' ())) :
    C.Sim κ A (if p then m >>= k else k ()) (if q then m' >>= k' else k' ()) :=
  ite h (fun _ => bind hm fun _ => hk) fun _ => @hk κ ⟨le_rfl⟩

theorem noting {Q : α → Prop} (h : C.Sim κ A m m')
    (hm : ∀ w a w', m w = .ok a w' → Q a) : C.Sim κ (fun κ' a b => A κ' a b ∧ Q a) m m' := by
  intro l r hw
  have ho := h l r hw
  generalize hx : m l = x at ho ⊢
  generalize m' r = y at ho ⊢
  cases ho with
  | left h => exact .left h
  | right h => exact .right h
  | ok le hk hw' ha => exact .ok le hk hw' ⟨ha, hm _ _ _ hx⟩
  | error le hk hw' he => exact .error le hk hw' he

theorem withAgree (h : ∀ {l r}, C.agree κ l r → C.Sim κ A m m') : C.Sim κ A m m' :=
  fun l r hw => h hw l r hw

theorem get : C.Sim κ C.agree MonadState.get MonadState.get :=
  fun _ _ hw => .pure hw hw

theorem modifyGet {f : World → α × World} {f' : World → β × World}
    (h : ∀ l r, C.agree κ l r → C.keeps l (f l).2 ∧
      ∃ κ', κ ≤ κ' ∧ C.agree κ' (f l).2 (f' r).2 ∧ A κ' (f l).1 (f' r).1) :
    C.Sim κ A (MonadStateOf.modifyGet f) (MonadStateOf.modifyGet f') := by
  intro l r hw
  obtain ⟨hk, κ', le, hw', ha⟩ := h l r hw
  exact .ok le hk hw' ha

/-! ## Faults that are caught -/

theorem tryCatch {g : Fault → Run α} {g' : Fault → Run β} (h : C.Sim κ A m m')
    (hg : ∀ {κ' e f} [κ.Next κ'], e.Alike κ' f → C.Sim κ' A (g e) (g' f))
    (hl : ∀ w, ∃ w', g .tooDeep w = .error .tooDeep w')
    (hr : ∀ w, ∃ w', g' .tooDeep w = .error .tooDeep w') :
    C.Sim κ A (MonadExcept.tryCatch m g) (MonadExcept.tryCatch m' g') :=
  fun l r hw => (h l r hw).tryCatch hg hl hr

theorem orIfUnknown (h : C.Sim κ A m m')
    (hn : ∀ {κ'} [κ.Next κ'], C.Sim κ' A n n') : C.Sim κ A (m.orIfUnknown n) (m'.orIfUnknown n') :=
  fun l r hw => (h l r hw).orIfUnknown hn

theorem orUndo (h : C.Sim κ A m m')
    (hu : ∀ {κ'} [κ.Next κ'], C.Same κ' u u') (ht : u.Total) (ht' : u'.Total) :
    C.Sim κ A (m.orUndo u) (m'.orUndo u') := by
  refine tryCatch h (fun he => ?_) (fun w => ?_) (fun w => ?_)
  · exact bind hu fun _ => throw he.up
  · obtain ⟨w', hw'⟩ := ht w
    exact ⟨w', by simp only [Bind.bind, EStateM.bind, hw']; rfl⟩
  · obtain ⟨w', hw'⟩ := ht' w
    exact ⟨w', by simp only [Bind.bind, EStateM.bind, hw']; rfl⟩

theorem ensuring [Stable A] (h : C.Sim κ A m m')
    (hu : ∀ {κ'} [κ.Next κ'], C.Same κ' u u') (ht : u.Total) (ht' : u'.Total) :
    C.Sim κ A (Run.ensuring m u) (Run.ensuring m' u') := by
  intro l r hw
  have hm := h l r hw
  unfold Run.ensuring
  generalize m l = x at hm ⊢
  generalize m' r = y at hm ⊢
  cases hm with
  | @left hc w =>
    obtain ⟨w', hw'⟩ := ht w
    simp only [Bind.bind, EStateM.bind, hw']
    exact .left hc
  | @right hc x w =>
    obtain ⟨w', hw'⟩ := ht' w
    simp only [Bind.bind, EStateM.bind, hw']
    exact .right hc
  | @ok κ2 le l' r' hk hw' a b ha =>
    have hlast : C.Sim κ2 A (do u; Pure.pure a) (do u'; Pure.pure b) :=
      bind (@hu κ2 ⟨le⟩) fun _ => pure (Stable.up ha)
    exact (hlast _ _ hw').since le hk
  | @error κ2 le l' r' hk hw' e f he =>
    have hlast : C.Sim κ2 A (do u; MonadExcept.throw e) (do u'; MonadExcept.throw f) :=
      bind (@hu κ2 ⟨le⟩) fun _ => throw he.up
    exact (hlast _ _ hw').since le hk

/-! ## Pure parts -/

theorem lift {x : Except Fault α} {y : Except Fault β} (h : ExceptRel (A κ) x y) :
    C.Sim κ A (Run.lift x) (Run.lift y) := by
  cases h with
  | ok h => exact pure h
  | error h => exact fail h

/-! ## Lists -/

theorem one {f : Value → Run α} {g : Value → Run β} :
    (∀ v w, v.Alike κ w → C.Sim κ A (f v) (g w)) → Values.Alike κ vs ws → C.Sim κ A (match vs with
      | [v] => f v
      | _ => MonadExcept.throw .typeMismatch)
      (match ws with
      | [w] => g w
      | _ => MonadExcept.throw .typeMismatch) := by
  intro hf h
  match vs, ws, h with
  | [], _, .nil => exact fail rfl
  | [v], [w], .cons hv .nil => exact hf v w hv
  | _ :: _ :: _, _, .cons _ (.cons _ _) => exact fail rfl

theorem two {f : Value → Value → Run α} {g : Value → Value → Run β} :
    (∀ v w x y, v.Alike κ w → x.Alike κ y → C.Sim κ A (f v x) (g w y)) →
    Values.Alike κ vs ws → C.Sim κ A (match vs with
      | [v, x] => f v x
      | _ => MonadExcept.throw .typeMismatch)
      (match ws with
      | [w, y] => g w y
      | _ => MonadExcept.throw .typeMismatch) := by
  intro hf h
  match vs, ws, h with
  | [], _, .nil => exact fail rfl
  | [_], _, .cons _ .nil => exact fail rfl
  | [v, x], [w, y], .cons hv (.cons hx .nil) => exact hf v w x y hv hx
  | _ :: _ :: _ :: _, _, .cons _ (.cons _ (.cons _ _)) => exact fail rfl

theorem unlessUndef {v w : Value} {f g : Value → Run Value} :
    (v.Alike κ w → C.Alike κ (f v) (g w)) → v.Alike κ w → C.Alike κ (match v with
      | .undef => Pure.pure .undef
      | s => f s)
      (match w with
      | .undef => Pure.pure .undef
      | s => g s) := by
  intro hf h
  have other := hf h
  cases h with
  | undef => exact pure .undef
  | _ => exact other

variable {R : Link → α → β → Prop}

theorem mapM [Stable R] [Stable B] (h : List.Forall₂ (R κ) xs ys)
    (hf : ∀ {κ' a b} [κ.Next κ'], R κ' a b → C.Sim κ' B (f a) (f' b)) :
    C.Sim κ (fun κ' => List.Forall₂ (B κ')) (xs.mapM f) (ys.mapM f') := by
  induction xs generalizing κ ys with
  | nil =>
    cases h
    exact pure .nil
  | cons x xs ih =>
    cases h with
    | cons ha h =>
      rw [List.mapM_cons, List.mapM_cons]
      refine bind (@hf κ _ _ ⟨le_rfl⟩ ha) fun hb => ?_
      refine bind (ih (h.imp fun _ _ => Stable.up) fun ha => @hf _ _ _ ⟨Link.Before.le⟩ ha)
        fun hbs => ?_
      exact pure (.cons (Stable.up hb) hbs)

section

variable [Stable R] (h : List.Forall₂ (R κ) xs ys)

include h

theorem mapM_eq {f' : β → Run γ} (hf : ∀ {κ' a b} [κ.Next κ'], R κ' a b → C.Same κ' (f a) (f' b)) :
    C.Same κ (xs.mapM f) (ys.mapM f') :=
  (mapM h @hf).weaken fun h => List.forall₂_eq_eq_eq ▸ h

theorem forM {f : α → Run PUnit} {f' : β → Run PUnit}
    (hf : ∀ {κ' a b} [κ.Next κ'], R κ' a b → C.Same κ' (f a) (f' b)) :
    C.Same κ (xs.forM f) (ys.forM f') := by
  induction xs generalizing κ ys with
  | nil =>
    cases h
    exact pure rfl
  | cons x xs ih =>
    cases h with
    | cons ha h =>
      refine bind (@hf κ _ _ ⟨le_rfl⟩ ha) fun _ => ?_
      exact ih (h.imp fun _ _ => Stable.up) fun ha => @hf _ _ _ ⟨Link.Before.le⟩ ha

theorem foldlM {f : γ → α → Run γ} {f' : δ → β → Run δ}
    (hf : ∀ {κ' a b s t} [κ.Next κ'], B κ' s t → R κ' a b → C.Sim κ' B (f s a) (f' t b))
    {s : γ} {t : δ} (hs : B κ s t) : C.Sim κ B (xs.foldlM f s) (ys.foldlM f' t) := by
  induction xs generalizing κ ys s t with
  | nil =>
    cases h
    exact pure hs
  | cons x xs ih =>
    cases h with
    | cons ha h =>
      rw [List.foldlM_cons, List.foldlM_cons]
      refine bind (@hf κ _ _ _ _ ⟨le_rfl⟩ hs ha) fun hs1 => ?_
      exact ih (h.imp fun _ _ => Stable.up) (fun hs ha => @hf _ _ _ _ _ ⟨Link.Before.le⟩ hs ha) hs1

end

end Sim
end Correspondence
end Scad
