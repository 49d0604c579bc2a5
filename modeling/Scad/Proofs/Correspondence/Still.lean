import Scad.Proofs.Correspondence.Declare
import Scad.Proofs.Correspondence.Exact
import Scad.Proofs.Environment.Fresh

/-!
The declaration pass beside itself, in worlds that differ in the levels of scopes only. It raises
the level of a scope while it works there, but does not look at it. So each level is again what it
was when the pass ends, well or not, and the pass may be taken for one that does not count.
-/

namespace Scad

open Run Link

/-! ## Everything corresponds to itself -/

/-- Numbers are linked with themselves, those of environments if there are so many. Environments
other than `own` ones are only asked. -/
def Link.mirror (own : FrameId → Prop) (frames : Nat) : Link where
  same
    | .frame, a, b | .own, a, b | .builder, a, b | .loop, a, b | .extruder, a, b =>
      a = b ∧ own a ∧ a < frames
    | .current, a, b => a = b ∧ a < frames
    | .origin, a, b => a = b ∧ ¬own a
    | .plain, _, _ => False
    | _, a, b => a = b
  tree _ := True
  rule _ := True
  word _ := True
  entry _ := True
  fit _ := False
  loose := True
  misfit _ := True

theorem Link.mirror_exact (o : FrameId → Prop) (n : Nat) : (mirror o n).Exact where
  same {k _ _} hk := by cases k <;> first | exact Iff.rfl | cases hk
  tree _ := trivial
  rule _ := trivial
  word _ := trivial
  entry _ := trivial
  loose := trivial
  misfit _ := trivial

/-! ## Levels -/

/-- How often the declaration pass is at work in a scope. -/
def World.levelOf (w : World) (id : ScopeId) : Nat := w.passes.count id

def World.counting (w : World) (passes : List ScopeId) : World := { w with passes }

def Run.counted {α : Type} (passes : List ScopeId) :
    EStateM.Result Fault World α → EStateM.Result Fault World α
  | .ok a w => .ok a (w.counting passes)
  | .error e w => .error e (w.counting passes)

/-- What evaluation works with: environments, their values and streams, the trace, the output
and the levels. -/
def World.dynamic (w : World) :=
    (w.frames, w.tables, w.streams, w.current, w.tracer, w.out, w.passes)

def Run.worldOf {α : Type} : EStateM.Result Fault World α → World
  | .ok _ w | .error _ w => w

/-- Both runs do the same, whatever the levels of scopes, and evaluate nothing. -/
def Run.Twins {α : Type} (m m' : Run α) : Prop :=
  ∀ w passes, m' (w.counting passes) = counted passes (m w) ∧
    (worldOf (m w)).dynamic = w.dynamic

/-- A run beside another in worlds that are the same but for the levels of scopes. -/
def still (passes : List ScopeId) : Correspondence where
  agree κ l r := κ = .mirror (0 ≤ ·) 0 ∧ r = l.counting passes
  leftStops := False
  rightStops := False
  keeps w w' := w'.dynamic = w.dynamic
  keeps_refl _ := rfl
  keeps_trans h h' := h'.trans h

namespace Run.Twins

variable {α : Type} {m m' : Run α}

theorem counted_self (h : m.Twins m') (w : World) : counted w.passes (m w) = m w := by
  obtain ⟨-, hk⟩ := h w []
  generalize m w = x at hk
  simp only [World.dynamic, Prod.mk.injEq] at hk
  cases x <;> exact congrArg (fun passes => counted passes _) hk.2.2.2.2.2.2.symm

theorem eq (h : m.Twins m') : m = m' :=
  funext fun w => (h.counted_self w).symm.trans (h w w.passes).1.symm

/-- Where nothing looks at the level of a scope, raising it is of no account. -/
theorem leveled_eq (h : m.Twins m) (scope : ScopeId) : leveled scope m = m := by
  funext w
  have hraised : leveled scope m w = ensuring m (modify fun w : World =>
      { w with passes := w.passes.erase scope }) (w.counting (scope :: w.passes)) := rfl
  rw [hraised, ensuring, (h w _).1, ← h.counted_self w]
  cases m w with
  | ok a w' => exact congrArg (EStateM.Result.ok a ∘ w'.counting) (List.erase_cons_head ..)
  | error e w' => exact congrArg (EStateM.Result.error e ∘ w'.counting) (List.erase_cons_head ..)

end Run.Twins

namespace Mirror

variable {κ : Link} {o : FrameId → Prop} {n : Nat} {passes : List ScopeId}

theorem value_self (v : Value) : v.Alike (.mirror o n) v :=
  Value.alike_self (mirror_exact o n) v (.inl fun _ => trivial)

theorem values_self (vs : List Value) : Values.Alike (.mirror o n) vs vs :=
  Values.alike_self (mirror_exact o n) vs (.inl fun _ => trivial)

theorem fault_self (e : Fault) : e.Alike (.mirror o n) e := .misfit trivial

theorem option_eq {β : Type} {R : β → β → Prop} {x y : Option β} (h : Option.Rel R x y)
    (hR : ∀ a b, R a b → a = b) : x = y := by
  cases h with
  | some h => exact congrArg some (hR _ _ h)
  | none => rfl

theorem holding_eq {h k : Holding} (hk : h.Alike (.mirror (0 ≤ ·) n) k) : h = k := by
  have E := mirror_exact (0 ≤ ·) n
  cases hk with
  | var h =>
    cases h with
    | expr hs hb _ => rw [show _ = _ from hs, hb.eq E]
    | value h => rw [h.eq E]
  | builtin f => rfl
  | func h => rw [h.eq E]
  | mod h =>
    cases h with
    | builtin m => rfl
    | module name hp hs _ =>
      cases hp with
      | named required h => rw [show _ = _ from hs, Entries.Alike.eq E h]
      | other h => rw [show _ = _ from hs, h.eq E]
    | value h => rw [h.eq E]
  | work h => rw [Values.Alike.eq E h]
  | @branch x y ht h =>
    have hyes : x.yes = y.yes := h.yes
    have hno := option_eq h.no fun _ _ h => h
    cases x
    cases y
    simp only at ht hyes hno
    rw [ht, hyes, hno]

theorem mirror_full (n : Nat) : (Link.mirror (0 ≤ ·) n).Full :=
  ⟨fun _ => trivial, fun _ => trivial, fun _ => trivial, trivial, fun _ _ => trivial⟩

theorem cell_eq {c d : NodeCell} (h : c.Alike (.mirror o n) d) : c = d := by
  cases h with
  | leaf => rfl
  | inner _ h => rw [Values.Alike.eq (mirror_exact _ _) h]

/-! ## One pass beside another -/

theorem still_agree {w : World} :
    (still passes).agree (.mirror (0 ≤ ·) 0) w (w.counting passes) := ⟨rfl, rfl⟩

theorem still_scope {id : ScopeId} : (still passes).Same κ (scope id) (scope id) := by
  rintro l _ ⟨rfl, rfl⟩
  exact .pure still_agree rfl

theorem still_modify {f : World → World} (h : ∀ w, (f w).dynamic = w.dynamic)
    (hf : ∀ w, f (w.counting passes) = (f w).counting passes) :
    (still passes).Same κ (modify f) (modify f) := by
  rintro l _ ⟨rfl, rfl⟩
  have hagree : (still passes).agree (.mirror (0 ≤ ·) 0) (f l) (f (l.counting passes)) :=
    ⟨rfl, hf l⟩
  exact .ok le_rfl (h l) hagree rfl

theorem loads : (still passes).Loads fun _ _ => True where
  full := by
    rintro κ l _ ⟨rfl, rfl⟩
    exact mirror_full 0
  roles := by
    rintro κ l _ a b ⟨rfl, rfl⟩ h
    exact ⟨h, h, h, h⟩
  has := by
    rintro κ l _ a b p ⟨rfl, rfl⟩ h -
    rw [show a = b from h]
    rfl
  lists := by
    rintro κ l _ a b ⟨rfl, rfl⟩ h
    cases show a = b from h
    exact values_self _
  warn _ := still_modify (fun _ => rfl) fun _ => rfl
  notice _ := still_modify (fun _ => rfl) fun _ => rfl
  newIdent := by
    rintro _ l _ ⟨rfl, rfl⟩
    exact .ok le_rfl rfl still_agree rfl
  newList h := by
    rintro l _ ⟨rfl, rfl⟩
    cases Values.Alike.eq (mirror_exact _ _) h
    exact .ok le_rfl rfl still_agree (.list rfl)
  newNode h := by
    rintro l _ ⟨rfl, rfl⟩
    cases cell_eq h
    exact .ok le_rfl rfl still_agree (.node rfl)
  innerScope _ h := by
    rintro l _ ⟨rfl, rfl⟩
    obtain rfl := h
    exact .ok le_rfl rfl still_agree ⟨rfl, fun _ => trivial⟩
  add name warning h _ hk := .withAgree fun hw => by
    obtain ⟨rfl, rfl⟩ := hw
    obtain rfl := h
    cases holding_eq hk
    refine .bindEq (still_scope.bindEq fun _ => ?_) fun _ => still_scope.bindEq fun _ =>
      .branch (still_modify (fun _ => rfl) fun _ => rfl) (still_modify (fun _ => rfl) fun _ => rfl)
    split <;> exact .pure rfl
  addWork h _ hv := .withAgree fun hw => by
    obtain ⟨rfl, rfl⟩ := hw
    obtain rfl := h
    cases hv.eq (mirror_exact _ _)
    exact still_modify (fun _ => rfl) fun _ => rfl
  setBranch h _ hxy := .withAgree fun hw => by
    obtain ⟨rfl, rfl⟩ := hw
    obtain rfl := h
    cases holding_eq hxy
    exact still_modify (fun _ => rfl) fun _ => rfl

theorem alike_of_twins {m m' : Run Value} (h : m.Twins m') : (still passes).Alike κ m m' := by
  rintro l _ ⟨rfl, rfl⟩
  obtain ⟨heq, hk⟩ := h l passes
  rw [heq]
  generalize m l = x at hk
  cases x with
  | ok v w => exact .ok le_rfl hk still_agree (value_self v)
  | error e w => exact .error le_rfl hk still_agree (fault_self e)

theorem twins_of_alike {m m' : Run Value}
    (h : ∀ {passes}, (still passes).Alike (.mirror (0 ≤ ·) 0) m m') : m.Twins m' := by
  intro w passes
  have h := h w (w.counting passes) still_agree
  unfold Run.worldOf
  generalize m w = x at h
  generalize m' (w.counting passes) = y at h
  cases h with
  | left h | right h => exact h.elim
  | ok _ hk hw h =>
    obtain ⟨rfl, rfl⟩ := hw
    exact ⟨congrArg (EStateM.Result.ok · _) (h.eq (mirror_exact _ _)).symm, hk⟩
  | error _ hk hw h =>
    obtain ⟨rfl, rfl⟩ := hw
    exact ⟨congrArg (EStateM.Result.error · _) (h.eq (mirror_exact _ _)).symm, hk⟩

end Mirror

/-! ## The pass without counting -/

namespace Declare

/-- One level of the pass: what a tree has below it goes to `pass`. -/
def step (pass : Pass) (scope : ScopeId) (t : Tree) : Run Value := do
  let formed ← Run.lift (t.unwrap DeclForm.ofRule? DeclForm.transparent)
  Run.leveled scope (declareForm pass scope formed.2 formed.1)

/-- The same without counting. -/
def body (pass : Pass) (scope : ScopeId) (t : Tree) : Run Value := do
  let formed ← Run.lift (t.unwrap DeclForm.ofRule? DeclForm.transparent)
  declareForm pass scope formed.2 formed.1

theorem step_eq_body {pass : Pass} {scope : ScopeId} {t : Tree}
    (h : (body pass scope t).Twins (body pass scope t)) : step pass scope t =
      body pass scope t := by
  unfold step body at *
  cases hf : t.unwrap DeclForm.ofRule? DeclForm.transparent with
  | ok formed =>
    rw [hf] at h
    exact h.leveled_eq scope
  | error e => rfl

/-- A node calls the pass for its parts only. -/
theorem twins_body {pass pass' : Pass} {t : Tree}
    (h : ∀ scope u, u.Below t → (pass scope u).Twins (pass' scope u)) (scope : ScopeId) :
    (body pass scope t).Twins (body pass' scope t) := by
  refine Mirror.twins_of_alike (Mirror.loads.sim_unwrapped (fun hab hu =>
    .withAgree fun hw => ?_) rfl
    fun _ _ => trivial)
  obtain ⟨rfl, -⟩ := hw
  obtain rfl := hab
  exact Mirror.alike_of_twins (h _ _ hu.1)

theorem declareWith_twins (fuel : Nat) (scope : ScopeId) (t : Tree) :
    (declareWith fuel scope t).Twins (declareWith fuel scope t) := by
  induction fuel generalizing scope t with
  | zero => exact fun _ _ => ⟨rfl, rfl⟩
  | succ fuel ih =>
    have hbody := twins_body (t := t) (fun scope u _ => ih scope u) scope
    have hsucc : declareWith (fuel + 1) scope t = body (declareWith fuel) scope t :=
      step_eq_body hbody
    rwa [hsucc]

theorem declareWith_succ (fuel : Nat) : declareWith (fuel + 1) = body (declareWith fuel) :=
  funext fun scope => funext fun _ =>
    step_eq_body (twins_body (fun scope u _ => declareWith_twins fuel scope u) scope)

end Declare

theorem Correspondence.Loads.sim_declareWith {C : Correspondence} {may : ScopeId → Part → Prop}
    (L : C.Loads may) {κ : Link} {a b : ScopeId} {t : Tree} (fuel : Nat) (h : κ.same .decl a b)
    (hm : ∀ p ∈ t.parts, may a p) :
    C.Alike κ (Declare.declareWith fuel a t) (Declare.declareWith fuel b t) := by
  induction fuel generalizing κ a b t with
  | zero => exact L.fail rfl
  | succ fuel ih =>
    rw [Declare.declareWith_succ]
    exact L.sim_unwrapped (fun h hu => ih h hu.2) h hm

end Scad
