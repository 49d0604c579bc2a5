import Mathlib.Logic.Relation
import Scad.Proofs.Loading.Meaning
import Scad.Proofs.Loading.Renumbering
import Scad.Session.Step

/-!
The order of the statements of a program. They may stand in any order, if no name is declared
twice and what is built keeps its order: all that can be seen of the program is the same.

Two neighbours that change places make cells with other numbers, and nothing that can be seen
of a value depends on a number. Every permitted order is reached in such steps.
-/

namespace Scad

open Environment Session Declare Scad.Tree

variable {D : Pairing} {e : Fault} {st : Step} {ts : List Tree} {α : Type} {κ : Link}

/-! ## Corresponding scopes -/

theorem rel_of_map {β : Type} {f : α → β} {R : β → β → Prop} {x y : Option α}
    (h : Option.Rel R (x.map f) (y.map f)) : Option.Rel (fun a b => R (f a) (f b)) x y := by
  cases x <;> cases y <;> cases h
  · exact .none
  · next h => exact .some h

namespace Scope

variable {T : Nat → Nat → Prop} {κ : Link} {s t : Scope} {xs ys : Array Scope} {a b : ScopeId}

section

variable (h : Twin T κ (fun _ => True) s t) (name : String)

include h name

theorem Twin.var : Option.Rel (VarDef.Alike κ) (findVar? name s) (findVar? name t) := by
  refine (rel_of_map (h.parts (.var name) trivial)).imp fun _ _ h => ?_
  cases h with
  | var h => exact h

theorem Twin.func : Option.Rel (Callee.Alike κ) (findFunction? name s) (findFunction? name t) := by
  have hf := rel_of_map (h.parts (.func name) trivial)
  have hv : Option.Rel (VarDef.Alike κ) (s.vars.find? name) (t.vars.find? name) := h.var name
  -- An entry that is `undef` is passed over on both sides.
  have ofVar : Option.Rel (Callee.Alike κ) (findFunction? name { vars := s.vars })
      (findFunction? name { vars := t.vars }) := by
    unfold findFunction?
    simp only [Table.find?]
    generalize s.vars.find? name = x at hv ⊢
    generalize t.vars.find? name = y at hv ⊢
    cases hv with
    | none => exact .none
    | some hd =>
      cases hd with
      | expr hs hb hf => exact .some (.deferred hs hb hf)
      | value hv =>
        have hv' := hv
        cases hv <;> first | exact .none | exact .some (.value hv')
  unfold findFunction? at ofVar ⊢
  generalize s.funcs.find? name = x at hf ⊢
  generalize t.funcs.find? name = y at hf ⊢
  cases hf with
  | none => exact ofVar
  | some hf =>
    cases hf with
    | builtin f => exact .some (.builtin f)
    | func hv =>
      have hv' := hv
      cases hv <;> first | exact ofVar | exact .some (.value hv')

theorem Twin.mod : Option.Rel (ModDef.Alike κ) (findModule? name s) (findModule? name t) := by
  have hm := rel_of_map (h.parts (.mod name) trivial)
  unfold findModule?
  generalize s.mods.find? name = x at hm ⊢
  generalize t.mods.find? name = y at hm ⊢
  cases hm with
  | none => exact .none
  | some hm =>
    cases hm with
    | mod hm =>
      cases hm with
      | builtin m => exact .some (.builtin m)
      | module name hp hs hw => exact .some (.module name hp hs hw)
      | value hv =>
        have hv' := hv
        cases hv <;> first | exact .none | exact .some (.value hv')

end

/-- What is asked of corresponding scopes is asked of those around them. -/
theorem seek_twin {R : α → α → Prop} {ask : Scope → Option α}
    (h : Cells T (Twin T κ fun _ => True) xs ys)
    (hask : ∀ s t, Twin T κ (fun _ => True) s t → Option.Rel R (ask s) (ask t)) (hab : T a b) :
    Option.Rel R (seek xs a ask) (seek ys b ask) := by
  have hsearch {as bs : List ScopeId} (hs : List.Forall₂ T as bs) :
      Option.Rel R (search xs ask as) (search ys ask bs) := by
    induction hs with
    | nil => exact .none
    | @cons a b _ _ hab _ ih =>
      have ha := hask _ _ (h.getD hab default)
      unfold search
      generalize ask (xs.getD a default) = x at ha ⊢
      generalize ask (ys.getD b default) = y at ha ⊢
      cases ha with
      | none => exact ih
      | some h => exact .some h
  exact hsearch (.cons hab (h.getD hab default).parents)

end Scope

/-- Worlds whose scopes correspond, and in which everything may be used. -/
def orderGround (D : Pairing) : Ground where
  link := D.link
  holds κ l r := κ.loose ∧ l.notices = r.notices ∧
    Cells (D .scope) (Scope.Twin (D .scope) κ fun _ => True) l.scopes r.scopes
  frames := 0
  tables := 0
  numbers := False
  opens := True
  leftStops := False
  rightStops := False

theorem orderGround_lawful (hu : OneToOne (D .scope)) : (orderGround D).Lawful where
  unique := hu
  place_of_scope h := h
  work_of_scope h := h
  opens_work _ h := h
  opens_cycle _ h := h
  tree_child _ _ := trivial
  opens_of_tree _ _ _ := trivial
  opens_of_rule _ _ _ := trivial
  word_of_tree _ := ⟨fun _ _ => trivial, fun _ _ => trivial⟩
  word_of_rule _ _ _ _ := trivial
  entry_of_plain _ := trivial
  misfit_of_loose _ _ h := h
  misfit_of_fit h := h.elim
  fit_allows h := h.elim
  fit_part h := h.elim
  exactly h := h.elim
  spared {κ l r l' r'} h hl hr := by
    change κ.loose ∧ l'.notices = r'.notices ∧ Cells _ _ l'.scopes r'.scopes
    rw [hl.scopes, hr.scopes, hl.notices, hr.notices]
    exact h
  sizes _ := ⟨⟨Nat.zero_le _, Nat.zero_le _⟩, Nat.zero_le _, Nat.zero_le _⟩
  up h := ⟨h.1.up, h.2.1, h.2.2.imp fun _ _ => Scope.Twin.up fun _ _ h => h⟩
  fit_work h _ _ := .loose h.1
  kinds h hab := (h.2.2.getD hab default).kind
  works h hab := (h.2.2.getD hab default).work trivial
  branches h _ hab := by
    refine (rel_of_map ((h.2.2.getD hab default).parts .branch trivial)).imp fun _ _ h => ?_
    cases h with
    | branch _ h => exact h
  vars h hab name := Scope.seek_twin h.2.2 (fun _ _ h => h.var name) hab
  funcs h hab name := Scope.seek_twin h.2.2 (fun _ _ h => h.func name) hab
  mods h _ hab name := Scope.seek_twin h.2.2 (fun _ _ h => h.mod name) hab
  cycles {κ l r a b name v w} h hab _ hv _ := by
    have hp := (h.2.2.getD hab default).parents
    unfold Scope.setLoopVariable?
    generalize (l.scopes.getD a default).parents = as at hp ⊢
    generalize (r.scopes.getD b default).parents = bs at hp ⊢
    cases hp with
    | nil => exact .none
    | @cons x y _ _ hxy _ =>
      have hk := (h.2.2.getD hxy default).kind
      simp only
      rw [hk]
      have hset : (orderGround D).holds κ
          { l with
            scopes := l.scopes.modify x fun s => { s with vars := s.vars.put name (.value v) } }
          { r with
            scopes := r.scopes.modify y fun s => { s with vars := s.vars.put name (.value w) } } :=
        ⟨h.1, h.2.1, h.2.2.modify (fun a' b' => hu x y a' b' hxy) fun _ _ hst =>
          hst.hold name (.var (.value hv))⟩
      cases (r.scopes.getD y default).kind with
      | block => exact .none
      | special | main => exact .some hset

/-! ## A loaded program -/

/-- What corresponds in two loaded programs, with their only environment. -/
def Pairing.pairs (D : Pairing) : Pairs
  | .list => D .list
  | .node => D .node
  | .ident => D .ident
  | .stream => fun _ _ => False
  | _ => fun a b => a = 0 ∧ b = 0

theorem Pairing.link_le_grow (D : Pairing) : D.link ≤ D.link.grow D.pairs :=
  { (le_refl D.link : Link.Le _ _) with
    same := fun k a b h => by
      cases k with
      | list | node | ident | scope | work | place | decl | cycle => exact h
      | _ => exact h.elim }

theorem cells_of_getD {D : Nat → Nat → Prop} {A : α → α → Prop} {xs ys : Array α} {d : α}
    (hb : ∀ a b, D a b → a < xs.size ∧ b < ys.size)
    (h : ∀ a b, D a b → A (xs.getD a d) (ys.getD b d)) : Cells D A xs ys := by
  intro a b hab
  obtain ⟨ha, hb⟩ := hb a b hab
  refine ⟨_, _, Array.getElem?_eq_getElem ha, Array.getElem?_eq_getElem hb, ?_⟩
  simpa [Array.getD_eq_getD_getElem?, ha, hb] using h a b hab

theorem Related.agrees {l r : World} (h : Related D (fun _ => True) l r)
    (hl : l.still = (opened {}).still) (hr : r.still = (opened {}).still)
    (hs : l.out = r.out ∧ l.warnings = r.warnings ∧ l.notices = r.notices) :
    (orderGround D).Agrees D.pairs (D.link.grow D.pairs) l r := by
  have : D.link.Before (D.link.grow D.pairs) := ⟨D.link_le_grow⟩
  simp only [World.still, Prod.mk.injEq] at hl hr
  obtain ⟨hlf, hlt, -, hlc, hltr⟩ := hl
  obtain ⟨hrf, hrt, -, hrc, hrtr⟩ := hr
  have hframe {A : Frame → Frame → Prop} (h : A { scope := 2, caller := none, table := 0 }
      { scope := 2, caller := none, table := 0 }) :
      Cells (fun a b => a = 0 ∧ b = 0) A l.frames r.frames := by
    rintro a b ⟨rfl, rfl⟩
    rw [hlf, hrf]
    exact ⟨_, _, rfl, rfl, h⟩
  exact
    { unique := ⟨h.unique .list, h.unique .node, h.unique .ident, fun _ _ _ _ h => h.elim,
        oneToOne_single, oneToOne_single⟩
      numbered := False.elim
      newFrames := fun _ _ _ => ⟨Nat.zero_le _, Nat.zero_le _⟩
      newTables := fun _ _ _ => ⟨Nat.zero_le _, Nat.zero_le _⟩
      lists := ⟨fun a b hab => .inl (h.bounds .list a b hab), False.elim, fun a b hab =>
        (h.cells .list a b hab).up⟩
      nodes := ⟨fun a b hab => .inl (h.bounds .node a b hab), False.elim, fun a b hab =>
        (h.cells .node a b hab).up⟩
      streams := ⟨fun _ _ h => h.elim, False.elim, fun _ _ h => h.elim⟩
      frames := hframe
        { toAlike := Frame.alike_new (h.program 2 (Nat.le_refl 2)) .none
          caller := .none
          table := ⟨rfl, rfl⟩ }
      tables := by
        rintro a b ⟨rfl, rfl⟩
        rw [hlt, hrt]
        exact ⟨_, _, rfl, rfl, initialValues_alike, .nil⟩
      idents := ⟨fun a b hab => .inl (h.bounds .ident a b hab), False.elim⟩
      builders := hframe (h.program 2 (Nat.le_refl 2))
      loops := hframe fun _ _ h => by cases h
      opened := fun _ _ _ h => ⟨h, h⟩
      current := by
        rw [hlc, hrc]
        exact .none
      tracer := ⟨hltr, hrtr⟩
      said := ⟨hs.1, hs.2.1⟩
      ground := ⟨trivial, hs.2.2, cells_of_getD (h.bounds .scope) fun a b hab => by
        have ht : CellAlike (D.link.grow D.pairs) _ l r a b .scope := (h.cells .scope a b hab).up
        exact ⟨ht.kind, ht.parents, fun p _ => ht.parts p fun _ => trivial⟩⟩ }

theorem builtins_holding (p : Part) : Option.Rel (Holding.Alike κ)
    (builtins.holding? p) (builtins.holding? p) := by
  cases p with
  | func name =>
    have hf : builtins.funcs.find? name = _ :=
      Table.find?_map FuncDef.builtin name BuiltinFunction.table
    simp only [Scope.holding?, hf]
    cases Table.find? name BuiltinFunction.table with
    | none => exact .none
    | some f => exact .some (.builtin f)
  | mod name =>
    have hm : builtins.mods.find? name = _ :=
      Table.find?_map ModDef.builtin name BuiltinModule.table
    simp only [Scope.holding?, hm]
    cases Table.find? name BuiltinModule.table with
    | none => exact .none
    | some m => exact .some (.mod (.builtin m))
  | _ => exact .none

theorem related_opened : Related (fun k a b => k = .scope ∧ a = b ∧ a ≤ 2) (fun _ => True)
    (opened {}) (opened {}) where
  unique k := by
    rintro a b a' b' ⟨-, rfl, -⟩ ⟨-, rfl, -⟩
    exact Iff.rfl
  bounds k a b := by
    rintro ⟨rfl, rfl, ha⟩
    exact ⟨Nat.lt_succ_of_le ha, Nat.lt_succ_of_le ha⟩
  program a ha := ⟨rfl, rfl, ha⟩
  main := ⟨rfl, rfl⟩
  inner a b := by
    rintro ⟨-, rfl, ha⟩ hne
    have : a = 0 ∨ a = 1 := by omega
    rcases this with rfl | rfl <;> decide
  cells k a b := by
    rintro ⟨rfl, rfl, ha⟩
    have hnew (kind : ScopeKind) (parents : List ScopeId) (p : Part) {κ : Link} :
        Option.Rel (Holding.Alike κ) (Scope.holding? { kind := kind, parents := parents } p)
          (Scope.holding? { kind := kind, parents := parents } p) := by
      rw [Scope.holding?_new]
      exact .none
    have : a = 0 ∨ a = 1 ∨ a = 2 := by omega
    rcases this with rfl | rfl | rfl
    · exact ⟨rfl, .nil, fun p _ => builtins_holding p⟩
    · exact ⟨rfl, .cons ⟨rfl, rfl, Nat.zero_le 2⟩ .nil, fun p _ => hnew _ _ p⟩
    · exact ⟨rfl, .cons ⟨rfl, rfl, Nat.le_succ 1⟩ (.cons ⟨rfl, rfl, Nat.zero_le 2⟩ .nil),
        fun p _ => hnew _ _ p⟩

/-! ## What can be seen -/

/-- The value that an assertion has failed with is seen in its record only. -/
def Fault.seen : Fault → Fault
  | .failedAssertion _ => .failedAssertion .undef
  | e => e

theorem Fault.Alike.seen_eq {f : Fault} (h : e.Alike κ f) : e.seen = f.seen := by
  cases h <;> rfl

def Fault.message (w : World) : Fault → Option Record
  | .failedAssertion v =>
    match v.freeze w with
    | .ok r _ => some r
    | .error _ _ => none
  | _ => none

theorem Fault.message_eq_none (h : e.isAssertion = false) (w : World) :
    e.message w = none := by
  cases e <;> first | rfl | cases h

def Answer.seen (a : Answer) : Answer := { a with result := a.result.mapError Fault.seen }

/-- Steps that only look at a program: they read variables, call functions and modules, and
build. -/
def Step.observes : Step → Bool
  | .read _ | .apply _ _ _ | .instantiate _ _ _ | .build => true
  | _ => false

namespace Correspondence

variable {C : Correspondence} {κ : Link} {e f : FrameId}

/-- What is seen of corresponding environments is the same. -/
theorem sim_body (L : C.Lawful) (N : C.Adopts) (O : C.Open)
    (P : C.Performs Eval.perform Eval.perform) (h : κ.same .frame e f)
    (hst : st.observes = true) : C.Same κ (body e st) (body f st) := by
  have hfreeze {κ' : Link} {t u : Task} (ht : t.Alike κ' u) : C.Same κ'
      (Eval.perform t >>= Value.freeze) (Eval.perform u >>= Value.freeze) :=
    (P ht).bind L.sim_freeze
  have hargs {args : List Datum} {named : List (String × Datum)} {t u : Args → Task}
      (ht : ∀ {κ' l r a b} [κ.Before κ'], C.agree κ' l r → a.Alike κ' b → (t a).Alike κ' (u b)) :
      C.Same κ
        (do (← Eval.perform (t ⟨← Datum.enterAll args, ← Datum.enterNamed named⟩)).freeze)
        (do (← Eval.perform (u ⟨← Datum.enterAll args, ← Datum.enterNamed named⟩)).freeze) :=
    (N.sim_enterAll L args).bind fun ha => (N.sim_enterNamed L named).bind
      fun hn => .withAgree fun hw => hfreeze (ht hw ⟨⟨ha.up, hn⟩, fun e _ => (N.full hw).entry e.1⟩)
  cases st with
  | read name => exact hfreeze (.read h name)
  | apply name args named =>
    exact hargs (t := .apply e name) (u := .apply f name) fun hw ha =>
      .apply h.up (O.word hw name) ha
  | instantiate name args named =>
    refine hargs (t := .instantiate e name) (u := .instantiate f name) fun hw ha => ?_
    exact .instantiate h.up (.inl (O.loose hw)) (O.word hw name)
      (fun _ => O.frame hw (by decide) h.up) ha
  | build => exact .withAgree fun hw => hfreeze (.build h (O.frame hw (by decide) h))
  | _ => cases hst

end Correspondence

/-- What is said is said anew in each step. -/
def World.silent (w : World) : World := { w with out := #[], warnings := #[], notices := #[] }

namespace Session

/-- A session with a loaded program and its environment. -/
def holding (w : World) : Session := { world := w, envs := [(0, 0)] }

theorem step_holding {w : World} (h : st.observes = true) :
    (holding w).step st = (((holding w).perform (body 0 st)).1,
      holding ((holding w).perform (body 0 st)).2) := by
  cases st with
  | read | apply | instantiate | build => rfl
  | _ => cases h

variable {s : Session} {m : Run Record} {w : World}

theorem perform_ok {a : Record} (h : m s.world.silent = .ok a w) : s.perform m =
    ({ result := .ok a, out := Text.join w.out.toList, warnings := w.warnings.toList,
       notices := w.notices.toList }, w) := by
  unfold perform
  change m { s.world with out := #[], warnings := #[], notices := #[] } = _ at h
  rw [h]

theorem perform_error (h : m s.world.silent = .error e w) : s.perform m =
    ({ result := .error e, message := e.message w, out := Text.join w.out.toList,
       warnings := w.warnings.toList, notices := w.notices.toList }, w) := by
  unfold perform
  change m { s.world with out := #[], warnings := #[], notices := #[] } = _ at h
  rw [h]
  rfl

end Session

theorem orderGround_silent {l r : World}
    (h : (orderGround D).correspondence.agree κ l r) :
    (orderGround D).correspondence.agree κ l.silent r.silent := by
  obtain ⟨D, rfl, h⟩ := h
  exact ⟨D, rfl, { h with said := ⟨rfl, rfl⟩, ground := ⟨h.ground.1, rfl, h.ground.2.2⟩ }⟩

section

variable {D : Pairing} {κ : Link} {l r : World} (hu : OneToOne (D .scope))

include hu

theorem orderGround_adopts : (orderGround D).correspondence.Adopts where
  full := by
    rintro κ l r ⟨D', rfl, -⟩
    exact ⟨fun _ => trivial, fun _ => trivial, fun _ => trivial, trivial, fun _ h => h⟩
  newNode := (orderGround_lawful hu).sim_newNode

theorem orderGround_performs (depth : Nat) : (orderGround D).correspondence.Performs
    (Eval.performWith depth) (Eval.performWith depth) := by
  rw [← Eval.watched_true]
  exact (orderGround_lawful hu).correspondence.performs_watched
    (Ground.isOpen trivial (fun _ => trivial) trivial).watches (fun _ _ _ =>
      Ground.reads fun _ _ h => h)
    depth depth (fun h => absurd h (Nat.lt_irrefl _)) fun h => absurd h (Nat.lt_irrefl _)

theorem orderGround_message (h : (orderGround D).correspondence.agree κ l r) {f : Fault}
    (he : e.Alike κ f) : e.message l = f.message r := by
  cases he with
  | plain hp =>
    have hno : e.isAssertion = false := by cases e <;> first | rfl | cases hp
    rw [Fault.message_eq_none hno, Fault.message_eq_none hno]
  | misfit hm =>
    obtain ⟨D', rfl, -⟩ := h
    rw [Fault.message_eq_none hm, Fault.message_eq_none hm]
  | @failed v w hv =>
    have ho := (orderGround_lawful hu).correspondence.sim_freeze hv l r h
    simp only [Fault.message]
    generalize v.freeze l = x at ho ⊢
    generalize w.freeze r = y at ho ⊢
    cases ho with
    | left h => exact h.elim
    | right h => exact h.elim
    | ok _ _ _ h => exact congrArg some h
    | error _ _ _ _ => rfl

section

variable (h : (orderGround D).correspondence.agree κ l.silent r.silent) (hf : κ.same .frame 0 0)

include h hf

/-- Each step shows the same of both programs, and they correspond still. -/
theorem orderGround_step (hst : st.observes = true) :
    ((holding l).perform (body 0 st)).1.seen = ((holding r).perform (body 0 st)).1.seen ∧
      ∃ κ' : Link, κ'.same .frame 0 0 ∧ (orderGround D).correspondence.agree κ'
        ((holding l).perform (body 0 st)).2.silent ((holding r).perform (body 0 st)).2.silent := by
  have ho := Correspondence.sim_body (orderGround_lawful hu).correspondence (orderGround_adopts hu)
    (Ground.isOpen trivial (fun _ => trivial) trivial) (orderGround_performs hu Eval.depthLimit) hf
    hst l.silent r.silent h
  generalize hx : body 0 st l.silent = x at ho
  generalize hy : body 0 st r.silent = y at ho
  cases ho with
  | left h => exact h.elim
  | right h => exact h.elim
  | ok le hk hw hab =>
    obtain rfl := hab
    rw [perform_ok hx, perform_ok hy]
    refine ⟨?_, _, le.same _ _ _ hf, orderGround_silent hw⟩
    obtain ⟨D', -, hw⟩ := hw
    rw [hw.said.1, hw.said.2, (hw.holds (orderGround_lawful hu)).2.1]
  | error le hk hw he =>
    rw [perform_error hx, perform_error hy, orderGround_message hu hw he]
    refine ⟨?_, _, le.same _ _ _ hf, orderGround_silent hw⟩
    obtain ⟨D', -, hw⟩ := hw
    simp only [Answer.seen, Except.mapError, he.seen_eq, hw.said.1, hw.said.2,
      (hw.holds (orderGround_lawful hu)).2.1]

theorem orderGround_steps {sts : List Step} (hsts : ∀ st ∈ sts, st.observes = true) :
    ((holding l).steps sts).map Answer.seen = ((holding r).steps sts).map Answer.seen := by
  induction sts generalizing κ l r with
  | nil => rfl
  | cons st sts ih =>
    have hst := hsts st (List.mem_cons_self ..)
    obtain ⟨ha, κ', hf', h'⟩ := orderGround_step hu h hf hst
    simp only [steps, step_holding hst, List.map_cons, ha,
      ih h' hf' fun st hs => hsts st (List.mem_cons_of_mem _ hs)]

end

end

/-! ## Permitted orders -/

section

variable {α : Type} {q : α → Bool}

/-- Two neighbours change places, unless both are of a kind that keeps its order. -/
inductive Swap (q : α → Bool) : List α → List α → Prop
  | mk (xs : List α) {a b : α} (h : q a = false ∨ q b = false) (ys : List α) :
      Swap q (xs ++ a :: b :: ys) (xs ++ b :: a :: ys)

theorem Swap.perm {xs ys : List α} (h : Swap q xs ys) : xs.Perm ys := by
  cases h with
  | mk xs h ys => exact (List.Perm.swap _ _ ys).append_left xs

open Relation (ReflTransGen)

theorem Swap.cons (x : α) {xs ys : List α} (h : ReflTransGen (Swap q) xs ys) :
    ReflTransGen (Swap q) (x :: xs) (x :: ys) := by
  refine h.lift (x :: ·) fun _ _ h => ?_
  cases h with
  | mk xs h ys => exact .mk (x :: xs) h ys

theorem Swap.move (x : α) {xs : List α} (ys : List α) (h : ∀ a ∈ xs, q x = false ∨ q a = false) :
    ReflTransGen (Swap q) (x :: (xs ++ ys)) (xs ++ x :: ys) := by
  induction xs with
  | nil => exact .refl
  | cons a xs ih =>
    exact .head (.mk [] (h a (List.mem_cons_self ..)) (xs ++ ys))
      (Swap.cons a (ih fun b hb => h b (List.mem_cons_of_mem _ hb)))

/-- Every order that keeps the order of some kind is reached in such steps. -/
theorem Swap.of_perm {xs ys : List α} (hp : xs.Perm ys) (hq : xs.filter q = ys.filter q) :
    ReflTransGen (Swap q) xs ys := by
  induction xs generalizing ys with
  | nil =>
    cases hp.nil_eq
    exact .refl
  | cons x xs ih =>
    obtain ⟨as, bs, rfl, hfree, hrest⟩ : ∃ as bs, ys = as ++ x :: bs ∧
        (∀ a ∈ as, q x = false ∨ q a = false) ∧ xs.filter q = (as ++ bs).filter q := by
      cases hx : q x with
      | false =>
        obtain ⟨as, bs, rfl⟩ := List.append_of_mem (hp.subset (List.mem_cons_self ..))
        refine ⟨as, bs, rfl, fun _ _ => .inl rfl, ?_⟩
        simpa [hx] using hq
      | true =>
        rw [List.filter_cons_of_pos hx] at hq
        obtain ⟨as, bs, rfl, has, -, hbs⟩ := List.filter_eq_cons_iff.1 hq.symm
        refine ⟨as, bs, rfl, fun a ha => .inr (by simpa using has a ha), ?_⟩
        rw [List.filter_append, List.filter_eq_nil_iff.2 has, hbs, List.nil_append]
    have hp' : xs.Perm (as ++ bs) := (hp.trans List.perm_middle).cons_inv
    exact (Swap.cons x (ih hp' hrest)).trans (Swap.move x bs hfree)

end

/-- Does a statement add to what is built? -/
def Tree.isObject (t : Tree) : Bool := decide (Part.work ∈ t.parts)

/-- No name is declared by two statements. -/
def Tree.Distinct (s t : Tree) : Prop := ∀ p ∈ s.parts, p ∈ t.parts → p = .work

instance : DecidableRel Tree.Distinct :=
  fun s t => inferInstanceAs (Decidable (∀ p ∈ s.parts, p ∈ t.parts → p = .work))

theorem Tree.heightAll_swap (ts us : List Tree) (s t : Tree) :
    heightAll (ts ++ s :: t :: us) = heightAll (ts ++ t :: s :: us) := by
  induction ts with
  | nil => exact Nat.max_left_comm ..
  | cons x ts ih => exact congrArg (max x.height) ih

namespace Session

/-- A new session takes up a program. -/
def taking (ts : List Tree) : Answer × Session := step {} (.declareTree (.node "Input" ts))

theorem declare_input (ts : List Tree) : declare 2 (.node "Input" ts) = do
    each (declareWith (heightAll ts)) 2 ts
    return .undef := by
  have hunwrap : (node "Input" ts).unwrap DeclForm.ofRule? DeclForm.transparent =
      .ok (.input, .node "Input" ts) := by
    unfold unwrap
    rcases ts with _ | ⟨t, _ | _⟩ <;> rfl
  rw [declare, height, declareWith_succ, Declare.body, hunwrap]
  rfl

theorem taking_eq (ts : List Tree) : taking ts =
    (((holding (opened {})).perform (body 0 (.declareTree (.node "Input" ts)))).1,
      holding ((holding (opened {})).perform (body 0 (.declareTree (.node "Input" ts)))).2) :=
  rfl

theorem body_declareTree (ts : List Tree) :
    body 0 (.declareTree (.node "Input" ts)) (opened {}) =
      (do
        each (declareWith (heightAll ts)) 2 ts
        return Record.undef : Run Record) (opened {}) := by
  have hscope : scopeOf 0 (opened {}) =
      .ok 2 (opened {}) := rfl
  refine (Run.bind_of_ok hscope).trans ?_
  rw [declare_input]
  generalize opened {} = w
  cases h : each (declareWith (heightAll ts)) 2 ts w with
  | ok a w' =>
    have hdecl : (do
        each (declareWith (heightAll ts)) 2 ts
        return .undef : Run Value) w = .ok .undef w' := Run.bind_of_ok h
    rw [Run.bind_of_ok h]
    exact Run.bind_of_ok hdecl
  | error e w' =>
    rw [Run.bind_of_error h]
    exact Run.bind_of_error (Run.bind_of_error h)

theorem taking_of_ok {w : World}
    (h : each (declareWith (heightAll ts)) 2 ts (opened {}) =
      .ok () w) : (taking ts).1.result = .ok .undef ∧ (taking ts).2 = holding w := by
  have hbody := (body_declareTree ts).trans (Run.bind_of_ok h)
  rw [taking_eq, perform_ok hbody]
  exact ⟨rfl, rfl⟩

theorem ok_of_taking (h : (taking ts).1.result = .ok .undef) :
    ∃ w, each (declareWith (heightAll ts)) 2 ts (opened {}) = .ok () w := by
  cases he : each (declareWith (heightAll ts)) 2 ts (opened {}) with
  | ok a w => exact ⟨w, rfl⟩
  | error e w =>
    have hbody := (body_declareTree ts).trans (Run.bind_of_error he)
    rw [taking_eq, perform_error hbody] at h
    cases h

/-- Neighbours that declare different names may change places. -/
theorem taking_swap {us : List Tree} (h : Swap isObject ts us)
    (hd : ts.Pairwise Tree.Distinct) (ht : (taking ts).1.result = .ok .undef) :
    (taking us).1.result = .ok .undef ∧ ∀ sts : List Step, (∀ st ∈ sts, st.observes = true) →
      ((taking ts).2.steps sts).map Answer.seen = ((taking us).2.steps sts).map Answer.seen := by
  cases h with
  | @mk as s t hst bs =>
    obtain ⟨l, hl⟩ := ok_of_taking ht
    have hpair : s.Distinct t := by
      have := (List.pairwise_append.1 hd).2.1
      exact (List.pairwise_cons.1 this).1 t (List.mem_cons_self ..)
    have hparts : ∀ p ∈ s.parts, p ∉ t.parts := by
      intro p hs ht
      cases hpair p hs ht
      rcases hst with h | h
      · exact absurd hs (by simpa [isObject] using h)
      · exact absurd ht (by simpa [isObject] using h)
    obtain ⟨r, D, hr, h, hkl, hkr⟩ := related_opened.each_swap hparts hl
    rw [heightAll_swap] at hr
    obtain ⟨hres, hsess⟩ := taking_of_ok hr
    refine ⟨hres, fun sts hsts => ?_⟩
    rw [hsess, (taking_of_ok hl).2]
    have hsilent : Related D (fun _ => True) l.silent r.silent :=
      h.grow (l.grows_said ..) (r.grows_said ..) fun _ hp => ⟨hp, id, id⟩
    exact orderGround_steps (h.unique .scope)
      (hsilent.agrees hkl hkr ⟨rfl, rfl, rfl⟩).agree ⟨rfl, rfl⟩ hsts

/-- The two statements of a program, and its end. -/
def statements? : Tree → Option (Tree × Tree × Tree)
  | .node "Input" [s, t, finish] => some (s, t, finish)
  | _ => none

theorem eq_of_statements? {t : Tree} {x : Tree × Tree × Tree} (h : statements? t = some x) :
    t = .node "Input" [x.1, x.2.1, x.2.2] := by
  unfold statements? at h
  split at h <;> cases h
  rfl

end Session

end Scad
