import Scad.Proofs.Correspondence.Exact
import Scad.Proofs.Correspondence.Machine
import Scad.Proofs.Environment.Fresh

/-!
Correspondences in which cells become linked when both runs make them, and linked cells hold
what corresponds. What is left to say of such a correspondence is what it says of the scopes,
which are linked from the beginning, and of what else was there before.
-/

namespace Scad

open Run Scope Array

/-! ## Linked cells -/

section

variable {α : Type} {D D' : Nat → Nat → Prop} {A A' : α → α → Prop} {xs ys : Array α}
  {a b n m : Nat}

/-- Linked numbers have been taken on both sides, or they are going to be at the same time. -/
def Aligned (D : Nat → Nat → Prop) (n m : Nat) : Prop :=
  ∀ a b, D a b → a < n ∧ b < m ∨ ∃ k, a = n + k ∧ b = m + k

/-- Both sides have taken as many numbers, and each is linked with itself only. -/
structure Numbered (D : Nat → Nat → Prop) (n m : Nat) : Prop where
  count : n = m
  eq : ∀ a b, D a b → a = b

/-- Linked numbers are numbers of cells that hold what is related. -/
def Cells (D : Nat → Nat → Prop) (A : α → α → Prop) (xs ys : Array α) : Prop :=
  ∀ a b, D a b → ∃ x y, xs[a]? = some x ∧ ys[b]? = some y ∧ A x y

def OneToOne (D : Nat → Nat → Prop) : Prop := ∀ a b a' b', D a b → D a' b' → (a = a' ↔ b = b')

theorem oneToOne_eq : OneToOne Eq := by
  rintro a _ a' _ rfl rfl
  exact Iff.rfl

def withPair (D : Nat → Nat → Prop) (n m : Nat) : Nat → Nat → Prop :=
  fun a b => D a b ∨ a = n ∧ b = m

def withPairIf (p : Prop) (D : Nat → Nat → Prop) (n m : Nat) : Nat → Nat → Prop :=
  fun a b => D a b ∨ p ∧ a = n ∧ b = m

namespace Cells

section

variable (h : Cells D A xs ys)

include h

theorem getD (hab : D a b) (d : α) : A (xs.getD a d) (ys.getD b d) := by
  obtain ⟨x, y, hx, hy, hxy⟩ := h a b hab
  rwa [getD_eq_getD_getElem?, getD_eq_getD_getElem?, hx, hy]

theorem bounds (hab : D a b) : a < xs.size ∧ b < ys.size := by
  obtain ⟨x, y, hx, hy, -⟩ := h a b hab
  exact ⟨(Array.getElem?_eq_some_iff.1 hx).1, (Array.getElem?_eq_some_iff.1 hy).1⟩

theorem imp (hi : ∀ x y, A x y → A' x y) : Cells D A' xs ys := by
  intro a b hab
  obtain ⟨x, y, hx, hy, hxy⟩ := h a b hab
  exact ⟨x, y, hx, hy, hi x y hxy⟩

theorem grow (x y : α) : Cells D A (xs.push x) (ys.push y) := by
  intro a b hab
  obtain ⟨x', y', hx, hy, hxy⟩ := h a b hab
  have hlt := h.bounds hab
  refine ⟨x', y', ?_, ?_, hxy⟩
  · rw [getElem?_push, if_neg (Nat.ne_of_lt hlt.1), hx]
  · rw [getElem?_push, if_neg (Nat.ne_of_lt hlt.2), hy]

theorem push {x y : α} (hxy : A x y) :
    Cells (withPair D xs.size ys.size) A (xs.push x) (ys.push y) := by
  rintro a b (hold | ⟨rfl, rfl⟩)
  · exact h.grow x y a b hold
  · exact ⟨x, y, getElem?_push_size, getElem?_push_size, hxy⟩

theorem pushIf {p : Prop} {x y : α} (hxy : p → A x y) :
    Cells (withPairIf p D xs.size ys.size) A (xs.push x) (ys.push y) := by
  rintro a b (hold | ⟨hp, rfl, rfl⟩)
  · exact h.grow x y a b hold
  · exact ⟨x, y, getElem?_push_size, getElem?_push_size, hxy hp⟩

theorem modify {f g : α → α} (hu : ∀ a' b', D a' b' → (a = a' ↔ b = b'))
    (hfg : ∀ x y, A x y → A (f x) (g y)) : Cells D A (xs.modify a f) (ys.modify b g) := by
  intro a' b' hab
  obtain ⟨x, y, hx, hy, hxy⟩ := h a' b' hab
  rw [getElem?_modify, getElem?_modify, hx, hy]
  by_cases ha : a = a'
  · rw [if_pos ha, if_pos ((hu a' b' hab).1 ha)]
    exact ⟨f x, g y, rfl, rfl, hfg x y hxy⟩
  · rw [if_neg ha, if_neg fun hb => ha ((hu a' b' hab).2 hb)]
    exact ⟨x, y, rfl, rfl, hxy⟩

theorem modify_of_keeps {f g : α → α} (hf : ∀ x y, A x y → A (f x) y)
    (hg : ∀ x y, A x y → A x (g y)) : Cells D A (xs.modify a f) (ys.modify b g) := by
  intro a' b' hab
  obtain ⟨x, y, hx, hy, hxy⟩ := h a' b' hab
  rw [getElem?_modify, getElem?_modify, hx, hy]
  by_cases ha : a = a' <;> by_cases hb : b = b'
  · rw [if_pos ha, if_pos hb]
    exact ⟨f x, g y, rfl, rfl, hg _ _ (hf _ _ hxy)⟩
  · rw [if_pos ha, if_neg hb]
    exact ⟨f x, y, rfl, rfl, hf _ _ hxy⟩
  · rw [if_neg ha, if_pos hb]
    exact ⟨x, g y, rfl, rfl, hg _ _ hxy⟩
  · rw [if_neg ha, if_neg hb]
    exact ⟨x, y, rfl, rfl, hxy⟩

theorem aligned : Aligned D xs.size ys.size := fun _ _ hab => .inl (h.bounds hab)

end

end Cells

theorem Aligned.eq_iff (h : Aligned D n m) (hab : D a b) : a = n ↔ b = m := by
  rcases h a b hab with h | ⟨k, rfl, rfl⟩ <;> omega

theorem Aligned.lt_iff (h : Aligned D n m) (hab : D a b) : a < n ↔ b < m := by
  rcases h a b hab with h | ⟨k, rfl, rfl⟩ <;> omega

theorem Aligned.withPair (h : Aligned D n m) : Aligned (withPair D n m) (n + 1) (m + 1) := by
  rintro a b (hab | ⟨rfl, rfl⟩)
  · rcases h a b hab with h | ⟨_ | k, rfl, rfl⟩
    · omega
    · omega
    · exact .inr ⟨k, by omega, by omega⟩
  · omega

theorem Numbered.withPair (h : Numbered D n m) : Numbered (withPair D n m) (n + 1) (m + 1) where
  count := congrArg (· + 1) h.count
  eq := by
    rintro a b (hab | ⟨rfl, rfl⟩)
    · exact h.eq a b hab
    · exact h.count

theorem Numbered.push (h : Numbered D xs.size ys.size) (x y : α) :
    Numbered (Scad.withPair D xs.size ys.size) (xs.push x).size (ys.push y).size := by
  rw [size_push, size_push]
  exact h.withPair

theorem OneToOne.withPair (h : OneToOne D) (ha : Aligned D n m) : OneToOne (withPair D n m) := by
  rintro a b a' b' (h1 | ⟨rfl, rfl⟩) (h2 | ⟨rfl, rfl⟩)
  · exact h a b a' b' h1 h2
  · exact ha.eq_iff h1
  · exact eq_comm.trans ((ha.eq_iff h2).trans eq_comm)
  · exact iff_of_true rfl rfl

theorem above_withPair {k : Nat} (h : ∀ a b, D a b → k ≤ a ∧ k ≤ b) (hn : k ≤ n) (hm : k ≤ m) :
    ∀ a b, withPair D n m a b → k ≤ a ∧ k ≤ b := by
  rintro a b (hab | ⟨rfl, rfl⟩)
  · exact h a b hab
  · exact ⟨hn, hm⟩

/-- Linked numbers are aligned, if `p` then they are even the same, and what they stand for is
related. -/
structure Stored (p : Prop) (D : Nat → Nat → Prop) (A : α → α → Prop) (d : α) (xs ys : Array α) :
    Prop where
  aligned : Aligned D xs.size ys.size
  numbered : p → Numbered D xs.size ys.size
  alike : ∀ a b, D a b → A (xs.getD a d) (ys.getD b d)

namespace Stored

variable {p : Prop} {d : α} (h : Stored p D A d xs ys)

include h

theorem imp (hi : ∀ x y, A x y → A' x y) : Stored p D A' d xs ys :=
  ⟨h.aligned, h.numbered, fun a b hab => hi _ _ (h.alike a b hab)⟩

theorem push {x y : α} (hxy : A x y) :
    Stored p (withPair D xs.size ys.size) A d (xs.push x) (ys.push y) where
  aligned := by
    rw [size_push, size_push]
    exact h.aligned.withPair
  numbered hp := (h.numbered hp).push x y
  alike a b hab := by
    have hiff : a = xs.size ↔ b = ys.size :=
      hab.elim h.aligned.eq_iff fun hab => iff_of_true hab.1 hab.2
    rw [getD_push_eq, getD_push_eq]
    by_cases ha : a = xs.size
    · rw [if_pos ha, if_pos (hiff.1 ha)]
      exact hxy
    · rw [if_neg ha, if_neg (mt hiff.2 ha)]
      exact h.alike a b (hab.resolve_right fun hab => ha hab.1)

theorem set {x y : α} (hu : ∀ a' b', D a' b' → (a = a' ↔ b = b')) (hxy : A x y) :
    Stored p D A d (xs.setIfInBounds a x) (ys.setIfInBounds b y) where
  aligned := by
    rw [size_setIfInBounds, size_setIfInBounds]
    exact h.aligned
  numbered := by
    rw [size_setIfInBounds, size_setIfInBounds]
    exact h.numbered
  alike a' b' hab := by
    have hiff := and_congr (hu a' b' hab) (h.aligned.lt_iff hab)
    rw [getD_setIfInBounds, getD_setIfInBounds]
    by_cases hc : a = a' ∧ a' < xs.size
    · rw [if_pos hc, if_pos (hiff.1 hc)]
      exact hxy
    · rw [if_neg hc, if_neg (mt hiff.2 hc)]
      exact h.alike a' b' hab

end Stored

end

/-! ## Links that grow -/

/-- Numbers that became linked during a run. -/
abbrev Pairs := Role → Nat → Nat → Prop

/-- The numbers of what is told apart by its number are linked one to one. -/
structure Pairs.Unique (D : Pairs) : Prop where
  list : OneToOne (D .list)
  node : OneToOne (D .node)
  ident : OneToOne (D .ident)
  stream : OneToOne (D .stream)
  frame : OneToOne (D .frame)
  table : OneToOne (D .table)

/-- The pairs with two new environments, which may build the same or have a child to run over. -/
def Pairs.entered (D : Pairs) (T : Nat → Nat → Prop) (builds loops : Prop) (n m : Nat) : Pairs
  | .frame => withPair (D .frame) n m
  | .table => T
  | .builder => withPairIf builds (D .builder) n m
  | .loop => withPairIf loops (D .loop) n m
  | k => D k

theorem Pairs.le_entered (D : Pairs) {T : Nat → Nat → Prop} {p q : Prop} {n m : Nat}
    (hT : D .table ≤ T) : D ≤ D.entered T p q n m := by
  intro k
  cases k with
  | table => exact hT
  | frame | builder | loop => exact fun _ _ => .inl
  | _ => exact le_rfl

/-- A link with the scopes and origins of one link and the pairs of a run. In linked environments
everything is linked. -/
def Link.grow (σ : Link) (D : Pairs) : Link :=
  { σ with
    same := fun k =>
      match k with
      | .scope | .work | .place | .decl | .cycle | .origin => σ.same k
      | .own | .current | .extruder => D .frame
      | .plain => fun _ _ => False
      | _ => D k }

theorem Link.grow_le {σ : Link} {D D' : Pairs} (h : D ≤ D') : σ.grow D ≤ σ.grow D' :=
  { (le_refl (σ.grow D) : Link.Le _ _) with
    same := fun k a b hs => by
      cases k with
      | scope | work | place | decl | cycle | plain | origin => exact hs
      | _ => exact h _ a b hs }

/-! ## What was there before -/

namespace World

/-- What a run meets of what was there before. -/
def core (w : World) : World :=
  { scopes := w.scopes, frames := w.frames, tables := w.tables, notices := w.notices }

/-- The first environments and tables of a world are as they were. -/
structure Spares (frames tables : Nat) (w w' : World) : Prop where
  frameAt : ∀ e < frames, w'.frameAt e = w.frameAt e
  tableAt : ∀ i < tables, w'.tables.getD i {} = w.tables.getD i {}
  scopes : w'.scopes = w.scopes
  notices : w'.notices = w.notices
  count : w.frames.size ≤ w'.frames.size
  tableCount : w.tables.size ≤ w'.tables.size

variable {n t i : Nat}

theorem Spares.of_core (w : World) : w.core.Spares n t w :=
  ⟨fun _ _ => rfl, fun _ _ => rfl, rfl, rfl, Nat.le_refl _, Nat.le_refl _⟩

theorem Spares.to_core (w : World) : w.Spares n t w.core :=
  ⟨fun _ _ => rfl, fun _ _ => rfl, rfl, rfl, Nat.le_refl _, Nat.le_refl _⟩

theorem Spares.push {w : World} (hf : n ≤ w.frames.size) (ht : t ≤ w.tables.size) (f : Frame)
    (s : Option Slots) : w.Spares n t { w with
      frames := w.frames.push f
      tables := s.elim w.tables w.tables.push } where
  frameAt e he := getD_push (Nat.lt_of_lt_of_le he hf) f default
  tableAt i hi := by
    cases s with
    | none => rfl
    | some s => exact getD_push (Nat.lt_of_lt_of_le hi ht) s {}
  scopes := rfl
  notices := rfl
  count := by simp
  tableCount := by cases s <;> simp

theorem Spares.modifyFrame (hi : n ≤ i) (w : World) (F : Frame → Frame) :
    w.Spares n t { w with frames := w.frames.modify i F } where
  frameAt e he := by
    have hne : ¬(i = e ∧ e < w.frames.size) := fun h => Nat.not_lt_of_le hi (h.1 ▸ he)
    simp only [World.frameAt, getD_modify]
    rw [if_neg hne]
  tableAt _ _ := rfl
  scopes := rfl
  notices := rfl
  count := Nat.le_of_eq size_modify.symm
  tableCount := Nat.le_refl _

theorem Spares.modifyTable (hi : t ≤ i) (w : World) (f : Slots → Slots) :
    w.Spares n t { w with tables := w.tables.modify i f } where
  frameAt _ _ := rfl
  tableAt j hj := by
    have hne : ¬(i = j ∧ j < w.tables.size) := fun h => Nat.not_lt_of_le hi (h.1 ▸ hj)
    rw [getD_modify, if_neg hne]
  scopes := rfl
  notices := rfl
  count := Nat.le_refl _
  tableCount := Nat.le_of_eq size_modify.symm

end World

def Scope.seek {α : Type} (scopes : Array Scope) (id : ScopeId) (ask : Scope → Option α) :
    Option α :=
  search scopes ask (id :: (scopes.getD id default).parents)

/-- The scopes after a loop variable of a block was set, if it can be. -/
def Scope.setLoopVariable? (scopes : Array Scope) (body : ScopeId) (name : String) (v : Value) :
    Option (Array Scope) :=
  match (scopes.getD body default).parents with
  | [] => none
  | outer :: _ =>
    match (scopes.getD outer default).kind with
    | .block => none
    | .special | .main =>
      some (scopes.modify outer fun s => { s with vars := s.vars.put name (.value v) })

section

variable {m : Eval.Loop} {name : String} {v : Value} {w : World}

theorem Eval.Loop.setVariable_run : m.setVariable name v w =
    (setLoopVariable? w.scopes m.body name v).elim (.error .noAttribute w)
      fun xs => .ok () { w with scopes := xs } := by
  have hscope (id : ScopeId) : scope id w = .ok (w.scopes.getD id default) w := rfl
  unfold setLoopVariable?
  rw [setVariable, bind_of_ok (hscope m.body)]
  cases (w.scopes.getD m.body default).parents with
  | nil => rfl
  | cons outer _ =>
    change (scope outer >>= _) w = _
    rw [bind_of_ok (hscope outer)]
    simp only
    cases (w.scopes.getD outer default).kind <;> rfl

theorem Eval.Loop.setVariable_of_some {xs : Array Scope}
    (h : setLoopVariable? w.scopes m.body name v = some xs) :
    m.setVariable name v w = .ok () { w with scopes := xs } := by
  rw [setVariable_run, h]
  rfl

theorem Eval.Loop.setVariable_of_none (h : setLoopVariable? w.scopes m.body name v = none) :
    m.setVariable name v w = .error .noAttribute w := by
  rw [setVariable_run, h]
  rfl

end

/-- What a correspondence says of scopes, and of the first environments and tables, which are
never linked. -/
structure Ground where
  link : Link
  holds : Link → World → World → Prop
  frames : Nat
  tables : Nat
  /-- Both runs give the same numbers to what they make. -/
  numbers : Prop
  /-- Every environment may be used in every way. -/
  opens : Prop
  leftStops : Prop
  rightStops : Prop

/-- Environments whose tables and callers are linked, too. -/
structure Frame.Linked (κ : Link) (f g : Frame) : Prop extends Frame.Alike κ f g where
  caller : Option.Rel (fun c d => κ.same .frame c d ∨ κ.same .origin c d) f.caller g.caller
  table : κ.same .table f.table g.table

structure SlotRel (κ : Link) (a b : String × Slot) : Prop where
  name : a.1 = b.1
  slot : a.2.Alike κ b.2

structure Slots.Alike (κ : Link) (s t : Slots) : Prop where
  named : List.Forall₂ (SlotRel κ) s.named t.named
  keyed : List.Forall₂ (KeyRel κ) s.keyed t.keyed

/-- Worlds that correspond, with the pairs that became linked and the link for what
cells hold. -/
structure Ground.Agrees (G : Ground) (D : Pairs) (κ : Link) (l r : World) : Prop where
  unique : D.Unique
  lists : Stored G.numbers (D .list) (Values.Alike κ) [] l.lists r.lists
  nodes : Stored G.numbers (D .node) (NodeCell.Alike κ) default l.nodes r.nodes
  streams : Stored G.numbers (D .stream) (Stream.Alike κ) .ended l.streams r.streams
  frames : Cells (D .frame) (Frame.Linked κ) l.frames r.frames
  tables : Cells (D .table) (Slots.Alike κ) l.tables r.tables
  newFrames : ∀ a b, D .frame a b → G.frames ≤ a ∧ G.frames ≤ b
  newTables : ∀ a b, D .table a b → G.tables ≤ a ∧ G.tables ≤ b
  numbered : G.numbers → Numbered (D .frame) l.frames.size r.frames.size
  idents : Aligned (D .ident) l.fresh r.fresh ∧ (G.numbers → Numbered (D .ident) l.fresh r.fresh)
  builders : Cells (D .builder) (fun f g => G.link.same .work f.scope g.scope) l.frames r.frames
  loops : Cells (D .loop) (fun f g => ∀ x y, f.child = some (.scope x) →
    g.child = some (.scope y) → G.link.same .cycle x y) l.frames r.frames
  opened : G.opens → ∀ a b, D .frame a b → D .builder a b ∧ D .loop a b
  current : Option.Rel (D .frame) l.current r.current
  tracer : l.tracer = none ∧ r.tracer = none
  said : l.out = r.out ∧ l.warnings = r.warnings
  ground : G.holds κ l.core r.core

/-- The correspondence that grows from what is said of scopes. -/
def Ground.correspondence (G : Ground) : Correspondence where
  agree κ l r := ∃ D, κ = G.link.grow D ∧ G.Agrees D κ l r
  leftStops := G.leftStops
  rightStops := G.rightStops
  keeps _ _ := True
  keeps_refl _ := trivial
  keeps_trans _ _ := trivial

/-- What must be satisfied by what was there before. -/
structure Ground.Lawful (G : Ground) : Prop extends G.link.Lawful where
  unique : OneToOne (G.link.same .scope)
  opens_work : ∀ {a b}, G.opens → G.link.same .place a b → G.link.same .work a b
  opens_cycle : ∀ {a b}, G.opens → G.link.same .scope a b → G.link.same .cycle a b
  opens_of_tree : ∀ {t}, G.link.Handles .modCall → G.link.tree t →
    ExprForm.ofRule? t.rule = some .modCall → G.opens
  opens_of_rule : ∀ {rule}, G.link.loose → G.link.rule rule →
    ExprForm.ofRule? rule = some .modCall → G.opens
  exactly : ∀ {κ l r}, G.numbers → G.holds κ l r → G.link.Exact ∧ G.link ≤ κ
  up : ∀ {κ κ' : Link} {l r} [κ.Before κ'], G.holds κ l r → G.holds κ' l r
  spared : ∀ {κ l r l' r'}, G.holds κ l r → l.Spares G.frames G.tables l' →
    r.Spares G.frames G.tables r' → G.holds κ l' r'
  sizes : ∀ {κ l r}, G.holds κ l r → (G.frames ≤ l.frames.size ∧ G.frames ≤ r.frames.size) ∧
    G.tables ≤ l.tables.size ∧ G.tables ≤ r.tables.size
  fit_work : ∀ {κ l r a b v}, G.holds κ l r → G.link.same .work a b →
    v ∈ (l.scopeAt a).work → κ.Fit v
  kinds : ∀ {κ l r a b}, G.holds κ l r → G.link.same .scope a b →
    (l.scopeAt a).kind = (r.scopeAt b).kind
  works : ∀ {κ l r a b}, G.holds κ l r → G.link.same .work a b →
    Values.Alike κ (l.scopeAt a).work (r.scopeAt b).work
  branches : ∀ {κ l r a b}, G.holds κ l r → G.link.Handles .ifStatement →
    G.link.same .place a b →
    Option.Rel (Branch.Alike κ) (l.scopeAt a).branch (r.scopeAt b).branch
  vars : ∀ {κ l r a b}, G.holds κ l r → G.link.same .place a b → ∀ name,
    Option.Rel (VarDef.Alike κ) (l.seek a (findVar? name))
      (r.seek b (findVar? name))
  funcs : ∀ {κ l r a b}, G.holds κ l r → G.link.same .place a b → ∀ name,
    Option.Rel (Callee.Alike κ) (l.seek a (findFunction? name))
      (r.seek b (findFunction? name))
  mods : ∀ {κ l r a b}, G.holds κ l r → G.link.Handles .modCall → G.link.same .place a b →
    ∀ name, Option.Rel (ModDef.Alike κ) (l.seek a (findModule? name))
      (r.seek b (findModule? name))
  cycles : ∀ {κ l r a b name v w}, G.holds κ l r → G.link.same .cycle a b →
    G.link.entry name → v.Alike κ w → (G.numbers → κ.Exact) →
    Option.Rel (fun xs ys => G.holds κ { l with scopes := xs } { r with scopes := ys })
      (setLoopVariable? l.scopes a name v) (setLoopVariable? r.scopes b name w)

theorem Frame.alike_new {κ : Link} {s t : ScopeId} {c d : Option FrameId} {i j : TableId}
    {n m : Nat} {x y : Option Value} (hs : κ.same .place s t)
    (hxy : Option.Rel (Value.Alike κ) x y) : Frame.Alike κ
      { scope := s, caller := c, table := i, level := n, child := x }
      { scope := t, caller := d, table := j, level := m, child := y } where
  place := hs
  child := hxy
  childFrame := .none
  childResults := .unbuilt
  token := .none
  entries := rfl
  debug := rfl
  level h := by cases h

theorem Frame.Linked.up {κ κ' : Link} [κ.Before κ'] {f g : Frame} (h : f.Linked κ g) :
    f.Linked κ' g where
  toAlike := h.toAlike.up
  caller := h.caller.imp fun _ _ => Or.imp (·.up) (·.up)
  table := h.table.up

theorem Slots.Alike.up {κ κ' : Link} [κ.Before κ'] {s t : Slots} (h : s.Alike κ t) :
    s.Alike κ' t where
  named := h.named.imp fun _ _ h => ⟨h.name, h.slot.up⟩
  keyed := h.keyed.imp fun _ _ => KeyRel.up

theorem slotRel_iff {κ : Link} (a b : String × Slot) :
    SlotRel κ a b ↔ a.1 = b.1 ∧ a.2.Alike κ b.2 :=
  ⟨fun h => ⟨h.name, h.slot⟩, fun h => ⟨h.1, h.2⟩⟩

namespace Ground

variable {G : Ground} {D D' : Pairs} {κ κ' : Link} {l r : World}

theorem Agrees.up (L : G.Lawful) [κ.Before κ'] (h : G.Agrees D κ l r) : G.Agrees D κ' l r :=
  { h with
    lists := h.lists.imp fun _ _ => Values.Alike.up
    nodes := h.nodes.imp fun _ _ => NodeCell.Alike.up
    streams := h.streams.imp fun _ _ => Stream.Alike.up
    frames := h.frames.imp fun _ _ => Frame.Linked.up
    tables := h.tables.imp fun _ _ => Slots.Alike.up
    ground := L.up h.ground }

/-- If both runs give the same numbers, then what is alike is equal. -/
theorem Agrees.exact (L : G.Lawful) (h : G.Agrees D (G.link.grow D) l r) (hn : G.numbers) :
    (G.link.grow D).Exact := by
  obtain ⟨E, le⟩ := L.exactly hn h.ground
  exact { E with
    same := fun {k a b} hk => by
      refine ⟨fun hs => ?_, fun he => le.same k a b ((E.same hk).2 he)⟩
      cases k with
      | list => exact (h.lists.numbered hn).eq a b hs
      | node => exact (h.nodes.numbered hn).eq a b hs
      | ident => exact (h.idents.2 hn).eq a b hs
      | stream => exact (h.streams.numbered hn).eq a b hs
      | scope | work | place | decl | cycle => exact (E.same hk).1 hs
      | _ => cases hk }

theorem Agrees.holds (L : G.Lawful) (h : G.Agrees D κ l r) : G.holds κ l r :=
  L.spared h.ground (.of_core l) (.of_core r)

theorem Agrees.agree (h : G.Agrees D (G.link.grow D) l r) :
    G.correspondence.agree (G.link.grow D) l r :=
  ⟨D, rfl, h⟩

open Correspondence

namespace Lawful

variable (L : G.Lawful) {vs ws : List Value} {c d : Nat} {name : String}

include L

/-! ## New cells -/

theorem sim_grow {α : Type} {A : Link → α → α → Prop} {f g : World → α × World}
    (h : ∀ D l r, G.Agrees D (G.link.grow D) l r → κ = G.link.grow D → ∃ D', D ≤ D' ∧
      (∀ [κ.Before (G.link.grow D')], A (G.link.grow D') (f l).1 (g r).1 ∧
        (G.Agrees D (G.link.grow D') l r → G.Agrees D' (G.link.grow D') (f l).2 (g r).2))) :
    G.correspondence.Sim κ A (modifyGet f) (modifyGet g) := by
  refine .modifyGet fun l r hw => ?_
  obtain ⟨D, rfl, hw⟩ := hw
  obtain ⟨D', le, h'⟩ := h D l r hw rfl
  have next : (G.link.grow D).Before (G.link.grow D') := ⟨Link.grow_le le⟩
  obtain ⟨ha, hw'⟩ := h'
  exact ⟨trivial, G.link.grow D', next.le, ⟨D', rfl, hw' (hw.up L)⟩, ha⟩

theorem sim_newIdent : G.correspondence.Sim κ (fun κ' => κ'.same .ident) newIdent newIdent := by
  refine L.sim_grow fun D l r hw _ =>
    ⟨Function.update D .ident (withPair (D .ident) l.fresh r.fresh),
      le_update_self_iff.2 fun _ _ => .inl, ⟨.inr ⟨rfl, rfl⟩, fun hw' => ?_⟩⟩
  exact { hw' with
    unique := { hw.unique with ident := hw.unique.ident.withPair hw.idents.1 }
    idents := hw.idents.imp Aligned.withPair fun h hn => (h hn).withPair }

theorem sim_newList (h : Values.Alike κ vs ws) :
    G.correspondence.Alike κ (newList vs) (newList ws) := by
  refine L.sim_grow fun D l r hw _ =>
    ⟨Function.update D .list (withPair (D .list) l.lists.size r.lists.size),
      le_update_self_iff.2 fun _ _ => .inl,
      ⟨.list (.inr ⟨rfl, rfl⟩), fun hw' => ?_⟩⟩
  exact { hw' with
    unique := { hw.unique with list := hw.unique.list.withPair hw.lists.aligned }
    lists := hw'.lists.push h.up }

theorem sim_newNode {c d : NodeCell} (h : NodeCell.Alike κ c d) :
    G.correspondence.Alike κ (newNode c) (newNode d) := by
  refine L.sim_grow fun D l r hw _ =>
    ⟨Function.update D .node (withPair (D .node) l.nodes.size r.nodes.size),
      le_update_self_iff.2 fun _ _ => .inl,
      ⟨.node (.inr ⟨rfl, rfl⟩), fun hw' => ?_⟩⟩
  exact { hw' with
    unique := { hw.unique with node := hw.unique.node.withPair hw.nodes.aligned }
    nodes := hw'.nodes.push h.up }

theorem sim_newStream {a b : Nat} (h : κ.same .frame a b) :
    G.correspondence.Alike κ (newStream a) (newStream b) := by
  refine L.sim_grow fun D l r hw _ =>
    ⟨Function.update D .stream (withPair (D .stream) l.streams.size r.streams.size),
      le_update_self_iff.2 fun _ _ => .inl,
      ⟨.pending (.inr ⟨rfl, rfl⟩), fun hw' => ?_⟩⟩
  exact { hw' with
    unique := { hw.unique with stream := hw.unique.stream.withPair hw.streams.aligned }
    streams := hw'.streams.push (.waiting h.up) }

theorem sim_newFrame {s t : Nat} (hs : κ.same .place s t)
    (hc : κ.same .frame c d ∨ κ.same .origin c d) :
    G.correspondence.Sim κ (fun κ' e f => κ'.same .frame e f ∧ κ'.same .own e f ∧
      (κ.same .work s t → κ'.same .builder e f)) (newFrame s c) (newFrame t d) := by
  refine L.sim_grow (f := fun w => (w.frames.size,
      { w with
        frames := w.frames.push
          { scope := s, caller := some c, table := w.tables.size,
            level := (w.frames.getD c default).level }
        tables := w.tables.push {} }))
    (g := fun w => (w.frames.size,
      { w with
        frames := w.frames.push
          { scope := t, caller := some d, table := w.tables.size,
            level := (w.frames.getD d default).level }
        tables := w.tables.push {} })) fun D l r hw hκ => ?_
  obtain ⟨⟨hlf, hrf⟩, hlt, hrt⟩ := L.sizes hw.ground
  have hst : G.link.same .place s t := by
    subst hκ
    exact hs
  refine ⟨D.entered (withPair (D .table) l.tables.size r.tables.size) (G.link.same .work s t) True
    l.frames.size r.frames.size, D.le_entered fun _ _ => .inl,
      ⟨⟨.inr ⟨rfl, rfl⟩, .inr ⟨rfl, rfl⟩, fun h => ?_⟩,
        fun hw' => ?_⟩⟩
  · subst hκ
    exact .inr ⟨h, rfl, rfl⟩
  · exact { hw' with
      unique := { hw.unique with
        frame := hw.unique.frame.withPair hw.frames.aligned
        table := hw.unique.table.withPair hw.tables.aligned }
      numbered := fun hn => (hw.numbered hn).push _ _
      newFrames := above_withPair hw.newFrames hlf hrf
      newTables := above_withPair hw.newTables hlt hrt
      frames := hw'.frames.push
        { toAlike := Frame.alike_new hst .none
          caller := .some (hc.imp (·.up) (·.up))
          table := .inr ⟨rfl, rfl⟩ }
      tables := hw'.tables.push ⟨.nil, .nil⟩
      builders := hw'.builders.pushIf id
      loops := hw'.loops.pushIf fun _ _ _ h => by cases h
      opened := fun ho a b h => by
        rcases h with h | ⟨rfl, rfl⟩
        · exact (hw.opened ho a b h).imp .inl .inl
        · exact ⟨.inr ⟨L.opens_work ho hst, rfl, rfl⟩, .inr ⟨trivial, rfl, rfl⟩⟩
      current := hw.current.imp fun _ _ => .inl
      ground := L.spared hw'.ground (.push hlf hlt _ (some {})) (.push hrf hrt _ (some {})) }

theorem sim_sharedFrame {x y : Option ScopeId} (hc : κ.same .frame c d)
    (hxy : Option.Rel (κ.same .scope) x y) :
    G.correspondence.Sim κ (fun κ' e f => κ'.same .frame e f ∧
      ((∀ a b, x = some a → y = some b → κ.same .cycle a b) → κ'.same .loop e f))
      (sharedFrame c (x.map Value.scope)) (sharedFrame d (y.map Value.scope)) := by
  refine L.sim_grow (f := fun w => (w.frames.size,
      { w with
        frames := w.frames.push
          { scope := (w.frames.getD c default).scope, caller := some c,
            table := (w.frames.getD c default).table, level := (w.frames.getD c default).level,
            child := x.map Value.scope } }))
    (g := fun w => (w.frames.size,
      { w with
        frames := w.frames.push
          { scope := (w.frames.getD d default).scope, caller := some d,
            table := (w.frames.getD d default).table, level := (w.frames.getD d default).level,
            child := y.map Value.scope } })) fun D l r hw hκ => ?_
  subst hκ
  have hcd := hw.frames.getD hc default
  obtain ⟨⟨hlf, hrf⟩, hlt, hrt⟩ := L.sizes hw.ground
  -- A loop runs over the child only; without one there is nothing to ask.
  have hcycle : (∀ a b, x = some a → y = some b → G.link.same .cycle a b) → ∀ a b,
      x.map Value.scope = some (.scope a) → y.map Value.scope = some (.scope b) →
      G.link.same .cycle a b := by
    intro h a b ha hb
    cases hxy with
    | none => cases ha
    | some _ =>
      cases ha
      cases hb
      exact h _ _ rfl rfl
  refine ⟨D.entered (D .table) (D .builder c d)
    (∀ a b, x = some a → y = some b → G.link.same .cycle a b) l.frames.size r.frames.size,
    D.le_entered le_rfl,
    ⟨⟨.inr ⟨rfl, rfl⟩, fun h => .inr ⟨h, rfl, rfl⟩⟩, fun hw' => ?_⟩⟩
  exact { hw' with
    unique := { hw.unique with frame := hw.unique.frame.withPair hw.frames.aligned }
    numbered := fun hn => (hw.numbered hn).push _ _
    newFrames := above_withPair hw.newFrames hlf hrf
    frames := hw'.frames.push
      { toAlike := Frame.alike_new hcd.place <| by
          cases hxy with
          | none => exact .none
          | some h => exact .some (.scope h)
        caller := .some (.inl hc.up)
        table := hcd.table }
    builders := hw'.builders.pushIf fun h => hw.builders.getD h default
    loops := hw'.loops.pushIf hcycle
    opened := fun ho a b h => by
      rcases h with h | ⟨rfl, rfl⟩
      · exact (hw.opened ho a b h).imp .inl .inl
      · refine ⟨.inr ⟨(hw.opened ho c d hc).1, rfl, rfl⟩, .inr ⟨fun a b ha hb => ?_, rfl, rfl⟩⟩
        cases hxy with
        | none => cases ha
        | some h =>
          cases ha
          cases hb
          exact L.opens_cycle ho h
    current := hw.current.imp fun _ _ => .inl
    ground := L.spared hw'.ground (.push hlf hlt _ none) (.push hrf hrt _ none) }

omit L

/-! ## Changes -/

theorem sim_change {f g : World → World}
    (h : ∀ D l r, G.Agrees D κ l r → κ = G.link.grow D → G.Agrees D κ (f l) (g r)) :
    G.correspondence.Same κ (modify f) (modify g) := by
  intro l r hw
  obtain ⟨D, rfl, hw⟩ := hw
  exact .ok le_rfl trivial (h D l r hw rfl).agree rfl

theorem sim_print (text : Text) : G.correspondence.Same κ (print text) (print text) :=
  sim_change fun _ _ _ hw _ =>
    { hw with said := ⟨congrArg (·.push text) hw.said.1, hw.said.2⟩ }

theorem sim_warn (text : String) : G.correspondence.Same κ (warn text) (warn text) :=
  sim_change fun _ _ _ hw _ =>
    { hw with said := ⟨hw.said.1, congrArg (·.push text) hw.said.2⟩ }

theorem sim_setCurrent {c d : Option FrameId} (h : Option.Rel (κ.same .current) c d) :
    G.correspondence.Same κ (modify fun w : World => { w with current := c })
      (modify fun w : World => { w with current := d }) := by
  refine sim_change fun D l r hw hκ => ?_
  subst hκ
  exact { hw with current := h }

variable {a b : Nat}

theorem sim_setList (h : κ.same .list a b) (hv : Values.Alike κ vs ws) :
    G.correspondence.Same κ (setList a vs) (setList b ws) := by
  refine sim_change fun D l r hw hκ => ?_
  subst hκ
  exact { hw with lists := hw.lists.set (fun a' b' => hw.unique.list a b a' b' h) hv }

theorem sim_setStream {s t : Stream} (h : κ.same .stream a b) (hs : s.Alike κ t) :
    G.correspondence.Same κ (setStream a s) (setStream b t) := by
  refine sim_change fun D l r hw hκ => ?_
  subst hκ
  exact { hw with streams := hw.streams.set (fun a' b' => hw.unique.stream a b a' b' h) hs }

theorem sim_setNodeChildren (h : κ.same .node a b) (hv : Values.Alike κ vs ws) :
    G.correspondence.Same κ (setNodeChildren a vs) (setNodeChildren b ws) := by
  refine Sim.get.bind @fun κ' l r _ hw => ?_
  have hn : NodeCell.Alike κ' (l.nodes.getD a default) (r.nodes.getD b default) := by
    obtain ⟨D, rfl, hw⟩ := hw
    exact hw.nodes.alike a b (show (G.link.grow D).same .node a b from h.up)
  generalize l.nodes.getD a default = x at hn ⊢
  generalize r.nodes.getD b default = y at hn ⊢
  cases hn with
  | leaf => exact .pure rfl
  | inner hr _ =>
    refine sim_change fun D l r hw hκ => ?_
    subst hκ
    have hab : (G.link.grow D).same .node a b := h.up
    exact { hw with
      nodes := hw.nodes.set (fun a' b' => hw.unique.node a b a' b' hab) (.inner hr hv.up) }

section

variable (L : G.Lawful)

include L

theorem sim_modifyFrame {f g : Frame → Frame} (hf : Frame.Keeps f) (hg : Frame.Keeps g)
    (h : κ.same .frame a b) (hfg : ∀ x y, Frame.Alike κ x y → Frame.Alike κ (f x) (g y)) :
    G.correspondence.Same κ (modifyFrame a f) (modifyFrame b g) := by
  refine sim_change fun D l r hw hκ => ?_
  subst hκ
  have frames := hw.frames.modify (f := f) (g := g) (fun a' b' => hw.unique.frame a b a' b' h)
    fun x y hxy =>
      { toAlike := hfg x y hxy.toAlike
        caller := by
          rw [hf.caller, hg.caller]
          exact hxy.caller
        table := by
          rw [hf.table, hg.table]
          exact hxy.table }
  have builders := hw.builders.modify_of_keeps (f := f) (g := g) (a := a) (b := b)
    (fun x y hxy => (hf.scope x).symm ▸ hxy) fun x y hxy => (hg.scope y).symm ▸ hxy
  have loops := hw.loops.modify_of_keeps (f := f) (g := g) (a := a) (b := b)
    (fun x y hxy => (hf.child x).symm ▸ hxy) fun x y hxy => (hg.child y).symm ▸ hxy
  obtain ⟨ha, hb⟩ := hw.newFrames a b h
  exact { hw with
    numbered := by
      rw [size_modify, size_modify]
      exact hw.numbered
    frames := frames
    builders := builders
    loops := loops
    ground := L.spared hw.ground (.modifyFrame ha _ f) (.modifyFrame hb _ g) }

section

variable (h : κ.same .frame a b)

include h

theorem sim_modifySlots {f g : Slots → Slots}
    (hfg : ∀ s t, Slots.Alike κ s t → Slots.Alike κ (f s) (g t)) :
    G.correspondence.Same κ (modifySlots a f) (modifySlots b g) := by
  intro l r hw
  obtain ⟨D, rfl, hw⟩ := hw
  have ht := (hw.frames.getD h default).table
  have tables := hw.tables.modify (fun a' b' => hw.unique.table _ _ a' b' ht) hfg
  obtain ⟨ha, hb⟩ := hw.newTables _ _ ht
  refine .ok le_rfl trivial (Agrees.agree (D := D) ?_) rfl
  exact { hw with
    tables := tables
    ground := L.spared hw.ground (.modifyTable ha _ f) (.modifyTable hb _ g) }

theorem sim_setSlot {s t : Slot} (hs : s.Alike κ t) :
    G.correspondence.Same κ (setSlot a name s) (setSlot b name t) :=
  L.sim_modifySlots h fun _ _ hst =>
    { hst with named := Table.put_rel slotRel_iff hst.named name hs }

theorem sim_clearSlot :
    G.correspondence.Same κ (clearSlot a name) (clearSlot b name) :=
  L.sim_modifySlots h fun _ _ hst =>
    { hst with named := Table.remove_rel slotRel_iff hst.named name }

theorem sim_setKeyed {ks ks' : List (Value × Slot)}
    (hk : List.Forall₂ (KeyRel κ) ks ks') :
    G.correspondence.Same κ (modifySlots a fun t => { t with keyed := ks })
      (modifySlots b fun t => { t with keyed := ks' }) :=
  L.sim_modifySlots h fun _ _ hst => { hst with keyed := hk }

end

theorem sim_setVariable {m n : Eval.Loop} {v w : Value}
    (h : κ.same .cycle m.body n.body) (hn : κ.entry name) (hv : v.Alike κ w) :
    G.correspondence.Same κ (m.setVariable name v) (n.setVariable name w) := by
  intro l r hw
  obtain ⟨D, rfl, hw⟩ := hw
  have hc : Option.Rel (fun xs ys => G.holds _ { l.core with scopes := xs }
      { r.core with scopes := ys }) (setLoopVariable? l.scopes m.body name v)
      (setLoopVariable? r.scopes n.body name w) :=
    L.cycles (l := l.core) (r := r.core) hw.ground h hn hv (hw.exact L)
  generalize hx : setLoopVariable? l.scopes m.body name v = x at hc
  generalize hy : setLoopVariable? r.scopes n.body name w = y at hc
  cases hc with
  | none =>
    rw [Eval.Loop.setVariable_of_none hx, Eval.Loop.setVariable_of_none hy]
    exact .error le_rfl trivial hw.agree (.plain rfl)
  | some hs =>
    rw [Eval.Loop.setVariable_of_some hx, Eval.Loop.setVariable_of_some hy]
    refine .ok le_rfl trivial (Agrees.agree (D := D) ?_) rfl
    exact { hw with ground := hs }

end

end Lawful

/-! ## All laws -/

theorem Lawful.changes (L : G.Lawful) : G.correspondence.Changes where
  unique := by
    rintro κ l r a b a' b' ⟨D, rfl, hw⟩ h h'
    exact hw.unique.frame a b a' b' h h'
  current_of_frame := by
    rintro κ l r a b ⟨D, rfl, -⟩ h
    exact h
  frames := by
    rintro κ l r a b ⟨D, rfl, hw⟩ h
    exact (hw.frames.getD h default).toAlike
  current := by
    rintro κ l r ⟨D, rfl, hw⟩
    exact hw.current
  modifyFrame := L.sim_modifyFrame
  setCurrent := sim_setCurrent
  setSlot h _ hs := L.sim_setSlot h hs
  clearSlot h _ := L.sim_clearSlot h

theorem Lawful.correspondence (L : G.Lawful) : G.correspondence.Lawful where
  unique := by
    rintro κ l r k a b a' b' ⟨D, rfl, hw⟩ hk h h'
    cases k with
    | list => exact hw.unique.list a b a' b' h h'
    | node => exact hw.unique.node a b a' b' h h'
    | ident => exact hw.unique.ident a b a' b' h h'
    | stream => exact hw.unique.stream a b a' b' h h'
    | frame => exact hw.unique.frame a b a' b' h h'
    | scope => exact L.unique a b a' b' h h'
    | _ => cases hk
  link := by
    rintro κ l r ⟨D, rfl, -⟩
    exact { L with }
  own_or_origin := by
    rintro κ l r a b ⟨D, rfl, -⟩ h
    exact .inl h
  asked_of_current := by
    rintro κ l r a b ⟨D, rfl, -⟩ h
    exact .inl h
  loop_of_tree := by
    rintro κ l r t a b ⟨D, rfl, hw⟩ hm ht hf h
    exact (hw.opened (L.opens_of_tree hm ht hf) a b h).2
  loop_of_rule := by
    rintro κ l r rule a b ⟨D, rfl, hw⟩ hl hr hf h
    exact (hw.opened (L.opens_of_rule hl hr hf) a b h).2
  fit_work := by
    rintro κ l r a b v ⟨D, rfl, hw⟩ h
    exact L.fit_work (hw.holds L) h
  lists := by
    rintro κ l r a b ⟨D, rfl, hw⟩ h
    exact hw.lists.alike a b h
  nodes := by
    rintro κ l r a b ⟨D, rfl, hw⟩ h
    exact hw.nodes.alike a b h
  streams := by
    rintro κ l r a b ⟨D, rfl, hw⟩ h
    exact hw.streams.alike a b h
  kinds := by
    rintro κ l r a b ⟨D, rfl, hw⟩ h
    exact L.kinds (hw.holds L) h
  works := by
    rintro κ l r a b ⟨D, rfl, hw⟩ h
    exact L.works (hw.holds L) h
  branches := by
    rintro κ l r a b ⟨D, rfl, hw⟩ hi h
    exact L.branches (hw.holds L) hi h
  vars := by
    rintro κ l r a b ⟨D, rfl, hw⟩ h
    exact L.vars (hw.holds L) h
  funcs := by
    rintro κ l r a b ⟨D, rfl, hw⟩ h
    exact L.funcs (hw.holds L) h
  mods := by
    rintro κ l r a b ⟨D, rfl, hw⟩ hm h
    exact L.mods (hw.holds L) hm h
  frames := L.changes.frames
  callers := by
    rintro κ l r a b ⟨D, rfl, hw⟩ h _
    exact (hw.frames.getD h default).caller
  named := by
    rintro κ l r a b name ⟨D, rfl, hw⟩ h
    have hab : D .frame a b := h.resolve_right fun h => h.1
    exact Table.find?_rel slotRel_iff
      (hw.tables.getD (hw.frames.getD hab default).table {}).named name
  keyed := by
    rintro κ l r a b ⟨D, rfl, hw⟩ h
    exact (hw.tables.getD (hw.frames.getD h default).table {}).keyed
  extruded := by
    rintro κ l r a b ⟨D, rfl, hw⟩ h
    exact Table.find?_rel slotRel_iff (hw.tables.getD (hw.frames.getD h default).table {}).named _
  builders := by
    rintro κ l r a b ⟨D, rfl, hw⟩ _ h
    exact hw.builders.getD h default
  loops := by
    rintro κ l r a b x y ⟨D, rfl, hw⟩ _ h
    exact hw.loops.getD h default x y
  current := L.changes.current
  tracer := by
    rintro κ l r ⟨D, rfl, hw⟩
    rw [hw.tracer.1, hw.tracer.2]
    exact .none
  newIdent := L.sim_newIdent
  print := sim_print
  warn := sim_warn
  newList := L.sim_newList
  setList := sim_setList
  setNodeChildren := sim_setNodeChildren
  newStream := L.sim_newStream
  setStream := sim_setStream
  newFrame := L.sim_newFrame
  sharedFrame := L.sim_sharedFrame
  modifyFrame hf hg := L.sim_modifyFrame hf.toKeeps hg.toKeeps
  setValue h _ hv := L.sim_setSlot h (.known hv)
  setKeyed h _ hk := L.sim_setKeyed h hk
  assign h _ hv := L.sim_setSlot h (.known hv)
  setVariable := L.sim_setVariable
  raised := L.changes.raised
  within := L.changes.within
  computed := L.changes.computed

/-- Every environment may be used in every way, whatever is called. -/
theorem isOpen (ho : G.opens) (hw : ∀ name, G.link.word name)
    (hl : G.link.loose) : G.correspondence.Open where
  frame := by
    rintro κ l r k a b ⟨D, rfl, h⟩ hk hab
    have hab' := h.opened ho a b hab
    simp only [List.mem_cons, List.not_mem_nil, or_false] at hk
    rcases hk with rfl | rfl | rfl | rfl
    · exact hab
    · exact hab'.1
    · exact hab'.2
    · exact hab
  word := by
    rintro κ l r ⟨D, rfl, -⟩
    exact hw
  loose := by
    rintro κ l r ⟨D, rfl, -⟩
    exact hl

/-- No environments are linked as origins only. -/
theorem reads {p q : Perform} (ho : ∀ a b, ¬G.link.same .origin a b) :
    G.correspondence.Reads p q where
  name h _ _ := Sim.withAgree fun hw => by
    obtain ⟨D, rfl, -⟩ := hw
    exact absurd h (ho _ _)
  key h _ _ := Sim.withAgree fun hw => by
    obtain ⟨D, rfl, -⟩ := hw
    exact absurd h (ho _ _)

end Ground
end Scad
