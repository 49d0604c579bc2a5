import Scad.Proofs.Correspondence.Growth
import Scad.Proofs.Correspondence.Sound
import Scad.Proofs.Loading.Lands

/-!
One statement, taken up by two programs that may have been loaded in different orders. The
cells that it makes have other numbers there, so what corresponds is said by pairs of numbers.
Of the scopes of the whole program only the parts are compared that the statement speaks of,
and all else stays as it was on both sides.
-/

namespace Scad

open Run Scope World

variable {a b : ScopeId} {x y : Holding}

/-! ## Pairs of numbers -/

/-- What a world numbers while a program is loaded. -/
inductive Store where
  | list | node | ident | scope
  deriving DecidableEq

namespace World

def count (w : World) : Store → Nat
  | .list => w.lists.size
  | .node => w.nodes.size
  | .ident => w.fresh
  | .scope => w.scopes.size

/-- What does not change while a program is loaded. -/
def still (w : World) :=
  (w.frames, w.tables, w.streams, w.current, w.tracer)

end World

/-- Numbers of what corresponds. -/
abbrev Pairing := Store → Nat → Nat → Prop

namespace Pairing

/-- Scopes correspond in everything, or not at all. -/
def link (D : Pairing) : Link where
  same k :=
    match k with
    | .list => D .list
    | .node => D .node
    | .ident => D .ident
    | .scope | .work | .place | .decl | .cycle => D .scope
    | _ => fun _ _ => False
  tree _ := True
  rule _ := True
  word _ := True
  entry _ := True
  fit _ := False
  loose := True
  misfit e := e.isAssertion = false

theorem link_le {D D' : Pairing} (h : ∀ k a b, D k a b → D' k a b) : D.link ≤ D'.link :=
  { (le_refl D.link : Link.Le _ _) with
    same := fun k a b hs => by
      cases k with
      | list | node | ident | scope | work | place | decl | cycle => exact h _ a b hs
      | _ => exact hs.elim }

theorem link_full (D : Pairing) : D.link.Full :=
  ⟨fun _ => trivial, fun _ => trivial, fun _ => trivial, trivial, fun _ h => h⟩

def insert (D : Pairing) (k : Store) (n m : Nat) : Pairing :=
  fun k' a b => D k' a b ∨ k' = k ∧ a = n ∧ b = m

instance {D : Pairing} {k : Store} {n m : Nat} : D.link.Before (D.insert k n m).link :=
  ⟨link_le fun _ _ _ => .inl⟩

end Pairing

/-! ## Cells -/

theorem Holding.Alike.up {κ κ' : Link} [κ.Before κ'] (hk : x.Alike κ y) : x.Alike κ' y := by
  cases hk with
  | var h => exact .var h.up
  | builtin f => exact .builtin f
  | func h => exact .func h.up
  | mod h => exact .mod h.up
  | work h => exact .work h.up
  | branch ht h =>
    exact .branch ht ⟨h.yes.up, h.no.imp fun _ _ h => h.up⟩

theorem Holding.Alike.part_eq {κ : Link} (hk : x.Alike κ y) (name : String) :
    x.part name = y.part name := by
  cases hk <;> rfl

/-- Scopes inside corresponding ones that agree in some of their parts. -/
structure Scope.Twin (T : Nat → Nat → Prop) (κ : Link) (P : Part → Prop) (s t : Scope) : Prop where
  kind : s.kind = t.kind
  parents : List.Forall₂ T s.parents t.parents
  parts : ∀ p, P p → Option.Rel (Holding.Alike κ) (s.holding? p) (t.holding? p)

namespace Scope

theorem hold_kind (name : String) (h : Holding) (s : Scope) : (hold name h s).kind = s.kind := by
  cases h <;> rfl

theorem hold_parents (name : String) (h : Holding) (s : Scope) :
    (hold name h s).parents = s.parents := by
  cases h <;> rfl

theorem holding?_new (kind : ScopeKind) (parents : List ScopeId) (p : Part) :
    holding? { kind := kind, parents := parents } p = none := by
  cases p <;> rfl

/-- A scope is as it was, but for some parts. -/
structure Kept (P : Part → Prop) (s t : Scope) : Prop where
  kind : t.kind = s.kind
  parents : t.parents = s.parents
  parts : ∀ p, ¬P p → t.holding? p = s.holding? p

theorem Kept.refl (P : Part → Prop) (s : Scope) : s.Kept P s := ⟨rfl, rfl, fun _ _ => rfl⟩

theorem Kept.hold {P : Part → Prop} {name : String} (hp : P (x.part name))
    (s : Scope) : s.Kept P (hold name x s) where
  kind := hold_kind name x s
  parents := hold_parents name x s
  parts p hn := by
    refine holding?_hold_ne (fun heq => hn ?_) s
    rw [heq]
    exact hp

variable {T T' : Nat → Nat → Prop} {κ κ' : Link} {P Q R P' : Part → Prop} {s t s' t' : Scope}

theorem Twin.up (hT : ∀ a b, T a b → T' a b) [κ.Before κ'] (h : Twin T κ P s t) :
    Twin T' κ' P s t where
  kind := h.kind
  parents := h.parents.imp hT
  parts p hp := (h.parts p hp).imp fun _ _ => Holding.Alike.up

theorem Twin.kept (h : Twin T κ P s t) (hs : s.Kept Q s') (ht : t.Kept R t')
    (hp : ∀ p, P' p → P p ∧ ¬Q p ∧ ¬R p) : Twin T κ P' s' t' where
  kind := by rw [hs.kind, ht.kind, h.kind]
  parents := by
    rw [hs.parents, ht.parents]
    exact h.parents
  parts p hpp := by
    obtain ⟨hP, hQ, hR⟩ := hp p hpp
    rw [hs.parts p hQ, ht.parts p hR]
    exact h.parts p hP

theorem holding?_hold_alike (name : String) (s t : Scope) (h : x.Alike κ y) :
    Option.Rel (Holding.Alike κ) ((hold name x s).holding? (x.part name))
      ((hold name y t).holding? (y.part name)) := by
  cases h with
  | work hv =>
    cases hv with
    | nil => exact .none
    | cons hv hs => exact .some (.work (.cons hv hs))
  | branch ht hb => exact .some (.branch ht hb)
  | var hd =>
    simp only [hold, holding?, Holding.part, Table.find?_put_self]
    exact .some (.var hd)
  | builtin f =>
    simp only [hold, holding?, Holding.part, Table.find?_put_self]
    exact .some (.builtin f)
  | func hv =>
    simp only [hold, holding?, Holding.part, Table.find?_put_self]
    exact .some (.func hv)
  | mod hm =>
    simp only [hold, holding?, Holding.part, Table.find?_put_self]
    exact .some (.mod hm)

theorem Twin.hold (h : Twin T κ P s t) (name : String) (hxy : x.Alike κ y) :
    Twin T κ P (hold name x s) (hold name y t) where
  kind := by rw [hold_kind, hold_kind, h.kind]
  parents := by
    rw [hold_parents, hold_parents]
    exact h.parents
  parts p hp := by
    have hpart := hxy.part_eq name
    by_cases heq : p = x.part name
    · have hxy := holding?_hold_alike name s t hxy
      rwa [← hpart, ← heq] at hxy
    · rw [holding?_hold_ne heq, holding?_hold_ne (hpart ▸ heq)]
      exact h.parts p hp

theorem Twin.has (h : Twin T κ P s t) {p : Part} (hp : P p) : s.has p = t.has p := by
  have hs := h.parts p hp
  unfold Scope.has
  generalize s.holding? p = x at hs ⊢
  generalize t.holding? p = y at hs ⊢
  cases hs <;> rfl

theorem Twin.target (h : Twin T κ P s t) (hab : T a b) :
    T (s.target a) (t.target b) := by
  have hp := h.parents
  unfold Scope.target
  rw [h.kind]
  generalize s.parents = xs at hp ⊢
  generalize t.parents = ys at hp ⊢
  cases hp with
  | nil => cases t.kind <;> exact hab
  | cons hx _ => cases t.kind <;> first | exact hab | exact hx

theorem Twin.work (h : Twin T κ P s t) (hp : P .work) : Values.Alike κ s.work t.work := by
  have hw := h.parts .work hp
  simp only [holding?] at hw
  cases hs : s.work with
  | nil =>
    cases ht : t.work with
    | nil => exact .nil
    | cons v vs =>
      rw [hs, ht] at hw
      cases hw
  | cons v vs =>
    cases ht : t.work with
    | nil =>
      rw [hs, ht] at hw
      cases hw
    | cons w ws =>
      rw [hs, ht] at hw
      cases hw with
      | some hw =>
        cases hw with
        | work hw => exact hw

end Scope

/-- Cells that hold what corresponds. The scopes of the program are compared in parts. -/
def CellAlike (κ : Link) (P : Part → Prop) (l r : World) (a b : Nat) : Store → Prop
  | .list => Values.Alike κ (l.lists.getD a []) (r.lists.getD b [])
  | .node => NodeCell.Alike κ (l.nodes.getD a default) (r.nodes.getD b default)
  | .ident => True
  | .scope => (l.scopeAt a).Twin (κ.same .scope) κ (fun p => a ≤ 2 → P p) (r.scopeAt b)

/-- A cell is as it was, but for some parts of the scopes of the program. -/
def CellKept (P : Part → Prop) (w w' : World) (a : Nat) : Store → Prop
  | .list => w'.lists.getD a [] = w.lists.getD a []
  | .node => w'.nodes.getD a default = w.nodes.getD a default
  | .ident => True
  | .scope => (w.scopeAt a).Kept (fun p => a ≤ 2 ∧ P p) (w'.scopeAt a)

section

variable {κ κ' : Link} {P Q R P' : Part → Prop} {l r l' r' w w' w'' : World} {a b : Nat} {k : Store}

theorem CellAlike.up [κ.Before κ'] (h : CellAlike κ P l r a b k) : CellAlike κ' P l r a b k := by
  cases k with
  | list => exact h.up
  | node => exact h.up
  | ident => trivial
  | scope => exact Scope.Twin.up (fun _ _ => Link.same.up) h

theorem CellAlike.kept (h : CellAlike κ P l r a b k) (hl : CellKept Q l l' a k)
    (hr : CellKept R r r' b k)
    (hp : k = .scope → ∀ p, (a ≤ 2 → P' p) → (a ≤ 2 → P p) ∧ ¬(a ≤ 2 ∧ Q p) ∧ ¬(b ≤ 2 ∧ R p)) :
    CellAlike κ P' l' r' a b k := by
  cases k with
  | list =>
    simp only [CellAlike, CellKept] at h hl hr ⊢
    rwa [hl, hr]
  | node =>
    simp only [CellAlike, CellKept] at h hl hr ⊢
    rwa [hl, hr]
  | ident => trivial
  | scope => exact Scope.Twin.kept h hl hr (hp rfl)

theorem CellAlike.of_parts (h : CellAlike κ P l r a b k) (hp : k = .scope → a ≤ 2 → ∀ p,
      Option.Rel (Holding.Alike κ) ((l.scopeAt a).holding? p) ((r.scopeAt b).holding? p)) :
    CellAlike κ P' l r a b k := by
  cases k with
  | list | node | ident => exact h
  | scope =>
    refine ⟨h.kind, h.parents, fun p _ => ?_⟩
    by_cases ha : a ≤ 2
    · exact hp rfl ha p
    · exact h.parts p fun h2 => absurd h2 ha

theorem CellKept.of_eq (hl : k = .list → w'.lists.getD a [] = w.lists.getD a [])
    (hn : k = .node → w'.nodes.getD a default = w.nodes.getD a default)
    (hs : k = .scope → w'.scopeAt a = w.scopeAt a) : CellKept P w w' a k := by
  cases k with
  | list => exact hl rfl
  | node => exact hn rfl
  | ident => trivial
  | scope =>
    rw [CellKept, hs rfl]
    exact .refl _ _

theorem CellKept.refl (P : Part → Prop) (w : World) (a : Nat) (k : Store) : CellKept P w w a k :=
  .of_eq (fun _ => rfl) (fun _ => rfl) fun _ => rfl

theorem CellKept.trans (h : CellKept P w w' a k) (h' : CellKept P w' w'' a k) :
    CellKept P w w'' a k := by
  cases k with
  | list | node => exact Eq.trans h' h
  | ident => trivial
  | scope =>
    exact ⟨h'.kind.trans h.kind, h'.parents.trans h.parents,
      fun p hp => (h'.parts p hp).trans (h.parts p hp)⟩

theorem CellKept.of_none (h : CellKept (fun _ => False) w w' a k) : CellKept P w w' a k := by
  cases k with
  | list | node | ident => exact h
  | scope => exact ⟨h.kind, h.parents, fun p _ => h.parts p fun hp => hp.2⟩

end

/-- A world has grown. Of what it had only some parts of the scopes of the program are
other than before. -/
structure World.Grows (P : Part → Prop) (w w' : World) : Prop where
  count : ∀ k, w.count k ≤ w'.count k
  cells : ∀ k a, a < w.count k → CellKept P w w' a k
  still : w'.still = w.still

structure World.Adds (k : Store) (w w' : World) : Prop where
  count : ∀ k', w'.count k' = w.count k' + if k' = k then 1 else 0
  cells : ∀ k' a, a < w.count k' → CellKept (fun _ => False) w w' a k'
  still : w'.still = w.still

namespace World

variable {P : Part → Prop} {w w' w'' : World} {k : Store}

theorem Grows.refl (P : Part → Prop) (w : World) : Grows P w w :=
  ⟨fun _ => Nat.le_refl _, fun k a _ => .refl P w a k, rfl⟩

theorem Grows.trans (h : Grows P w w') (h' : Grows P w' w'') : Grows P w w'' where
  count k := Nat.le_trans (h.count k) (h'.count k)
  cells k a ha := (h.cells k a ha).trans (h'.cells k a (Nat.lt_of_lt_of_le ha (h.count k)))
  still := h'.still.trans h.still

theorem Grows.of_none (h : Grows (fun _ => False) w w') : Grows P w w' where
  count := h.count
  cells k a ha := (h.cells k a ha).of_none
  still := h.still

theorem Adds.grows (h : Adds k w w') : Grows (fun _ => False) w w' where
  count k' := by
    rw [h.count]
    exact Nat.le_add_right _ _
  cells := h.cells
  still := h.still

/-- Nothing depends on what has been said. -/
theorem grows_said (w : World) (out : Array Text) (warnings notices : Array String) :
    Grows (fun _ => False) w { w with out := out, warnings := warnings, notices := notices } where
  count k := by cases k <;> exact Nat.le_refl _
  cells _ _ _ := .of_eq (fun _ => rfl) (fun _ => rfl) fun _ => rfl
  still := rfl

theorem adds_list (w : World) (vs : List Value) : Adds .list w
    { w with lists := w.lists.push vs } where
  count k' := by cases k' <;> simp [count]
  cells _ _ ha := .of_eq (fun h => by subst h; exact getD_push ha vs []) (fun _ => rfl) fun _ => rfl
  still := rfl

theorem adds_node (w : World) (c : NodeCell) : Adds .node w { w with nodes := w.nodes.push c } where
  count k' := by cases k' <;> simp [count]
  cells _ _ ha :=
    .of_eq (fun _ => rfl) (fun h => by subst h; exact getD_push ha c default) fun _ => rfl
  still := rfl

theorem adds_ident (w : World) : Adds .ident w { w with fresh := w.fresh + 1 } where
  count k' := by cases k' <;> simp [count]
  cells _ _ _ := .of_eq (fun _ => rfl) (fun _ => rfl) fun _ => rfl
  still := rfl

theorem adds_scope (w : World) (s : Scope) : Adds .scope w
    { w with scopes := w.scopes.push s } where
  count k' := by cases k' <;> simp [count]
  cells _ _ ha :=
    .of_eq (fun _ => rfl) (fun _ => rfl) fun h => by subst h; exact getD_push ha s default
  still := rfl

theorem scopeAt_push (w : World) (s : Scope) :
    scopeAt { w with scopes := w.scopes.push s } w.scopes.size = s := by
  simp [scopeAt, Array.getD_eq_getD_getElem?]

def taken (w : World) (a : ScopeId) (name : String) (x : Holding) : World :=
  { w with scopes := w.scopes.modify a (hold name x) }

variable {a : ScopeId} {name : String} {x : Holding}

theorem scopeAt_taken (w : World) (a a' : ScopeId) (name : String) (x : Holding) :
    (w.taken a name x).scopeAt a' =
      if a = a' ∧ a' < w.scopes.size then hold name x (w.scopeAt a') else w.scopeAt a' :=
  getD_modify w.scopes a a' _ default

theorem count_taken (w : World) (k : Store) : (w.taken a name x).count k = w.count k := by
  cases k with
  | scope => exact Array.size_modify
  | _ => rfl

theorem taken_kind (w : World) (a' : ScopeId) :
    ((w.taken a name x).scopeAt a').kind = (w.scopeAt a').kind := by
  rw [scopeAt_taken]
  split
  · exact hold_kind ..
  · rfl

theorem taken_parents (w : World) (a' : ScopeId) :
    ((w.taken a name x).scopeAt a').parents = (w.scopeAt a').parents := by
  rw [scopeAt_taken]
  split
  · exact hold_parents ..
  · rfl

theorem add_eq (w : World) (a : ScopeId) (name warning : String) (x : Holding) :
    add a name warning x w =
      (if (w.scopeAt ((w.scopeAt a).target a)).has (x.part name) then warn warning
        else modifyScope ((w.scopeAt a).target a) (hold name x)) w :=
  (bind_of_ok (declaring_eq w a)).trans rfl

/-- A new scope takes up what it likes, and those of the program only some parts. -/
theorem Grows.taken (h : Grows P w w') (hm : w.scopes.size ≤ a ∨ a ≤ 2 ∧ P (x.part name)) :
    Grows P w (w'.taken a name x) where
  count k := by
    rw [count_taken]
    exact h.count k
  cells k a' ha' := by
    cases k with
    | scope =>
      refine CellKept.trans (h.cells .scope a' ha') (k := .scope) ?_
      simp only [CellKept, scopeAt_taken]
      split
      · next heq =>
        obtain ⟨rfl, -⟩ := heq
        exact .hold (hm.resolve_left (Nat.not_le.2 ha')) _
      · exact .refl _ _
    | list => exact h.cells .list a' ha'
    | node => exact h.cells .node a' ha'
    | ident => trivial
  still := h.still

end World

/-! ## Worlds that correspond -/

/-- Loaded programs that correspond in some parts of their scopes. -/
structure Related (D : Pairing) (P : Part → Prop) (l r : World) : Prop where
  unique : ∀ k, OneToOne (D k)
  bounds : ∀ k a b, D k a b → a < l.count k ∧ b < r.count k
  program : ∀ a ≤ 2, D .scope a a
  main : (l.scopeAt 2).kind = .main ∧ (l.scopeAt 2).parents = [1, 0]
  inner : ∀ a b, D .scope a b → a ≠ 2 → (l.scopeAt a).kind ≠ .main
  cells : ∀ k a b, D k a b → CellAlike D.link P l r a b k

section

variable {D : Pairing} {P Q R S : Part → Prop} {l r l' r' : World}

theorem Related.program_eq (h : Related D P l r) (hab : D .scope a b)
    (ha : a ≤ 2) : a = b :=
  (h.unique .scope a a a b (h.program a ha) hab).1 rfl

theorem Related.program_iff (h : Related D P l r) (hab : D .scope a b) :
    a ≤ 2 ↔ b ≤ 2 := by
  constructor
  · intro ha
    rwa [h.program_eq hab ha] at ha
  · intro hb
    rwa [(h.unique .scope b b a b (h.program b hb) hab).2 rfl] at hb

/-- Programs correspond still in what neither has changed. -/
theorem Related.grow (h : Related D P l r) (hl : l.Grows Q l') (hr : r.Grows R r')
    (hp : ∀ p, S p → P p ∧ ¬Q p ∧ ¬R p) : Related D S l' r' where
  unique := h.unique
  bounds k a b hab := (h.bounds k a b hab).imp (Nat.lt_of_lt_of_le · (hl.count k))
    (Nat.lt_of_lt_of_le · (hr.count k))
  program := h.program
  main := by
    have hk : (l.scopeAt 2).Kept _ (l'.scopeAt 2) :=
      hl.cells .scope 2 (h.bounds .scope 2 2 (h.program 2 (Nat.le_refl 2))).1
    rw [hk.kind, hk.parents]
    exact h.main
  inner a b hab ha := by
    have hk : (l.scopeAt a).Kept _ (l'.scopeAt a) := hl.cells .scope a (h.bounds .scope a b hab).1
    rw [hk.kind]
    exact h.inner a b hab ha
  cells k a b hab := by
    obtain ⟨ha, hb⟩ := h.bounds k a b hab
    refine (h.cells k a b hab).kept (hl.cells k a ha) (hr.cells k b hb) ?_
    rintro rfl p hP
    refine ⟨fun h2 => (hp p (hP h2)).1, fun h2 => (hp p (hP h2.1)).2.1 h2.2, fun h2 => ?_⟩
    exact (hp p (hP ((h.program_iff hab).2 h2.1))).2.2 h2.2

end

/-! ## Two runs -/

/-- Where two runs begin: two worlds, what corresponds in them, and the parts of the scopes
of the program that may be changed. -/
structure Fork where
  left : World
  right : World
  base : Pairing
  parts : Part → Prop
  program : ∀ a ≤ 2, base .scope a a
  bounds : ∀ k a b, base k a b → a < left.count k ∧ b < right.count k

namespace Fork

/-- What both runs have made since corresponds as well. -/
structure Agrees (F : Fork) (D : Pairing) (l r : World) : Prop extends Related D F.parts l r where
  base : ∀ k a b, F.base k a b → D k a b
  fresh : ∀ k a b, D k a b → F.base k a b ∨ F.left.count k ≤ a ∧ F.right.count k ≤ b
  left : F.left.Grows F.parts l
  right : F.right.Grows F.parts r

def correspondence (F : Fork) : Correspondence where
  agree κ l r := ∃ D, κ = D.link ∧ F.Agrees D l r
  leftStops := False
  rightStops := False
  keeps _ _ := True
  keeps_refl _ := trivial
  keeps_trans _ _ := trivial

/-- New scopes may be changed, and the program's own in some parts. -/
def may (F : Fork) (a : ScopeId) (p : Part) : Prop :=
  F.left.scopes.size ≤ a ∨ a = 2 ∧ F.parts p

variable {F : Fork} {D : Pairing} {l r l' r' : World} {κ : Link} {a b : ScopeId} {p : Part}

theorem may.own (h : F.may a p) : F.left.scopes.size ≤ a ∨ a ≤ 2 ∧ F.parts p :=
  h.imp_right fun h => ⟨Nat.le_of_eq h.1, h.2⟩

theorem may.parts (h : F.may a p) (ha : a ≤ 2) : F.parts p := by
  have h3 : 2 < F.left.scopes.size := (F.bounds .scope 2 2 (F.program 2 (Nat.le_refl 2))).1
  rcases h with h | h
  · exact absurd (Nat.lt_of_lt_of_le h3 (Nat.le_trans h ha)) (Nat.lt_irrefl 2)
  · exact h.2

namespace Agrees

section

variable (h : F.Agrees D l r)

include h

theorem grow (hl : l.Grows (fun _ => False) l')
    (hr : r.Grows (fun _ => False) r') : F.Agrees D l' r' where
  toRelated := h.toRelated.grow hl hr fun _ hp => ⟨hp, id, id⟩
  base := h.base
  fresh := h.fresh
  left := h.left.trans hl.of_none
  right := h.right.trans hr.of_none

theorem insert {k : Store} (hl : l.Adds k l') (hr : r.Adds k r')
    (hc : CellAlike (D.insert k (l.count k) (r.count k)).link F.parts l' r' (l.count k)
      (r.count k) k) (hk : k = .scope → (l'.scopeAt (l.count k)).kind ≠ .main) :
    F.Agrees (D.insert k (l.count k) (r.count k)) l' r' where
  unique k' := by
    rintro a b a' b' (h1 | ⟨hk1, ha, hb⟩) (h₂ | ⟨hk2, ha', hb'⟩)
    · exact h.unique k' a b a' b' h1 h₂
    · subst hk2
      have := h.bounds k' a b h1
      omega
    · subst hk1
      have := h.bounds k' a' b' h₂
      omega
    · exact iff_of_true (ha.trans ha'.symm) (hb.trans hb'.symm)
  bounds k' a b := by
    rw [hl.count, hr.count]
    rintro (hab | ⟨rfl, rfl, rfl⟩)
    · have := h.bounds k' a b hab
      omega
    · simp
  program a ha := .inl (h.program a ha)
  main := (h.grow hl.grows hr.grows).main
  inner a b hab ha := by
    rcases hab with hab | ⟨rfl, rfl, rfl⟩
    · exact (h.grow hl.grows hr.grows).inner a b hab ha
    · exact hk rfl
  cells k' a b := by
    rintro (hab | ⟨rfl, rfl, rfl⟩)
    · exact ((h.grow hl.grows hr.grows).cells k' a b hab).up
    · exact hc
  base k' a b hab := .inl (h.base k' a b hab)
  fresh k' a b := by
    rintro (hab | ⟨rfl, rfl, rfl⟩)
    · exact h.fresh k' a b hab
    · exact .inr ⟨h.left.count k', h.right.count k'⟩
  left := (h.grow hl.grows hr.grows).left
  right := (h.grow hl.grows hr.grows).right

theorem new_right (hab : D .scope a b) (ha : F.left.scopes.size ≤ a) :
    F.right.scopes.size ≤ b := by
  rcases h.fresh .scope a b hab with hb | hb
  · exact absurd (F.bounds .scope a b hb).1 (Nat.not_lt.2 ha)
  · exact hb.2

theorem twin (hab : D .scope a b) :
    (l.scopeAt a).Twin (D .scope) D.link (fun p => a ≤ 2 → F.parts p) (r.scopeAt b) :=
  h.cells .scope a b hab

/-- What takes up a declaration in a scope that may be changed may be changed. -/
theorem target_own (hab : D .scope a b) (hm : F.may a p) :
    F.left.scopes.size ≤ (l.scopeAt a).target a ∨ (l.scopeAt a).target a ≤ 2 ∧ F.parts p := by
  rcases hm with ha | ⟨rfl, hp⟩
  · have ha2 : a ≠ 2 := by
      rintro rfl
      exact absurd (F.bounds .scope 2 2 (F.program 2 (Nat.le_refl 2))).1 (Nat.not_lt.2 ha)
    rw [target_of_ne (h.inner a b hab ha2)]
    exact .inl ha
  · refine .inr ⟨?_, hp⟩
    unfold target
    rw [h.main.1, h.main.2]
    exact Nat.le_succ 1

theorem taken (name : String) (hab : D .scope a b)
    (hm : F.left.scopes.size ≤ a ∨ a ≤ 2 ∧ F.parts (x.part name))
    (hxy : x.Alike D.link y) : F.Agrees D (l.taken a name x) (r.taken b name y) where
  unique := h.unique
  bounds k a' b' := by
    rw [count_taken, count_taken]
    exact h.bounds k a' b'
  program := h.program
  main := by
    rw [taken_kind, taken_parents]
    exact h.main
  inner a' b' hab' ha' := by
    rw [taken_kind]
    exact h.inner a' b' hab' ha'
  cells k a' b' hab' := by
    cases k with
    | scope =>
      obtain ⟨ha, hb⟩ := h.bounds .scope a' b' hab'
      have ht := h.twin hab'
      simp only [CellAlike, scopeAt_taken]
      by_cases heq : a = a'
      · rw [if_pos ⟨heq, ha⟩, if_pos ⟨(h.unique .scope a b a' b' hab hab').1 heq, hb⟩]
        exact ht.hold name hxy
      · rw [if_neg fun hc => heq hc.1,
          if_neg fun hc => heq ((h.unique .scope a b a' b' hab hab').2 hc.1)]
        exact ht
    | list => exact h.cells .list a' b' hab'
    | node => exact h.cells .node a' b' hab'
    | ident => trivial
  base := h.base
  fresh := h.fresh
  left := h.left.taken hm
  right := by
    refine h.right.taken (hm.imp (h.new_right hab) fun hp => ?_)
    exact ⟨(h.program_iff hab).1 hp.1, hxy.part_eq name ▸ hp.2⟩

theorem agree : F.correspondence.agree D.link l r := ⟨D, rfl, h⟩

end

end Agrees

/-! ## The laws of loading -/

open Correspondence

theorem sim_new {α : Type} {A : Link → α → α → Prop} {k : Store} {f g : World → α × World}
    (hf : ∀ w, World.Adds k w (f w).2) (hg : ∀ w, World.Adds k w (g w).2)
    (h : ∀ D l r, F.Agrees D l r → κ = D.link →
      A (D.insert k (l.count k) (r.count k)).link (f l).1 (g r).1 ∧
      CellAlike (D.insert k (l.count k) (r.count k)).link F.parts (f l).2 (g r).2 (l.count k)
        (r.count k) k ∧ (k = .scope → ((f l).2.scopeAt (l.count k)).kind ≠ .main)) :
    F.correspondence.Sim κ A (modifyGet f) (modifyGet g) := by
  refine .modifyGet fun l r hw => ⟨trivial, ?_⟩
  obtain ⟨D, rfl, hw⟩ := hw
  obtain ⟨ha, hc, hk⟩ := h D l r hw rfl
  exact ⟨_, Link.Before.le, (hw.insert (hf l) (hg r) hc hk).agree, ha⟩

theorem sim_warn (text : String) : F.correspondence.Same κ (warn text) (warn text) := by
  rintro l r ⟨D, rfl, hw⟩
  exact .ok le_rfl trivial (hw.grow (l.grows_said ..) (r.grows_said ..)).agree rfl

theorem sim_taken (name : String) (hab : κ.same .decl a b)
    (hm : F.left.scopes.size ≤ a ∨ a ≤ 2 ∧ F.parts (x.part name))
    (hxy : x.Alike κ y) : F.correspondence.Same κ
      (modifyScope a (hold name x)) (modifyScope b (hold name y)) := by
  rintro l r ⟨D, rfl, hw⟩
  exact .ok le_rfl trivial (hw.taken name hab hm hxy).agree rfl

theorem loads (F : Fork) : F.correspondence.Loads F.may where
  full := by
    rintro κ l r ⟨D, rfl, -⟩
    exact D.link_full
  newNode {κ c d} h := by
    refine sim_new (k := .node) (fun w => w.adds_node c) (fun w => w.adds_node d) ?_
    rintro D l r hw rfl
    refine ⟨.node (.inr ⟨rfl, rfl, rfl⟩), ?_, fun h => by cases h⟩
    simp [CellAlike, count, Array.getD_eq_getD_getElem?]
    exact h.up
  roles := by
    rintro κ l r a b ⟨D, rfl, -⟩ h
    exact ⟨h, h, h, h⟩
  has := by
    rintro κ l r a b p ⟨D, rfl, hw⟩ h hm
    exact (hw.twin h).has hm.parts
  lists := by
    rintro κ l r a b ⟨D, rfl, hw⟩ h
    exact hw.cells .list a b h
  warn := sim_warn
  notice text := by
    rintro l r ⟨D, rfl, hw⟩
    exact .ok le_rfl trivial (hw.grow (l.grows_said ..) (r.grows_said ..)).agree rfl
  newIdent := by
    refine sim_new (k := .ident) adds_ident adds_ident ?_
    rintro D l r hw rfl
    exact ⟨.inr ⟨rfl, rfl, rfl⟩, trivial, fun h => by cases h⟩
  newList {κ vs ws} h := by
    refine sim_new (k := .list) (fun w => w.adds_list vs) (fun w => w.adds_list ws) ?_
    rintro D l r hw rfl
    refine ⟨.list (.inr ⟨rfl, rfl, rfl⟩), ?_, fun h => by cases h⟩
    simp [CellAlike, count, Array.getD_eq_getD_getElem?]
    exact h.up
  innerScope {κ a b kind} hk h := by
    refine sim_new (k := .scope)
      (f := fun w => (w.scopes.size, { w with
        scopes := w.scopes.push { kind := kind, parents := a :: (w.scopeAt a).parents } }))
      (g := fun w => (w.scopes.size, { w with
        scopes := w.scopes.push { kind := kind, parents := b :: (w.scopeAt b).parents } }))
      (fun w => w.adds_scope _) (fun w => w.adds_scope _) ?_
    rintro D l r hw rfl
    refine ⟨⟨.inr ⟨rfl, rfl, rfl⟩, fun p => .inl (hw.left.count .scope)⟩, ?_, fun _ => ?_⟩
    · simp only [CellAlike, count, scopeAt_push]
      exact ⟨rfl, .cons (.inl h) ((hw.twin h).parents.imp fun _ _ => .inl), fun p _ => by
        rw [holding?_new, holding?_new]
        exact .none⟩
    · simp only [count, scopeAt_push]
      exact hk
  add {κ a b x y} name warning h hm hxy := by
    rintro l r ⟨D, rfl, hw⟩
    have hto := (hw.twin h).target h
    have hown := hw.target_own h hm
    have hhas := (hw.twin hto).has (p := x.part name) fun h2 =>
      hown.elim (fun h3 => may.parts (.inl h3) h2) And.right
    rw [add_eq, add_eq, ← hxy.part_eq name, ← hhas]
    split
    · exact sim_warn warning l r hw.agree
    · exact sim_taken name hto hown hxy l r hw.agree
  addWork {κ a b v w} h hm hv := by
    rintro l r ⟨D, rfl, hw⟩
    have hwork := (hw.twin h).work hm.parts
    have hl : l.scopes.modify a (fun s => { s with work := s.work ++ [v] }) =
        l.scopes.modify a (hold "" (.work ((l.scopeAt a).work ++ [v]))) :=
      modify_congr (d := default) rfl
    have hr : r.scopes.modify b (fun s => { s with work := s.work ++ [w] }) =
        r.scopes.modify b (hold "" (.work ((r.scopeAt b).work ++ [w]))) :=
      modify_congr (d := default) rfl
    change F.correspondence.Outcome _ _ _ (.ok () { l with scopes := _ })
      (.ok () { r with scopes := _ })
    rw [hl, hr]
    exact .ok le_rfl trivial (hw.taken "" (x := .work _) h hm.own
      (.work (List.rel_append hwork (.cons hv .nil)))).agree rfl
  setBranch h hm hxy := sim_taken "" h hm.own hxy

end Fork

/-! ## Statements in a row -/

namespace Related

open Declare (declareWith each)

variable {D : Pairing} {P Q R : Part → Prop} {l r l' w l1 l2 : World} {fuel : Nat} {s t : Tree}
  {v v' : Value}

/-- Where two runs begin in worlds that correspond. -/
def fork (h : Related D P l r) : Fork := ⟨l, r, D, P, h.program, h.bounds⟩

/-- A statement that one program takes up, the other takes up, too. -/
theorem run (h : Related D P l r) (hp : ∀ p ∈ t.parts, P p)
    (hl : declareWith fuel 2 t l = .ok v l') :
    ∃ u r' D', declareWith fuel 2 t r = .ok u r' ∧ h.fork.Agrees D' l' r' := by
  have hbegin : h.fork.Agrees D l r :=
    ⟨h, fun _ _ _ h => h, fun _ _ _ => .inl, .refl P l, .refl P r⟩
  have ho := h.fork.loads.sim_declareWith fuel (t := t) (h.program 2 (Nat.le_refl 2))
    (fun p hpt => .inr ⟨rfl, hp p hpt⟩) l r hbegin.agree
  rw [hl] at ho
  generalize hr : declareWith fuel 2 t r = y at ho
  cases ho with
  | right h => exact h.elim
  | ok _ _ hw _ =>
    obtain ⟨D', rfl, hw⟩ := hw
    exact ⟨_, _, D', rfl, hw⟩

/-- What two runs have made on both sides, each in a part of its own. -/
theorem join {r1 r2 : World} {D1 D2 : Pairing} (h : Related D (fun _ => True) w w)
    (hd : ∀ p, P p → ¬Q p) {g1 : Related D P w r1} {g2 : Related D Q l1 w}
    (h1 : g1.fork.Agrees D1 l1 r2) (h₂ : g2.fork.Agrees D2 l2 r1) :
    Related (fun k a b => D1 k a b ∨ D2 k a b) (fun _ => True) l2 r2 := by
  have k1 : Related D1 P l2 r2 := h1.toRelated.grow h₂.left (.refl (fun _ => False) r2)
    fun p hp => ⟨hp, hd p hp, id⟩
  have k2 : Related D2 Q l2 r2 := h₂.toRelated.grow (.refl (fun _ => False) l2) h1.right
    fun p hq => ⟨hq, id, fun hp => hd p hp hq⟩
  have k0 : Related D (fun p => ¬P p ∧ ¬Q p) l2 r2 :=
    (h.grow (S := fun p => ¬P p ∧ ¬Q p) h1.left h₂.right fun _ hp => ⟨trivial, hp.1, hp.2⟩).grow
      h₂.left h1.right fun _ hp => ⟨hp, hp.2, hp.1⟩
  have le1 : D1.link.Before <| Pairing.link fun k a b => D1 k a b ∨ D2 k a b :=
    ⟨Pairing.link_le fun _ _ _ => .inl⟩
  have : D2.link.Before <| Pairing.link fun k a b => D1 k a b ∨ D2 k a b :=
    ⟨Pairing.link_le fun _ _ _ => .inr⟩
  have : D.link.Before <| Pairing.link fun k a b => D1 k a b ∨ D2 k a b :=
    ⟨(Pairing.link_le h1.base).trans le1.le⟩
  -- A part of a scope of the program belongs to one of the runs, or is as it was.
  have hprogram (a : ScopeId) (ha : a ≤ 2) (p : Part) : Option.Rel
      (Holding.Alike (Pairing.link fun k a b => D1 k a b ∨ D2 k a b))
      ((l2.scopeAt a).holding? p) ((r2.scopeAt a).holding? p) := by
    by_cases hp : P p
    · exact ((k1.cells .scope a a (k1.program a ha)).up).parts p fun _ => hp
    · by_cases hq : Q p
      · exact ((k2.cells .scope a a (k2.program a ha)).up).parts p fun _ => hq
      · exact ((k0.cells .scope a a (k0.program a ha)).up).parts p fun _ => ⟨hp, hq⟩
  exact
    { unique := fun k a b a' b' => by
        have hcross {a b a' b' : Nat} (hab : D1 k a b) (hab' : D2 k a' b') : a = a' ↔ b = b' := by
          rcases h1.fresh k a b hab with hD | hn
          · exact h₂.unique k a b a' b' (h₂.base k a b hD) hab'
          · rcases h₂.fresh k a' b' hab' with hD | hn'
            · exact h1.unique k a b a' b' hab (h1.base k a' b' hD)
            · have hlt := (h1.bounds k a b hab).1
              have hlt' := (h₂.bounds k a' b' hab').2
              have hge : l1.count k ≤ a' := hn'.1
              have hge' : r1.count k ≤ b := hn.2
              exact iff_of_false (by omega) (by omega)
        rintro (hab | hab) (hab' | hab')
        · exact h1.unique k a b a' b' hab hab'
        · exact hcross hab hab'
        · rw [eq_comm, hcross hab' hab, eq_comm]
        · exact h₂.unique k a b a' b' hab hab'
      bounds := fun k a b => Or.rec (k1.bounds k a b) (k2.bounds k a b)
      program := fun a ha => .inl (k1.program a ha)
      main := k1.main
      inner := fun a b => Or.rec (k1.inner a b) (k2.inner a b)
      cells := fun k a b => by
        rintro (hab | hab)
        · refine ((k1.cells k a b hab).up).of_parts ?_
          rintro rfl ha p
          exact k1.program_eq hab ha ▸ hprogram a ha p
        · refine ((k2.cells k a b hab).up).of_parts ?_
          rintro rfl ha p
          exact k2.program_eq hab ha ▸ hprogram a ha p }

/-- Two statements that speak of different parts may change places. -/
theorem swap (h : Related D (fun _ => True) w w) (hd : ∀ p ∈ s.parts, p ∉ t.parts)
    (hs : declareWith fuel 2 s w = .ok v l1) (ht : declareWith fuel 2 t l1 = .ok v' l2) :
    ∃ u u' r1 r2 D', declareWith fuel 2 t w = .ok u r1 ∧ declareWith fuel 2 s r1 = .ok u' r2 ∧
      Related D' (fun _ => True) l2 r2 ∧ l2.still = w.still ∧ r2.still = w.still := by
  have none {P : Part → Prop} : ∀ p, P p → True ∧ ¬False ∧ ¬False := fun _ _ => ⟨trivial, id, id⟩
  -- What the first statement changes is known from its run alone.
  obtain ⟨_, _, _, hs', h0⟩ := (h.grow (S := (· ∈ s.parts)) (.refl _ w) (.refl _ w) none).run
    (fun _ hp => hp) hs
  have hw1 := h0.left
  obtain ⟨u, r1, D2, ht', h₂⟩ := (h.grow (S := (· ∈ t.parts)) hw1 (.refl (fun _ => False) w)
    fun p hp => ⟨trivial, fun hps => hd p hps hp, id⟩).run (fun _ hp => hp) ht
  obtain ⟨u', r2, D1, hs'', h1⟩ := (h.grow (S := (· ∈ s.parts)) (.refl (fun _ => False) w) h₂.right
    fun p hp => ⟨trivial, id, hd p hp⟩).run (fun _ hp => hp) hs
  refine ⟨u, u', r1, r2, fun k a b => D1 k a b ∨ D2 k a b, ht', hs'', ?_, ?_, ?_⟩
  · exact join h hd h1 h₂
  · exact h₂.left.still.trans hw1.still
  · exact h1.right.still.trans h₂.right.still

theorem each_run (h : Related D (fun _ => True) l r) {ts : List Tree}
    (hl : each (declareWith fuel) 2 ts l = .ok () l') :
    ∃ r' D', each (declareWith fuel) 2 ts r = .ok () r' ∧ Related D' (fun _ => True) l' r' ∧
      l'.still = l.still ∧ r'.still = r.still := by
  induction ts generalizing D l r with
  | nil =>
    cases hl
    exact ⟨r, D, rfl, h, rfl, rfl⟩
  | cons t ts ih =>
    obtain ⟨v, l1, ht, hl⟩ := bind_ok hl
    obtain ⟨u, r1, D1, ht', h1⟩ := h.run (fun _ _ => trivial) ht
    obtain ⟨r', D', hr, h', hs, hs'⟩ := ih h1.toRelated hl
    exact ⟨r', D', (bind_of_ok ht').trans hr, h', hs.trans h1.left.still,
      hs'.trans h1.right.still⟩

/-- Two statements that come one after the other in a program may change places. -/
theorem each_swap (h : Related D (fun _ => True) w w) (hd : ∀ p ∈ s.parts, p ∉ t.parts)
    {ts us : List Tree} (hl : each (declareWith fuel) 2 (ts ++ s :: t :: us) w = .ok () l) :
    ∃ r D', each (declareWith fuel) 2 (ts ++ t :: s :: us) w = .ok () r ∧
      Related D' (fun _ => True) l r ∧ l.still = w.still ∧ r.still = w.still := by
  induction ts generalizing D w with
  | nil =>
    obtain ⟨v, l1, hs, hl⟩ := bind_ok hl
    obtain ⟨v', l2, ht, hl⟩ := bind_ok hl
    obtain ⟨u, u', r1, r2, D2, ht', hs', h₂, hkl, hkr⟩ := h.swap hd hs ht
    obtain ⟨r, D', hr, h', hkl', hkr'⟩ := h₂.each_run hl
    exact ⟨r, D', (bind_of_ok ht').trans ((bind_of_ok hs').trans hr), h',
      hkl'.trans hkl, hkr'.trans hkr⟩
  | cons x ts ih =>
    obtain ⟨v, w1, hx, hl⟩ := bind_ok hl
    obtain ⟨u, w2, D1, hx', h1⟩ := h.run (fun _ _ => trivial) hx
    rw [hx] at hx'
    cases hx'
    obtain ⟨r, D', hr, h', hkl, hkr⟩ := ih h1.toRelated hl
    exact ⟨r, D', (bind_of_ok hx).trans hr, h', hkl.trans h1.left.still,
      hkr.trans h1.left.still⟩

end Related
end Scad
