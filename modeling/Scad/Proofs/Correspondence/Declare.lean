import Scad.Proofs.Correspondence.Argument
import Scad.Session.Datum

/-!
The declaration pass, in two worlds at once. A tree changes its scope in those parts only
that it has something to say about, so nothing is asked of the other parts.
-/

namespace Scad

open Declare DeclForm Run

variable {e : Fault} {i : Nat} {t : Tree} {ts : List Tree}

/-! ## Parts of a scope -/

/-- A part of a scope: what a name stands for in one of its tables, its work, or its
branches. -/
inductive Part where
  | var (name : String)
  | func (name : String)
  | mod (name : String)
  | work
  | branch
  deriving DecidableEq

/-- What a part of a scope can hold. -/
inductive Holding where
  | var (d : VarDef)
  | func (f : FuncDef)
  | mod (m : ModDef)
  | work (vs : List Value)
  | branch (x : Branch)

def Holding.part (name : String) : Holding → Part
  | var _ => .var name
  | func _ => .func name
  | mod _ => .mod name
  | work _ => .work
  | branch _ => .branch

namespace Scope

def holding? (s : Scope) : Part → Option Holding
  | .var name => (s.vars.find? name).map .var
  | .func name => (s.funcs.find? name).map .func
  | .mod name => (s.mods.find? name).map .mod
  | .work => if s.work.isEmpty then none else some (.work s.work)
  | .branch => s.branch.map .branch

def has (s : Scope) (p : Part) : Bool := (s.holding? p).isSome

def hold (name : String) (h : Holding) (s : Scope) : Scope :=
  match h with
  | .var d => { s with vars := s.vars.put name d }
  | .func f => { s with funcs := s.funcs.put name f }
  | .mod m => { s with mods := s.mods.put name m }
  | .work vs => { s with work := vs }
  | .branch x => { s with branch := some x }

theorem has_var (s : Scope) (name : String) : s.has (.var name) = s.vars.has name :=
  Option.isSome_map

theorem has_func (s : Scope) (name : String) : s.has (.func name) = s.funcs.has name :=
  Option.isSome_map

theorem has_mod (s : Scope) (name : String) : s.has (.mod name) = s.mods.has name :=
  Option.isSome_map

theorem has_work (s : Scope) : s.has .work = !s.work.isEmpty := by
  unfold has holding?
  cases s.work <;> rfl

theorem holding?_hold_ne {name : String} {h : Holding} {p : Part} (hp : p ≠ h.part name)
    (s : Scope) : (hold name h s).holding? p = s.holding? p := by
  cases h <;> cases p <;> first | rfl | exact absurd rfl hp | skip
  all_goals
    refine congrArg (Option.map _) (Table.find?_put_ne (fun heq => hp ?_) _ _)
    exact congrArg _ heq

end Scope

/-- Declare something; the first declaration stays. -/
def Run.add (id : ScopeId) (name warning : String) (h : Holding) : Run Unit := do
  let target ← declaring id
  if (← scope target).has (h.part name) then warn warning
  else modifyScope target (Scope.hold name h)

section

variable (id : ScopeId) (name : String)

theorem Run.addVar_eq (body : Value) : addVar id name body =
    add id name ("Dup assignment of variable " ++ Quoted.write name) (.var (.expr id body)) := by
  simp only [addVar, add, Holding.part, Scope.has_var]
  rfl

theorem Run.addFunc_eq (f : FuncDef) : addFunc id name f =
    add id name ("Dup assignment of function " ++ Quoted.write name) (.func f) := by
  simp only [addFunc, add, Holding.part, Scope.has_func]
  rfl

theorem Run.addMod_eq (m : ModDef) : addMod id name m =
    add id name ("Dup assignment of module " ++ Quoted.write name) (.mod m) := by
  simp only [addMod, add, Holding.part, Scope.has_mod]
  rfl

end

/-! ## What a tree declares -/

namespace DeclForm

/-- The parts of a scope that a node of some form, with some children, changes itself. -/
def parts (form : DeclForm) (ts : List Tree) : List Part :=
  match form with
  | assignment => (ts[0]?.map fun t => Part.var t.value).toList
  | stmtDeclFn => (ts[1]?.map fun t => Part.func t.value).toList
  | stmtDeclMod => (ts[1]?.map fun t => Part.mod t.value).toList
  | stmtObj | childStatement => [.work]
  | _ => []

/-- The place of the only child that is declared in the same scope. -/
def place? : DeclForm → Option Nat
  | statement | moduleInstantiation | stmtObj | childStatement | parameters => some 0
  | modInstBang | modInstHash | modInstPerc => some 1
  | stmtDeclFn | stmtDeclMod => some 3
  | _ => none

/-- All children are declared in the same scope. -/
def isList : DeclForm → Bool
  | sequence | input | parameterList => true
  | _ => false

end DeclForm

mutual

/-- The parts of its scope that a tree may change. -/
def Tree.parts : Tree → List Part
  | .leaf _ _ _ => []
  | .node rule ts =>
    match ofRule? rule with
    | none => []
    | some form =>
      form.parts ts ++ (if form.isList then Tree.partsAll ts else
        (form.place?.map fun i => Tree.partsAt ts i).getD [])

def Tree.partsAll : List Tree → List Part
  | [] => []
  | t :: ts => t.parts ++ Tree.partsAll ts

def Tree.partsAt : List Tree → Nat → List Part
  | [], _ => []
  | t :: _, 0 => t.parts
  | _ :: ts, i + 1 => Tree.partsAt ts i

end

theorem Tree.mem_partsAll (h : t ∈ ts) {p : Part} (hp : p ∈ t.parts) :
    p ∈ Tree.partsAll ts := by
  induction ts with
  | nil => cases h
  | cons u us ih =>
    rw [Tree.partsAll, List.mem_append]
    rcases List.mem_cons.1 h with rfl | h
    · exact .inl hp
    · exact .inr (ih h)

theorem Tree.mem_partsAt (h : ts[i]? = some t) {p : Part}
    (hp : p ∈ t.parts) : p ∈ Tree.partsAt ts i := by
  induction ts generalizing i with
  | nil => cases h
  | cons u us ih =>
    cases i with
    | zero =>
      cases h
      exact hp
    | succ i => exact ih h

theorem Tree.child_eq_ok {n : Tree} (h : n.child i = .ok t) :
    ∃ rule ts, n = .node rule ts ∧ ts[i]? = some t := by
  cases n with
  | leaf r s p => cases h
  | node rule ts =>
    refine ⟨rule, ts, rfl, ?_⟩
    unfold Tree.child at h
    cases hi : ts[i]? with
    | none =>
      simp only [Tree.children, bind, Except.bind, hi] at h
      cases h
    | some c =>
      simp only [Tree.children, bind, Except.bind, hi] at h
      cases h
      rfl

/-- A tree somewhere inside another. -/
inductive Tree.Below (u : Tree) : Tree → Prop
  | child {r : String} {ts : List Tree} (h : u ∈ ts) : Below u (.node r ts)
  | under {r : String} {ts : List Tree} {t : Tree} (h : t ∈ ts) (hu : Below u t) :
      Below u (.node r ts)

section

variable {n : Tree}

theorem Tree.Below.trans {u : Tree} (h : u.Below t) (h' : t.Below n) : u.Below n := by
  induction h' with
  | child ht => exact .under ht h
  | under ht _ ih => exact .under ht ih

theorem Tree.below_children (h : n.children = .ok ts) (ht : t ∈ ts) : t.Below n := by
  cases n with
  | leaf => cases h
  | node r ts =>
    cases h
    exact .child ht

theorem Tree.below_child (h : n.child i = .ok t) : t.Below n := by
  obtain ⟨r, ts, rfl, ht⟩ := child_eq_ok h
  exact .child (List.mem_of_getElem? ht)

theorem Tree.below_childFromEnd (h : n.childFromEnd i = .ok t) : t.Below n := by
  cases n with
  | leaf => cases h
  | node r ts =>
    change (if ts.length < i then _ else _) = _ at h
    split at h
    · cases h
    · split at h
      · next ht =>
        cases h
        exact .child (List.mem_of_getElem? ht)
      · cases h

end

section

variable {n : Tree} {form : DeclForm} (hf : ofRule? n.rule = some form) {p : Part}

include hf

theorem Tree.mem_parts_own (ht : n.child i = .ok t)
    (hp : ∀ ts : List Tree, ts[i]? = some t → p ∈ form.parts ts) : p ∈ n.parts := by
  obtain ⟨rule, ts, rfl, hget⟩ := Tree.child_eq_ok ht
  rw [Tree.parts, show ofRule? rule = some form from hf]
  exact List.mem_append_left _ (hp ts hget)

theorem Tree.mem_parts_child (hi : form.place? = some i)
    (ht : n.child i = .ok t) (hp : p ∈ t.parts) : p ∈ n.parts := by
  obtain ⟨rule, ts, rfl, hget⟩ := Tree.child_eq_ok ht
  have hl : form.isList = false := by
    cases form <;> first | rfl | cases hi
  rw [Tree.parts, show ofRule? rule = some form from hf]
  simp only [hl, Bool.false_eq_true, if_false, hi, Option.map_some, Option.getD_some]
  exact List.mem_append_right _ (Tree.mem_partsAt hget hp)

theorem Tree.mem_parts_list (hl : form.isList = true)
    (hn : n.children = .ok ts) (ht : t ∈ ts) (hp : p ∈ t.parts) : p ∈ n.parts := by
  cases n with
  | leaf r s p => cases hn
  | node rule us =>
    cases hn
    rw [Tree.parts, show ofRule? rule = some form from hf]
    simp only [hl, if_true]
    exact List.mem_append_right _ (Tree.mem_partsAll ht hp)

end

/-- What is behind the wrappers around a tree is reached from the tree one child at a time. -/
theorem Tree.unwrap_induct {form? : String → Option DeclForm} {transparent : DeclForm → Bool}
    {P : Tree → Except Fault (DeclForm × Tree) → Prop}
    (found : ∀ t f, form? t.rule = some f → P t (.ok (f, t))) (unknown : ∀ t, form? t.rule = none →
      P t (.error (if t.rule = "" then .bareTerminal else .noMeaning t.rule)))
    (passed : ∀ r u f x, form? r = some f → transparent f = true → P u x → P (.node r [u]) x)
    (t : Tree) : P t (t.unwrap form? transparent) := by
  induction hh : t.height using Nat.strongRecOn generalizing t with
  | ind height ih =>
    subst hh
    cases t with
    | leaf r s p =>
      rw [Tree.unwrap]
      cases hf : form? r with
      | none => exact unknown (.leaf r s p) hf
      | some f => exact found (.leaf r s p) f hf
    | node r ts =>
      rw [Tree.unwrap]
      cases hf : form? r with
      | none => exact unknown (.node r ts) hf
      | some f =>
        rcases ts with _ | ⟨u, _ | ⟨u', us⟩⟩
        · exact found (.node r []) f hf
        · simp only
          split
          · next ht =>
            have hlt : u.height < (Tree.node r [u]).height := by
              simp only [Tree.height, Tree.heightAll]
              omega
            exact passed r u f _ hf ht (ih _ hlt u rfl)
          · exact found (.node r [u]) f hf
        · exact found (.node r (u :: u' :: us)) f hf

/-- A node says what its only child says, if it is passed over. -/
theorem Tree.unwrap_parts {n : Tree} {form : DeclForm}
    (h : t.unwrap ofRule? transparent = .ok (form, n)) : ofRule? n.rule = some form ∧
      (∀ u : Tree, u.Below n → u.Below t) ∧ ∀ p ∈ n.parts, p ∈ t.parts := by
  refine Tree.unwrap_induct (P := fun t x => x = .ok (form, n) → ofRule? n.rule = some form ∧
    (∀ u : Tree, u.Below n → u.Below t) ∧ ∀ p ∈ n.parts, p ∈ t.parts) ?_ ?_ ?_ t h
  · intro t f hf h
    cases h
    exact ⟨hf, fun _ hu => hu, fun _ hp => hp⟩
  · intro t _ h
    cases h
  · intro r u f x hf ht ih h
    obtain ⟨hn, hu, hp⟩ := ih h
    refine ⟨hn, fun v hv => .under (List.mem_singleton_self u) (hu v hv), fun p h =>
      Tree.mem_parts_child (n := .node r [u]) hf (i := 0) ?_ rfl (hp p h)⟩
    cases f <;> first | rfl | cases ht

/-! ## Parameters -/

namespace Declare

def moreParameters (pass : Pass) (scope : ScopeId) :
    List Tree → List Value → List (String × Value) → Run Value
  | [], required, optional => do return .tuple [← newList required, .dict optional]
  | _ :: ts, required, optional => parameterList pass scope required optional ts

def takeParameter (more : List Value → List (String × Value) → Run Value) (required : List Value)
    (optional : List (String × Value)) : Value → Run Value
  | .tuple [v] => more (required ++ [v]) optional
  | .tuple (.str s :: v :: _) =>
    if Table.has (Text.toString s) optional then throw .alreadySet
    else more required (optional ++ [(Text.toString s, v)])
  | _ => throw .typeMismatch

theorem parameterList_cons (pass : Pass) (scope : ScopeId) (required : List Value)
    (optional : List (String × Value)) (t : Tree) (ts : List Tree) :
    parameterList pass scope required optional (t :: ts) =
      pass scope t >>= takeParameter (moreParameters pass scope ts) required optional := by
  cases ts <;> rfl

end Declare

/-! ## Looking into trees -/

/-- If this fails, then not for an assertion. -/
class Mild {α : Type} (x : Except Fault α) : Prop where
  no_assertion : ∀ e, x = .error e → e.isAssertion = false

namespace Mild

variable {α β : Type} {t : Tree}

instance instBind {x : Except Fault α} {f : α → Except Fault β} [hx : Mild x]
    [hf : ∀ a, Mild (f a)] :
    Mild (x >>= f) := by
  refine ⟨fun e h => ?_⟩
  cases x with
  | error e' =>
    cases h
    exact hx.no_assertion _ rfl
  | ok a => exact (hf a).no_assertion e h

instance : Mild t.children := by
  refine ⟨fun e h => ?_⟩
  cases t <;> cases h
  rfl

instance : Mild t.size := by
  refine ⟨fun e h => ?_⟩
  cases t <;> cases h
  rfl

instance {i : Nat} : Mild (t.child i) := by
  unfold Tree.child
  refine @instBind _ _ _ _ _ fun ts => ⟨fun e h => ?_⟩
  split at h <;> cases h
  rfl

instance {i : Nat} : Mild (t.childFromEnd i) := by
  unfold Tree.childFromEnd
  refine @instBind _ _ _ _ _ fun ts => ⟨fun e h => ?_⟩
  split at h
  · cases h
    rfl
  · split at h <;> cases h
    rfl

instance {low high : Nat} : Mild (t.checkArity low high) := by
  unfold Tree.checkArity
  refine @instBind _ _ _ _ _ fun n => ⟨fun e h => ?_⟩
  split at h <;> cases h
  rfl

instance : Mild (t.unwrap ofRule? transparent) := by
  refine ⟨fun e => Tree.unwrap_induct (P := fun _ x => x = .error e → e.isAssertion = false)
    ?_ ?_ (fun _ _ _ _ _ _ ih => ih) t⟩
  · intro t f _ h
    cases h
  · intro t _ h
    cases h
    split <;> rfl

end Mild

/-! ## Two runs of the pass -/

/-- A link that says nothing of trees, names and shapes. -/
structure Link.Full (κ : Link) : Prop where
  tree : ∀ t, κ.tree t
  rule : ∀ s, κ.rule s
  entry : ∀ s, κ.entry s
  loose : κ.loose
  misfit : ∀ e : Fault, e.isAssertion = false → κ.misfit e

inductive Holding.Alike (κ : Link) : Holding → Holding → Prop
  | var {d e : VarDef} (h : d.Alike κ e) : Alike κ (.var d) (.var e)
  | builtin (f : BuiltinFunction) : Alike κ (.func (.builtin f)) (.func (.builtin f))
  | func {v w : Value} (h : v.Alike κ w) : Alike κ (.func (.value v)) (.func (.value w))
  | mod {m n : ModDef} (h : m.Alike κ n) : Alike κ (.mod m) (.mod n)
  | work {vs ws : List Value} (h : Values.Alike κ vs ws) : Alike κ (.work vs) (.work ws)
  | branch {x y : Branch} (ht : x.test = y.test) (h : x.Alike κ y) : Alike κ (.branch x) (.branch y)

namespace Correspondence

theorem sim_paramsOfValue {C : Correspondence} {κ : Link}
    (hl : ∀ {a b}, κ.same .list a b → C.Sim κ Values.Alike (listItems a) (listItems b))
    {v w : Value} (h : v.Alike κ w) :
    C.Sim κ Params.Alike (Params.ofValue v) (Params.ofValue w) := by
  have other : C.Sim κ Params.Alike (pure (.other v)) (pure (.other w)) := Sim.pure (.other h)
  have names {κ' : Link} {xs ys : List Value} (hx : Values.Alike κ' xs ys) :
      xs.map Params.nameOf = ys.map Params.nameOf := by
    induction hx with
    | nil => rfl
    | cons hx _ ih =>
      rw [List.map_cons, List.map_cons, ih]
      cases hx <;> rfl
  cases h with
  | tuple h =>
    rcases h with _ | ⟨hx, _ | ⟨hy, _ | _⟩⟩
    · exact other
    · cases hx <;> exact other
    · cases hx with
      | list hx =>
        cases hy with
        | dict he _ =>
          refine (hl hx).bind fun hi => ?_
          rw [names hi]
          exact .pure (.named _ (Entries.Alike.up he))
        | _ => exact other
      | _ => exact other
    · cases hx with
      | list _ => cases hy <;> exact other
      | _ => exact other
  | _ => exact other

/-- What it takes to make nodes of trees. -/
structure Adopts (C : Correspondence) : Prop where
  full : ∀ {κ l r}, C.agree κ l r → κ.Full
  newNode : ∀ {κ c d}, NodeCell.Alike κ c d →
    C.Alike κ (newNode c) (newNode d)

namespace Adopts

variable {C : Correspondence} (L : C.Adopts) {κ : Link} {α β γ : Type} {A : Link → α → β → Prop}

include L

theorem fail (he : e.isAssertion = false) : C.Sim κ A (throw e) (throw e) :=
  Sim.withAgree fun hw => .throw (.misfit ((L.full hw).misfit e he))

theorem failThen (he : e.isAssertion = false) {f : γ → Run α} {g : γ → Run β} :
    C.Sim κ A (throw e >>= f) (throw e >>= g) :=
  Sim.bind (A := fun _ _ _ => False) (L.fail he) fun h => h.elim

omit L in
mutual

theorem sim_adopt (L : C.Adopts) : (t : Tree) → {κ : Link} → C.Alike κ t.adopt t.adopt
  | .leaf _ text pos, _ =>
    Sim.withAgree fun hw => L.newNode (.leaf ((L.full hw).rule _) text pos)
  | .node _ ts, _ => (sim_adoptAll L ts).bind fun hs =>
      Sim.withAgree fun hw => L.newNode (.inner ((L.full hw).rule _) hs)

theorem sim_adoptAll (L : C.Adopts) : (ts : List Tree) → {κ : Link} →
    C.Sim κ Values.Alike (Tree.adoptAll ts) (Tree.adoptAll ts)
  | [], _ => .pure .nil
  | t :: ts, _ => (sim_adopt L t).bind fun h =>
      (sim_adoptAll L ts).bind fun hs => .pure (.cons h.up hs)

end

theorem sim_findNode {text rule : String} {nth : Int} :
    C.Same κ (findNode text rule nth) (findNode text rule nth) := by
  refine .bindEq ?_ fun _ => ?_
  · unfold Environment.parseText
    split
    · exact .pure rfl
    · exact L.fail rfl
    · exact L.fail rfl
  · unfold Value.itemAt
    split
    · exact L.fail rfl
    · split
      · exact .pure rfl
      · exact L.fail (by split <;> rfl)

omit L in
mutual

theorem sim_enter (L : C.Adopts) (W : C.Lawful) : (d : Datum) → {κ : Link} →
    C.Alike κ d.enter d.enter
  | .undef, _ => .pure .undef
  | .bool b, _ => .pure (.bool b)
  | .int n, _ => .pure (.int n)
  | .numeral s, κ => by
    change C.Alike κ (readNumeral s) (readNumeral s)
    unfold readNumeral
    split
    · exact .pure (.int _)
    · exact L.fail rfl
  | .float x, _ => W.sim_newFloat x
  | .str s, _ => .pure (.str s)
  | .list items, _ => (sim_enterAll L W items).bind fun hs => W.newList hs
  | .tuple items, _ => (sim_enterAll L W items).bind fun hs => .pure (.tuple hs)
  | .host h, _ => .pure (.host h)
  | .box args, _ => (sim_enterAll L W args).bind fun hs => W.sim_construct _ hs .nil
  | .circle r, _ => (sim_enter L W r).bind fun h => W.sim_construct _ (.cons h .nil) .nil
  | .node _ _ _, _ => L.sim_findNode.bind @fun _ t _ _ ht => ht ▸ L.sim_adopt t

theorem sim_enterAll (L : C.Adopts) (W : C.Lawful) : (ds : List Datum) → {κ : Link} →
    C.Sim κ Values.Alike (Datum.enterAll ds) (Datum.enterAll ds)
  | [], _ => .pure .nil
  | d :: ds, _ => (sim_enter L W d).bind fun h =>
      (sim_enterAll L W ds).bind fun hs => .pure (.cons h.up hs)

end

theorem sim_enterNamed (W : C.Lawful) (ds : List (String × Datum)) :
    C.Sim κ Entries.Alike (Datum.enterNamed ds) (Datum.enterNamed ds) := by
  induction ds generalizing κ with
  | nil => exact .pure .nil
  | cons e ds ih =>
    obtain ⟨name, d⟩ := e
    exact (L.sim_enter W d).bind fun h => ih.bind fun hs => Sim.pure (.cons (.mk name h.up) hs)

end Adopts

/-- What the declaration pass asks of a correspondence in which scopes may be changed in
some of their parts. -/
structure Loads (C : Correspondence) (may : ScopeId → Part → Prop) : Prop extends C.Adopts where
  roles : ∀ {κ l r a b}, C.agree κ l r → κ.same .decl a b →
    κ.same .scope a b ∧ κ.same .place a b ∧ κ.same .work a b ∧ κ.same .cycle a b
  has : ∀ {κ l r a b p}, C.agree κ l r → κ.same .decl a b → may a p →
    (l.scopes.getD a default).has p = (r.scopes.getD b default).has p
  lists : ∀ {κ l r a b}, C.agree κ l r → κ.same .list a b →
    Values.Alike κ (l.lists.getD a []) (r.lists.getD b [])
  warn : ∀ {κ} text, C.Same κ (warn text) (warn text)
  notice : ∀ {κ} text, C.Same κ (notice text) (notice text)
  newIdent : ∀ {κ}, C.Sim κ (fun κ' => κ'.same .ident) newIdent newIdent
  newList : ∀ {κ vs ws}, Values.Alike κ vs ws →
    C.Alike κ (newList vs) (newList ws)
  innerScope : ∀ {κ a b kind}, kind ≠ .main → κ.same .decl a b →
    C.Sim κ (fun κ' x y => κ'.same .decl x y ∧ ∀ p, may x p) (innerScope a kind)
      (innerScope b kind)
  add : ∀ {κ a b h k} name warning, κ.same .decl a b → may a (h.part name) → h.Alike κ k →
    C.Same κ (add a name warning h) (add b name warning k)
  addWork : ∀ {κ a b v w}, κ.same .decl a b → may a .work → v.Alike κ w →
    C.Same κ (addWork a v) (addWork b w)
  setBranch : ∀ {κ a b x y}, κ.same .decl a b → may a .branch →
    Holding.Alike κ (.branch x) (.branch y) → C.Same κ
      (modifyScope a (Scope.hold "" (.branch x))) (modifyScope b (Scope.hold "" (.branch y)))

namespace Loads

variable {C : Correspondence} {may : ScopeId → Part → Prop} (L : C.Loads may) {κ : Link}
  {α β γ : Type} {A : Link → α → β → Prop} {a b : ScopeId}

include L

theorem lift {x : Except Fault γ} [hx : Mild x] {f : γ → Run α} {g : γ → Run β}
    (h : ∀ c, x = .ok c → C.Sim κ A (f c) (g c)) : C.Sim κ A (lift x >>= f) (lift x >>= g) := by
  cases x with
  | ok c => exact h c rfl
  | error e => exact L.failThen (hx.no_assertion e rfl)

theorem orFail {c : Prop} [Decidable c] (he : e.isAssertion = false)
    {f : Unit → Run α} {g : Unit → Run β} (h : C.Sim κ A (f ()) (g ())) :
    C.Sim κ A (if c then throw e >>= f else f ()) (if c then throw e >>= g else g ()) :=
  Sim.branch (L.failThen he) h

theorem statement (t : Tree) {x y : Option ScopeId} (h : Option.Rel (κ.same .decl) x y) :
    C.Alike κ (pure (.statement t x)) (pure (.statement t y)) := by
  refine .withAgree fun hw => .pure ?_
  have hc : κ.Call t := .tree ((L.full hw).tree t) (.loose (L.full hw).loose)
  cases h with
  | none => exact .statement hc
  | some h => exact .parent hc (L.roles hw h).1 fun _ => (L.roles hw h).2.2.2

theorem scope (h : κ.same .decl a b) : C.Alike κ (pure (.scope a)) (pure (.scope b)) :=
  Sim.withAgree fun hw => .pure (.scope (L.roles hw h).1)

theorem has_part (p : Part) (h : κ.same .decl a b) (hp : may a p) :
    C.Sim κ (fun _ s t => s.has p = t.has p) (Run.scope a) (Run.scope b) :=
  Sim.get.bind fun hw => .pure (L.has hw h.up hp)

theorem sim_addVar {name : String} (h : κ.same .decl a b) (hm : may a (.var name)) :
    C.Same κ (addVar a name (.code t)) (addVar b name (.code t)) := by
  refine .withAgree fun hw => ?_
  rw [addVar_eq, addVar_eq]
  exact L.add _ _ h hm (.var (.expr (L.roles hw h).2.1 (.code ((L.full hw).tree t))
    (.loose (L.full hw).loose)))

section

variable {pass pass' : Declare.Pass} {n : Tree}
  (hp : ∀ {κ a b t}, κ.same .decl a b → t.Below n ∧ (∀ p ∈ t.parts, may a p) →
    C.Alike κ (pass a t) (pass' b t)) (h : κ.same .decl a b)
  {es fs : List (String × Value)} {vs ws : List Value} {v w : Value}

include hp h

omit L in
theorem sim_each (hm : ∀ t ∈ ts, t.Below n ∧ ∀ p ∈ t.parts, may a p) :
    C.Same κ (each pass a ts) (each pass' b ts) := by
  induction ts generalizing κ with
  | nil => exact .pure rfl
  | cons t ts ih =>
    refine (hp h (hm t (List.mem_cons_self ..))).bind fun _ => ?_
    exact ih h.up fun t ht => hm t (List.mem_cons_of_mem _ ht)

theorem sim_block (hts : ∀ t ∈ ts, t.Below n) :
    C.Sim κ (fun κ' x y => κ'.same .decl x y ∧ ∀ p, may x p) (block pass a ts) (block pass' b ts) :=
  (L.innerScope (by decide) h).bind fun hs => (sim_each hp hs.1 fun t ht =>
    ⟨hts t ht, fun p _ => hs.2 p⟩).bind fun _ => .pure ⟨hs.1.up, hs.2⟩

omit hp h in
theorem sim_takeParameter {f g : List Value → List (String × Value) → Run Value}
    (hfg : ∀ {vs ws es fs}, Values.Alike κ vs ws → Entries.Alike κ es fs →
      C.Alike κ (f vs es) (g ws fs))
    (hv : Values.Alike κ vs ws) (he : Entries.Alike κ es fs) (h : v.Alike κ w) :
    C.Alike κ (takeParameter f vs es v) (takeParameter g ws fs w) := by
  cases h with
  | tuple h =>
    rcases h with _ | ⟨hx, _ | ⟨hy, hrest⟩⟩
    · exact L.fail rfl
    · have hall : Values.Alike κ (vs ++ [_]) (ws ++ [_]) := List.rel_append hv (.cons hx .nil)
      cases hx <;> exact hfg hall he
    · cases hx with
      | str s =>
        refine .ite ?_ (fun _ => L.fail rfl) fun _ =>
          hfg hv (List.rel_append he (.cons (.mk _ hy) .nil))
        rw [he.has_eq]
      | _ => exact L.fail rfl
  | _ => exact L.fail rfl

omit hp h in
theorem sim_lastParameter (hv : Values.Alike κ vs ws) (he : Entries.Alike κ es fs) :
    C.Alike κ (do return .tuple [← Run.newList vs, .dict es])
      (do return .tuple [← Run.newList ws, .dict fs]) := by
  refine (L.newList hv).bind @fun κ' _ _ _ hl => .withAgree fun hw => .pure ?_
  have hd : Value.Alike κ' (.dict es) (.dict fs) := .dict he.up fun e _ => (L.full hw).entry e.1
  exact .tuple (.cons hl (.cons hd .nil))

omit h in
theorem sim_parameterList : (ts : List Tree) → {κ : Link} → {vs ws : List Value} →
    {es fs : List (String × Value)} → κ.same .decl a b →
    (∀ t ∈ ts, t.Below n ∧ ∀ p ∈ t.parts, may a p) → Values.Alike κ vs ws → Entries.Alike κ es fs →
    C.Alike κ (parameterList pass a vs es ts) (parameterList pass' b ws fs ts)
  | [], _, _, _, _, _, _, _, hv, he => L.sim_lastParameter hv he
  | [t], _, _, _, _, _, h, hm, hv, he => by
    rw [parameterList_cons, parameterList_cons]
    refine (hp h (hm t (List.mem_cons_self ..))).bind fun hx => ?_
    exact L.sim_takeParameter L.sim_lastParameter hv.up he.up hx
  | t :: u :: ts, _, _, _, _, _, h, hm, hv, he => by
    rw [parameterList_cons, parameterList_cons]
    refine (hp h (hm t (List.mem_cons_self ..))).bind fun hx => ?_
    refine L.sim_takeParameter (fun hv he => ?_) hv.up he.up hx
    exact sim_parameterList ts h.up
      (fun t ht => hm t (List.mem_cons_of_mem _ (List.mem_cons_of_mem _ ht))) hv he

theorem sim_withChild : C.Alike κ (withChild pass a n) (withChild pass' b n) := by
  refine L.lift fun call _ => L.lift fun after ha =>
    L.orFail rfl (L.lift fun size _ => L.orFail rfl ?_)
  refine L.lift fun inner hi => ?_
  have hb : inner.Below n := (Tree.below_child hi).trans (Tree.below_child ha)
  refine .branch ?_ (.branch ?_ (L.fail rfl))
  · refine L.lift fun x hx => L.lift fun ts hts => (L.sim_block hp h fun t ht =>
      (Tree.below_children hts ht).trans ((Tree.below_child hx).trans hb)).bind fun hs => ?_
    refine (L.has_part .work hs.1 (hs.2 _)).bind fun hw => ?_
    rw [Scope.has_work, Scope.has_work, Bool.not_eq_eq_eq_not, Bool.not_not] at hw
    refine .ite (by rw [hw]) (fun _ => L.statement _ .none) fun _ => L.statement _ ?_
    exact .some hs.1.up
  · refine (L.innerScope (by decide) h).bind fun hs => ?_
    refine (hp hs.1 ⟨hb, fun p _ => hs.2 p⟩).bind fun hv => ?_
    refine (L.addWork hs.1.up (hs.2 _) hv).bind fun _ => ?_
    exact L.statement _ (.some hs.1.up)

theorem sim_params {c : Prop} [Decidable c] {f g : Params Value → Run Value}
    (hm : ∀ t, n.child 3 = .ok t → ∀ p ∈ t.parts, may a p)
    (hfg : ∀ {κ' p q} [κ.Next κ'], Params.Alike κ' p q → C.Alike κ' (f p) (g q)) : C.Alike κ
      (if c then Run.lift (n.child 3) >>= fun t => pass a t >>= fun v => Params.ofValue v >>= f
        else f (.named [] []))
      (if c then Run.lift (n.child 3) >>= fun t => pass' b t >>= fun v => Params.ofValue v >>= g
        else g (.named [] [])) := by
  refine .branch (L.lift fun t ht => ?_) (@hfg _ _ _ ⟨le_rfl⟩ (.named [] .nil))
  refine (hp h ⟨Tree.below_child ht, hm t ht⟩).bind fun hv => ?_
  refine (sim_paramsOfValue (fun hl => ?_) hv).bind fun hq => @hfg _ _ _ ⟨Link.Before.le⟩ hq
  exact Sim.get.bind fun hw => .pure (L.lists hw hl.up)

theorem sim_declareFunction (hf : ofRule? n.rule = some .stmtDeclFn) (hm : ∀ p ∈ n.parts, may a p) :
    C.Alike κ (declareFunction pass a n) (declareFunction pass' b n) := by
  refine L.lift fun _ _ => L.lift fun t ht => ?_
  have hmay : may a (.func t.value) := by
    refine hm _ (Tree.mem_parts_own hf ht fun ts hget => ?_)
    simp [parts, hget]
  refine (L.has_part (.func t.value) h hmay).bind fun hs => ?_
  rw [Scope.has_func, Scope.has_func] at hs
  refine .ite (by rw [hs]) (fun _ => (L.notice _).bind fun _ => .pure .undef)
    fun _ => L.lift fun size _ => ?_
  refine L.sim_params hp h.up (fun t ht p hp => hm p (Tree.mem_parts_child hf rfl ht hp)) ?_
  intro κ2 p q _ hpq
  refine L.lift fun body _ => L.newIdent.bind fun hi => .withAgree fun hw => ?_
  rw [addFunc_eq, addFunc_eq]
  refine (L.add t.value _ h.up (h := .func _)
    hmay (.func (.function hi (L.roles hw h.up).2.1 t.value
    hpq.up (.code ((L.full hw).tree body)) (.loose (L.full hw).loose)))).bind ?_
  exact fun _ => .pure .undef

theorem sim_moduleBody {body : Tree} (hb : body.Below n) :
    C.Sim κ (fun κ' x y => κ'.same .decl x y ∧ ∀ p, may x p) (moduleBody pass a body)
      (moduleBody pass' b body) := by
  unfold moduleBody
  refine L.orFail rfl (L.lift fun inner hi => L.orFail rfl (L.lift fun what hw => ?_))
  have hwhat : what.Below n := (Tree.below_child hw).trans ((Tree.below_child hi).trans hb)
  refine .branch (L.lift fun ts hts => L.sim_block hp h fun t ht => ?_)
    (L.sim_block hp h fun t ht => List.mem_singleton.1 ht ▸ hb)
  exact (Tree.below_children hts (List.mem_of_mem_tail (List.dropLast_subset _ ht))).trans hwhat

theorem sim_declareModule (hf : ofRule? n.rule = some .stmtDeclMod) (hm : ∀ p ∈ n.parts, may a p) :
    C.Alike κ (declareModule pass a n) (declareModule pass' b n) := by
  refine L.lift fun _ _ => L.lift fun t ht => ?_
  have hmay : may a (.mod t.value) := by
    refine hm _ (Tree.mem_parts_own hf ht fun ts hget => ?_)
    simp [parts, hget]
  refine (L.has_part (.mod t.value) h hmay).bind fun hs => ?_
  rw [Scope.has_mod, Scope.has_mod] at hs
  refine .ite (by rw [hs]) (fun _ => (L.notice _).bind fun _ => .pure .undef)
    fun _ => L.lift fun size _ => ?_
  refine L.sim_params hp h.up (fun t ht p hp => hm p (Tree.mem_parts_child hf rfl ht hp)) ?_
  intro κ2 p q _ hpq
  refine L.lift fun body hb => (L.sim_moduleBody hp h.up (Tree.below_childFromEnd hb)).bind ?_
  refine fun hxy => .withAgree fun hw => ?_
  have hr := L.roles hw hxy.1
  rw [addMod_eq, addMod_eq]
  refine (L.add t.value _ h.up (h := .mod _) hmay
    (.mod (.module t.value hpq.up hr.2.1 hr.2.2.1))).bind ?_
  exact fun _ => .pure .undef

theorem sim_declareBranches : C.Alike κ (declareBranches pass a n) (declareBranches pass' b n) := by
  refine L.lift fun m hn => L.lift fun _ _ => ?_
  have hbelow {i : Nat} {t : Tree} (ht : m.child i = .ok t) : t.Below n :=
    (Tree.below_child ht).trans (Tree.below_child hn)
  refine (L.innerScope (by decide) h).bind fun he => L.lift fun test _ => ?_
  refine (L.innerScope (by decide) he.1).bind @fun _ x y _ hx => ?_
  refine .withAgree fun hw => ?_
  refine (L.setBranch (x := ⟨test, x, none⟩) (y := ⟨test, y, none⟩) he.1.up (he.2 _)
    (.branch rfl ⟨(L.roles hw hx.1).1, .none⟩)).bind fun _ => ?_
  refine L.lift fun t ht => (hp hx.1.up ⟨hbelow ht, fun p _ => hx.2 p⟩).bind ?_
  refine fun _ => L.lift fun size _ => ?_
  refine .branch ?_ (L.scope he.1.up)
  refine (L.innerScope (by decide) he.1.up).bind @fun _ z z' _ hz => .withAgree fun hw => ?_
  refine (L.setBranch (x := ⟨test, x, some z⟩) (y := ⟨test, y, some z'⟩) he.1.up (he.2 _)
    (.branch rfl ⟨(L.roles hw hx.1.up).1, .some (L.roles hw hz.1).1⟩)).bind ?_
  refine fun _ => L.lift fun t ht => ?_
  refine (hp hz.1.up ⟨hbelow ht, fun p _ => hz.2 p⟩).bind fun _ => ?_
  exact L.scope he.1.up

omit hp in
theorem sim_work (hm : may a .work) (hv : v.Alike κ w) :
    C.Alike κ (do Run.addWork a v; return .undef) (do Run.addWork b w; return .undef) :=
  (L.addWork h hm hv).bind fun _ => .pure .undef

theorem sim_declareForm {form : DeclForm} (hf : ofRule? n.rule = some form)
    (hm : ∀ p ∈ n.parts, may a p) : C.Alike κ (declareForm pass a n form)
      (declareForm pass' b n form) := by
  have hchild {i : Nat} (hi : form.place? = some i) {t : Tree} (ht : n.child i = .ok t) :
      C.Alike κ (pass a t) (pass' b t) :=
    hp h ⟨Tree.below_child ht, fun p hp => hm p (Tree.mem_parts_child hf hi ht hp)⟩
  have hlist {ts : List Tree} (hl : form.isList = true) (hts : n.children = .ok ts) (t : Tree)
      (ht : t ∈ ts) : t.Below n ∧ ∀ p ∈ t.parts, may a p :=
    ⟨Tree.below_children hts ht, fun p hp => hm p (Tree.mem_parts_list hf hl hts ht hp)⟩
  have hblock {ts : List Tree} (hts : ∀ t ∈ ts, t.Below n) :
      C.Alike κ (do return .scope (← block pass a ts)) (do return .scope (← block pass' b ts)) :=
    (L.sim_block hp h hts).bind fun hs => L.scope hs.1
  cases form with
  | sequence | input =>
    exact L.lift fun ts hts => (sim_each hp h (hlist rfl hts)).bind fun _ => .pure .undef
  | statement | moduleInstantiation | parameters =>
    exact L.lift fun _ _ => L.lift fun t ht => hchild rfl ht
  | assignment =>
    refine L.lift fun t ht => L.lift fun body _ => ?_
    have hmay : may a (.var t.value) := by
      refine hm _ (Tree.mem_parts_own hf ht fun ts hget => ?_)
      simp [parts, hget]
    exact (L.sim_addVar h hmay).bind fun _ => .pure .undef
  | stmtObj | childStatement =>
    refine L.lift fun _ _ => L.lift fun t ht => (hchild rfl ht).bind fun hv => ?_
    have hwork : may a .work := hm _ (Tree.mem_parts_own hf ht fun _ _ => List.mem_singleton_self _)
    have hadd := L.sim_work h.up hwork hv
    have hagain : t.Below n ∧ ∀ p ∈ t.parts, may a p :=
      ⟨Tree.below_child ht, fun p hp => hm p (Tree.mem_parts_child hf rfl ht hp)⟩
    cases hv with
    | undef => first | exact .pure .undef | exact (hp h.up hagain).bind fun _ => L.fail rfl
    | _ => exact hadd
  | stmtDeclFn => exact L.sim_declareFunction hp h hf hm
  | stmtDeclMod => exact L.sim_declareModule hp h hf hm
  | explicitChild =>
    refine L.lift fun _ _ => L.lift fun ts hts => hblock fun t ht => ?_
    cases hl : n.child 1 with
    | error e =>
      rw [hl] at hts
      cases hts
    | ok list =>
      rw [hl] at hts
      exact (Tree.below_children hts ht).trans (Tree.below_child hl)
  | childStatements => exact L.lift fun ts hts => hblock fun t => Tree.below_children hts
  | stmtList =>
    refine L.lift fun ts hts => hblock fun t ht => Tree.below_children hts ?_
    exact List.mem_of_mem_tail (List.dropLast_subset _ ht)
  | noChild | modInstStar | finish | ifStatement => exact .pure .undef
  | modInstChild =>
    refine L.lift fun _ _ => L.lift fun call _ => L.lift fun size _ => ?_
    refine .branch (L.statement _ .none) (L.lift fun after _ => ?_)
    refine L.orFail rfl (L.lift fun _ _ => L.orFail rfl (L.lift fun _ _ => ?_))
    exact .branch (L.statement _ .none) (L.sim_withChild hp h)
  | modInstSpecial =>
    refine L.lift fun _ _ => L.lift fun _ _ => L.orFail rfl ?_
    exact (L.innerScope (by decide) h).bind fun hs => L.sim_withChild hp hs.1
  | modInstBang | modInstHash | modInstPerc =>
    refine (L.warn _).bind fun _ => L.lift fun t ht => ?_
    exact hp h.up ⟨Tree.below_child ht, fun p hp => hm p (Tree.mem_parts_child hf rfl ht hp)⟩
  | modCall => exact L.lift fun _ _ => L.statement _ .none
  | parameterList =>
    exact L.lift fun ts hts => L.sim_parameterList hp ts h (hlist rfl hts) .nil .nil
  | parameter =>
    refine L.lift fun _ _ => .branch (L.lift fun t _ => ?_) ?_
    · exact .pure (.tuple (.cons (.str _) .nil))
    · refine L.lift fun _ _ => L.lift fun name _ => L.lift fun t _ => ?_
      exact (L.sim_adopt t).bind fun ht => .pure (.tuple (.cons (.str _) (.cons ht .nil)))
  | ifelseStatement => exact L.sim_declareBranches hp h

end

theorem sim_unwrapped {pass pass' : Declare.Pass}
    (hp : ∀ {κ a b u}, κ.same .decl a b → u.Below t ∧ (∀ p ∈ u.parts, may a p) →
      C.Alike κ (pass a u) (pass' b u)) (h : κ.same .decl a b) (hm : ∀ p ∈ t.parts, may a p) :
    C.Alike κ (Run.lift (t.unwrap ofRule? transparent) >>= fun x => declareForm pass a x.2 x.1)
      (Run.lift (t.unwrap ofRule? transparent) >>= fun x => declareForm pass' b x.2 x.1) := by
  refine L.lift fun x hx => ?_
  obtain ⟨hf, hbelow, hparts⟩ := Tree.unwrap_parts hx
  refine L.sim_declareForm (fun h ht => ?_) h hf fun p hp => hm p (hparts p hp)
  exact hp h ⟨hbelow _ ht.1, ht.2⟩

end Loads
end Correspondence
end Scad
