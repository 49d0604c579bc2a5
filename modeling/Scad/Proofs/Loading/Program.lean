import Scad.Proofs.Correspondence.Declare
import Scad.Proofs.Loading.Load
import Scad.Proofs.Parsing.Term

/-!
What a program has declared once it is loaded. The declaration pass enters expressions of
the program and functions with such bodies into the scope that programs declare in, and all
of them belong to the program's own scope. Blocks get scopes of their own and leave these
two alone.
-/

namespace Scad

/-- An expression in which no part passes the test. -/
structure IsBody (q : Tree → Bool) (x : Tree) : Prop where
  term : x.IsTerm
  clean : x.contains q = false

inductive ProgramVar (q : Tree → Bool) : VarDef → Prop
  | mk {x : Tree} (h : IsBody q x) : ProgramVar q (.expr 2 (.code x))

inductive ProgramFunc (q : Tree → Bool) (w : World) : FuncDef → Prop
  | mk {i : Nat} (hi : i < w.fresh) (name : String) {p : Params Value} (hp : KnownParams w p)
      {x : Tree} (hx : IsBody q x) : ProgramFunc q w (.value (.function i 2 name p (.code x)))

theorem ProgramFunc.mono {q : Tree → Bool} {w w' : World} (le : w.Extends w') {f : FuncDef}
    (h : ProgramFunc q w f) : ProgramFunc q w' f := by
  cases h with
  | mk hi name hp hx => exact .mk (Nat.lt_of_lt_of_le hi le.fresh) name (hp.mono le) hx

/-- The scopes of a fresh environment (0 is what is built in, 1 what programs declare, 2 the
program's own), with what a program has declared so far. -/
structure ScopesOf (q : Tree → Bool) (w : World) (scopes : Array Scope) : Prop where
  size : 3 ≤ scopes.size
  builtins : scopes.getD 0 default = Environment.builtins
  vars : ∀ name d, (scopes.getD 1 default).vars.find? name = some d → ProgramVar q d
  funcs : ∀ name f, (scopes.getD 1 default).funcs.find? name = some f → ProgramFunc q w f
  kind : (scopes.getD 2 default).kind = .main
  parents : (scopes.getD 2 default).parents = [1, 0]
  own : (scopes.getD 2 default).vars = [] ∧ (scopes.getD 2 default).funcs = []
  inner : ∀ id, 3 ≤ id → (scopes.getD id default).kind ≠ .main

/-- The world of a fresh environment into which a program is being loaded. -/
structure Loading (q : Tree → Bool) (w : World) : Prop where
  scopes : ScopesOf q w w.scopes
  lists : ∀ vs ∈ w.lists, ∀ v ∈ vs, ∃ s, v = .str s
  nodes : ∀ cell ∈ w.nodes, HeldCell w cell
  frames : w.frames = (Environment.opened {}).frames
  tables : w.tables = (Environment.opened {}).tables
  streams : w.streams = #[]
  current : w.current = none
  tracer : w.tracer = none

theorem ScopesOf.mono {q : Tree → Bool} {w w' : World} (le : w.Extends w') {scopes : Array Scope}
    (h : ScopesOf q w scopes) : ScopesOf q w' scopes :=
  { h with funcs := fun name f hf => (h.funcs name f hf).mono le }

section

variable {q : Tree → Bool} {w : World} {scopes : Array Scope}

theorem ScopesOf.modify (h : ScopesOf q w scopes) {id : Nat} {f : Scope → Scope}
    (hid : id ≠ 0) (hf : ∀ s, (f s).kind = s.kind ∧ (f s).parents = s.parents)
    (hvars : id = 1 → ∀ name d, (f (scopes.getD 1 default)).vars.find? name = some d →
      ProgramVar q d)
    (hfuncs : id = 1 → ∀ name g, (f (scopes.getD 1 default)).funcs.find? name = some g →
      ProgramFunc q w g) (hown : id = 2 → ∀ s, (f s).vars = s.vars ∧ (f s).funcs = s.funcs) :
    ScopesOf q w (scopes.modify id f) := by
  have keeps : ∀ j, ((scopes.modify id f).getD j default).kind = (scopes.getD j default).kind ∧
      ((scopes.modify id f).getD j default).parents = (scopes.getD j default).parents := by
    intro j
    rw [getD_modify]
    split
    · exact hf _
    · exact ⟨rfl, rfl⟩
  refine ⟨?_, ?_, ?_, ?_, ?_, ?_, ?_, ?_⟩
  · rw [Array.size_modify]
    exact h.size
  · rw [getD_modify, if_neg fun h' => hid h'.1]
    exact h.builtins
  · intro name d hd
    rw [getD_modify] at hd
    split at hd
    · exact hvars ‹_ ∧ _›.1 name d hd
    · exact h.vars name d hd
  · intro name g hg
    rw [getD_modify] at hg
    split at hg
    · exact hfuncs ‹_ ∧ _›.1 name g hg
    · exact h.funcs name g hg
  · rw [(keeps 2).1]
    exact h.kind
  · rw [(keeps 2).2]
    exact h.parents
  · rw [getD_modify]
    split
    · rw [(hown ‹_ ∧ _›.1 _).1, (hown ‹_ ∧ _›.1 _).2]
      exact h.own
    · exact h.own
  · intro j hj
    rw [(keeps j).1]
    exact h.inner j hj

theorem ScopesOf.push (h : ScopesOf q w scopes) {s : Scope} (hs : s.kind ≠ .main) :
    ScopesOf q w (scopes.push s) := by
  have old : ∀ j < scopes.size, (scopes.push s).getD j default = scopes.getD j default :=
    fun j hj => getD_push hj s default
  have h0 := old 0 (by have := h.size; omega)
  have h1 := old 1 (by have := h.size; omega)
  have h2 := old 2 (by have := h.size; omega)
  refine ⟨?_, h0 ▸ h.builtins, h1 ▸ h.vars, h1 ▸ h.funcs, h2 ▸ h.kind, h2 ▸ h.parents,
    h2 ▸ h.own, ?_⟩
  · rw [Array.size_push]
    exact Nat.le_succ_of_le h.size
  · intro j hj
    by_cases hlt : j < scopes.size
    · rw [old j hlt]
      exact h.inner j hj
    · rw [Array.getD_eq_getD_getElem?, Array.getElem?_push]
      split
      · exact hs
      · rw [Array.getElem?_eq_none (Nat.le_of_not_lt hlt)]
        exact fun h => by cases h

end

namespace Loading

open Run (Lands Ends)

variable {q : Tree → Bool} {k w w' : World} {E : Fault → Prop} {id : Nat} {f : Scope → Scope}
  {name text : String} {v : Value}

theorem mono (h : Loading q w) (le : w.Extends w') (hscopes : w'.scopes = w.scopes)
    (hlists : w'.lists = w.lists) (hnodes : w'.nodes = w.nodes)
    (hrest : w'.frames = w.frames ∧ w'.tables = w.tables ∧ w'.streams = w.streams ∧
      w'.current = w.current ∧ w'.tracer = w.tracer) : Loading q w' where
  scopes := hscopes ▸ h.scopes.mono le
  lists := hlists ▸ h.lists
  nodes := hnodes ▸ fun cell hc => (h.nodes cell hc).mono le
  frames := hrest.1.trans h.frames
  tables := hrest.2.1.trans h.tables
  streams := hrest.2.2.1.trans h.streams
  current := hrest.2.2.2.1.trans h.current
  tracer := hrest.2.2.2.2.trans h.tracer

theorem warn : Ends (Loading q) k E (Run.warn text) :=
  .modify fun _ _ hw => ⟨⟨Nat.le_refl _, Nat.le_refl _⟩,
    hw.mono ⟨Nat.le_refl _, Nat.le_refl _⟩ rfl rfl rfl ⟨rfl, rfl, rfl, rfl, rfl⟩⟩

theorem notice : Ends (Loading q) k E (Run.notice text) :=
  .modify fun _ _ hw => ⟨⟨Nat.le_refl _, Nat.le_refl _⟩,
    hw.mono ⟨Nat.le_refl _, Nat.le_refl _⟩ rfl rfl rfl ⟨rfl, rfl, rfl, rfl, rfl⟩⟩

theorem newIdent : Lands (Loading q) k E (fun w i => i < w.fresh) Run.newIdent := by
  refine .modifyGet fun w _ hw => ?_
  have le : w.Extends { w with fresh := w.fresh + 1 } := ⟨Nat.le_refl _, Nat.le_succ _⟩
  exact ⟨le, hw.mono le rfl rfl rfl ⟨rfl, rfl, rfl, rfl, rfl⟩, Nat.lt_succ_self _⟩

theorem newList {vs : List Value} (h : ∀ v ∈ vs, ∃ s, v = .str s) :
    Lands (Loading q) k E (fun _ v => ∃ cell, v = .list cell) (Run.newList vs) := by
  refine .modifyGet fun w _ hw => ?_
  have le : w.Extends { w with lists := w.lists.push vs } := ⟨Nat.le_refl _, Nat.le_refl _⟩
  refine ⟨le, { hw with
    scopes := hw.scopes.mono le
    lists := fun us hu => ?_
    nodes := fun cell hc => (hw.nodes cell hc).mono le }, _, rfl⟩
  rcases Array.mem_push.1 hu with hu | rfl
  · exact hw.lists us hu
  · exact h

theorem newNode {c : NodeCell} (h : HeldCell k c) :
    Lands (Loading q) k E HeldNode (Run.newNode c) := by
  refine .modifyGet fun w hk hw => ?_
  have le : w.Extends { w with nodes := w.nodes.push c } :=
    ⟨by rw [Array.size_push]; exact Nat.le_succ _, Nat.le_refl _⟩
  refine ⟨le, { hw with
    scopes := hw.scopes.mono le
    nodes := fun cell hc => ?_ }, .mk (by rw [Array.size_push]; exact Nat.lt_succ_self _)⟩
  rcases Array.mem_push.1 hc with hc | rfl
  · exact (hw.nodes cell hc).mono le
  · exact h.mono (hk.trans le)

/-- Scopes that the pass works in: the program's own, and those of its blocks. -/
def IsInner (id : Nat) : Prop := id = 2 ∨ 3 ≤ id

theorem modifyScope (h : ∀ w, k.Extends w → Loading q w → ScopesOf q w (w.scopes.modify id f)) :
    Ends (Loading q) k E (Run.modifyScope id f) := by
  refine .modify fun w hk hw => ⟨⟨Nat.le_refl _, Nat.le_refl _⟩, ?_⟩
  have le : w.Extends { w with scopes := w.scopes.modify id f } :=
    ⟨Nat.le_refl _, Nat.le_refl _⟩
  exact { hw with
    scopes := (h w hk hw).mono le
    nodes := fun cell hc => (hw.nodes cell hc).mono le }

theorem innerScope {outer : ScopeId} {kind : ScopeKind} (hk : kind ≠ .main) :
    Lands (Loading q) k E (fun _ => IsInner) (Run.innerScope outer kind) := by
  refine .scope_bind fun s => .modifyGet fun w _ hw => ?_
  have le : w.Extends { w with
      scopes := w.scopes.push { kind := kind, parents := outer :: s.parents } } :=
    ⟨Nat.le_refl _, Nat.le_refl _⟩
  exact ⟨le, { hw with
    scopes := (hw.scopes.push hk).mono le
    nodes := fun cell hc => (hw.nodes cell hc).mono le }, .inr hw.scopes.size⟩

section

variable (hid : IsInner id)

include hid

/-- Work and branches do not matter here. -/
theorem modifyScope_of_keeps
    (hf : ∀ s, (f s).kind = s.kind ∧ (f s).parents = s.parents)
    (hown : ∀ s, (f s).vars = s.vars ∧ (f s).funcs = s.funcs) :
    Ends (Loading q) k E (Run.modifyScope id f) := by
  refine modifyScope fun w _ hw => ?_
  rcases hid with rfl | hid
  · exact hw.scopes.modify (by omega) hf (by omega) (by omega) fun _ => hown
  · exact hw.scopes.modify (by omega) hf (by omega) (by omega) (by omega)

theorem addWork : Ends (Loading q) k E (Run.addWork id v) :=
  modifyScope_of_keeps hid (fun _ => ⟨rfl, rfl⟩) fun _ => ⟨rfl, rfl⟩

theorem setBranch (b : Option Branch) :
    Ends (Loading q) k E (Run.modifyScope id fun s => { s with branch := b }) :=
  modifyScope_of_keeps hid (fun _ => ⟨rfl, rfl⟩) fun _ => ⟨rfl, rfl⟩

theorem declaring : Lands (Loading q) k E
    (fun _ target => id = 2 ∧ target = 1 ∨ 3 ≤ id ∧ target = id) (Run.declaring id) := by
  intro w _ hw
  have hscope : Run.scope id w = .ok (w.scopes.getD id default) w := rfl
  rw [Run.declaring, Run.bind_of_ok hscope]
  rcases hid with rfl | hid
  · rw [hw.scopes.kind, hw.scopes.parents]
    exact .inl ⟨1, w, rfl, .refl w, hw, .inl ⟨rfl, rfl⟩⟩
  · have hkind := hw.scopes.inner id hid
    generalize (w.scopes.getD id default).kind = kind at hkind ⊢
    cases kind with
    | main => exact absurd rfl hkind
    | block | special => exact .inl ⟨id, w, rfl, .refl w, hw, .inr ⟨hid, rfl⟩⟩

/-- Entering a name. Only what is entered at the top matters. -/
theorem enter {has : Scope → Bool}
    (hf : ∀ s, (f s).kind = s.kind ∧ (f s).parents = s.parents)
    (hvars : id = 2 → ∀ w, k.Extends w → Loading q w → ∀ name d,
      (f (w.scopes.getD 1 default)).vars.find? name = some d → ProgramVar q d)
    (hfuncs : id = 2 → ∀ w, k.Extends w → Loading q w → ∀ name g,
      (f (w.scopes.getD 1 default)).funcs.find? name = some g → ProgramFunc q w g) :
    Ends (Loading q) k E (do
      let target ← Run.declaring id
      if has (← Run.scope target) then Run.warn text
      else Run.modifyScope target f) := by
  refine .enter (declaring hid) (fun _ => warn) fun k' target le ht => modifyScope fun w hk hw => ?_
  rcases ht with ⟨rfl, rfl⟩ | ⟨hid, rfl⟩
  · exact hw.scopes.modify (by omega) hf (fun _ => hvars rfl w (le.trans hk) hw)
      (fun _ => hfuncs rfl w (le.trans hk) hw) (by omega)
  · exact hw.scopes.modify (by omega) hf (by omega) (by omega) (by omega)

theorem addVar {x : Tree} (hx : IsBody q x) :
    Ends (Loading q) k E (Run.addVar id name (.code x)) := by
  refine enter hid (fun _ => ⟨rfl, rfl⟩) (fun h w _ hw other d hd => ?_)
    fun _ w _ hw => hw.scopes.funcs
  by_cases ho : other = name
  · subst ho h
    rw [Table.find?_put_self] at hd
    cases hd
    exact .mk hx
  · rw [Table.find?_put_ne ho] at hd
    exact hw.scopes.vars other d hd

end

theorem addFunc {i : Nat} (hid : IsInner id) (hi : i < k.fresh) {p : Params Value}
    (hp : KnownParams k p) {x : Tree} (hx : IsBody q x) : Ends (Loading q) k E
      (Run.addFunc id name (.value (.function i id name p (.code x)))) := by
  refine enter hid (fun _ => ⟨rfl, rfl⟩) (fun _ w _ hw => hw.scopes.vars)
    fun h w hk hw other g hg => ?_
  by_cases ho : other = name
  · subst ho h
    rw [Table.find?_put_self] at hg
    cases hg
    exact .mk (Nat.lt_of_lt_of_le hi hk.fresh) _ (hp.mono hk) hx
  · rw [Table.find?_put_ne ho] at hg
    exact hw.scopes.funcs other g hg

theorem addMod (hid : IsInner id) {m : ModDef} : Ends (Loading q) k E (Run.addMod id name m) :=
  enter hid (fun _ => ⟨rfl, rfl⟩) (fun _ _ _ hw => hw.scopes.vars) fun _ _ _ hw => hw.scopes.funcs

theorem upkeep (q : Tree → Bool) : Upkeep (Loading q) IsInner fun t => t.contains q = false where
  child h hx := Tree.child_contains_eq_false h hx
  warn _ := warn
  notice _ := notice
  newIdent := newIdent
  newList := newList
  newNode := newNode
  innerScope _ := innerScope
  addWork _ := addWork
  setBranch b hid := setBranch hid b
  addVar _ hid hx hc := addVar hid ⟨⟨.expr, rfl, hx⟩, hc⟩
  addFunc _ hid hi hp hx hc := addFunc hid hi hp ⟨⟨.expr, rfl, hx⟩, hc⟩
  addMod _ _ hid := addMod hid

end Loading

end Scad
