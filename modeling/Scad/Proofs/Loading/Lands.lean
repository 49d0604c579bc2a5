import Scad.Proofs.Correspondence.Still
import Scad.Proofs.Parsing.Statement

/-!
Where a computation can end that starts in a world with an invariant: with a result of a given
kind, and the invariant holds again, or with a fault of a given kind. The declaration pass
consists of a few operations on the world, so it keeps what these keep.
-/

namespace Scad

open Run

/-- No parse node and no number is lost. -/
structure World.Extends (w w' : World) : Prop where
  nodes : w.nodes.size ≤ w'.nodes.size
  fresh : w.fresh ≤ w'.fresh

theorem World.Extends.refl (w : World) : w.Extends w := ⟨Nat.le_refl _, Nat.le_refl _⟩

theorem World.Extends.trans {w1 w2 w3 : World} (h : w1.Extends w2) (h' : w2.Extends w3) :
    w1.Extends w3 :=
  ⟨Nat.le_trans h.nodes h'.nodes, Nat.le_trans h.fresh h'.fresh⟩

namespace Scope

variable {s : Scope}

/-- The scope that takes up what is declared in this one. -/
def target (s : Scope) (id : ScopeId) : ScopeId :=
  match s.kind, s.parents with
  | .main, parent :: _ => parent
  | _, _ => id

theorem target_of_ne (h : s.kind ≠ .main) (id : ScopeId) : s.target id = id := by
  unfold target
  split
  · next hk _ => exact absurd hk h
  · rfl

end Scope

namespace Run

theorem declaring_eq (w : World) (a : ScopeId) :
    declaring a w = .ok ((w.scopes.getD a default).target a) w := by
  have hscope : scope a w = .ok (w.scopes.getD a default) w := rfl
  unfold declaring Scope.target
  rw [bind_of_ok hscope]
  cases (w.scopes.getD a default).kind <;> cases (w.scopes.getD a default).parents <;> rfl

variable {α β : Type} {I : World → Prop} {k : World} {E : Fault → Prop} {P Q : World → α → Prop}
  {R : World → β → Prop}

/-- From every world that extends `k` and in which `I` holds, the result is one that `Q` allows,
or there is a fault that `E` allows, and `I` holds again. -/
def Lands (I : World → Prop) (k : World) (E : Fault → Prop) (Q : World → α → Prop) (m : Run α) :
    Prop :=
  ∀ w, k.Extends w → I w → (∃ a w', m w = .ok a w' ∧ w.Extends w' ∧ I w' ∧ Q w' a) ∨
    ∃ e w', m w = .error e w' ∧ I w' ∧ E e

/-- The result does not matter. -/
abbrev Ends (I : World → Prop) (k : World) (E : Fault → Prop) (m : Run α) : Prop :=
  Lands I k E (fun _ _ => True) m

namespace Lands

variable {e : Fault} {id : ScopeId} {name : String}

theorem pure {a : α} (h : ∀ w, k.Extends w → Q w a) : Lands I k E Q (Pure.pure a) :=
  fun w hk hw => .inl ⟨a, w, rfl, .refl w, hw, h w hk⟩

theorem fault (h : E e) : Lands I k E Q (throw e) :=
  fun w _ hw => .inr ⟨e, w, rfl, hw, h⟩

theorem bind {m : Run α} {f : α → Run β} (hm : Lands I k E P m)
    (hf : ∀ k' a, k.Extends k' → P k' a → Lands I k' E R (f a)) : Lands I k E R (m >>= f) := by
  intro w hk hw
  rcases hm w hk hw with ⟨a, w1, h, le1, hw1, ha⟩ | ⟨e, w', h, hw', he⟩
  · rw [bind_of_ok h]
    refine (hf w1 a (hk.trans le1) ha w1 (.refl w1) hw1).imp_left ?_
    rintro ⟨b, w2, hb, le2, hw2, hb'⟩
    exact ⟨b, w2, hb, le1.trans le2, hw2, hb'⟩
  · exact .inr ⟨e, w', bind_of_error h, hw', he⟩

theorem last {m : Run α} {b : β} (hm : Lands I k E P m) (h : ∀ w, R w b) :
    Lands I k E R (m >>= fun _ => Pure.pure b) :=
  hm.bind fun _ _ _ _ => pure fun w _ => h w

theorem mono {m : Run α} (h : Lands I k E P m) (hpq : ∀ w a, P w a → Q w a) : Lands I k E Q m := by
  intro w hk hw
  refine (h w hk hw).imp_left ?_
  rintro ⟨a, w', h, le, hw', ha⟩
  exact ⟨a, w', h, le, hw', hpq w' a ha⟩

theorem lift_bind {x : Except Fault α} {a : α} {f : α → Run β} (hx : x = .ok a)
    (hf : Lands I k E R (f a)) : Lands I k E R (lift x >>= f) := by
  subst hx
  exact hf

theorem lift_fault {x : Except Fault α} {f : α → Run β} (hx : x = .error e) (he : E e) :
    Lands I k E R (lift x >>= f) := by
  subst hx
  exact fun w _ hw => .inr ⟨e, w, rfl, hw, he⟩

theorem ite {c : Prop} [Decidable c] {m m' : Run α} (h : c → Lands I k E Q m)
    (h' : ¬ c → Lands I k E Q m') : Lands I k E Q (if c then m else m') := by
  split
  · exact h ‹_›
  · exact h' ‹_›

theorem scope_bind {f : Scope → Run β} (h : ∀ s, Lands I k E R (f s)) :
    Lands I k E R (scope id >>= f) :=
  fun w => h (w.scopes.getD id default) w

theorem modifyGet {f : World → α × World}
    (h : ∀ w, k.Extends w → I w → w.Extends (f w).2 ∧ I (f w).2 ∧ Q (f w).2 (f w).1) :
    Lands I k E Q (modifyGet f) :=
  fun w hk hw => .inl ⟨(f w).1, (f w).2, rfl, h w hk hw⟩

theorem modify {f : World → World} (h : ∀ w, k.Extends w → I w → w.Extends (f w) ∧ I (f w)) :
    Ends I k E (modify f) :=
  fun w hk hw => .inl ⟨(), f w, rfl, (h w hk hw).1, (h w hk hw).2, trivial⟩

/-- Entering a name: a warning if it is there, or else a change of a scope. -/
theorem enter {T : ScopeId → Prop} {has : Scope → Bool} {text : String} {f : Scope → Scope}
    (hd : Lands I k E (fun _ => T) (declaring id)) (hw : ∀ k, Ends I k E (warn text))
    (hf : ∀ k' target, k.Extends k' → T target → Ends I k' E (modifyScope target f)) :
    Ends I k E (do
      let target ← declaring id
      if has (← scope target) then warn text
      else modifyScope target f) :=
  hd.bind fun k' target le ht =>
    scope_bind fun _ => ite (fun _ => hw k') fun _ => hf k' target le ht

end Lands
end Run

/-! ## What is declared -/

inductive HeldNode (w : World) : Value → Prop
  | mk {cell : Nat} (h : cell < w.nodes.size) : HeldNode w (.node cell)

inductive HeldCell (w : World) : NodeCell → Prop
  | leaf (rule text : String) (pos : Nat) : HeldCell w (.leaf rule text pos)
  | inner (rule : String) {vs : List Value} (h : ∀ v ∈ vs, HeldNode w v) :
      HeldCell w (.inner rule vs)

inductive KnownParams (w : World) : Params Value → Prop
  | mk (names : List String) {es : List (String × Value)} (h : ∀ e ∈ es, HeldNode w e.2) :
      KnownParams w (.named names es)

/-- What declaring a list of parameters gives: a list of names, and a table of defaults. -/
inductive IsParams (w : World) : Value → Prop
  | mk (cell : Nat) {es : List (String × Value)} (h : ∀ e ∈ es, HeldNode w e.2) :
      IsParams w (.tuple [.list cell, .dict es])

section

variable {w w' : World} (le : w.Extends w')

include le

theorem HeldNode.mono {v : Value} (h : HeldNode w v) : HeldNode w' v := by
  cases h with
  | mk h => exact .mk (Nat.lt_of_lt_of_le h le.nodes)

theorem HeldCell.mono {c : NodeCell} (h : HeldCell w c) : HeldCell w' c := by
  cases h with
  | leaf rule text pos => exact .leaf rule text pos
  | inner rule h => exact .inner rule fun v hv => (h v hv).mono le

theorem KnownParams.mono {p : Params Value} (h : KnownParams w p) : KnownParams w' p := by
  cases h with
  | mk names h => exact .mk names fun e he => (h e he).mono le

end

open Run (Lands Ends)

/-- An invariant that is kept while parameters are read, for trees without something. -/
structure Keeps (I : World → Prop) (clean : Tree → Prop) : Prop where
  child : ∀ {r ts x}, clean (.node r ts) → x ∈ ts → clean x
  newIdent : ∀ {k E}, Lands I k E (fun w i => i < w.fresh) newIdent
  newList : ∀ {k E vs}, (∀ v ∈ vs, ∃ s, v = .str s) →
    Lands I k E (fun _ v => ∃ cell, v = .list cell) (newList vs)
  newNode : ∀ {k E c}, HeldCell k c → Lands I k E HeldNode (newNode c)

/-- An invariant that the operations of the declaration pass keep, in scopes of its own. -/
structure Upkeep (I : World → Prop) (own : ScopeId → Prop) (clean : Tree → Prop) : Prop
    extends Keeps I clean where
  warn : ∀ {k E} (text : String), Ends I k E (warn text)
  notice : ∀ {k E} (text : String), Ends I k E (notice text)
  innerScope : ∀ {k E kind} (outer : ScopeId), kind ≠ .main →
    Lands I k E (fun _ id => own id) (innerScope outer kind)
  addWork : ∀ {k E id} (v : Value), own id → Ends I k E (addWork id v)
  setBranch : ∀ {k E id} (b : Option Branch), own id →
    Ends I k E (modifyScope id fun s => { s with branch := b })
  addVar : ∀ {k E id x} (name : String), own id → x.Is .expr → clean x →
    Ends I k E (addVar id name (.code x))
  addFunc : ∀ {k E id i p x} (name : String), own id → i < k.fresh → KnownParams k p →
    x.Is .expr → clean x →
    Ends I k E (addFunc id name (.value (.function i id name p (.code x))))
  addMod : ∀ {k E id} (name : String) (m : ModDef), own id → Ends I k E (addMod id name m)

/-- An invariant for which numbers, lists and nodes do not matter. -/
theorem Keeps.of_cells {I : World → Prop} (cells : ∀ {w : World} {fresh lists nodes}, I w →
      I { w with fresh := fresh, lists := lists, nodes := nodes }) : Keeps I fun _ => True where
  child _ _ := trivial
  newIdent := .modifyGet fun w _ hw =>
    ⟨⟨Nat.le_refl _, Nat.le_succ _⟩, cells hw, Nat.lt_succ_self _⟩
  newList _ := .modifyGet fun w _ hw => ⟨⟨Nat.le_refl _, Nat.le_refl _⟩, cells hw, _, rfl⟩
  newNode := @fun _ _ c _ => .modifyGet fun w _ hw => by
    have hlt : w.nodes.size < (w.nodes.push c).size := by simp
    exact ⟨⟨Nat.le_of_lt hlt, Nat.le_refl _⟩, cells hw, .mk hlt⟩

/-- An invariant that is only about scopes and environments. -/
theorem Upkeep.of_scopes {I : World → Prop} {own : ScopeId → Prop}
    (still : ∀ {w w' : World}, I w → w'.scopes = w.scopes → w'.frames = w.frames → I w')
    (push : ∀ {w : World} {s : Scope}, I w → s.kind ≠ .main →
      I { w with scopes := w.scopes.push s } ∧ own w.scopes.size)
    (modify : ∀ {w : World} {id f}, I w → own id → (∀ s, (f s).kind = s.kind) →
      I { w with scopes := w.scopes.modify id f })
    (target : ∀ {w : World} {id}, I w → own id → own ((w.scopes.getD id default).target id)) :
    Upkeep I own fun _ => True := by
  have hscope {k E id} {f : Scope → Scope} (hid : own id) (hf : ∀ s, (f s).kind = s.kind) :
      Ends I k E (modifyScope id f) :=
    .modify fun w _ hw => ⟨⟨Nat.le_refl _, Nat.le_refl _⟩, modify hw hid hf⟩
  have hwarn {k E} (text : String) : Ends I k E (Run.warn text) :=
    .modify fun w _ hw => ⟨⟨Nat.le_refl _, Nat.le_refl _⟩, still hw rfl rfl⟩
  have henter {k E id text} {has : Scope → Bool} {f : Scope → Scope} (hid : own id)
      (hf : ∀ s, (f s).kind = s.kind) : Ends I k E (do
        let target ← declaring id
        if has (← Run.scope target) then Run.warn text
        else modifyScope target f) :=
    .enter (T := own) (fun w _ hw => .inl ⟨_, w, declaring_eq w id, .refl w, hw, target hw hid⟩)
      (fun _ => hwarn text) fun _ _ _ ht => hscope ht hf
  exact
    { Keeps.of_cells fun hw => still hw rfl rfl with
      warn := hwarn
      notice := fun _ => .modify fun w _ hw => ⟨⟨Nat.le_refl _, Nat.le_refl _⟩, still hw rfl rfl⟩
      innerScope := fun _ hk => .scope_bind fun _ => .modifyGet fun w _ hw =>
        ⟨⟨Nat.le_refl _, Nat.le_refl _⟩, push hw hk⟩
      addWork := fun _ hid => hscope hid fun _ => rfl
      setBranch := fun _ hid => hscope hid fun _ => rfl
      addVar := fun _ hid _ _ => henter hid fun _ => rfl
      addFunc := fun _ hid _ _ _ _ => henter hid fun _ => rfl
      addMod := fun _ _ hid => henter hid fun _ => rfl }

section

variable {I : World → Prop} {clean : Tree → Prop} {E : Fault → Prop} {k : World} {v : Value}

theorem IsParams.ofValue (h : IsParams k v) : Lands I k E KnownParams (Params.ofValue v) := by
  cases h with
  | mk cell h =>
    exact fun w hk hw => .inl ⟨_, w, rfl, .refl w, hw, .mk _ fun e he => (h e he).mono hk⟩

mutual

theorem Keeps.adopt (K : Keeps I clean) : (t : Tree) → {k : World} → Lands I k E HeldNode t.adopt
  | .leaf r s p, _ => K.newNode (.leaf r s p)
  | .node r ts, _ => (K.adoptAll ts).bind fun _ _ _ h => K.newNode (.inner r h)

theorem Keeps.adoptAll (K : Keeps I clean) : (ts : List Tree) → {k : World} →
    Lands I k E (fun w vs => ∀ v ∈ vs, HeldNode w v) (Tree.adoptAll ts)
  | [], _ => .pure fun _ _ v hv => by cases hv
  | t :: ts, _ => (K.adopt t).bind fun k1 v _ hv => (K.adoptAll ts).bind fun k2 vs le hvs =>
      .pure fun w hw u hu => by
        rcases List.mem_cons.1 hu with rfl | hu
        · exact hv.mono (le.trans hw)
        · exact (hvs u hu).mono hw

end

end

end Scad
