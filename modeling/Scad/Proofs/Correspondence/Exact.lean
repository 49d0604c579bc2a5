import Scad.Proofs.Correspondence.Laws

/-!
Links under which what is alike is equal. Cells keep their numbers, and only environments
may be told apart by them. All that stands between a value and being alike to itself is a
table in it that has a name that begins with `$`.
-/

namespace Scad

/-- The roles in which values and scopes refer to numbers. -/
def Role.isHeld : Role → Bool
  | list | node | ident | stream | scope | work | place | decl | cycle => true
  | _ => false

/-- Every number that a value or a scope refers to is linked with itself only, and nothing
else is asked of values but that their tables have no names that begin with `$`. -/
structure Link.Exact (κ : Link) : Prop where
  same : ∀ {k a b}, k.isHeld = true → (κ.same k a b ↔ a = b)
  tree : ∀ t, κ.tree t
  rule : ∀ s, κ.rule s
  word : ∀ s, κ.word s
  entry : ∀ {name}, Eval.isDynamicName name = false → κ.entry name
  loose : κ.loose
  misfit : ∀ e, κ.misfit e

theorem option_rel_self {α : Type} {R : α → α → Prop} {o : Option α} (h : ∀ a, o = some a → R a a) :
    Option.Rel R o o := by
  cases o with
  | none => exact .none
  | some a => exact .some (h a rfl)

/-! ## Values that are alike -/

section

variable {κ : Link} (E : κ.Exact)

include E

theorem Link.Exact.eq {k : Role} (hk : k.isHeld = true) {a b : Nat} (h : κ.same k a b) : a = b :=
  (E.same hk).1 h

theorem Link.Exact.self {k : Role} (hk : k.isHeld = true) (a : Nat) : κ.same k a a :=
  (E.same hk).2 rfl

/-- Where no shape of nodes is asked for, such a link is lawful. -/
theorem Link.Exact.lawful (h : ∀ t, ¬κ.fit t) : κ.Lawful where
  place_of_scope hab := (E.same rfl).2 (E.eq rfl hab)
  work_of_scope hab := (E.same rfl).2 (E.eq rfl hab)
  tree_child _ _ := E.tree _
  word_of_tree _ := ⟨fun _ _ => E.word _, fun _ _ => E.word _⟩
  word_of_rule _ _ _ _ := E.word _
  entry_of_plain := E.entry
  misfit_of_loose _ e _ := E.misfit e
  misfit_of_fit ht := absurd ht (h _)
  fit_allows ht := absurd ht (h _)
  fit_part ht := absurd ht (h _)

end

mutual

theorem Value.Alike.eq {κ : Link} (E : κ.Exact) : ∀ {v w : Value}, v.Alike κ w → v = w
  | _, _, .undef | _, _, .bool _ | _, _, .int _ | _, _, .float _ | _, _, .str _ | _, _, .code _
  | _, _, .statement _ | _, _, .host _ | _, _, .unbuilt | _, _, .native _ | _, _, .foreign _ => rfl
  | _, _, .nan h => congrArg _ (E.eq rfl h)
  | _, _, .list h => congrArg _ (E.eq rfl h)
  | _, _, .tuple h => congrArg _ (Values.Alike.eq E h)
  | _, _, .dict h _ => congrArg _ (Entries.Alike.eq E h)
  | _, _, .node h => congrArg _ (E.eq rfl h)
  | _, _, .shape h _ => by rw [E.eq rfl h]
  | _, _, .axis h ho hd => by rw [E.eq rfl h, ho.eq E, hd.eq E]
  | _, _, .function h hs _ (.named _ hp) hb _ => by
    rw [E.eq rfl h, E.eq rfl hs, Entries.Alike.eq E hp, hb.eq E]
  | _, _, .function h hs _ (.other hp) hb _ => by
    rw [E.eq rfl h, E.eq rfl hs, hp.eq E, hb.eq E]
  | _, _, .range h ha hb hc _ => by rw [E.eq rfl h, ha.eq E, hb.eq E, hc.eq E]
  | _, _, .parent _ hs _ => by rw [E.eq rfl hs]
  | _, _, .scope h => congrArg _ (E.eq rfl h)
  | _, _, .invoke h => congrArg _ (E.eq rfl h)
  | _, _, .pick h hv => by rw [E.eq rfl h, Values.Alike.eq E hv]
  | _, _, .method h _ => by rw [h.eq E]
  | _, _, .pending h => congrArg _ (E.eq rfl h)

theorem Values.Alike.eq {κ : Link} (E : κ.Exact) : ∀ {vs ws : List Value},
    Values.Alike κ vs ws → vs = ws
  | _, _, .nil => rfl
  | _, _, .cons h hs => by rw [h.eq E, Values.Alike.eq E hs]

theorem Entries.Alike.eq {κ : Link} (E : κ.Exact) : ∀ {es fs : List (String × Value)},
    Entries.Alike κ es fs → es = fs
  | _, _, .nil => rfl
  | _, _, .cons (.mk _ h) hs => by rw [h.eq E, Entries.Alike.eq E hs]

end

theorem Fault.Alike.eq {κ : Link} (E : κ.Exact) {e f : Fault} (h : e.Alike κ f) : e = f := by
  cases h with
  | plain _ | misfit _ => rfl
  | failed h => rw [h.eq E]

/-! ## Values that are alike to themselves -/

mutual

/-- No table in the value has a name that begins with `$`. -/
def Value.plain : Value → Bool
  | .tuple vs | .pick _ vs => Value.plainAll vs
  | .dict es => es.all (fun e => !Eval.isDynamicName e.1) && Value.plainEntries es
  | .axis _ o d => o.plain && d.plain
  | .function _ _ _ p b => Params.plain p && b.plain
  | .range _ a b c => a.plain && b.plain && c.plain
  | .method v _ => v.plain
  | _ => true

def Value.plainAll : List Value → Bool
  | [] => true
  | v :: vs => v.plain && Value.plainAll vs

def Value.plainEntries : List (String × Value) → Bool
  | [] => true
  | (_, v) :: es => v.plain && Value.plainEntries es

def Params.plain : Params Value → Bool
  | .named _ es => Value.plainEntries es
  | .other v => v.plain

end

section

variable {κ : Link} (E : κ.Exact)

include E

theorem Link.Exact.fit (v : Value) : κ.Fit v := .loose E.loose

theorem Link.Exact.call (t : Tree) : κ.Call t := .tree (E.tree t) (E.fit _)

end

/-- Every name may stand in a table of the value, or none that it has begins with `$`. -/
abbrev Link.Spares (κ : Link) (plain : Bool) : Prop := (∀ name, κ.entry name) ∨ plain = true

theorem Link.Spares.and {κ : Link} {a b : Bool} (h : κ.Spares (a && b)) :
    κ.Spares a ∧ κ.Spares b := by
  rcases h with h | h
  · exact ⟨.inl h, .inl h⟩
  · rw [Bool.and_eq_true] at h
    exact ⟨.inr h.1, .inr h.2⟩

mutual

theorem Value.alike_self {κ : Link} (E : κ.Exact) : ∀ (v : Value), κ.Spares v.plain → v.Alike κ v
  | .undef, _ => .undef
  | .bool b, _ => .bool b
  | .int n, _ => .int n
  | .float x, _ => .float x
  | .nan i, _ => .nan (E.self rfl i)
  | .str s, _ => .str s
  | .list a, _ => .list (E.self rfl a)
  | .tuple vs, h => .tuple (Values.alike_self E vs h)
  | .dict es, h => by
    have h : κ.Spares (es.all (fun e => !Eval.isDynamicName e.1)) ∧
        κ.Spares (Value.plainEntries es) := h.and
    refine .dict (Entries.alike_self E es h.2) fun e he => ?_
    rcases h.1 with h | h
    · exact h e.1
    · exact E.entry (by simpa using List.all_eq_true.1 h e he)
  | .node a, _ => .node (E.self rfl a)
  | .code t, _ => .code (E.tree t)
  | .shape i made, _ => .shape (E.self rfl i) made
  | .axis i o d, h => by
    have h : κ.Spares o.plain ∧ κ.Spares d.plain := h.and
    exact .axis (E.self rfl i) (Value.alike_self E o h.1) (Value.alike_self E d h.2)
  | .function i s name p b, h => by
    have h : κ.Spares (Params.plain p) ∧ κ.Spares b.plain := h.and
    exact .function (E.self rfl i) (E.self rfl s) name (Params.alike_self E p h.1)
      (Value.alike_self E b h.2) (E.fit b)
  | .range i a b c, h => by
    have h : κ.Spares (a.plain && b.plain) ∧ κ.Spares c.plain := h.and
    exact .range (E.self rfl i) (Value.alike_self E a h.1.and.1) (Value.alike_self E b h.1.and.2)
      (Value.alike_self E c h.2) ⟨E.fit a, E.fit b, E.fit c⟩
  | .statement call none, _ => .statement (E.call call)
  | .statement call (some s), _ => .parent (E.call call) (E.self rfl s) fun _ => E.self rfl s
  | .scope a, _ => .scope (E.self rfl a)
  | .host g, _ => .host g
  | .invoke i, _ => .invoke (E.self rfl i)
  | .pick i vs, h => .pick (E.self rfl i) (Values.alike_self E vs h)
  | .unbuilt, _ => .unbuilt
  | .native name, _ => .native name
  | .method v name, h => .method (Value.alike_self E v h) name
  | .foreign type, _ => .foreign type
  | .pending a, _ => .pending (E.self rfl a)

theorem Values.alike_self {κ : Link} (E : κ.Exact) : ∀ (vs : List Value),
    κ.Spares (Value.plainAll vs) → Values.Alike κ vs vs
  | [], _ => .nil
  | v :: vs, h => by
    have h : κ.Spares v.plain ∧ κ.Spares (Value.plainAll vs) := h.and
    exact .cons (Value.alike_self E v h.1) (Values.alike_self E vs h.2)

theorem Entries.alike_self {κ : Link} (E : κ.Exact) : ∀ (es : List (String × Value)),
    κ.Spares (Value.plainEntries es) → Entries.Alike κ es es
  | [], _ => .nil
  | (name, v) :: es, h => by
    have h : κ.Spares v.plain ∧ κ.Spares (Value.plainEntries es) := h.and
    exact .cons (.mk name (Value.alike_self E v h.1)) (Entries.alike_self E es h.2)

theorem Params.alike_self {κ : Link} (E : κ.Exact) : ∀ (p : Params Value),
    κ.Spares (Params.plain p) → p.Alike κ p
  | .named required es, h => .named required (Entries.alike_self E es h)
  | .other v, h => .other (Value.alike_self E v h)

end

end Scad
