import Scad.Eval.Expression
import Mathlib.Data.List.Forall2
import Mathlib.Order.Basic

/-!
When two values, faults or tasks of two different worlds stand for the same
thing. Cells, scopes and environments are known by number, and the numbers of
one world need not be those of the other, so everything here is relative to a
link between the two numberings. A link only grows while the worlds run on.
-/

theorem Option.Rel.imp {α β : Type} {R S : α → β → Prop} (h : ∀ a b, R a b → S a b)
    {a : Option α} {b : Option β} (hr : Option.Rel R a b) : Option.Rel S a b := by
  cases hr with
  | some hr => exact .some (h _ _ hr)
  | none => exact .none

namespace Scad

variable {α β : Type} {κ κ' : Link} {v : Value} {es fs : List (String × Value)} {rule : String}

section

variable {R : α → β → Prop} {xs : List α} {ys : List β} (h : List.Forall₂ R xs ys)

include h

theorem forall₂_isEmpty : xs.isEmpty = ys.isEmpty := by
  cases h <;> rfl

theorem forall₂_getElem? (n : Nat) : Option.Rel R xs[n]? ys[n]? := by
  induction h generalizing n with
  | nil => exact .none
  | cons h _ ih =>
    cases n with
    | zero => exact .some h
    | succ n => exact ih n

theorem forall₂_set (n : Nat) {a : α} {b : β} (hab : R a b) :
    List.Forall₂ R (xs.set n a) (ys.set n b) := by
  induction h generalizing n with
  | nil => exact .nil
  | cons hx h ih =>
    cases n with
    | zero => exact .cons hab h
    | succ n => exact .cons hx (ih n)

end

/-- What a pair of numbers can have in common. A scope has several parts that
need not correspond together: what it declares, what can be seen from it, what
it builds, and whether a loop can run over it. -/
inductive Role where
  | list | node | ident | stream
  /-- The same block as a value. -/
  | scope
  /-- Blocks that build the same. -/
  | work
  /-- Scopes from which the same names are seen. -/
  | place
  /-- Scopes that declare the same names. -/
  | decl
  /-- Blocks whose loop variables are kept in corresponding scopes. -/
  | cycle
  /-- Environments in which the same happens. -/
  | frame
  /-- Tables of values that correspond entry by entry. -/
  | table
  /-- Environments whose tables of values correspond entry by entry. -/
  | own
  /-- Environments whose tables of values correspond but for names that begin with `$`. -/
  | plain
  /-- Environments that answer alike when a name that begins with `$` is asked. -/
  | origin
  /-- Environments that may be the current ones. -/
  | current
  /-- Environments whose scopes build the same. -/
  | builder
  /-- Environments whose child a loop can run over. -/
  | loop
  /-- Environments with corresponding entries under the name that extrusion looks up. -/
  | extruder
  deriving DecidableEq

/-- Which numbers of two worlds correspond, which trees and rules of nodes occur
in their values, by which names functions and modules are called, and which names
arguments have. Nodes that may be evaluated are restricted to those that have the
shape that their evaluation expects, unless the link is loose; then also the faults
for nodes of another shape may come up. -/
structure Link where
  same : Role → Nat → Nat → Prop
  tree : Tree → Prop
  rule : String → Prop
  word : String → Prop
  entry : String → Prop
  /-- Trees that have the shape that their evaluation expects. -/
  fit : Tree → Prop
  /-- Every node may be evaluated. -/
  loose : Prop
  /-- Faults for the shape of a node that may come up. -/
  misfit : Fault → Prop

structure Link.Le (κ κ' : Link) : Prop where
  same : ∀ k a b, κ.same k a b → κ'.same k a b
  tree : ∀ t, κ.tree t → κ'.tree t
  rule : ∀ s, κ.rule s → κ'.rule s
  word : ∀ s, κ.word s → κ'.word s
  entry : ∀ s, κ.entry s → κ'.entry s
  fit : ∀ t, κ.fit t → κ'.fit t
  loose : κ.loose → κ'.loose
  misfit : ∀ e, κ.misfit e → κ'.misfit e

namespace Link

instance : Preorder Link where
  le := Link.Le
  le_refl _ := ⟨fun _ _ _ h => h, fun _ h => h, fun _ h => h, fun _ h => h, fun _ h => h,
    fun _ h => h, fun h => h, fun _ h => h⟩
  le_trans _ _ _ h h' := ⟨fun k a b hs => h'.same k a b (h.same k a b hs),
    fun t ht => h'.tree t (h.tree t ht), fun s hs => h'.rule s (h.rule s hs),
    fun s hs => h'.word s (h.word s hs), fun s hs => h'.entry s (h.entry s hs),
    fun t ht => h'.fit t (h.fit t ht), fun hl => h'.loose (h.loose hl),
    fun e he => h'.misfit e (h.misfit e he)⟩

/-- The link after a step of a run follows the one before. -/
class Next (κ : outParam Link) (κ' : Link) : Prop where
  le : κ ≤ κ'

/-- A link of a run and a later one, so that everything goes `up` from the first to the second. -/
class Before (κ κ' : Link) : Prop where
  le : κ ≤ κ'

instance : κ.Before κ := ⟨le_rfl⟩

instance {κ'' : Link} [h : κ'.Next κ''] [h' : κ.Before κ'] : κ.Before κ'' := ⟨h'.le.trans h.le⟩

variable [h : κ.Before κ']

include h

theorem same.up {k : Role} {a b : Nat} (hs : κ.same k a b) : κ'.same k a b := h.le.same k a b hs

theorem tree.up {t : Tree} (ht : κ.tree t) : κ'.tree t := h.le.tree t ht

theorem rule.up {s : String} (hs : κ.rule s) : κ'.rule s := h.le.rule s hs

theorem word.up {s : String} (hs : κ.word s) : κ'.word s := h.le.word s hs

theorem entry.up {s : String} (hs : κ.entry s) : κ'.entry s := h.le.entry s hs

theorem fit.up {t : Tree} (ht : κ.fit t) : κ'.fit t := h.le.fit t ht

theorem loose.up (hl : κ.loose) : κ'.loose := h.le.loose hl

theorem misfit.up {e : Fault} (he : κ.misfit e) : κ'.misfit e := h.le.misfit e he

end Link

def Value.isNode : Value → Bool
  | .code _ | .node _ => true
  | _ => false

/-- A value that may be evaluated: it has the shape that its evaluation expects, or it is
no node at all. -/
inductive Link.Fit (κ : Link) : Value → Prop
  | loose {v : Value} (h : κ.loose) : Fit κ v
  | tree {t : Tree} (h : κ.fit t) : Fit κ (.code t)
  | other {v : Value} (h : v.isNode = false) : Fit κ v

theorem Link.Fit.up [κ.Before κ'] (h : κ.Fit v) : κ'.Fit v := by
  cases h with
  | loose h => exact .loose h.up
  | tree h => exact .tree h.up
  | other h => exact .other h

/-- Nodes of a form may be evaluated. -/
def Link.Handles (κ : Link) (form : ExprForm) : Prop :=
  κ.loose ∨ ∃ t, κ.fit t ∧ ExprForm.ofRule? t.rule = some form

theorem Link.Handles.up [κ.Before κ'] {form : ExprForm} (h : κ.Handles form) : κ'.Handles form :=
  h.imp Link.loose.up fun ⟨t, ht, hf⟩ => ⟨t, ht.up, hf⟩

def Link.Allows {α : Type} (κ : Link) (es : List (String × α)) : Prop := ∀ e ∈ es, κ.entry e.1

theorem Link.Allows.up [κ.Before κ'] {es : List (String × α)} (he : κ.Allows es) : κ'.Allows es :=
  fun e hm => (he e hm).up

theorem Link.Allows.append {es fs : List (String × α)} (he : κ.Allows es)
    (hf : κ.Allows fs) : κ.Allows (es ++ fs) :=
  fun e hm => (List.mem_append.1 hm).elim (he e) (hf e)

/-- Environments in whose tables a name is known alike. -/
def Link.Knows (κ : Link) (a b : FrameId) (name : String) : Prop :=
  κ.same .own a b ∨ κ.same .plain a b ∧ Eval.isDynamicName name = false

theorem Link.Knows.up [κ.Before κ'] {a b : FrameId} {name : String}
    (hk : κ.Knows a b name) : κ'.Knows a b name :=
  hk.imp (·.up) fun hk => ⟨hk.1.up, hk.2⟩

def Tree.callee : Tree → String
  | .node _ (t :: _) => t.value
  | _ => ""

def Tree.applied : Tree → String
  | .node _ (.node _ (t :: _) :: _) => t.value
  | _ => ""

def Tree.isNamedCall : Tree → Bool
  | .node _ (.node _ (a :: _) :: .node _ (b :: _) :: _) =>
      a.rule == "pr_Sym" && b.rule == "add_args"
  | _ => false

/-- A tree that calls a module: either it may occur in values anyway, or its
parts may. -/
inductive Link.Call (κ : Link) : Tree → Prop
  | tree {t : Tree} (h : κ.tree t) (hf : κ.Fit (.code t)) : Call κ t
  | parts {rule : String} {ts : List Tree} (hr : ExprForm.ofRule? rule = some .modCall)
      (hw : κ.word (Tree.node rule ts).callee) (ht : ∀ u ∈ ts, κ.tree u)
      (hf : κ.Fit (.code (.node rule ts))) : Call κ (.node rule ts)

theorem Link.Call.up [κ.Before κ'] {t : Tree} (hc : κ.Call t) : κ'.Call t := by
  cases hc with
  | tree ht hf => exact .tree ht.up hf.up
  | parts hr hw ht hf =>
    exact .parts hr hw.up (fun u hu => (ht u hu).up) hf.up

/-! ## Values -/

inductive EntryRel (R : Value → Value → Prop) : String × Value → String × Value → Prop
  | mk (name : String) {v w : Value} (h : R v w) : EntryRel R (name, v) (name, w)

inductive ParamsRel (R : Value → Value → Prop) : Params Value → Params Value → Prop
  | named (required : List String) {es fs : List (String × Value)}
      (h : List.Forall₂ (EntryRel R) es fs) :
      ParamsRel R (.named required es) (.named required fs)
  | other {v w : Value} (h : R v w) : ParamsRel R (.other v) (.other w)

inductive Value.Alike (κ : Link) : Value → Value → Prop
  | undef : Alike κ .undef .undef
  | bool (b : Bool) : Alike κ (.bool b) (.bool b)
  | int (n : Int) : Alike κ (.int n) (.int n)
  | float (x : Float) : Alike κ (.float x) (.float x)
  | nan {i j : Nat} (h : κ.same .ident i j) : Alike κ (.nan i) (.nan j)
  | str (s : Text) : Alike κ (.str s) (.str s)
  | list {a b : Nat} (h : κ.same .list a b) : Alike κ (.list a) (.list b)
  | tuple {vs ws : List Value} (h : List.Forall₂ (Alike κ) vs ws) :
      Alike κ (.tuple vs) (.tuple ws)
  | dict {es fs : List (String × Value)} (h : List.Forall₂ (EntryRel (Alike κ)) es fs)
      (hn : κ.Allows es) : Alike κ (.dict es) (.dict fs)
  | node {a b : Nat} (h : κ.same .node a b) : Alike κ (.node a) (.node b)
  | code {t : Tree} (h : κ.tree t) : Alike κ (.code t) (.code t)
  | shape {i j : Nat} (h : κ.same .ident i j) (made : Record) :
      Alike κ (.shape i made) (.shape j made)
  | axis {i j : Nat} (h : κ.same .ident i j) {o o' d d' : Value} (ho : Alike κ o o')
      (hd : Alike κ d d') : Alike κ (.axis i o d) (.axis j o' d')
  | function {i j : Nat} (h : κ.same .ident i j) {s t : ScopeId} (hs : κ.same .place s t)
      (name : String) {p q : Params Value} (hp : ParamsRel (Alike κ) p q) {b c : Value}
      (hb : Alike κ b c) (hf : κ.Fit b) : Alike κ (.function i s name p b) (.function j t name q c)
  | range {i j : Nat} (h : κ.same .ident i j) {a a' b b' c c' : Value} (ha : Alike κ a a')
      (hb : Alike κ b b') (hc : Alike κ c c') (hf : κ.Fit a ∧ κ.Fit b ∧ κ.Fit c) :
      Alike κ (.range i a b c) (.range j a' b' c')
  | statement {call : Tree} (h : κ.Call call) :
      Alike κ (.statement call none) (.statement call none)
  | parent {call : Tree} (h : κ.Call call) {a b : ScopeId} (hs : κ.same .scope a b)
      (hl : call.callee = "for" → κ.same .cycle a b) :
      Alike κ (.statement call (some a)) (.statement call (some b))
  | scope {a b : ScopeId} (h : κ.same .scope a b) : Alike κ (.scope a) (.scope b)
  | host (h : Host) : Alike κ (.host h) (.host h)
  | invoke {i j : Nat} (h : κ.same .ident i j) : Alike κ (.invoke i) (.invoke j)
  | pick {i j : Nat} (h : κ.same .ident i j) {vs ws : List Value}
      (hv : List.Forall₂ (Alike κ) vs ws) : Alike κ (.pick i vs) (.pick j ws)
  | unbuilt : Alike κ .unbuilt .unbuilt
  | native (name : String) : Alike κ (.native name) (.native name)
  | method {v w : Value} (h : Alike κ v w) (name : String) :
      Alike κ (.method v name) (.method w name)
  | foreign (type : String) : Alike κ (.foreign type) (.foreign type)
  | pending {a b : Nat} (h : κ.same .stream a b) : Alike κ (.pending a) (.pending b)

abbrev Values.Alike (κ : Link) : List Value → List Value → Prop :=
  List.Forall₂ (Value.Alike κ)

abbrev Entries.Alike (κ : Link) : List (String × Value) → List (String × Value) → Prop :=
  List.Forall₂ (EntryRel (Value.Alike κ))

abbrev Params.Alike (κ : Link) : Params Value → Params Value → Prop :=
  ParamsRel (Value.Alike κ)

mutual

theorem Value.Alike.up {κ κ' : Link} [κ.Before κ'] : ∀ {v w : Value}, v.Alike κ w → v.Alike κ' w
  | _, _, .undef => .undef
  | _, _, .bool b => .bool b
  | _, _, .int n => .int n
  | _, _, .float x => .float x
  | _, _, .nan h => .nan h.up
  | _, _, .str s => .str s
  | _, _, .list h => .list h.up
  | _, _, .tuple h => .tuple (Values.Alike.up h)
  | _, _, .dict h hn => .dict (Entries.Alike.up h) hn.up
  | _, _, .node h => .node h.up
  | _, _, .code h => .code h.up
  | _, _, .shape h made => .shape h.up made
  | _, _, .axis h ho hd => .axis h.up ho.up hd.up
  | _, _, .function h hs name (.named r hp) hb hf => .function h.up hs.up name
        (.named r (Entries.Alike.up hp)) hb.up hf.up
  | _, _, .function h hs name (.other hp) hb hf => .function h.up hs.up name (.other hp.up) hb.up
        hf.up
  | _, _, .range h ha hb hc hf => .range h.up ha.up hb.up hc.up ⟨hf.1.up, hf.2.1.up, hf.2.2.up⟩
  | _, _, .statement h => .statement h.up
  | _, _, .parent h hs hl => .parent h.up hs.up fun hc => (hl hc).up
  | _, _, .scope h => .scope h.up
  | _, _, .host h => .host h
  | _, _, .invoke h => .invoke h.up
  | _, _, .pick h hv => .pick h.up (Values.Alike.up hv)
  | _, _, .unbuilt => .unbuilt
  | _, _, .native name => .native name
  | _, _, .method h name => .method h.up name
  | _, _, .foreign type => .foreign type
  | _, _, .pending h => .pending h.up

theorem Values.Alike.up {κ κ' : Link} [κ.Before κ'] :
    ∀ {vs ws : List Value}, Values.Alike κ vs ws → Values.Alike κ' vs ws
  | _, _, .nil => .nil
  | _, _, .cons h hs => .cons h.up (Values.Alike.up hs)

theorem Entries.Alike.up {κ κ' : Link} [κ.Before κ'] :
    ∀ {es fs : List (String × Value)}, Entries.Alike κ es fs → Entries.Alike κ' es fs
  | _, _, .nil => .nil
  | _, _, .cons (.mk name h) hs => .cons (.mk name h.up) (Entries.Alike.up hs)

end

theorem Params.Alike.up [κ.Before κ'] {p q : Params Value} (h : p.Alike κ q) : p.Alike κ' q := by
  cases h with
  | named required h => exact .named required (Entries.Alike.up h)
  | other h => exact .other h.up

/-! ### What can be seen of a value without the world -/

namespace Value.Alike

variable {w : Value}

section

variable (h : v.Alike κ w)

include h

theorem num?_eq : v.num? = w.num? := by cases h <;> rfl

theorem int?_eq : v.int? = w.int? := by cases h <;> rfl

theorem isNumber_eq : v.isNumber = w.isNumber := by cases h <;> rfl

theorem isUndef_eq : v.isUndef = w.isUndef := by cases h <;> rfl

theorem isCallable_eq : v.isCallable = w.isCallable := by cases h <;> rfl

end

end Value.Alike

mutual

theorem Value.Alike.isKey_eq {κ : Link} : ∀ {v w : Value}, v.Alike κ w → v.isKey = w.isKey
  | _, _, .tuple h => Values.Alike.areKeys_eq h
  | _, _, .undef | _, _, .bool _ | _, _, .int _ | _, _, .float _ | _, _, .nan _ | _, _, .str _
  | _, _, .list _ | _, _, .dict _ _ | _, _, .node _ | _, _, .code _ | _, _, .shape _ _
  | _, _, .axis _ _ _ | _, _, .function _ _ _ _ _ _ | _, _, .range _ _ _ _ _ | _, _, .statement _
  | _, _, .parent _ _ _ | _, _, .scope _ | _, _, .host _ | _, _, .invoke _ | _, _, .pick _ _
  | _, _, .unbuilt | _, _, .native _ | _, _, .method _ _ | _, _, .foreign _
  | _, _, .pending _ => rfl

theorem Values.Alike.areKeys_eq {κ : Link} : ∀ {vs ws : List Value},
    List.Forall₂ (Value.Alike κ) vs ws → Value.isKey.areKeys vs = Value.isKey.areKeys ws
  | _, _, .nil => rfl
  | _, _, .cons h hs => by
    simp only [Value.isKey.areKeys, h.isKey_eq, Values.Alike.areKeys_eq hs]

end

theorem Values.Alike.chars (s : Text) :
    Values.Alike κ (Value.charValues s) (Value.charValues s) := by
  unfold Value.charValues
  induction s with
  | nil => exact .nil
  | cons p s ih => exact .cons (.str [p]) ih

/-! ## Tables -/

section

variable {α : Type} {A : α → α → Prop} {R : String × α → String × α → Prop}
  (hR : ∀ a b, R a b ↔ a.1 = b.1 ∧ A a.2 b.2) {s t : Table α} (h : List.Forall₂ R s t)
    (name : String)

include hR h

theorem Table.find?_rel : Option.Rel A (find? name s) (find? name t) := by
  induction h with
  | nil => exact .none
  | @cons a b _ _ hab _ ih =>
    obtain ⟨hk, hxy⟩ := (hR a b).1 hab
    simp only [find?, hk]
    split
    · exact .some hxy
    · exact ih

theorem Table.put_rel {x y : α} (hxy : A x y) : List.Forall₂ R (put name x s) (put name y t) := by
  induction h with
  | nil => exact .cons ((hR _ _).2 ⟨rfl, hxy⟩) .nil
  | @cons a b _ _ hab hs ih =>
    obtain ⟨hk, ha⟩ := (hR a b).1 hab
    simp only [put, hk]
    split
    · exact .cons ((hR _ _).2 ⟨rfl, hxy⟩) hs
    · exact .cons ((hR _ _).2 ⟨rfl, ha⟩) ih

theorem Table.remove_rel : List.Forall₂ R (remove name s) (remove name t) := by
  induction h with
  | nil => exact .nil
  | @cons a b _ _ hab hs ih =>
    obtain ⟨hk, ha⟩ := (hR a b).1 hab
    simp only [remove, hk]
    split
    · exact hs
    · exact .cons ((hR _ _).2 ⟨rfl, ha⟩) ih

end

theorem entryRel_iff {R : Value → Value → Prop} (a b : String × Value) :
    EntryRel R a b ↔ a.1 = b.1 ∧ R a.2 b.2 := by
  constructor
  · rintro ⟨name, h⟩
    exact ⟨rfl, h⟩
  · obtain ⟨name, v⟩ := a
    rintro ⟨rfl, h⟩
    exact .mk _ h

theorem Entries.Alike.find? (h : Entries.Alike κ es fs) (name : String) :
    Option.Rel (Value.Alike κ) (Table.find? name es) (Table.find? name fs) :=
  Table.find?_rel entryRel_iff h name

theorem Entries.Alike.names (h : Entries.Alike κ es fs) : es.map Prod.fst = fs.map Prod.fst := by
  induction h with
  | nil => rfl
  | cons he _ ih =>
    obtain ⟨key, _⟩ := he
    simp only [List.map_cons, ih]

theorem Entries.Alike.keys (h : Entries.Alike κ es fs) :
    Values.Alike κ (es.map fun (k, _) => .str k) (fs.map fun (k, _) => .str k) := by
  induction h with
  | nil => exact .nil
  | cons he _ ih =>
    obtain ⟨key, _⟩ := he
    exact .cons (.str key) ih

inductive Value.Ruled (κ : Link) : String → Value → Value → Prop
  | code {t : Tree} (h : κ.tree t) : Ruled κ t.rule (.code t) (.code t)
  | node {a b : Nat} (h : κ.same .node a b) {rule : String} (hr : κ.rule rule) :
      Ruled κ rule (.node a) (.node b)

theorem Value.Ruled.up [κ.Before κ'] {w : Value} (h : Ruled κ rule v w) : Ruled κ' rule v w := by
  cases h with
  | code h => exact .code h.up
  | node h hr => exact .node h.up hr.up

theorem Value.Ruled.alike {w : Value} (h : Ruled κ rule v w) : v.Alike κ w := by
  cases h with
  | code h => exact .code h
  | node h _ => exact .node h

/-! ## Faults -/

/-- Does a fault say all by itself, and not that a node has the wrong shape? Only a failed
assertion holds a value. -/
def Fault.isPlain : Fault → Bool
  | failedAssertion _ | arity | bareTerminal | noMeaning _ => false
  | _ => true

def Fault.isAssertion : Fault → Bool
  | failedAssertion _ => true
  | _ => false

inductive Fault.Alike (κ : Link) : Fault → Fault → Prop
  | plain {e : Fault} (h : e.isPlain = true) : Alike κ e e
  | misfit {e : Fault} (h : κ.misfit e) : Alike κ e e
  | failed {v w : Value} (h : v.Alike κ w) : Alike κ (.failedAssertion v) (.failedAssertion w)

namespace Fault.Alike

variable {e f : Fault}

theorem up [κ.Before κ'] (h : e.Alike κ f) : e.Alike κ' f := by
  cases h with
  | plain h => exact .plain h
  | misfit h => exact .misfit h.up
  | failed h => exact .failed h.up

theorem faultClass_eq (h : e.Alike κ f) : e.faultClass = f.faultClass := by
  cases h <;> rfl

end Fault.Alike

/-- Pure computations that give related results or the same fault without
values. -/
inductive ExceptRel {α β : Type} (A : α → β → Prop) : Except Fault α → Except Fault β → Prop
  | ok {a : α} {b : β} (h : A a b) : ExceptRel A (.ok a) (.ok b)
  | error {e : Fault} (h : e.isPlain = true) : ExceptRel A (.error e) (.error e)

theorem ExceptRel.bind {γ δ : Type} {A : α → β → Prop} {B : γ → δ → Prop} {x : Except Fault α}
    {y : Except Fault β} {f : α → Except Fault γ} {g : β → Except Fault δ} (h : ExceptRel A x y)
    (hf : ∀ a b, A a b → ExceptRel B (f a) (g b)) : ExceptRel B (x >>= f) (y >>= g) := by
  cases h with
  | ok h => exact hf _ _ h
  | error h => exact .error h

theorem ExceptRel.ite {p : Prop} [Decidable p] {x y : Except Fault α}
    (ht : ExceptRel Eq x x) (he : ExceptRel Eq y y) :
    ExceptRel Eq (if p then x else y) (if p then x else y) := by
  split
  · exact ht
  · exact he

/-! ## What the world holds -/

structure Args.Given (κ : Link) (a b : Args) : Prop where
  positional : Values.Alike κ a.positional b.positional
  named : Entries.Alike κ a.named b.named

structure Args.Alike (κ : Link) (a b : Args) : Prop extends Args.Given κ a b where
  allowed : κ.Allows a.named

inductive Slot.Alike (κ : Link) : Slot → Slot → Prop
  | known {v w : Value} (h : v.Alike κ w) : Alike κ (.known v) (.known w)
  | busy : Alike κ .busy .busy

/-- Entries that go by values other than names. Such an entry is never busy. -/
structure KeyRel (κ : Link) (a b : Value × Slot) : Prop where
  key : a.1.Alike κ b.1
  slot : a.2.Alike κ b.2
  idle : a.2 ≠ .busy

inductive VarDef.Alike (κ : Link) : VarDef → VarDef → Prop
  | expr {s t : ScopeId} (hs : κ.same .place s t) {b c : Value} (hb : b.Alike κ c)
      (hf : κ.Fit b) : Alike κ (.expr s b) (.expr t c)
  | value {v w : Value} (h : v.Alike κ w) : Alike κ (.value v) (.value w)

inductive Callee.Alike (κ : Link) : Callee → Callee → Prop
  | builtin (f : BuiltinFunction) : Alike κ (.builtin f) (.builtin f)
  | deferred {s t : ScopeId} (hs : κ.same .place s t) {b c : Value} (hb : b.Alike κ c)
      (hf : κ.Fit b) : Alike κ (.deferred s b) (.deferred t c)
  | value {v w : Value} (h : v.Alike κ w) : Alike κ (.value v) (.value w)

inductive ModDef.Alike (κ : Link) : ModDef → ModDef → Prop
  | builtin (m : BuiltinModule) : Alike κ (.builtin m) (.builtin m)
  | module (name : String) {p q : Params Value} (hp : p.Alike κ q) {a b : ScopeId}
      (hs : κ.same .place a b) (hw : κ.same .work a b) :
      Alike κ (.module name p a) (.module name q b)
  | value {v w : Value} (h : v.Alike κ w) : Alike κ (.value v) (.value w)

inductive NodeCell.Alike (κ : Link) : NodeCell → NodeCell → Prop
  | leaf {rule : String} (h : κ.rule rule) (text : String) (pos : Nat) :
      Alike κ (.leaf rule text pos) (.leaf rule text pos)
  | inner {rule : String} (h : κ.rule rule) {vs ws : List Value} (hc : Values.Alike κ vs ws) :
      Alike κ (.inner rule vs) (.inner rule ws)

inductive Stream.Alike (κ : Link) : Stream → Stream → Prop
  | waiting {e f : FrameId} (h : κ.same .frame e f) : Alike κ (.waiting e) (.waiting f)
  | walking {e f : FrameId} (h : κ.same .frame e f) {a b : ScopeId} (hs : κ.same .scope a b)
      (next : Nat) : Alike κ (.walking e a next) (.walking f b next)
  | busy : Alike κ .busy .busy
  | ended : Alike κ .ended .ended

structure Branch.Alike (κ : Link) (a b : Branch) : Prop where
  yes : κ.same .scope a.yes b.yes
  no : Option.Rel (κ.same .scope) a.no b.no

/-- Environments that agree in all but their tables and callers. Only an
environment that is being debugged shows its level. -/
structure Frame.Alike (κ : Link) (f g : Frame) : Prop where
  place : κ.same .place f.scope g.scope
  child : Option.Rel (Value.Alike κ) f.child g.child
  childFrame : Option.Rel (κ.same .frame) f.childFrame g.childFrame
  childResults : f.childResults.Alike κ g.childResults
  token : Option.Rel (Option.Rel (κ.same .current)) f.token g.token
  entries : f.entries = g.entries
  debug : f.debug = g.debug
  level : f.debug = true → f.level = g.level

inductive Task.Alike (κ : Link) : Task → Task → Prop
  | eval {e f : FrameId} (h : κ.same .frame e f) {v w : Value} (hv : v.Alike κ w)
      (hf : κ.Fit v) : Alike κ (.eval e v) (.eval f w)
  | evalCall {e f : FrameId} (h : κ.same .frame e f) {t : Tree} (ht : κ.Call t)
      (hl : t.callee = "for" → κ.same .loop e f) : Alike κ (.eval e (.code t)) (.eval f (.code t))
  | read {e f : FrameId} (h : κ.same .frame e f) (name : String) :
      Alike κ (.read e name) (.read f name)
  | readOrigin {e f : FrameId} (h : κ.same .origin e f) {name : String}
      (hd : Eval.isDynamicName name = true) (hc : name ≠ "$children") :
      Alike κ (.read e name) (.read f name)
  | readKey {e f : FrameId} (h : κ.same .frame e f) {v w : Value}
      (hv : v.Alike κ w) : Alike κ (.readKey e v) (.readKey f w)
  | readKeyOrigin {e f : FrameId} (h : κ.same .origin e f) {v w : Value} (hv : v.Alike κ w)
      (hk : v.isKey = true) (hc : v ≠ .str "$children") : Alike κ (.readKey e v) (.readKey f w)
  | apply {e f : FrameId} (h : κ.same .frame e f) {name : String} (hn : κ.word name)
      {a b : Args} (ha : a.Alike κ b) : Alike κ (.apply e name a) (.apply f name b)
  | call {e f : FrameId} (h : κ.same .frame e f) {v w : Value} (hv : v.Alike κ w) {a b : Args}
      (ha : a.Alike κ b) : Alike κ (.call e v a) (.call f w b)
  | instantiate {e f : FrameId} (h : κ.same .frame e f) (hm : κ.Handles .modCall)
      {name : String} (hn : κ.word name) (hl : name = "for" → κ.same .loop e f) {a b : Args}
      (ha : a.Alike κ b) :
      Alike κ (.instantiate e name a) (.instantiate f name b)
  | build {e f : FrameId} (h : κ.same .frame e f) (hb : κ.same .builder e f) :
      Alike κ (.build e) (.build f)
  | buildOne {e f : FrameId} (h : κ.same .frame e f) {v w : Value} (hv : v.Alike κ w) :
      Alike κ (.buildOne e v) (.buildOne f w)

section Mono

variable [κ.Before κ']

theorem Args.Given.up {a b : Args} (h : a.Given κ b) : a.Given κ' b := ⟨h.positional.up, h.named.up⟩

theorem Args.Alike.up {a b : Args} (h : a.Alike κ b) : a.Alike κ' b := ⟨h.toGiven.up, h.allowed.up⟩

theorem Slot.Alike.up {a b : Slot} (h : a.Alike κ b) : a.Alike κ' b := by
  cases h with
  | known h => exact .known h.up
  | busy => exact .busy

theorem KeyRel.up {a b : Value × Slot} (h : KeyRel κ a b) : KeyRel κ' a b :=
  ⟨h.key.up, h.slot.up, h.idle⟩

theorem VarDef.Alike.up {a b : VarDef} (h : a.Alike κ b) : a.Alike κ' b := by
  cases h with
  | expr hs hb hf => exact .expr hs.up hb.up hf.up
  | value h => exact .value h.up

theorem Callee.Alike.up {a b : Callee} (h : a.Alike κ b) : a.Alike κ' b := by
  cases h with
  | builtin f => exact .builtin f
  | deferred hs hb hf => exact .deferred hs.up hb.up hf.up
  | value h => exact .value h.up

theorem ModDef.Alike.up {a b : ModDef} (h : a.Alike κ b) : a.Alike κ' b := by
  cases h with
  | builtin m => exact .builtin m
  | module name hp hs hw =>
    exact .module name hp.up hs.up hw.up
  | value h => exact .value h.up

theorem NodeCell.Alike.up {a b : NodeCell} (h : a.Alike κ b) : a.Alike κ' b := by
  cases h with
  | leaf h text pos => exact .leaf h.up text pos
  | inner h hc => exact .inner h.up hc.up

theorem Stream.Alike.up {a b : Stream} (h : a.Alike κ b) : a.Alike κ' b := by
  cases h with
  | waiting h => exact .waiting h.up
  | walking h hs next => exact .walking h.up hs.up next
  | busy => exact .busy
  | ended => exact .ended

theorem Frame.Alike.up {f g : Frame} (h : f.Alike κ g) : f.Alike κ' g where
  place := h.place.up
  child := h.child.imp fun _ _ => Value.Alike.up
  childFrame := h.childFrame.imp fun _ _ h => h.up
  childResults := h.childResults.up
  token := h.token.imp fun _ _ h => h.imp fun _ _ h => h.up
  entries := h.entries
  debug := h.debug
  level := h.level

end Mono

end Scad
