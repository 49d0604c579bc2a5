import Scad.Proofs.Loading.Lands

/-!
What the declaration pass refuses. A text that the grammar accepts is taken up, or there
is a fault, and then the text has a construct that the fault belongs to: an `include` or
`use`, an empty or a disabled statement, a default given twice, a module whose body makes
no object, an empty block, or a `for` with nothing to repeat. On the way every invariant is kept
that the operations of the pass keep.
-/

namespace Scad

open DeclForm Scad.Tree List

namespace Tree

mutual

def contains (q : Tree → Bool) : Tree → Bool
  | leaf r s p => q (leaf r s p)
  | node r ts => q (node r ts) || containsAll q ts

def containsAll (q : Tree → Bool) : List Tree → Bool
  | [] => false
  | t :: ts => t.contains q || containsAll q ts

end

/-- A pair of braces with nothing inside, where a child belongs. -/
def isEmptyBlock : Tree → Bool
  | node "explicit_child" [_, _] => true
  | _ => false

/-- A `for`, `let`, `assert`, `echo` or `each` as a statement with nothing to work on. -/
def isIdleSpecial : Tree → Bool
  | node "mod_inst_special" [_, node "child_statement" [x]] => x.rule == "no_child"
  | _ => false

def makesObject : Tree → Bool
  | node "statement" [x] => x.rule == "stmt_obj"
  | _ => false

/-- The declaration of a module whose body makes no object. -/
def isBareModule : Tree → Bool
  | node "stmt_decl_mod" ts => ts.getLast?.any fun body => !body.makesObject
  | _ => false

/-- The name of a parameter that has a default. -/
def defaultName? : Tree → Option String
  | node "parameter" [name, _, _] => some name.value
  | _ => none

/-- A parameter list that gives two defaults for one name. -/
def repeatsDefault : Tree → Bool
  | node "parameter_list" ts => !decide (ts.filterMap defaultName?).Nodup
  | _ => false

section

variable {q : Tree → Bool} {r : String} {ts : List Tree} {t : Tree}

theorem containsAll_of_mem (ht : t ∈ ts) (h : t.contains q = true) : containsAll q ts = true := by
  induction ts with
  | nil => cases ht
  | cons u us ih =>
    rw [containsAll, Bool.or_eq_true]
    rcases mem_cons.1 ht with rfl | ht
    · exact .inl h
    · exact .inr (ih ht)

theorem contains_of_child (ht : t ∈ ts) (h : t.contains q = true) :
    (node r ts).contains q = true := by
  rw [contains, containsAll_of_mem ht h, Bool.or_true]

theorem contains_self (h : q t = true) : t.contains q = true := by
  cases t with
  | leaf => exact h
  | node => rw [contains, h, Bool.true_or]

theorem child_contains_eq_false (h : (node r ts).contains q = false) (ht : t ∈ ts) :
    t.contains q = false :=
  Bool.eq_false_iff.2 fun hq => Bool.eq_false_iff.1 h (contains_of_child ht hq)

theorem eq_false_of_contains (h : t.contains q = false) : q t = false :=
  Bool.eq_false_iff.2 fun hq => Bool.eq_false_iff.1 h (contains_self hq)

theorem height_le_heightAll (ht : t ∈ ts) : t.height ≤ heightAll ts := by
  induction ts with
  | nil => cases ht
  | cons u us ih =>
    rw [heightAll]
    rcases mem_cons.1 ht with rfl | ht
    · exact Nat.le_max_left _ _
    · exact Nat.le_trans (ih ht) (Nat.le_max_right _ _)

end

end Tree

/-- The faults that declaring a tree can end in, each with the construct that it is for. -/
inductive Refusal (t : Tree) : Fault → Prop
  | unsupported {r : String} (hr : r = "Include" ∨ r = "Use" ∨ r = "stmt_empty")
      (h : t.contains (fun x => x.rule == r) = true) : Refusal t (.noMeaning r)
  | disabled (h : t.contains (fun x => x.rule == "mod_inst_star") = true) :
      Refusal t .emptyStatement
  | repeated (h : t.contains repeatsDefault = true) : Refusal t .alreadySet
  | bareModule (h : t.contains isBareModule = true) : Refusal t .malformed
  | emptyBlock (h : t.contains isEmptyBlock = true) {e : Fault}
      (he : e = .typeMismatch ∨ e = .arity) : Refusal t e
  | idleSpecial (h : t.contains isIdleSpecial = true) : Refusal t .arity

theorem Refusal.of_child {r : String} {ts : List Tree} {t : Tree} {e : Fault} (ht : t ∈ ts)
    (h : Refusal t e) : Refusal (.node r ts) e := by
  cases h with
  | unsupported hr h => exact .unsupported hr (contains_of_child ht h)
  | disabled h => exact .disabled (contains_of_child ht h)
  | repeated h => exact .repeated (contains_of_child ht h)
  | bareModule h => exact .bareModule (contains_of_child ht h)
  | emptyBlock h he => exact .emptyBlock (contains_of_child ht h) he
  | idleSpecial h => exact .idleSpecial (contains_of_child ht h)

/-- Without the last three constructs the fault is one of the language's own reports. -/
theorem Refusal.faultClass {t : Tree} {e : Fault} (h : Refusal t e) :
    (e.faultClass = .runtime ∨ e.faultClass = .value) ∨
      (e.faultClass = .assertion ∧ t.contains isBareModule = true) ∨
      (e.faultClass = .arity ∧ t.contains isIdleSpecial = true) ∨
      ((e.faultClass = .type ∨ e.faultClass = .arity) ∧ t.contains isEmptyBlock = true) := by
  cases h with
  | unsupported => exact .inl (.inl rfl)
  | disabled => exact .inl (.inl rfl)
  | repeated => exact .inl (.inr rfl)
  | bareModule h => exact .inr (.inl ⟨rfl, h⟩)
  | idleSpecial h => exact .inr (.inr (.inl ⟨rfl, h⟩))
  | emptyBlock h he =>
    refine .inr (.inr (.inr ⟨?_, h⟩))
    rcases he with rfl | rfl
    · exact .inl rfl
    · exact .inr rfl

namespace Declare

open Run (Lands Ends)

section

variable {pass : Pass} {scope : ScopeId} {r : String} {f : DeclForm}

section

variable (hf : ofRule? r = some f)

include hf

theorem unwrap_through (ht : f.transparent = true) (x : Tree) :
    (node r [x]).unwrap ofRule? transparent = x.unwrap ofRule? transparent := by
  rw [unwrap, hf]
  simp only [ht, if_true]

theorem unwrap_node (ts : List Tree) (ht : f.transparent = false ∨ ts.length ≠ 1) :
    (node r ts).unwrap ofRule? transparent = .ok (f, .node r ts) := by
  rw [unwrap, hf]
  rcases ts with _ | ⟨t, _ | ⟨t', ts⟩⟩
  · rfl
  · simp [ht.resolve_right (fun h => h rfl)]
  · rfl

theorem body_transparent (ht : f.transparent = true) (x : Tree) :
    body pass scope (.node r [x]) = body pass scope x := by
  rw [body, body, unwrap_through hf ht]

theorem body_node (ts : List Tree) (ht : f.transparent = false ∨ ts.length ≠ 1) :
    body pass scope (.node r ts) = declareForm pass scope (.node r ts) f := by
  rw [body, unwrap_node hf ts ht]
  rfl

theorem body_leaf (s : String) (p : Nat) :
    body pass scope (.leaf r s p) = declareForm pass scope (.leaf r s p) f := by
  rw [body, unwrap, hf]
  rfl

end

theorem unwrap_unknown {t : Tree} (hf : ofRule? t.rule = none) (hr : t.rule ≠ "") :
    t.unwrap ofRule? transparent = .error (.noMeaning t.rule) := by
  cases t with
  | leaf r s p | node r ts =>
    rw [unwrap, show ofRule? r = none from hf]
    simp only [show ¬ r = "" from hr, if_false]
    rfl

theorem body_unknown {t : Tree} (hf : ofRule? t.rule = none) (hr : t.rule ≠ "") :
    body pass scope t = throw (.noMeaning t.rule) := by
  rw [body, unwrap_unknown hf hr]
  rfl

end

/-- A tree that is low enough for the fuel, if that matters, and whose refusals are allowed. -/
structure Fits (clean : Tree → Prop) (E : Fault → Prop) (n : Nat) (t : Tree) : Prop where
  low : E .tooDeep ∨ t.height ≤ n
  clean : clean t
  allowed : ∀ e, Refusal t e → E e

/-- Trees that the pass is called on for what they declare. -/
inductive Declarable : Tree → Prop
  | file {t : Tree} {r : Rule} (hr : r = .includeFile ∨ r = .useFile) (h : t.Is r) : Declarable t
  | finish (s : String) (p : Nat) : Declarable (.leaf "EOF" s p)
  | statement {t : Tree} (h : t.Is .statement) : Declarable t
  | assignment {t : Tree} (h : t.Is .assignment) : Declarable t
  | noChild (s : String) (p : Nat) : Declarable (.leaf "no_child" s p)
  | childStatement {t : Tree} (h : t.Is .childStatement) : Declarable t
  | explicitChild {t : Tree} (h : t.Is .explicitChild) : Declarable t

/-- Trees that list parameters. -/
inductive Listing : Tree → Prop
  | parameters {t : Tree} (h : t.Is .parameters) : Listing t
  | parameterList {ps : List Tree}
      (h : Row (Tree.Is .parameter) (fun d => ∃ s p, d = .leaf "" s p) ps) :
      Listing (.node "parameter_list" ps)

/-- What declaring a parameter gives: its name, and a parse node if it has a default. -/
inductive IsParameter (t : Tree) (w : World) : Value → Prop
  | plain (name : String) (h : t.defaultName? = none) :
      IsParameter t w (.tuple [.str (Text.ofString name)])
  | standard {name : String} (h : t.defaultName? = some name) {v : Value} (hv : HeldNode w v) :
      IsParameter t w (.tuple [.str (Text.ofString name), v])

/-- A pass that reads the parameters that fit `n`. -/
structure Reads (I : World → Prop) (clean : Tree → Prop) (E : Fault → Prop) (n : Nat)
    (pass : Pass) : Prop extends Keeps I clean where
  lists : ∀ {k scope t}, Fits clean E n t → Listing t → Lands I k E IsParams (pass scope t)
  reads : ∀ {k scope t}, Fits clean E n t → t.Is .parameter →
    Lands I k E (IsParameter t) (pass scope t)

/-- A pass that also declares what can be declared, and gives something to build for an object
unless that is disabled. -/
structure Serves (I : World → Prop) (own : ScopeId → Prop) (clean : Tree → Prop)
    (E : Fault → Prop) (n : Nat) (pass : Pass) : Prop
    extends Upkeep I own clean, Reads I clean E n pass where
  declares : ∀ {k scope t}, own scope → Fits clean E n t → Declarable t → Ends I k E (pass scope t)
  builds : ∀ {k scope t}, Fits clean E n t → t.Is .stmtList ∨ t.Is .moduleInstantiation →
    Lands I k E (fun _ v => v = .undef → E .emptyStatement) (pass scope t)

section

variable {ts : List Tree} {r : String} {x t : Tree} {I : World → Prop} {own : ScopeId → Prop}
  {clean : Tree → Prop} {E : Fault → Prop} {k : World} {n : Nat} {pass : Pass} {scope : ScopeId}

theorem each_lands (h : ∀ k, ∀ x ∈ ts, Ends I k E (pass scope x)) :
    Ends I k E (each pass scope ts) := by
  induction ts generalizing k with
  | nil => exact .pure fun _ _ => trivial
  | cons x xs ih =>
    exact (h k x (mem_cons_self ..)).bind fun _ _ _ _ =>
      ih fun k y hy => h k y (mem_cons_of_mem _ hy)

theorem Fits.child (h : Fits clean E (n + 1) (.node r ts))
    (K : Keeps I clean) (hx : x ∈ ts) : Fits clean E n x where
  low := h.low.imp_right fun hle => by
    have := height_le_heightAll hx
    rw [height] at hle
    omega
  clean := K.child h.clean hx
  allowed e he := h.allowed e (he.of_child hx)

theorem Fits.below (h : Fits clean E n (.node r ts))
    (K : Keeps I clean) (hx : x ∈ ts) : Fits clean E n x :=
  Fits.child ⟨h.low.imp_right Nat.le_succ_of_le, h.clean, h.allowed⟩ K hx

section

variable (hp : Reads I clean E n pass)

include hp

theorem parameter_lands (h : t.Is .parameter) : Lands I k E (IsParameter t)
    (body pass scope t) := by
  obtain ⟨name, rfl | ⟨e, x, rfl⟩⟩ := h.parameter
  · rw [body_node (r := "parameter") (f := .parameter) rfl _ (.inl rfl)]
    exact .lift_bind rfl (.ite (fun _ => .lift_bind rfl (.pure fun _ _ => .plain _ rfl))
      fun h => absurd rfl h)
  · rw [body_node (r := "parameter") (f := .parameter) rfl _ (.inl rfl)]
    refine .lift_bind rfl (.ite (fun h => by simp at h) fun _ => ?_)
    refine .lift_bind rfl (.lift_bind rfl (.lift_bind rfl ((hp.adopt x).bind fun _ v _ hv => ?_)))
    exact .pure fun w hw => .standard rfl (hv.mono hw)

/-- The defaults collected so far and those to come have different names, unless a name
given twice is allowed. -/
theorem parameterList_lands {ps : List Tree}
    (h : Row (Tree.Is .parameter) (fun d => ∃ s p, d = .leaf "" s p) ps)
    (hf : ∀ x ∈ ps, Fits clean E n x) {required : List Value} {optional : List (String × Value)}
    (hr : ∀ v ∈ required, ∃ s, v = .str s) (ho : ∀ e ∈ optional, HeldNode k e.2)
    (hd : E .alreadySet ∨ (optional.map Prod.fst ++ ps.filterMap defaultName?).Nodup) :
    Lands I k E IsParams (parameterList pass scope required optional ps) := by
  have finish {k : World} {required : List Value} {optional : List (String × Value)}
      (hr : ∀ v ∈ required, ∃ s, v = .str s) (ho : ∀ e ∈ optional, HeldNode k e.2) :
      Lands I k E IsParams (do return Value.tuple [← Run.newList required, .dict optional]) := by
    refine (hp.newList hr).bind fun k1 v le hv => .pure fun w hw => ?_
    obtain ⟨cell, rfl⟩ := hv
    exact .mk cell fun e he => (ho e he).mono (le.trans hw)
  have withName {required : List Value} (s : Text) (hr : ∀ v ∈ required, ∃ s, v = .str s) :
      ∀ v ∈ required ++ [.str s], ∃ s, v = .str s :=
    forall_mem_append.2 ⟨hr, forall_mem_singleton.2 ⟨s, rfl⟩⟩
  have withDefault {k k1 : World} (le : k.Extends k1) {optional : List (String × Value)}
      (name : String) {v : Value} (hv : HeldNode k1 v) (ho : ∀ e ∈ optional, HeldNode k e.2) :
      ∀ e ∈ optional ++ [(name, v)], HeldNode k1 e.2 :=
    forall_mem_append.2
      ⟨fun e he => (ho e he).mono le, forall_mem_singleton.2 hv⟩
  -- A default of the same name is one that was collected.
  have twice {name : String} {rest : List String} {optional : List (String × Value)}
      (hd : E .alreadySet ∨ (optional.map Prod.fst ++ name :: rest).Nodup)
      (hhas : Table.has (Text.toString (Text.ofString name)) optional = true) : E .alreadySet := by
    refine hd.resolve_right fun hnd => ?_
    obtain ⟨a, ha⟩ := Option.isSome_iff_exists.1 hhas
    have hmem := mem_map_of_mem (f := Prod.fst) (Table.mem_of_find? ha)
    rw [Text.toString_ofString] at hmem
    exact (nodup_append.1 hnd).2.2 _ hmem _ (mem_cons_self ..) rfl
  induction h generalizing k required optional with
  | @single x hx =>
    refine (hp.reads (hf x (by simp)) hx).bind fun _ v le hv => ?_
    cases hv with
    | plain name => exact finish (withName _ hr) fun e he => (ho e he).mono le
    | standard hname hv =>
      refine .ite (fun hhas => .fault ?_) fun _ => finish hr (withDefault le _ hv ho)
      rw [filterMap_cons_some hname] at hd
      exact twice hd hhas
  | @cons x d ts hx hdiv h ih =>
    have hdiv : d.defaultName? = none := by
      obtain ⟨s, p, rfl⟩ := hdiv
      rfl
    have hts : ∀ y ∈ ts, Fits clean E n y := fun y hy => hf y (by simp [hy])
    refine (hp.reads (hf x (by simp)) hx).bind fun _ v le hv => ?_
    cases hv with
    | plain name hname =>
      refine ih hts (withName _ hr) (fun e he => (ho e he).mono le) (hd.imp_right fun hnd => ?_)
      simpa [filterMap_cons, hname, hdiv] using hnd
    | standard hname hv =>
      refine .ite (fun hhas => .fault ?_) fun _ =>
        ih hts hr (withDefault le _ hv ho) (hd.imp_right fun hnd => ?_)
      · rw [filterMap_cons_some hname] at hd
        exact twice hd hhas
      · simpa [filterMap_cons, hname, hdiv] using hnd

theorem parameters_lands {ps : List Tree} (hf : Fits clean E (n + 1) (.node "parameter_list" ps))
    (h : Row (Tree.Is .parameter) (fun d => ∃ s p, d = .leaf "" s p) ps) :
    Lands I k E IsParams (body pass scope (.node "parameter_list" ps)) := by
  rw [body_node (r := "parameter_list") (f := .parameterList) rfl _ (.inl rfl)]
  refine .lift_bind rfl (parameterList_lands hp h (fun x hx => hf.child hp.toKeeps hx)
    (fun _ h => by cases h) (fun _ h => by cases h) ?_)
  by_cases hnd : (ps.filterMap defaultName?).Nodup
  · exact .inr (by simpa using hnd)
  · refine .inl (hf.allowed _ (.repeated (contains_self ?_)))
    simp [repeatsDefault, hnd]

theorem body_reads : Reads I clean E (n + 1) (body pass) where
  toKeeps := hp.toKeeps
  lists := by
    intro k scope t hf hl
    cases hl with
    | parameterList h => exact parameters_lands hp hf h
    | parameters h =>
      obtain ⟨ps, rest, rfl, hrest, hps⟩ := h.parameters
      rcases rest with _ | ⟨comma, _ | ⟨d, ds⟩⟩
      · rw [body_transparent (r := "parameters") (f := .parameters) rfl rfl]
        exact parameters_lands hp (hf.below hp.toKeeps (mem_singleton.2 rfl)) hps
      · rw [body_node (r := "parameters") (f := .parameters) rfl _ (.inr (by simp))]
        exact .lift_bind rfl (.lift_bind rfl
          (hp.lists (hf.child hp.toKeeps (by simp)) (.parameterList hps)))
      · simp at hrest
  reads _ h := parameter_lands hp h

end

variable (hp : Serves I own clean E n pass)

include hp

theorem block_lands (h : ∀ k inner, own inner → ∀ x ∈ ts, Ends I k E (pass inner x)) :
    Ends I k E (block pass scope ts) :=
  (hp.innerScope scope (fun h => by cases h)).bind fun _ inner _ hi =>
    (each_lands fun k x hx => h k inner hi x hx).last fun _ => trivial

theorem assignment_lands (hs : own scope) (hc : clean t) (h : t.Is .assignment) :
    Ends I k E (body pass scope t) := by
  obtain ⟨name, e, x, c, rfl, hx⟩ := h.assignment
  rw [body_node (r := "assignment") (f := .assignment) rfl _ (.inl rfl)]
  refine .lift_bind rfl (.lift_bind rfl ?_)
  exact (hp.addVar _ hs hx (hp.child hc (by simp))).last fun _ => trivial

theorem stmtObj_lands (hs : own scope) (hf : Fits clean E (n + 1) t) (h : t.Is .stmtObj) :
    Ends I k E (body pass scope t) := by
  obtain ⟨x, rfl, hx⟩ := h.stmtObj
  have hx' := hf.child hp.toKeeps (mem_singleton.2 rfl)
  rw [body_node (r := "stmt_obj") (f := .stmtObj) rfl _ (.inl rfl)]
  refine .lift_bind rfl (.lift_bind rfl ((hp.builds hx' hx).bind fun _ v _ hv => ?_))
  split
  · exact (hp.builds hx' hx).bind fun _ _ _ _ => .fault (hv rfl)
  · exact (hp.addWork _ hs).last fun _ => trivial

/-- A function or module that is there already is passed over. -/
theorem redefined_lands {has : Scope → Bool} {text : String} {m : Run Value}
    (hm : Ends I k E m) : Ends I k E (do
      if has (← Run.scope scope) then
        Run.notice text
        return .undef
      m) :=
  .scope_bind fun _ => .ite (fun _ => (hp.notice text).last fun _ => trivial) fun _ => hm

theorem stmtDeclFn_lands (hs : own scope) (hf : Fits clean E (n + 1) t) (h : t.Is .stmtDeclFn) :
    Ends I k E (body pass scope t) := by
  obtain ⟨kw, name, o, ps, c, e, body, d, rfl, hps, hb⟩ := h.stmtDeclFn
  rw [body_node (r := "stmt_decl_fn") (f := .stmtDeclFn) rfl _ (.inl rfl)]
  have enter {k : World} {params : Params Value} (hparams : KnownParams k params) :
      Ends I k E (do
        let id ← Run.newIdent
        Run.addFunc scope name.value (.value (.function id scope name.value params (.code body)))
        return Value.undef) :=
    hp.newIdent.bind fun _ _ le hi => (hp.addFunc _ hs hi (hparams.mono le) hb
      (hp.child hf.clean (by simp))).last fun _ => trivial
  rcases hps with rfl | ⟨q, rfl, hq⟩
  · refine .lift_bind rfl (.lift_bind rfl (redefined_lands hp (.lift_bind rfl ?_)))
    refine .ite (fun h => by simp at h) fun _ => .lift_bind rfl (enter ?_)
    exact .mk [] fun e he => by cases he
  · refine .lift_bind rfl (.lift_bind rfl (redefined_lands hp (.lift_bind rfl ?_)))
    refine .ite (fun _ => .lift_bind rfl ?_) fun h => absurd rfl h
    refine (hp.lists (hf.child hp.toKeeps (by simp)) (.parameters hq)).bind fun _ _ _ hv => ?_
    exact hv.ofValue.bind fun _ params _ hk => .lift_bind rfl (enter hk)

theorem moduleBody_lands {body : Tree} (hf : Fits clean E n body) (hb : body.Is .statement)
    (hbare : body.makesObject = false → E .malformed) :
    Ends I k E (moduleBody pass scope body) := by
  obtain ⟨x, rfl, hx⟩ := hb.statement
  unfold moduleBody
  refine .ite (fun h => by simp [rule] at h) fun _ => .lift_bind rfl ?_
  refine .ite (fun hr => ?_) fun hr => ?_
  · have hno : x.rule ≠ "stmt_obj" := by simpa using hr
    refine Lands.bind (P := fun _ _ => False) (.fault (hbare ?_)) fun _ _ _ => False.elim
    simpa [makesObject] using hno
  have hobj : x.Is .stmtObj := by
    have hyes : x.rule = "stmt_obj" := by simpa using hr
    rcases hx with hx | hx | hx | hx | hx
    · obtain ⟨s, p, rfl⟩ := hx.leaf rfl
      simp [rule, Terminal.label, Rule.name] at hyes
    · exact hx
    all_goals
      rw [hx.rule_eq rfl] at hyes
      simp [Rule.name] at hyes
  obtain ⟨y, rfl, hy⟩ := hobj.stmtObj
  refine .lift_bind rfl (.ite (fun hr => ?_) fun _ => ?_)
  · rcases hy with hy | hy
    · obtain ⟨o, ss, c, rfl, hss⟩ := hy.stmtList
      refine .lift_bind rfl (block_lands hp fun k inner hi z hz => ?_)
      have hz : z ∈ ss := by simpa using hz
      have hfy := (hf.below hp.toKeeps (mem_singleton.2 rfl)).below hp.toKeeps
        (mem_singleton.2 rfl)
      exact hp.declares hi (hfy.below hp.toKeeps (by simp [hz])) (.statement (hss z hz))
    · rw [hy.rule_eq rfl] at hr
      simp [Rule.name] at hr
  · refine block_lands hp fun k inner hi z hz => ?_
    obtain rfl := mem_singleton.1 hz
    exact hp.declares hi hf (.statement hb)

section

variable (hs : own scope) (hf : Fits clean E (n + 1) t)

include hs hf

theorem stmtDeclMod_lands (h : t.Is .stmtDeclMod) : Ends I k E (body pass scope t) := by
  obtain ⟨kw, name, o, ps, c, body, rfl, hps, hb⟩ := h.stmtDeclMod
  rw [body_node (r := "stmt_decl_mod") (f := .stmtDeclMod) rfl _ (.inl rfl)]
  have enter {k : World} (params : Params Value) : Ends I k E (do
      let inner ← moduleBody pass scope body
      Run.addMod scope name.value (.module name.value params inner)
      return Value.undef) := by
    have hbare (hm : body.makesObject = false) : E .malformed := by
      refine hf.allowed _ (.bareModule (contains_self ?_))
      have hlast : (kw :: name :: o :: (ps ++ [c, body])).getLast? = some body := by
        rw [append_cons]
        exact getLast?_concat (l := kw :: name :: o :: (ps ++ [c]))
      rw [isBareModule, hlast, Option.any_some, hm, Bool.not_false]
    exact (moduleBody_lands hp (hf.child hp.toKeeps (by simp)) hb hbare).bind fun _ _ _ _ =>
      (hp.addMod _ _ hs).last fun _ => trivial
  rcases hps with rfl | ⟨q, rfl, hq⟩
  · refine .lift_bind rfl (.lift_bind rfl (redefined_lands hp (.lift_bind rfl ?_)))
    exact .ite (fun h => by simp at h) fun _ => .lift_bind rfl (enter _)
  · refine .lift_bind rfl (.lift_bind rfl (redefined_lands hp (.lift_bind rfl ?_)))
    refine .ite (fun _ => .lift_bind rfl ?_) fun h => absurd rfl h
    refine (hp.lists (hf.child hp.toKeeps (by simp)) (.parameters hq)).bind fun _ _ _ hv => ?_
    exact hv.ofValue.bind fun _ params _ _ => .lift_bind rfl (enter params)

theorem statement_lands (h : t.Is .statement) : Ends I k E (body pass scope t) := by
  obtain ⟨x, rfl, hx⟩ := h.statement
  have hfx := hf.below hp.toKeeps (mem_singleton.2 rfl)
  rw [body_transparent (r := "statement") (f := .statement) rfl rfl]
  rcases hx with hx | hx | hx | hx | hx
  · obtain ⟨s, p, rfl⟩ := hx.leaf rfl
    rw [body_unknown rfl (by simp [rule, Terminal.label, Rule.name])]
    exact .fault (hfx.allowed _ (.unsupported (.inr (.inr rfl)) rfl))
  · exact stmtObj_lands hp hs hfx hx
  · exact assignment_lands hp hs hfx.clean hx
  · exact stmtDeclMod_lands hp hs hfx hx
  · exact stmtDeclFn_lands hp hs hfx hx

theorem childStatement_lands (h : t.Is .childStatement) : Ends I k E (body pass scope t) := by
  obtain ⟨x, rfl, hx⟩ := h.childStatement
  have hfx := hf.child hp.toKeeps (mem_singleton.2 rfl)
  have hpass : Ends I k E (pass scope x) := by
    rcases hx with ⟨s, p, rfl⟩ | hx | hx
    · exact hp.declares hs hfx (.noChild s p)
    · exact hp.declares hs hfx (.explicitChild hx)
    · exact (hp.builds hfx (.inr hx)).mono fun _ _ _ => trivial
  rw [body_node (r := "child_statement") (f := .childStatement) rfl _ (.inl rfl)]
  refine .lift_bind rfl (.lift_bind rfl (hpass.bind fun _ v _ _ => ?_))
  split
  · exact .pure fun _ _ => trivial
  · exact (hp.addWork _ hs).last fun _ => trivial

end

theorem children_lands {xs : List Tree} (hf : ∀ x ∈ xs, Fits clean E n x)
    (hxs : ∀ x ∈ xs, x.Is .childStatement ∨ x.Is .assignment) :
    Ends I k E (block pass scope xs) := by
  refine block_lands hp fun k inner hi x hx => ?_
  rcases hxs x hx with h | h
  · exact hp.declares hi (hf x hx) (.childStatement h)
  · exact hp.declares hi (hf x hx) (.assignment h)

theorem explicitChild_lands (hf : Fits clean E (n + 1) t) (h : t.Is .explicitChild) :
    Ends I k E (body pass scope t) := by
  obtain ⟨o, s, p, rfl | ⟨xs, rfl, hxs⟩⟩ := h.explicitChild
  · rw [body_node (r := "explicit_child") (f := .explicitChild) rfl _ (.inl rfl)]
    exact .lift_fault rfl (hf.allowed _ (.emptyBlock (contains_self rfl) (.inr rfl)))
  · rw [body_node (r := "explicit_child") (f := .explicitChild) rfl _ (.inl rfl)]
    refine .lift_bind rfl (.lift_bind rfl ?_)
    refine (children_lands hp (fun x hx => ?_) hxs).bind fun _ _ _ _ => .pure fun _ _ => trivial
    have hxs' : Fits clean E n (.node "child_statements" xs) := hf.child hp.toKeeps (by simp)
    exact hxs'.below hp.toKeeps hx

/-- A call with what follows it, which is a block or another call. -/
theorem withChild_lands {call : Tree} (hf : Fits clean E (n + 1) (.node r [call, x]))
    (hx : x.Is .childStatement)
    (hidle : ∀ s p, x ≠ .node "child_statement" [.leaf "no_child" s p]) :
    Lands I k E (fun _ v => v ≠ .undef) (withChild pass scope (.node r [call, x])) := by
  obtain ⟨y, rfl, hy⟩ := hx.childStatement
  have hfx : Fits clean E n (.node "child_statement" [y]) := hf.child hp.toKeeps (by simp)
  have hfy : Fits clean E n y := hfx.below hp.toKeeps (mem_singleton.2 rfl)
  unfold withChild
  refine .lift_bind rfl (.lift_bind rfl ?_)
  refine .ite (fun h => by simp [rule] at h) fun _ => .lift_bind rfl ?_
  refine .ite (fun h => by simp at h) fun _ => .lift_bind rfl ?_
  rcases hy with ⟨s, p, rfl⟩ | hy | hy
  · exact absurd rfl (hidle s p)
  · obtain ⟨o, s, p, rfl | ⟨xs, rfl, hxs⟩⟩ := hy.explicitChild
    · refine .ite (fun _ => .lift_bind rfl (.lift_fault rfl ?_)) fun h => absurd rfl h
      exact hfy.allowed _ (.emptyBlock (contains_self rfl) (.inl rfl))
    · refine .ite (fun _ => .lift_bind rfl (.lift_bind rfl ?_)) fun h => absurd rfl h
      have hfxs : Fits clean E n (.node "child_statements" xs) := hfy.below hp.toKeeps (by simp)
      refine (children_lands hp (fun x hx => hfxs.below hp.toKeeps hx) hxs).bind fun _ _ _ _ => ?_
      refine .scope_bind fun _ => .ite (fun _ => ?_) fun _ => ?_
      · exact .pure (by simp)
      · exact .pure (by simp)
  · have hr : y.rule = "module_instantiation" := hy.rule_eq rfl
    refine .ite (fun h => by simp [hr] at h) fun _ => .ite (fun _ => ?_) fun h => absurd hr h
    refine (hp.innerScope scope (fun h => by cases h)).bind fun _ child _ hc => ?_
    exact (hp.builds hfy (.inr hy)).bind fun _ _ _ _ => (hp.addWork _ hc).last (by simp)

theorem modInstChild_lands (hf : Fits clean E (n + 1) t) (h : t.Is .modInstChild) :
    Lands I k E (fun _ v => v ≠ .undef) (body pass scope t) := by
  obtain ⟨call, x, rfl, hx⟩ := h.modInstChild
  obtain ⟨y, rfl, hy⟩ := hx.childStatement
  rw [body_node (r := "mod_inst_child") (f := .modInstChild) rfl _ (.inl rfl)]
  unfold declareForm
  refine .lift_bind rfl (.lift_bind rfl (.lift_bind rfl ?_))
  refine .ite (fun h => by simp at h) fun _ => .lift_bind rfl ?_
  refine .ite (fun h => by simp [rule] at h) fun _ => .lift_bind rfl ?_
  refine .ite (fun h => by simp at h) fun _ => .lift_bind rfl ?_
  refine .ite (fun _ => .pure (by simp)) fun hr => withChild_lands hp hf hx fun s p he => ?_
  cases he
  exact hr rfl

theorem modInstSpecial_lands (hf : Fits clean E (n + 1) t) (h : t.Is .modInstSpecial) :
    Lands I k E (fun _ v => v ≠ .undef) (body pass scope t) := by
  obtain ⟨call, x, rfl, hx⟩ := h.modInstSpecial
  obtain ⟨y, rfl, hy⟩ := hx.childStatement
  rw [body_node (r := "mod_inst_special") (f := .modInstSpecial) rfl _ (.inl rfl)]
  unfold declareForm
  refine .lift_bind rfl (.lift_bind rfl (.ite (fun hr => ?_) fun hr => ?_))
  · have hidle : (node "mod_inst_special" [call, .node "child_statement" [y]]).isIdleSpecial :=
      by simp [isIdleSpecial, hr]
    refine Lands.bind (P := fun _ _ => False) (.fault ?_) fun _ _ _ => False.elim
    exact hf.allowed _ (.idleSpecial (contains_self hidle))
  · refine (hp.innerScope scope (fun h => by cases h)).bind fun _ inner _ _ =>
      withChild_lands hp hf hx fun s p he => ?_
    cases he
    exact hr rfl

theorem ifelse_lands (hf : Fits clean E (n + 1) t) (h : t.Is .ifelseStatement) :
    Lands I k E (fun _ v => v ≠ .undef) (body pass scope t) := by
  obtain ⟨kw, o, test, c, yes, rest, rfl, hyes⟩ := h.ifelseStatement
  rw [body_node (r := "ifelse_statement") (f := .ifelseStatement) rfl _ (.inl rfl)]
  have hif : Fits clean E n (.node "if_statement" [kw, o, test, c, yes]) :=
    hf.child hp.toKeeps (by simp)
  have hblock : ScopeKind.block ≠ .main := fun h => by cases h
  refine .lift_bind rfl (.lift_bind rfl ?_)
  refine (hp.innerScope scope hblock).bind fun _ e _ he => .lift_bind rfl ?_
  refine (hp.innerScope e hblock).bind fun _ inner _ hi => ?_
  refine (hp.setBranch _ he).bind fun _ _ _ _ => .lift_bind rfl ?_
  refine (hp.declares hi (hif.below hp.toKeeps (by simp)) (.childStatement hyes)).bind
    fun _ _ _ _ => ?_
  exact .lift_bind rfl (.ite (fun h => by simp at h) fun _ => .pure (by simp))

theorem marked_lands {r : Rule}
    (hr : r ∈ [Rule.modInstBang, .modInstHash, .modInstPerc, .modInstStar])
    (hf : Fits clean E (n + 1) t) (h : t.Is r) :
    Lands I k E (fun _ v => v = .undef → E .emptyStatement) (body pass scope t) := by
  obtain ⟨m, x, rfl, hx⟩ := h.marked hr
  have hfx : Fits clean E n x := hf.child hp.toKeeps (by simp)
  have hmarked {warning : String} : Lands I k E (fun _ v => v = .undef → E .emptyStatement)
      (marked pass scope warning (.node r.name [m, x])) :=
    (hp.warn warning).bind fun _ _ _ _ => .lift_bind rfl (hp.builds hfx (.inr hx))
  simp only [mem_cons, not_mem_nil, or_false] at hr
  rcases hr with rfl | rfl | rfl | rfl
  · rw [body_node (show ofRule? _ = some .modInstBang from rfl) _ (.inl rfl)]
    exact hmarked
  · rw [body_node (show ofRule? _ = some .modInstHash from rfl) _ (.inl rfl)]
    exact hmarked
  · rw [body_node (show ofRule? _ = some .modInstPerc from rfl) _ (.inl rfl)]
    exact hmarked
  · rw [body_node (show ofRule? _ = some .modInstStar from rfl) _ (.inl rfl)]
    exact .pure fun _ _ _ => hf.allowed _ (.disabled (contains_self rfl))

theorem stmtList_lands (hf : Fits clean E (n + 1) t) (h : t.Is .stmtList) :
    Lands I k E (fun _ v => v ≠ .undef) (body pass scope t) := by
  obtain ⟨o, ss, c, rfl, hss⟩ := h.stmtList
  rw [body_node (r := "stmt_list") (f := .stmtList) rfl _ (.inl rfl)]
  refine .lift_bind rfl ((block_lands hp fun k inner hi z hz => ?_).bind fun _ _ _ _ =>
    .pure (by simp))
  have hz : z ∈ ss := by simpa using hz
  exact hp.declares hi (hf.child hp.toKeeps (by simp [hz])) (.statement (hss z hz))

theorem moduleInstantiation_lands (hf : Fits clean E (n + 1) t) (h : t.Is .moduleInstantiation) :
    Lands I k E (fun _ v => v = .undef → E .emptyStatement) (body pass scope t) := by
  obtain ⟨x, rfl, hx⟩ := h.moduleInstantiation
  have hfx := hf.below hp.toKeeps (mem_singleton.2 rfl)
  rw [body_transparent
    (r := "module_instantiation") (f := .moduleInstantiation) rfl rfl]
  rcases hx with hx | ⟨r, hr, hx⟩ | hx | hx
  · exact (ifelse_lands hp hfx hx).mono fun _ v hv he => absurd he hv
  · exact marked_lands hp hr hfx hx
  · exact (modInstSpecial_lands hp hfx hx).mono fun _ v hv he => absurd he hv
  · exact (modInstChild_lands hp hfx hx).mono fun _ v hv he => absurd he hv

/-- What one level does, given a pass for the levels below. -/
theorem body_serves : Serves I own clean E (n + 1) (body pass) where
  toUpkeep := hp.toUpkeep
  lists := (body_reads hp.toReads).lists
  reads := (body_reads hp.toReads).reads
  declares := by
    intro k scope t hs hf hd
    cases hd with
    | file hr h =>
      have hrule : t.rule = "Include" ∨ t.rule = "Use" := by
        rcases hr with rfl | rfl
        · exact .inl (h.rule_eq rfl)
        · exact .inr (h.rule_eq rfl)
      have hnone : ofRule? t.rule = none ∧ t.rule ≠ "" := by
        rcases hrule with hr | hr <;> rw [hr] <;> exact ⟨rfl, by decide⟩
      rw [body_unknown hnone.1 hnone.2]
      refine .fault (hf.allowed _ (.unsupported (hrule.imp_right .inl) ?_))
      exact contains_self (by simp)
    | finish s p =>
      rw [body_leaf (r := "EOF") (f := .finish) rfl]
      exact .pure fun _ _ => trivial
    | noChild s p =>
      rw [body_leaf (r := "no_child") (f := .noChild) rfl]
      exact .pure fun _ _ => trivial
    | statement h => exact statement_lands hp hs hf h
    | assignment h => exact assignment_lands hp hs hf.clean h
    | childStatement h => exact childStatement_lands hp hs hf h
    | explicitChild h => exact explicitChild_lands hp hf h
  builds := by
    rintro k scope t hf (h | h)
    · exact (stmtList_lands hp hf h).mono fun _ v hv he => absurd he hv
    · exact moduleInstantiation_lands hp hf h

end

section

variable {I : World → Prop} {own : ScopeId → Prop} {clean : Tree → Prop}

theorem Fits.deep {E : Fault → Prop} {t : Tree} (h : Fits clean E 0 t) : E .tooDeep := by
  refine h.low.resolve_right fun hle => ?_
  cases t <;> simp [height] at hle

theorem declareWith_reads (K : Keeps I clean) (E : Fault → Prop) (n : Nat) :
    Reads I clean E n (declareWith n) := by
  induction n with
  | zero => exact ⟨K, fun h _ => .fault h.deep, fun h _ => .fault h.deep⟩
  | succ n ih => exact declareWith_succ n ▸ body_reads ih

variable (U : Upkeep I own clean)

include U

theorem declareWith_serves (E : Fault → Prop) (n : Nat) :
    Serves I own clean E n (declareWith n) := by
  induction n with
  | zero =>
    exact ⟨U, fun h _ => .fault h.deep, fun h _ => .fault h.deep, fun _ h _ => .fault h.deep,
      fun h _ => .fault h.deep⟩
  | succ n ih => exact declareWith_succ n ▸ body_serves ih

theorem input_lands {scope : ScopeId} {t : Tree} {k : World} (hs : own scope) (hc : clean t)
    (h : t.Is .input) : Ends I k (Refusal t) (declare scope t) := by
  obtain ⟨ts, s, p, rfl, hts⟩ := h.input
  have hp := declareWith_serves U (Refusal (.node "Input" (ts ++ [.leaf "EOF" s p])))
    (heightAll (ts ++ [.leaf "EOF" s p]))
  have hf : Fits clean (Refusal (.node "Input" (ts ++ [.leaf "EOF" s p])))
      (heightAll (ts ++ [.leaf "EOF" s p]) + 1) (.node "Input" (ts ++ [.leaf "EOF" s p])) :=
    ⟨.inr (Nat.le_refl _), hc, fun _ h => h⟩
  unfold declare
  rw [height, declareWith_succ,
    body_node (r := "Input") (f := .input) rfl _ (.inl rfl)]
  refine .lift_bind rfl ((each_lands fun k x hx => ?_).last fun _ => trivial)
  refine hp.declares hs (hf.child U.toKeeps hx) ?_
  rcases mem_append.1 hx with hx | hx
  · rcases hts x hx with h | h | h
    · exact .file (.inl rfl) h
    · exact .file (.inr rfl) h
    · exact .statement h
  · obtain rfl := mem_singleton.1 hx
    exact .finish s p

end

end Declare
end Scad
