import Scad.Proofs.Loading.Order
import Scad.Proofs.Loading.Statements

/-!
What a name stands for in a top-level environment that has loaded programs and taken settings
of its host, in any order: what the host has set last, or else what has been declared first, or
else what is built in. A function may also be a variable, of the same layer or of a layer
below.
-/

namespace Scad

open Run Environment World

/-! ## Layers -/

/-- The world that a computation leaves, well or not. -/
def Run.reached {α : Type} (m : Run α) (w : World) : World := worldOf (m w)

/-- What the host has set, the last first, and what has been declared, the first first. -/
structure History where
  settings : List Entry := []
  declared : List Entry := []

namespace History

def declare (H : History) (es : List Entry) : History := { H with declared := H.declared ++ es }

def lastSet (H : History) (p : Part) : Option Holding := Entry.first p H.settings

def firstDeclared (H : History) (p : Part) : Option Holding := Entry.first p H.declared

end History

/-- The three scopes of an environment hold what its history says. Of a name that the host has
set nothing is known in the scope below. -/
structure Layered (H : History) (w : World) : Prop where
  size : 3 ≤ w.scopes.size
  kind : ∀ a ≤ 2, (w.scopeAt a).kind = ((opened {}).scopeAt a).kind
  parents : ∀ a ≤ 2, (w.scopeAt a).parents = ((opened {}).scopeAt a).parents
  frame : (w.frames.getD 0 default).scope = 2
  given : ∀ e ∈ H.settings, ∃ v, v ≠ .undef ∧
    (e.2 = .var (.value v) ∨ e.2 = .func (.value v) ∨ e.2 = .mod (.value v))
  own : ∀ p, p.isName = true → (w.scopeAt 2).holding? p = H.lastSet p
  declared : ∀ p, p.isName = true → H.lastSet p = none →
    (w.scopeAt 1).holding? p = H.firstDeclared p
  builtin : ∀ p, p.isName = true → (w.scopeAt 0).holding? p = builtins.holding? p

namespace Layered

variable {H : History} {w w' : World} {e : Entry}

theorem new : Layered {} (opened {}) where
  size := Nat.le_refl 3
  kind _ _ := rfl
  parents _ _ := rfl
  frame := rfl
  given _ h := by cases h
  own p _ := Scope.holding?_new .main [1, 0] p
  declared p _ _ := Scope.holding?_new .block [0] p
  builtin _ _ := rfl

section

variable (h : Layered H w)

include h

theorem keep (hle : w.scopes.size ≤ w'.scopes.size) (hf : w'.frames = w.frames)
    (hk : ∀ a ≤ 2, (w.scopeAt a).Kept (· = .work) (w'.scopeAt a)) : Layered H w' := by
  have hp {a : ScopeId} (ha : a ≤ 2) {p : Part} (hp : p.isName = true) :
      (w'.scopeAt a).holding? p = (w.scopeAt a).holding? p := by
    refine (hk a ha).parts p ?_
    rintro rfl
    cases hp
  exact
    { size := Nat.le_trans h.size hle
      kind := fun a ha => (hk a ha).kind.trans (h.kind a ha)
      parents := fun a ha => (hk a ha).parents.trans (h.parents a ha)
      frame := hf ▸ h.frame
      given := h.given
      own := fun p hn => (hp (Nat.le_refl 2) hn).trans (h.own p hn)
      declared := fun p hn hno => (hp (Nat.le_succ 1) hn).trans (h.declared p hn hno)
      builtin := fun p hn => (hp (Nat.zero_le 2) hn).trans (h.builtin p hn) }

theorem untouched (hw : w.Untouched w') : Layered H w' :=
  h.keep hw.size hw.frames fun a ha =>
    (hw.scopes a (Nat.lt_of_le_of_lt ha h.size)).symm ▸ .refl _ _

theorem built (v : Value) : Layered H (w.built 2 v) := by
  refine h.keep (Nat.le_of_eq Array.size_modify.symm) rfl fun a _ => ⟨?_, ?_, fun p hp => ?_⟩
  · rw [scopeAt_built]
    split <;> rfl
  · rw [scopeAt_built]
    split <;> rfl
  · exact holding?_built hp ..

theorem declare_nil : Layered (H.declare []) w := by
  rw [History.declare, List.append_nil]
  exact h

theorem set {v : Value} (hv : v ≠ .undef)
    (he : e.2 = .var (.value v) ∨ e.2 = .func (.value v) ∨ e.2 = .mod (.value v)) :
    Layered { H with settings := e :: H.settings } (w.taken 2 e.1 e.2) := by
  have hname : e.part.isName = true := by
    obtain ⟨name, x⟩ := e
    rcases he with rfl | rfl | rfl <;> rfl
  have hset (p : Part) : History.lastSet { H with settings := e :: H.settings } p =
      if e.part = p then some e.2 else H.lastSet p := Entry.first_cons ..
  exact
    { size := Nat.le_trans h.size (Nat.le_of_eq (count_taken w .scope).symm)
      kind := fun a ha => (taken_kind w a).trans (h.kind a ha)
      parents := fun a ha => (taken_parents w a).trans (h.parents a ha)
      frame := h.frame
      given := List.forall_mem_cons.2 ⟨⟨v, hv, he⟩, h.given⟩
      own := fun p hp => by simp [holding?_taken h.size hname, hset, h.own p hp]
      declared := fun p hp hno => by
        rw [hset] at hno
        split at hno
        · cases hno
        · simp [holding?_taken h.size hname]
          exact h.declared p hp hno
      builtin := fun p hp => by
        simp [holding?_taken h.size hname, h.builtin p hp] }

/-- A declaration goes below what the host has set, unless there is one. -/
theorem add (he : e.part.isName = true) (warning : String) :
    ∃ w', add 2 e.1 warning e.2 w = .ok () w' ∧ Layered (H.declare [e]) w' := by
  have htarget : (w.scopeAt 2).target 2 = 1 := by
    unfold Scope.target
    rw [h.kind 2 (Nat.le_refl 2), h.parents 2 (Nat.le_refl 2)]
    rfl
  have hadd := w.add_eq 2 e.1 warning e.2
  rw [htarget, show e.2.part e.1 = e.part from rfl] at hadd
  have hfirst (p : Part) : (H.declare [e]).firstDeclared p =
      (H.firstDeclared p).or (if e.part = p then some e.2 else none) := Entry.first_append ..
  by_cases hhas : (w.scopeAt 1).has e.part = true
  · rw [if_pos hhas] at hadd
    refine ⟨_, hadd.trans rfl, untouched ?_ ((World.Untouched.refl w).of_eq rfl rfl)⟩
    refine { h with declared := fun p hp hno => ?_ }
    rw [hfirst, ← h.declared p hp hno]
    by_cases hep : e.part = p
    · subst hep
      obtain ⟨x, hx⟩ := Option.isSome_iff_exists.1 hhas
      rw [hx]
      rfl
    · rw [if_neg hep, Option.or_none]
  · rw [if_neg hhas] at hadd
    refine ⟨_, hadd.trans rfl, ?_⟩
    change Layered _ (w.taken 1 e.1 e.2)
    exact
      { size := Nat.le_trans h.size (Nat.le_of_eq (count_taken w .scope).symm)
        kind := fun a ha => (taken_kind w a).trans (h.kind a ha)
        parents := fun a ha => (taken_parents w a).trans (h.parents a ha)
        frame := h.frame
        given := h.given
        own := fun p hp => by
          simp [holding?_taken (Nat.le_of_succ_le h.size) he, h.own p hp, History.declare,
            History.lastSet]
        declared := fun p hp hno => by
          rw [hfirst, ← h.declared p hp hno, holding?_taken (Nat.le_of_succ_le h.size) he]
          by_cases hep : e.part = p
          · subst hep
            rw [Scope.has, Bool.not_eq_true, Option.isSome_eq_false_iff, Option.isNone_iff_eq_none]
              at hhas
            simp [hhas]
          · simp [hep]
        builtin := fun p hp => by simp [holding?_taken (Nat.le_of_succ_le h.size) he,
          h.builtin p hp] }

end

end Layered

namespace Declare

variable {t : Tree} {fuel : Nat} {H : History} {w : World}

/-- A statement of a program declares what it tells. -/
theorem logged_layered (ht : t.Is .includeFile ∨ t.Is .useFile ∨ t.Is .statement ∨
      ∃ s p, t = .leaf "EOF" s p) (h : Layered H w) :
    (∃ es w', logged fuel 2 t w = .ok es w' ∧ Layered (H.declare es) w') ∨
      ∃ e w', logged fuel 2 t w = .error e w' ∧ Layered H w' := by
  have unknown (hf : DeclForm.ofRule? t.rule = none) (hr : t.rule ≠ "") :
      ∃ e w', logged fuel 2 t w = .error e w' ∧ Layered H w' := by
    cases fuel with
    | zero => exact ⟨_, w, rfl, h⟩
    | succ fuel =>
      rw [logged, unwrap_unknown hf hr]
      exact ⟨_, w, rfl, h⟩
  rcases ht with ht | ht | ht | ⟨s, p, rfl⟩
  · have hr : t.rule = "Include" := ht.rule_eq rfl
    exact .inr (unknown (hr ▸ rfl) (hr ▸ by decide))
  · have hr : t.rule = "Use" := ht.rule_eq rfl
    exact .inr (unknown (hr ▸ rfl) (hr ▸ by decide))
  · have hl := statement_logged ht fuel 2 w
    generalize logged fuel 2 t w = r at hl
    cases hl with
    | refused hw => exact .inr ⟨_, _, rfl, h.untouched hw⟩
    | object _ _ hw => exact .inl ⟨[], _, rfl, ((h.untouched hw).built _).declare_nil⟩
    | known =>
      refine .inl ⟨[], _, rfl, (h.untouched ?_).declare_nil⟩
      exact (World.Untouched.refl w).of_eq rfl rfl
    | @declared e w1 w2 hd _ hw _ ha =>
      obtain ⟨w3, ha', h3⟩ := (h.untouched hw).add hd.subject.2 e.part.duplicate
      cases ha'.symm.trans ha
      exact .inl ⟨[e], _, rfl, h3⟩
  · cases fuel with
    | zero => exact .inr ⟨_, w, rfl, h⟩
    | succ fuel =>
      rw [logged, Tree.unwrap]
      exact .inl ⟨[], w, rfl, h.declare_nil⟩

theorem each_layered {ts : List Tree} (hts : ∀ t ∈ ts, t.Is .includeFile ∨ t.Is .useFile ∨
      t.Is .statement ∨ ∃ s p, t = .leaf "EOF" s p) (h : Layered H w) :
    Layered (H.declare (entries fuel 2 ts w)) ((each (declareWith fuel) 2 ts).reached w) := by
  induction ts generalizing H w with
  | nil =>
    exact h.declare_nil
  | cons t ts ih =>
    rw [each_cons, entries]
    rcases logged_layered (hts t (List.mem_cons_self ..)) h with
      ⟨es, w1, ht, h1⟩ | ⟨e, w1, ht, h1⟩
    · have hrest := ih (fun t ht => hts t (List.mem_cons_of_mem _ ht)) h1
      rw [History.declare, History.declare, List.append_assoc] at hrest
      rw [ht, reached, bind_of_ok ht]
      exact hrest
    · rw [ht, reached, bind_of_error ht, History.declare, List.append_nil]
      exact h1

end Declare

/-! ## Operations -/

/-- What changes the names of an environment. -/
inductive Operation where
  /-- A program is loaded, as far as it is not refused. -/
  | load (text : String)
  | addFunc (name : String) (v : Value)
  | addMod (name : String) (v : Value)
  /-- The host sets a name; `undef` would take it back. -/
  | set (space : NameSpace) (name : String) (v : Value) (given : v ≠ .undef)

namespace Operation

def run : Operation → Run Unit
  | load text => Environment.load 0 text
  | addFunc name v => Environment.addFunc 0 name v
  | addMod name v => Environment.addMod 0 name v
  | set .var name v _ => setOwnVar 0 name v
  | set .func name v _ => setOwnFunc 0 name v
  | set .mod name v _ => setOwnMod 0 name v

def note (H : History) (w : World) : Operation → History
  | load text =>
    match parse text with
    | .ok (.node _ ts) => H.declare (Declare.entries (Tree.heightAll ts) 2 ts w)
    | _ => H
  | addFunc name v => H.declare [(name, .func (.value v))]
  | addMod name v => H.declare [(name, .mod (.value v))]
  | set .var name v _ => { H with settings := (name, .var (.value v)) :: H.settings }
  | set .func name v _ => { H with settings := (name, .func (.value v)) :: H.settings }
  | set .mod name v _ => { H with settings := (name, .mod (.value v)) :: H.settings }

/-- One operation more. A fault does not end the history. -/
def follow (s : History × World) (op : Operation) : History × World :=
  (op.note s.1 s.2, op.run.reached s.2)

/-- The history of a new environment, and the world that it leads to. -/
def history (ops : List Operation) : History × World :=
  ops.foldl follow ({}, opened {})

theorem load_refused {text : String} {e : SyntaxError} (h : parse text = .error e) (w : World) :
    (run (.load text)).reached w = w := by
  rw [run, reached, Environment.load]
  unfold parseText
  rw [h]
  cases e <;> rfl

theorem follow_layered {s : History × World} (h : Layered s.1 s.2) (op : Operation) :
    Layered (follow s op).1 (follow s op).2 := by
  obtain ⟨H, w⟩ := s
  have hscope : scopeOf 0 w = .ok 2 w := congrArg (EStateM.Result.ok · w) h.frame
  have hreached {f : ScopeId → Run Unit} {w' : World} (hf : f 2 w = .ok () w') :
      (scopeOf 0 >>= f).reached w = w' := by
    rw [reached, bind_of_ok hscope, hf]
    rfl
  cases op with
  | load text =>
    cases hp : parse text with
    | ok t =>
      have hinput := parse_is_input hp
      obtain ⟨us, s, p, rfl, hus⟩ := hinput.input
      have hload : (run (.load text)).reached w = (Declare.each
          (Declare.declareWith (Tree.heightAll (us ++ [.leaf "EOF" s p]))) 2
            (us ++ [.leaf "EOF" s p])).reached w := by
        rw [run, reached, Environment.load, bind_of_ok (Environment.parseText_of_ok hp w),
          bind_of_ok hscope, Session.declare_input, bind_assoc, reached]
        cases he : Declare.each _ 2 (us ++ [.leaf "EOF" s p]) w with
        | ok a w' => rw [bind_of_ok he]; rfl
        | error e w' => rw [bind_of_error he]
      rw [follow, hload]
      unfold note
      dsimp only
      rw [hp]
      refine Declare.each_layered (fun t ht => ?_) h
      rcases List.mem_append.1 ht with ht | ht
      · rcases hus t ht with ht | ht | ht
        · exact .inl ht
        · exact .inr (.inl ht)
        · exact .inr (.inr (.inl ht))
      · exact .inr (.inr (.inr ⟨s, p, List.mem_singleton.1 ht⟩))
    | error e =>
      rw [follow, load_refused hp]
      unfold note
      dsimp only
      rw [hp]
      exact h
  | addFunc name v =>
    obtain ⟨w', hw', h'⟩ := h.add (e := (name, .func (.value v))) rfl _
    rw [← addFunc_eq] at hw'
    rw [follow, run, Environment.addFunc, hreached hw']
    exact h'
  | addMod name v =>
    obtain ⟨w', hw', h'⟩ := h.add (e := (name, .mod (.value v))) rfl _
    rw [← addMod_eq] at hw'
    rw [follow, run, Environment.addMod, hreached hw']
    exact h'
  | set space name v hv =>
    cases space with
    | var =>
      rw [follow, run, setOwnVar, hreached rfl]
      exact h.set (e := (name, .var _)) hv (.inl rfl)
    | func =>
      rw [follow, run, setOwnFunc, hreached rfl]
      exact h.set (e := (name, .func _)) hv (.inr (.inl rfl))
    | mod =>
      rw [follow, run, setOwnMod, hreached rfl]
      exact h.set (e := (name, .mod _)) hv (.inr (.inr rfl))

theorem foldl_layered (ops : List Operation) {s : History × World} (h : Layered s.1 s.2) :
    Layered (ops.foldl follow s).1 (ops.foldl follow s).2 :=
  List.foldlRecOn (motive := fun s => Layered s.1 s.2) ops follow h
    fun _ h op _ => follow_layered h op

/-- Operations evaluate nothing. -/
theorem run_dynamic (op : Operation) (w : World) : (op.run.reached w).dynamic = w.dynamic := by
  have hscope : scopeOf 0 w = .ok (w.frameAt 0).scope w := rfl
  have hadd (id : ScopeId) (name warning : String) (x : Holding) :
      (worldOf (add id name warning x w)).dynamic = w.dynamic := by
    rw [World.add_eq]
    split <;> rfl
  cases op with
  | load text =>
    cases hp : parse text with
    | error e => rw [load_refused hp]
    | ok t =>
      have hdeclare := (Declare.declareWith_twins t.height (w.frameAt 0).scope t w []).2
      rw [reached, run, Environment.load, bind_of_ok (Environment.parseText_of_ok hp w),
        bind_of_ok hscope]
      cases hd : declare (w.frameAt 0).scope t w with
      | ok v w' =>
        rw [bind_of_ok hd]
        exact (congrArg (fun x => (worldOf x).dynamic) hd).symm.trans hdeclare
      | error e w' =>
        rw [bind_of_error hd]
        exact (congrArg (fun x => (worldOf x).dynamic) hd).symm.trans hdeclare
  | addFunc name v =>
    rw [reached, run, Environment.addFunc, bind_of_ok hscope, addFunc_eq]
    exact hadd ..
  | addMod name v =>
    rw [reached, run, Environment.addMod, bind_of_ok hscope, addMod_eq]
    exact hadd ..
  | set space name v _ => cases space <;> rfl

theorem foldl_dynamic (ops : List Operation) (s : History × World) :
    (ops.foldl follow s).2.dynamic = s.2.dynamic :=
  List.foldlRecOn (motive := fun r => r.2.dynamic = s.2.dynamic) ops follow rfl
    fun _ h op _ => (run_dynamic op _).trans h

theorem history_layered (ops : List Operation) : Layered (history ops).1 (history ops).2 :=
  foldl_layered ops .new

end Operation

/-! ## What a name stands for -/

namespace Holding

def var? : Holding → Option VarDef
  | var d => some d
  | _ => none

/-- What a search for a function makes of this; `undef` does not count. -/
def callee? : Holding → Option Callee
  | func (.builtin f) => some (.builtin f)
  | func (.value .undef) | var (.value .undef) => none
  | func (.value v) | var (.value v) => some (.value v)
  | var (.expr scope body) => some (.deferred scope body)
  | _ => none

/-- What a search for a module makes of this; `undef` does not count. -/
def mod? : Holding → Option ModDef
  | mod (.value .undef) => none
  | mod m => some m
  | _ => none

end Holding

namespace Scope

variable (name : String) (s : Scope)

theorem findVar?_eq : findVar? name s = (s.holding? (.var name)).bind Holding.var? := by
  simp only [findVar?, holding?]
  cases s.vars.find? name <;> rfl

theorem findFunction?_eq : findFunction? name s =
    ((s.holding? (.func name)).bind Holding.callee?).or
      ((s.holding? (.var name)).bind Holding.callee?) := by
  have hvar : findFunction? name { s with funcs := [] } =
      (s.holding? (.var name)).bind Holding.callee? := by
    simp only [findFunction?, holding?, Table.find?]
    cases s.vars.find? name with
    | none => rfl
    | some d =>
      cases d with
      | expr scope body => rfl
      | value v => cases v <;> rfl
  rw [← hvar]
  simp only [findFunction?, holding?, Table.find?]
  cases s.funcs.find? name with
  | none => rfl
  | some f =>
    cases f with
    | builtin f => rfl
    | value v => cases v <;> rfl

theorem findModule?_eq : findModule? name s = (s.holding? (.mod name)).bind Holding.mod? := by
  simp only [findModule?, holding?]
  cases s.mods.find? name with
  | none => rfl
  | some m =>
    cases m with
    | builtin m | module => rfl
    | value v => cases v <;> rfl

end Scope

theorem findSome?_cons_or {α β : Type} (f : α → Option β) (x : α) (xs : List α) :
    (x :: xs).findSome? f = (f x).or (xs.findSome? f) := by
  rw [List.findSome?_cons]
  cases f x <;> rfl

namespace Layered

variable {H : History} {w : World}

theorem searchFrom_eq (h : Layered H w) {α : Type} (name : String) (ask : Scope → Option α) :
    (scopeOf 0 >>= fun id => searchFrom id name ask) w = demand (.unknownName name)
        ((ask (w.scopeAt 2)).or ((ask (w.scopeAt 1)).or (ask (w.scopeAt 0)))) w := by
  have hscope : scopeOf 0 w = .ok 2 w := congrArg (EStateM.Result.ok · w) h.frame
  have hparents : (w.scopes.getD 2 default).parents = [1, 0] := h.parents 2 (Nat.le_refl 2)
  rw [bind_of_ok hscope]
  change demand _ (Scope.search w.scopes ask (2 :: (w.scopes.getD 2 default).parents)) w = _
  rw [hparents]
  unfold Scope.search Scope.search Scope.search Scope.search
  change demand _ _ w = demand _ ((ask (w.scopes.getD 2 default)).or
    ((ask (w.scopes.getD 1 default)).or (ask (w.scopes.getD 0 default)))) w
  cases ask (w.scopes.getD 2 default) with
  | some a => rfl
  | none =>
    cases ask (w.scopes.getD 1 default) with
    | some a => rfl
    | none => cases ask (w.scopes.getD 0 default) <;> rfl

/-- What the host has set is a value other than `undef`. -/
theorem given_of_own (h : Layered H w) {p : Part} (hp : p.isName = true) {x : Holding}
    (hx : (w.scopeAt 2).holding? p = some x) :
    ∃ v, v ≠ .undef ∧ (x = .var (.value v) ∨ x = .func (.value v) ∨ x = .mod (.value v)) := by
  rw [h.own p hp, History.lastSet, Entry.first, Option.map_eq_some_iff] at hx
  obtain ⟨e, he, rfl⟩ := hx
  exact h.given e (List.mem_of_find?_eq_some he)

end Layered

namespace Operation

/-- What a name stands for after any operations: as a variable, what the host has set last, or
else what was assigned first; as a function, what the host has set last as a function, or else
as a variable, or else what was declared first as a function, or else as a variable, or else
what is built in; as a module, what the host has set last, or else what was declared first, or
else what is built in. Else the name is unknown. -/
theorem names_by_layer (ops : List Operation) (name : String) :
    (Environment.scopeOf 0 >>= fun id => Run.lookupVar id name) (history ops).2 =
      Run.demand (.unknownName name) ([(history ops).1.lastSet (.var name),
        (history ops).1.firstDeclared (.var name)].findSome? (·.bind Holding.var?))
        (history ops).2 ∧
    (Environment.scopeOf 0 >>= fun id => Run.lookupFunction id name) (history ops).2 =
      Run.demand (.unknownName name) ([(history ops).1.lastSet (.func name),
        (history ops).1.lastSet (.var name), (history ops).1.firstDeclared (.func name),
        (history ops).1.firstDeclared (.var name),
        Environment.builtins.holding? (.func name)].findSome? (·.bind Holding.callee?))
        (history ops).2 ∧
    (Environment.scopeOf 0 >>= fun id => Run.lookupModule id name) (history ops).2 =
      Run.demand (.unknownName name) ([(history ops).1.lastSet (.mod name),
        (history ops).1.firstDeclared (.mod name),
        Environment.builtins.holding? (.mod name)].findSome? (·.bind Holding.mod?))
        (history ops).2 := by
  have h := history_layered ops
  generalize history ops = s at h ⊢
  obtain ⟨H, w⟩ := s
  have own {p : Part} (hp : p.isName = true) : H.lastSet p = (w.scopeAt 2).holding? p :=
    (h.own p hp).symm
  have below {p : Part} (hp : p.isName = true) (hx : (w.scopeAt 2).holding? p = none) :
      (w.scopeAt 1).holding? p = H.firstDeclared p := h.declared p hp ((own hp).trans hx)
  have novar : Environment.builtins.holding? (.var name) = none := rfl
  refine ⟨(h.searchFrom_eq name _).trans (congrArg (Run.demand _ · w) ?_),
    (h.searchFrom_eq name _).trans (congrArg (Run.demand _ · w) ?_),
    (h.searchFrom_eq name _).trans (congrArg (Run.demand _ · w) ?_)⟩
  · simp only [Scope.findVar?_eq, h.builtin (.var name) rfl, novar, own (p := .var name) rfl,
      findSome?_cons_or, List.findSome?_nil, Option.bind_none]
    cases hx : (w.scopeAt 2).holding? (.var name) with
    | some x =>
      obtain ⟨d, -, rfl⟩ := Option.map_eq_some_iff.1 hx
      rfl
    | none => rw [below rfl hx]
  · -- What the host has set is found, so that nothing below is asked.
    have found {p : Part} {x : Holding} (hp : p = .func name ∨ p = .var name)
        (hx : (w.scopeAt 2).holding? p = some x) : ∃ c, x.callee? = some c := by
      have hname : p.isName = true := by rcases hp with rfl | rfl <;> rfl
      obtain ⟨v, hv, rfl | rfl | rfl⟩ := h.given_of_own hname hx
      · exact ⟨.value v, by cases v <;> first | rfl | exact absurd rfl hv⟩
      · exact ⟨.value v, by cases v <;> first | rfl | exact absurd rfl hv⟩
      · rcases hp with rfl | rfl <;> obtain ⟨d, -, hd⟩ := Option.map_eq_some_iff.1 hx <;> cases hd
    simp only [Scope.findFunction?_eq, h.builtin (.var name) rfl, h.builtin (.func name) rfl, novar,
      own (p := .func name) rfl, own (p := .var name) rfl, findSome?_cons_or, List.findSome?_nil,
      Option.bind_none, Option.or_none, Option.or_assoc]
    cases hx : (w.scopeAt 2).holding? (.func name) with
    | some x =>
      obtain ⟨c, hc⟩ := found (.inl rfl) hx
      rw [Option.bind_some, hc]
      rfl
    | none =>
      cases hy : (w.scopeAt 2).holding? (.var name) with
      | some y =>
        obtain ⟨c, hc⟩ := found (.inr rfl) hy
        rw [Option.bind_some, hc]
        rfl
      | none => rw [below rfl hx, below rfl hy]
  · simp only [Scope.findModule?_eq, h.builtin (.mod name) rfl, own (p := .mod name) rfl,
      findSome?_cons_or, List.findSome?_nil, Option.or_none]
    cases hx : (w.scopeAt 2).holding? (.mod name) with
    | some x =>
      obtain ⟨v, hv, hgiven⟩ := h.given_of_own (p := .mod name) rfl hx
      obtain ⟨m, -, rfl⟩ := Option.map_eq_some_iff.1 hx
      rcases hgiven with hg | hg | hg <;> cases hg
      cases v <;> first | rfl | exact absurd rfl hv
    | none => rw [below rfl hx]

end Operation
end Scad
