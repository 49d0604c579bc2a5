import Scad.Proofs.Loading.Meaning
import Scad.Proofs.Scoping.Lockstep

/-!
Names that do not begin with `$` follow the text. What a function or a declaration gives
does not depend on who asks for it, but for what the asking environments answer to names
that begin with `$`.

The answers have to be settled. If a value is still to be computed on one side only, then
computing it can extend a list in place, and what is read of the list later differs.
-/

namespace Scad

open Run
open Array hiding isEmpty_iff

variable {c e : FrameId} {o : Option Value} {name : String} {w : World}

/-! ## Worlds in which nothing is under way -/

def VarDef.plain : VarDef → Bool
  | .expr _ body => body.plain
  | .value v => v.plain

def FuncDef.plain : FuncDef → Bool
  | .builtin _ => true
  | .value v => v.plain

def ModDef.plain : ModDef → Bool
  | .builtin _ => true
  | .module _ params _ => params.plain
  | .value v => v.plain

def Scope.plain (s : Scope) : Bool :=
  s.vars.all (fun e => e.2.plain) && s.funcs.all (fun e => e.2.plain) &&
    s.mods.all (fun e => e.2.plain) && Value.plainAll s.work

def NodeCell.plain : NodeCell → Bool
  | .leaf .. => true
  | .inner _ children => Value.plainAll children

def Slot.plain : Slot → Bool
  | .known v => v.plain
  | .busy => true

def Args.plain (args : Args) : Bool :=
  Value.plainAll args.positional && Value.plainEntries args.named

/-- Nothing is under way: no environment is current, no trace is on, and no run through
children has begun. No table in a value has a name that begins with `$`. -/
structure World.Idle (w : World) : Prop where
  lists : ∀ vs ∈ w.lists, Value.plainAll vs = true
  nodes : ∀ c ∈ w.nodes, c.plain = true
  scopes : ∀ s ∈ w.scopes, s.plain = true
  slots : ∀ t ∈ w.tables, ∀ e ∈ t.named, e.2.plain = true
  streams : w.streams = #[]
  current : w.current = none
  tracer : w.tracer = none
  rooted : w.Rooted w.frames.size w.tables.size

/-- The same as a test. -/
def World.isIdle (w : World) : Bool :=
  w.lists.all Value.plainAll && w.nodes.all NodeCell.plain && w.scopes.all Scope.plain &&
    w.tables.all (fun t => t.named.all (fun e => e.2.plain) && t.keyed.isEmpty) &&
    w.streams.isEmpty && w.current.isNone && w.tracer.isNone &&
    (List.range w.frames.size).all fun e =>
      (w.frameAt e).table < w.tables.size && (w.frameAt e).caller.all (· < e)

theorem World.idle_of_isIdle (h : w.isIdle = true) : w.Idle := by
  simp only [World.isIdle, Bool.and_eq_true, all_eq_true_iff_forall_mem, List.all_eq_true,
    List.mem_range, List.isEmpty_iff, Array.isEmpty_iff, Option.isNone_iff_eq_none,
    decide_eq_true_eq] at h
  obtain ⟨⟨⟨⟨⟨⟨⟨lists, nodes⟩, scopes⟩, tables⟩, streams⟩, current⟩, tracer⟩, frames⟩ := h
  refine ⟨lists, nodes, scopes, fun t ht => (tables t ht).1, streams, current, tracer,
    fun e he => (frames e he).1, fun e he c hc => ?_, fun i hi => ?_⟩
  · have hall := (frames e he).2
    rw [hc] at hall
    simpa using hall
  · rw [getD_eq_getD_getElem?, getElem?_eq_getElem hi]
    exact (tables _ (getElem_mem hi)).2

/-- Worlds with the same cells in which the same was printed and warned of. -/
structure World.SameCells (l r : World) : Prop where
  lists : l.lists = r.lists
  nodes : l.nodes = r.nodes
  scopes : l.scopes = r.scopes
  streams : l.streams = r.streams
  fresh : l.fresh = r.fresh
  out : l.out = r.out
  warnings : l.warnings = r.warnings

/-- Two runs come to the same end: the same value or fault, and worlds with the same cells.
A run that nests too deep tells nothing. -/
inductive SameEnd {α : Type} :
    EStateM.Result Fault World α → EStateM.Result Fault World α → Prop
  | ok (a : α) {l r : World} (h : l.SameCells r) : SameEnd (.ok a l) (.ok a r)
  | error (e : Fault) {l r : World} (h : l.SameCells r) : SameEnd (.error e l) (.error e r)
  | leftDeep (l : World) (y : EStateM.Result Fault World α) : SameEnd (.error .tooDeep l) y
  | rightDeep (x : EStateM.Result Fault World α) (r : World) : SameEnd x (.error .tooDeep r)

section

variable {κ : Link} (E : κ.Exact)

include E

theorem Scope.self_of_plain {s : Scope} (h : s.plain = true) : Callers.ScopeSelf κ s := by
  simp only [Scope.plain, Bool.and_eq_true, List.all_eq_true] at h
  obtain ⟨⟨⟨hvars, hfuncs⟩, hmods⟩, hwork⟩ := h
  refine ⟨fun name d hd => ?_, fun name v hv => ?_, fun name m hm => ?_,
    Values.alike_self E _ (.inr hwork)⟩
  · have hp := hvars _ (Table.mem_of_find? hd)
    cases d with
    | expr scope body =>
      exact .expr (E.self rfl scope) (Value.alike_self E body (.inr hp)) (E.fit body)
    | value v => exact .value (Value.alike_self E v (.inr hp))
  · exact Value.alike_self E v (.inr (hfuncs _ (Table.mem_of_find? hv)))
  · have hp := hmods _ (Table.mem_of_find? hm)
    cases m with
    | builtin m => exact .builtin m
    | module name params body =>
      exact .module name (Params.alike_self E params (.inr hp)) (E.self rfl body) (E.self rfl body)
    | value v => exact .value (Value.alike_self E v (.inr hp))

theorem NodeCell.self_of_plain {c : NodeCell} (h : c.plain = true) : c.Alike κ c := by
  cases c with
  | leaf rule text pos => exact .leaf (E.rule rule) text pos
  | inner rule children => exact .inner (E.rule rule) (Values.alike_self E children (.inr h))

theorem Args.self_of_plain {args : Args} (h : args.plain = true) : args.Given κ args := by
  simp only [Args.plain, Bool.and_eq_true] at h
  exact ⟨Values.alike_self E _ (.inr h.1), Entries.alike_self E _ (.inr h.2)⟩

end

theorem World.Answers.plain (hw : w.Idle) (h : w.Answers name e o) :
    ∀ v, o = some v → v.plain = true := by
  induction h with
  | @known e v hs =>
    intro u hu
    cases hu
    unfold World.slotsAt at hs
    rw [getD_eq_getD_getElem?] at hs
    cases ht : w.tables[(w.frameAt e).table]? with
    | none =>
      rw [ht] at hs
      cases hs
    | some t =>
      rw [ht] at hs
      exact hw.slots t (mem_of_getElem? ht) _ (Table.mem_of_find? hs)
  | asked _ _ _ _ ih => exact ih
  | unknown => exact fun v hv => by cases hv

/-! ## Two callers that answer alike -/

/-- Is the value a function of the program? -/
def Value.isProgramFunction : Value → Bool
  | .function .. => true
  | _ => false

/-- Worlds that differ in their environments at most, and of these only in what cannot be
seen from the environments that two callers are. -/
structure World.Beside (l r : World) (d d' : FrameId) : Prop extends l.SameCells r where
  left : l.Idle
  right : r.Idle
  frames : l.frames.size = r.frames.size
  tables : l.tables.size = r.tables.size
  here : d < l.frames.size
  there : d' < r.frames.size
  answers : ∀ name, Eval.isDynamicName name = true → name ≠ "$children" →
    ∃ o, l.Answers name d o ∧ r.Answers name d' o

namespace Callers

variable {l r : World} {d d' : FrameId}

/-- All cells that were there before are linked with themselves. -/
def pairs : Pairs
  | .list | .node | .ident | .stream => Eq
  | _ => fun _ _ => False

theorem aligned_eq {n m : Nat} (h : n = m) : Aligned Eq n m := by
  rintro a _ rfl
  rcases Nat.lt_or_ge a n with ha | ha
  · exact .inl ⟨ha, h ▸ ha⟩
  · exact .inr ⟨a - n, by omega, by omega⟩

theorem stored_eq {α : Type} {p : Prop} {A : α → α → Prop} {d : α} {xs ys : Array α} (h : xs = ys)
    (hA : ∀ x ∈ xs, A x x) (hd : A d d) : Stored p Eq A d xs ys := by
  subst h
  refine ⟨aligned_eq rfl, fun _ => ⟨rfl, fun _ _ h => h⟩, ?_⟩
  rintro a _ rfl
  rw [getD_eq_getD_getElem?]
  cases hx : xs[a]? with
  | none => exact hd
  | some x => exact hA x (mem_of_getElem? hx)

theorem grow_exact (B : Callers) : B.link ≤ B.link.grow pairs ∧ (B.link.grow pairs).Exact := by
  refine ⟨{ (le_refl B.link : Link.Le _ _) with same := fun k a b h => ?_ },
    { B.link_exact with same := fun {k a b} hk => ?_ }⟩
  · cases k <;> exact h
  · cases k with
    | list | node | ident | stream | scope | work | place | decl | cycle => exact Iff.rfl
    | _ => cases hk

/-- What was there before does not come to the two runs but through their callers. -/
theorem agree_of_beside (h : l.Beside r d d') : ∃ B : Callers,
    (B.link.grow pairs).same .origin d d' ∧
      B.ground.correspondence.agree (B.link.grow pairs) l r := by
  have settled : ∀ name, ∃ o : Option Value,
      (Eval.isDynamicName name = true → name ≠ "$children" →
        l.Answers name d o ∧ r.Answers name d' o) ∧ ∀ v, o = some v → v.plain = true := by
    intro name
    by_cases hn : Eval.isDynamicName name = true ∧ name ≠ "$children"
    · obtain ⟨o, ho⟩ := h.answers name hn.1 hn.2
      exact ⟨o, fun _ _ => ho, ho.1.plain h.left⟩
    · exact ⟨none, fun hd hc => absurd ⟨hd, hc⟩ hn, fun v hv => by cases hv⟩
  choose answer hanswer hplain using settled
  let B : Callers := ⟨d, d', answer, l.frames.size, l.tables.size⟩
  obtain ⟨le, E⟩ := B.grow_exact
  have hstreams : ∀ s ∈ l.streams, s.Alike (B.link.grow pairs) s := by
    intro s hs
    rw [h.left.streams] at hs
    exact absurd hs (not_mem_empty s)
  have left : B.Stand d l := ⟨h.left.rooted, h.here, Nat.le_refl _, Nat.le_refl _,
    fun name hd hn => (hanswer name hd hn).1⟩
  have right : B.Stand d' r := by
    have hr := h.right.rooted
    have hd' := h.there
    rw [← h.frames] at hr hd'
    rw [← h.tables] at hr
    exact ⟨hr, hd', Nat.le_of_eq h.frames, Nat.le_of_eq h.tables,
      fun name hd hn => (hanswer name hd hn).2⟩
  have ground : B.Holds (B.link.grow pairs) l r :=
    { le := le
      scopes := h.scopes
      scopesSelf := fun s hs => Scope.self_of_plain E (h.left.scopes s hs)
      left := left
      right := right
      answersSelf := fun name v hv => Value.alike_self E v (.inr (hplain name v hv)) }
  refine ⟨B, ⟨rfl, rfl⟩, pairs, rfl,
    { unique := ⟨oneToOne_eq, oneToOne_eq, oneToOne_eq, oneToOne_eq, fun _ _ _ _ h => h.elim,
        fun _ _ _ _ h => h.elim⟩
      lists := stored_eq h.lists (fun vs hv =>
        Values.alike_self E vs (.inr (h.left.lists vs hv))) .nil
      nodes := stored_eq h.nodes (fun c hc => NodeCell.self_of_plain E (h.left.nodes c hc))
        (.leaf trivial _ _)
      streams := stored_eq h.streams hstreams .ended
      frames := fun _ _ h => h.elim
      tables := fun _ _ h => h.elim
      newFrames := fun _ _ h => h.elim
      newTables := fun _ _ h => h.elim
      numbered := fun _ => ⟨h.frames, fun _ _ h => h.elim⟩
      idents := ⟨aligned_eq h.fresh, fun _ => ⟨h.fresh, fun _ _ h => h⟩⟩
      builders := fun _ _ h => h.elim
      loops := fun _ _ h => h.elim
      opened := fun _ _ _ h => h.elim
      current := ?_
      tracer := ⟨h.left.tracer, h.right.tracer⟩
      said := ⟨h.out, h.warnings⟩
      ground := B.lawful.spared ground (.to_core l) (.to_core r) }⟩
  rw [h.left.current, h.right.current]
  exact .none

theorem stored_same {α : Type} {p : Prop} {D : Nat → Nat → Prop} {A : α → α → Prop} {d : α}
    {xs ys : Array α} (h : Stored p D A d xs ys) (hp : p) (hD : ∀ a, D a a)
    (hA : ∀ x y, A x y → x = y) : xs = ys := by
  refine ext (h.numbered hp).count fun i hi hi' => ?_
  have heq := hA _ _ (h.alike i i (hD i))
  rwa [getD_eq_getD_getElem?, getD_eq_getD_getElem?, getElem?_eq_getElem hi,
    getElem?_eq_getElem hi'] at heq

theorem sameCells {B : Callers} {κ : Link} (hw : B.ground.correspondence.agree κ l r) :
    κ.Exact ∧ l.SameCells r := by
  obtain ⟨D, rfl, hw⟩ := hw
  have E := hw.exact B.lawful trivial
  refine ⟨E,
    { lists := stored_same hw.lists trivial (E.self (k := .list) rfl) fun _ _ => Values.Alike.eq E
      nodes := stored_same hw.nodes trivial (E.self (k := .node) rfl) fun x y h => ?_
      scopes := (hw.holds B.lawful).scopes
      streams := stored_same hw.streams trivial (E.self (k := .stream) rfl) fun x y h => ?_
      fresh := (hw.idents.2 trivial).count
      out := hw.said.1
      warnings := hw.said.2 }⟩
  · cases h with
    | leaf => rfl
    | inner _ h => rw [Values.Alike.eq E h]
  · have hframe := (hw.numbered trivial).eq
    cases h with
    | waiting h => rw [hframe _ _ h]
    | walking h hs => rw [hframe _ _ h, E.eq (k := .scope) rfl hs]
    | busy | ended => rfl

theorem sameEnd {B : Callers} {κ : Link} {s : World} {x y : EStateM.Result Fault World Value}
    (h : B.ground.correspondence.Outcome κ s Value.Alike x y) : SameEnd x y := by
  cases h with
  | left _ => exact .leftDeep _ _
  | right _ => exact .rightDeep _ _
  | @ok κ' _ l r _ hw a b h =>
    obtain ⟨E, hsame⟩ := sameCells hw
    obtain rfl := h.eq E
    exact .ok a hsame
  | @error κ' _ l r _ hw e f h =>
    obtain ⟨E, hsame⟩ := sameCells hw
    obtain rfl := h.eq E
    exact .error e hsame

end Callers

namespace Eval

variable {l r : World} {d d' : FrameId} (h : l.Beside r d d') (n m : Nat)

include h

theorem evalIn_sameEnd (scope : ScopeId) {body : Value} (hb : body.plain = true) :
    SameEnd (evalIn (performWith n) d scope body l) (evalIn (performWith m) d' scope body r) := by
  obtain ⟨B, ho, hw⟩ := Callers.agree_of_beside h
  obtain ⟨-, E⟩ := B.grow_exact
  exact Callers.sameEnd (B.lawful.correspondence.sim_evalIn (B.performs n m) (.inr ho)
    (E.self rfl scope)
    (Value.alike_self E body (.inr hb)) (E.fit body) l r hw)

theorem callValue_sameEnd {f : Value} (hf : f.isProgramFunction = true) (hp : f.plain = true)
    {args : Args} (ha : args.plain = true) :
    SameEnd (callValue (performWith n) d f args l) (callValue (performWith m) d' f args r) := by
  obtain ⟨B, ho, hw⟩ := Callers.agree_of_beside h
  obtain ⟨-, E⟩ := B.grow_exact
  cases f with
  | function i scope name params body =>
    simp only [Value.plain, Bool.and_eq_true] at hp
    exact Callers.sameEnd (B.lawful.correspondence.sim_callFunction (B.performs n m) (.inr ho)
      (E.self rfl scope) (Params.alike_self E params (.inr hp.1))
      (Value.alike_self E body (.inr hp.2)) (E.fit body) (Args.self_of_plain E ha) l r hw)
  | _ => cases hf

theorem buildScope_sameEnd (scope : ScopeId) :
    SameEnd (buildScope (performWith n) d scope l) (buildScope (performWith m) d' scope r) := by
  obtain ⟨B, ho, hw⟩ := Callers.agree_of_beside h
  obtain ⟨-, E⟩ := B.grow_exact
  refine Callers.sameEnd (Correspondence.Sim.bind
    (B.lawful.correspondence.newFrame (E.self rfl scope)
    (.inr ho)) (fun hf => ?_) l r hw)
  exact B.performs n m (.build hf.1 (hf.2.2 (E.self rfl scope)))

end Eval

/-- What a function and a declared variable give does not depend on the environment that
asks, if names that begin with `$` have the same settled answers there. Of all other names
the caller knows, and of the scope that it stands in, nothing comes through. -/
theorem Eval.names_follow_text {w : World} (hw : w.Idle) {d d' : FrameId}
    (hd : d < w.frames.size) (hd' : d' < w.frames.size)
    (h : ∀ name, isDynamicName name = true → name ≠ "$children" →
      ∃ o, w.Answers name d o ∧ w.Answers name d' o) (n m : Nat) :
    (∀ f : Value, f.isProgramFunction = true → f.plain = true → ∀ args : Args,
      args.plain = true →
      SameEnd (callValue (performWith n) d f args w) (callValue (performWith m) d' f args w)) ∧
    ∀ (scope : ScopeId) (body : Value), body.plain = true →
      SameEnd (define (performWith n) d (.expr scope body) w)
        (define (performWith m) d' (.expr scope body) w) := by
  have beside : w.Beside w d d' :=
    ⟨⟨rfl, rfl, rfl, rfl, rfl, rfl, rfl⟩, hw, hw, rfl, rfl, hd, hd', h⟩
  exact ⟨fun f hf hp args ha => callValue_sameEnd beside n m hf hp ha,
    fun scope body hb => evalIn_sameEnd beside n m scope hb⟩

/-! ## A call from two places -/

/-- An environment that knows nothing of a name answers what its caller answers. -/
theorem World.Answers.inherit (h : w.Answers name c o) (hs : (w.slotsAt e).named.find? name = none)
    (hc : (w.frameAt e).caller = some c) (hv : ∀ v, o = some v → v.isCallable = false)
    (hd : w.seek (w.frameAt e).scope (Scope.findVar? name) = none) : w.Answers name e o := by
  cases o with
  | some v => exact .asked hs hc h (hv v rfl)
  | none =>
    refine .unknown hs (fun c' hc' => ?_) hd
    rw [hc] at hc'
    cases hc'
    exact h

/-- The computation ends well, and the result and the world pass a test. -/
def Run.passes {α : Type} (test : α → World → Bool) (m : Run α) (w : World) : Bool :=
  match m w with
  | .ok a w' => test a w'
  | .error _ _ => false

theorem Run.passes_eq_true {α : Type} {t : α → World → Bool} {m : Run α} (h : m.passes t w = true) :
    ∃ a w', m w = .ok a w' ∧ t a w' = true := by
  unfold passes at h
  cases hm : m w with
  | ok a w' =>
    rw [hm] at h
    exact ⟨a, w', rfl, h⟩
  | error e w' =>
    rw [hm] at h
    cases h

/-- Is the entry a value that may be handed on as it is? -/
def Slot.isHandedOn : Slot → Bool
  | .known v => !v.isCallable
  | .busy => false

/-- Names that pass a test are known in the table of `c` only, which nobody called and which
called `e`. -/
def World.knownIn (test : String → Bool) (w : World) (c e : FrameId) : Bool :=
  w.scopes.all (fun s => s.vars.all fun d => !test d.1) &&
    (w.slotsAt e).named.all (fun s => !test s.1) &&
    (w.slotsAt c).named.all (fun s => s.2.isHandedOn) &&
    (w.frameAt c).caller.isNone && (w.frameAt e).caller == some c

theorem World.answers_of_knownIn {test : String → Bool} (h : w.knownIn test c e = true)
    (hn : test name = true) : ∃ o, w.Answers name c o ∧ w.Answers name e o := by
  simp only [World.knownIn, Bool.and_eq_true, all_eq_true_iff_forall_mem, List.all_eq_true,
    Option.isNone_iff_eq_none, beq_iff_eq] at h
  obtain ⟨⟨⟨⟨hscopes, hslots⟩, hknown⟩, htop⟩, hcaller⟩ := h
  have hseek : ∀ id, w.seek id (Scope.findVar? name) = none := by
    intro id
    have hone : ∀ i, Scope.findVar? name (w.scopes.getD i default) = none := by
      intro i
      rw [getD_eq_getD_getElem?]
      cases hs : w.scopes[i]? with
      | none => rfl
      | some s =>
        cases hv : Scope.findVar? name s with
        | none => exact hv
        | some d =>
          have := hscopes s (mem_of_getElem? hs) _ (Table.mem_of_find? hv)
          rw [hn] at this
          cases this
    have hsearch : ∀ ids, Scope.search w.scopes (Scope.findVar? name) ids = none := by
      intro ids
      induction ids with
      | nil => rfl
      | cons i ids ih =>
        unfold Scope.search
        rw [hone i]
        exact ih
    exact hsearch _
  have hnone : (w.slotsAt e).named.find? name = none := by
    cases hs : (w.slotsAt e).named.find? name with
    | none => rfl
    | some s =>
      have := hslots _ (Table.mem_of_find? hs)
      rw [hn] at this
      cases this
  cases hs : (w.slotsAt c).named.find? name with
  | none =>
    have hc : w.Answers name c none :=
      .unknown hs (fun c' hc' => by rw [htop] at hc'; cases hc') (hseek _)
    exact ⟨none, hc, hc.inherit hnone hcaller (fun v hv => by cases hv) (hseek _)⟩
  | some s =>
    have hh := hknown _ (Table.mem_of_find? hs)
    cases s with
    | busy => cases hh
    | known v =>
      have hc : w.Answers name c (some v) := .known hs
      refine ⟨some v, hc, hc.inherit hnone hcaller (fun u hu => ?_) (hseek _)⟩
      cases hu
      simpa [Slot.isHandedOn] using hh

def Callee.value? : Callee → Option Value
  | .value v => some v
  | _ => none

/-- A function of a program, in a world where its first module was called from the top with
a value for one parameter, after some variables were read. -/
def Environment.besideCall (text : String) (before : List String) (name : String) (v : Value)
    (f : String) : Run Value := do
  let env ← Environment.ofText text
  let _ ← before.mapM fun x => Eval.perform (.read env x)
  let inner ← newFrame 3 env
  setValue inner name v
  demand .malformed (← lookupFunction 2 f).value?

/-- The parameter of the module hides a variable of the same name, but not for the function. -/
theorem Eval.names_follow_text_hidden : ∃ f w,
    Environment.besideCall "a = 1; function f(x) = x + a + $t; module m(a) { cube(f(a)); }" [] "a"
      (.int 5) "f" {} = .ok f w ∧
    SameEnd (Eval.callValue Eval.perform 0 f ⟨[.int 7], []⟩ w)
      (Eval.callValue Eval.perform 1 f ⟨[.int 7], []⟩ w) := by
  obtain ⟨f, w, hrun, htest⟩ := Run.passes_eq_true (w := {})
    (m := Environment.besideCall "a = 1; function f(x) = x + a + $t; module m(a) { cube(f(a)); }"
      [] "a" (.int 5) "f")
    (t := fun f w => w.isIdle && w.frames.size == 2 && w.knownIn Eval.isDynamicName 0 1 &&
      f.isProgramFunction && f.plain) (by decide +kernel)
  simp only [Bool.and_eq_true, beq_iff_eq] at htest
  obtain ⟨⟨⟨⟨hidle, hsize⟩, hknown⟩, hf⟩, hp⟩ := htest
  refine ⟨f, w, hrun, (Eval.names_follow_text (World.idle_of_isIdle hidle) ?_ ?_
    (fun name hd _ => World.answers_of_knownIn hknown hd) _ _).1 f hf hp _ rfl⟩
  · rw [hsize]
    decide
  · rw [hsize]
    decide

def Run.result {α : Type} (m : Run α) (w : World) : Except Fault α :=
  match m w with
  | .ok a _ => .ok a
  | .error e _ => .error e

theorem Run.result_of_ok {α : Type} {m : Run α} {w' : World} {a : α} (h : m w = .ok a w') :
    m.result w = .ok a := by
  unfold result
  rw [h]

/-- The result is the value of an expression that can be tested: a number or a list. -/
def Run.gives (v : Value) (m : Run Value) (w : World) : Bool :=
  m.passes (fun u _ => match u, v with
    | .int a, .int b => a == b
    | .list a, .list b => a == b
    | _, _ => false) w

theorem Run.result_of_gives {v : Value} {m : Run Value} (h : m.gives v w = true) :
    m.result w = .ok v := by
  obtain ⟨u, w', hm, hu⟩ := passes_eq_true h
  rw [result_of_ok hm]
  cases u <;> cases v <;> first | cases hu | skip
  all_goals
    rw [beq_iff_eq] at hu
    rw [hu]

theorem Eval.result_of_answers (hw : w.Idle) (hd : isDynamicName name = true)
    (hn : name ≠ "$children") (h : w.Answers name e o) (he : e < w.frames.size) {depth : Nat}
    (hdepth : e < depth) : result (readVariable (performWith depth) e name) w =
      o.elim (.error (.unknownName name)) .ok := by
  have ha := readVariable_answers hw.rooted (Nat.le_refl _) hd hn h he depth
  unfold result
  generalize readVariable (performWith depth) e name w = res at ha ⊢
  cases ha with
  | deep hle _ => exact absurd hdepth (Nat.not_lt_of_le hle)
  | unknown => rfl
  | value _ _ => rfl

/-- Every name that begins with `$` is read alike from two places, but at one of them the
value of `$x` is still to be computed. That happens after the list has been extended. -/
theorem Eval.unsettled_name_matters : ∃ f w,
    Environment.besideCall
      "$l=[1]; $x=len($l+[9]); function f()=len($l+[7])+$x; module m($x){cube(f(),center=true);}"
      ["$l"] "$x" (.int 2) "f" {} = .ok f w ∧
    (∀ name, isDynamicName name = true →
      Run.result (readVariable perform 0 name) w = Run.result (readVariable perform 2 name) w) ∧
    Run.result (callValue perform 0 f ⟨[], []⟩) w = .ok (.int 5) ∧
    Run.result (callValue perform 2 f ⟨[], []⟩) w = .ok (.int 4) := by
  obtain ⟨f, w, hrun, htest⟩ := Run.passes_eq_true (w := {})
    (m := Environment.besideCall
      "$l=[1]; $x=len($l+[9]); function f()=len($l+[7])+$x; module m($x){cube(f(),center=true);}"
      ["$l"] "$x" (.int 2) "f")
    (t := fun f w => w.isIdle && w.frames.size == 3 &&
      w.knownIn (fun s => isDynamicName s && s != "$x" && s != "$l") 0 2 &&
      (readVariable perform 0 "$x").gives (.int 2) w &&
      (readVariable perform 2 "$x").gives (.int 2) w &&
      (readVariable perform 0 "$l").gives (.list 1) w &&
      (readVariable perform 2 "$l").gives (.list 1) w &&
      (readVariable perform 0 "$children").gives (.int 0) w &&
      (readVariable perform 2 "$children").gives (.int 0) w &&
      (callValue perform 0 f ⟨[], []⟩).gives (.int 5) w &&
      (callValue perform 2 f ⟨[], []⟩).gives (.int 4) w) (by decide +kernel)
  simp only [Bool.and_eq_true, beq_iff_eq] at htest
  obtain ⟨⟨⟨⟨⟨⟨⟨⟨⟨⟨hidle, hsize⟩, hknown⟩, hx⟩, hx'⟩, hl⟩, hl'⟩, hc⟩, hc'⟩, hf⟩, hf'⟩ := htest
  refine ⟨f, w, hrun, fun name hd => ?_, Run.result_of_gives hf, Run.result_of_gives hf'⟩
  by_cases hnx : name = "$x"
  · rw [hnx, Run.result_of_gives hx, Run.result_of_gives hx']
  by_cases hnl : name = "$l"
  · rw [hnl, Run.result_of_gives hl, Run.result_of_gives hl']
  by_cases hnc : name = "$children"
  · rw [hnc, Run.result_of_gives hc, Run.result_of_gives hc']
  have hother : (isDynamicName name && name != "$x" && name != "$l") = true := by
    simp [hd, hnx, hnl]
  obtain ⟨o, ho, ho'⟩ := World.answers_of_knownIn hknown hother
  have hw := World.idle_of_isIdle hidle
  unfold perform
  rw [Eval.result_of_answers hw hd hnc ho (by rw [hsize]; decide) (by decide),
    Eval.result_of_answers hw hd hnc ho' (by rw [hsize]; decide) (by decide)]

end Scad
