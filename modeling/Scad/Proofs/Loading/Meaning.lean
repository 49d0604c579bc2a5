import Scad.Proofs.Correspondence.Growth
import Scad.Proofs.Loading.Program

/-!
Reading a variable of a loaded program. Everything that is evaluated on the way is a tree
of an expression, so it has the shape that its evaluation expects: no fault says that a
node has the wrong number of children or is no expression at all, and of the rules only a
few have no meaning.

This is the correspondence of a run with itself, in which only trees of expressions may
be evaluated. Modules are never reached.
-/

namespace Scad

open BuiltinFunction Table Environment Scope

/-- Does a tree call an operation on the environment by its name? -/
def Tree.callsEnvironment (t : Tree) : Bool :=
  decide (ExprForm.ofRule? t.rule = some .call) && t.isNamedCall &&
    has t.applied EnvOperation.table

theorem Tree.IsTerm.leaf {r s : String} {p : Nat} (h : (Tree.leaf r s p).IsTerm) :
    ExprForm.ofRule? r ≠ none := by
  obtain ⟨rule, hr, h⟩ := h
  cases h with
  | token hb _ _ =>
    intro hn
    cases rule <;> first | (cases hr; done) | (cases hb; done) | (cases hb; cases hn)

/-- No expression calls a module or is a branch of a statement. -/
theorem Tree.IsTerm.form {t : Tree} (h : t.IsTerm) {form : ExprForm}
    (hf : ExprForm.ofRule? t.rule = some form) : form ≠ .modCall ∧ form ≠ .ifStatement := by
  obtain ⟨rule, hr, h⟩ := h
  have known : ∀ rule : Rule, rule.isTerm = true → ExprForm.ofRule? rule.name = some form →
      form ≠ .modCall ∧ form ≠ .ifStatement := by
    intro rule hr hf
    cases rule <;> first | (cases hr; done) | (cases hf; done) | (cases hf; decide)
  cases h with
  | rule _ _ _ => exact known rule hr hf
  | @token _ t hb s p =>
    cases t with
    | finish => cases hf
    | _ => exact known rule hr hf

/-- An expression whose evaluation can fail for its shape only if a rule has no meaning. -/
def meaningLink : Link where
  same k a b := k = .place ∧ a = 2 ∧ b = 2
  tree t := t.contains Tree.callsEnvironment = false
  rule _ := True
  word name := has name EnvOperation.table = false
  entry _ := True
  fit := Tree.IsTerm
  loose := False
  misfit e := ∃ r ∈ Rule.unimplemented, e = .noMeaning r

theorem meaningLink_not_handles {form : ExprForm} (hf : form = .modCall ∨ form = .ifStatement) :
    ¬ meaningLink.Handles form := by
  rintro (h | ⟨t, ht, h⟩)
  · exact h
  · have := Tree.IsTerm.form ht h
    rcases hf with rfl | rfl
    · exact this.1 rfl
    · exact this.2 rfl

/-- What the names of the program stand for, seen from its own scope. -/
structure SeenAlike (κ : Link) (xs ys : Array Scope) : Prop where
  vars : ∀ name, Option.Rel (VarDef.Alike κ) (seek xs 2 (findVar? name))
    (seek ys 2 (findVar? name))
  funcs : ∀ name, Option.Rel (Callee.Alike κ) (seek xs 2 (findFunction? name))
    (seek ys 2 (findFunction? name))
  operations : ∀ name op, seek xs 2 (findFunction? name) = some (.builtin (.env op)) →
    has name EnvOperation.table = true

def meaningGround : Ground where
  link := meaningLink
  holds κ l r := SeenAlike κ l.scopes r.scopes
  frames := 0
  tables := 0
  numbers := False
  opens := False
  leftStops := False
  rightStops := False

theorem meaningGround_lawful : meaningGround.Lawful where
  unique := fun a b a' b' h => by cases h.1
  place_of_scope h := by cases h.1
  work_of_scope h := by cases h.1
  opens_work h := h.elim
  opens_cycle h := h.elim
  tree_child h ht := Tree.child_contains_eq_false h ht
  opens_of_tree h := absurd h (meaningLink_not_handles (.inl rfl))
  opens_of_rule h := h.elim
  word_of_tree := by
    intro t h
    refine ⟨fun hf hn => ?_, fun hm => absurd hm (meaningLink_not_handles (.inl rfl))⟩
    have hq := Tree.eq_false_of_contains h
    change has t.applied EnvOperation.table = false
    simpa [Tree.callsEnvironment, hf, hn] using hq
  word_of_rule h := h.elim
  entry_of_plain _ := trivial
  misfit_of_loose h := h.elim
  misfit_of_fit := by
    intro t h hn
    cases t with
    | leaf r s p => exact absurd hn h.leaf
    | node r ts =>
      have hr := h.unimplemented hn
      have hne : r ≠ "" := by
        rintro rfl
        exact absurd hr (by decide)
      exact ⟨r, hr, if_neg hne⟩
  fit_allows h hf := (h.suits hf).allowed
  fit_part h hf he ht := (h.suits hf).parts _ _ he ht
  exactly h := h.elim
  spared {κ l r l' r'} h hl hr := by
    change SeenAlike κ l'.scopes r'.scopes
    rw [hl.scopes, hr.scopes]
    exact h
  sizes _ := ⟨⟨Nat.zero_le _, Nat.zero_le _⟩, Nat.zero_le _, Nat.zero_le _⟩
  up h := ⟨fun name => (h.vars name).imp fun _ _ => VarDef.Alike.up,
    fun name => (h.funcs name).imp fun _ _ => Callee.Alike.up, h.operations⟩
  fit_work _ h := by cases h.1
  kinds _ h := by cases h.1
  works _ h := by cases h.1
  branches _ h := absurd h (meaningLink_not_handles (.inr rfl))
  vars := by
    rintro κ xs ys a b h ⟨-, rfl, rfl⟩
    exact h.vars
  funcs := by
    rintro κ xs ys a b h ⟨-, rfl, rfl⟩
    exact h.funcs
  mods _ h := absurd h (meaningLink_not_handles (.inl rfl))
  cycles _ h := by cases h.1

/-! ## A loaded program -/

/-- What a loaded program has made, linked with itself. -/
def meaningPairs (w : World) : Pairs
  | .list, a, b => a = b ∧ a < w.lists.size
  | .node, a, b => a = b ∧ a < w.nodes.size
  | .ident, a, b => a = b ∧ a < w.fresh
  | .frame, a, b | .table, a, b => a = 0 ∧ b = 0
  | _, _, _ => False

section

variable {w : World} {κ : Link}

theorem aligned_self {n : Nat} : Aligned (fun a b => a = b ∧ a < n) n n := fun _ _ h =>
  .inl ⟨h.2, h.1 ▸ h.2⟩

theorem stored_self {α : Type} {A : α → α → Prop} {d : α} {xs : Array α} (h : ∀ x ∈ xs, A x x) :
    Stored False (fun a b => a = b ∧ a < xs.size) A d xs xs := by
  refine ⟨aligned_self, False.elim, ?_⟩
  rintro a _ ⟨rfl, ha⟩
  rw [Array.getD_eq_getD_getElem?, Array.getElem?_eq_getElem ha]
  exact h _ (Array.getElem_mem ha)

theorem oneToOne_self {p : Nat → Prop} : OneToOne fun a b => a = b ∧ p a := by
  rintro a b a' b' ⟨rfl, -⟩ ⟨rfl, -⟩
  exact Iff.rfl

theorem oneToOne_single {n m : Nat} : OneToOne fun a b => a = n ∧ b = m := by
  rintro a b a' b' ⟨rfl, rfl⟩ ⟨rfl, rfl⟩
  exact iff_of_true rfl rfl

theorem initialValues_alike : List.Forall₂ (SlotRel κ) initialValues initialValues := by
  repeat' constructor

theorem HeldNode.alike {v : Value} (h : HeldNode w v) :
    v.Alike (meaningLink.grow (meaningPairs w)) v := by
  cases h with
  | mk h => exact .node ⟨rfl, h⟩

theorem HeldCell.alike {c : NodeCell} (h : HeldCell w c) :
    c.Alike (meaningLink.grow (meaningPairs w)) c := by
  cases h with
  | leaf rule text pos => exact .leaf trivial text pos
  | inner rule h => exact .inner trivial (List.forall₂_same.2 fun v hv => (h v hv).alike)

theorem KnownParams.alike {p : Params Value} (h : KnownParams w p) :
    p.Alike (meaningLink.grow (meaningPairs w)) p := by
  cases h with
  | mk names h =>
    refine .named names (List.forall₂_same.2 fun e he => ?_)
    exact .mk e.1 (h e he).alike

theorem ProgramVar.alike {d : VarDef} (h : ProgramVar Tree.callsEnvironment d) :
    d.Alike (meaningLink.grow (meaningPairs w)) d := by
  have hplace : (meaningLink.grow (meaningPairs w)).same .place 2 2 := ⟨rfl, rfl, rfl⟩
  cases h with
  | mk h => exact .expr hplace (.code h.clean) (.tree h.term)

theorem ProgramFunc.alike {f : FuncDef} (h : ProgramFunc Tree.callsEnvironment w f) :
    ∃ v, f = .value v ∧ v ≠ .undef ∧ v.Alike (meaningLink.grow (meaningPairs w)) v := by
  have hplace : (meaningLink.grow (meaningPairs w)).same .place 2 2 := ⟨rfl, rfl, rfl⟩
  cases h with
  | @mk i hi name p hp x hx =>
    have hident : (meaningLink.grow (meaningPairs w)).same .ident i i := ⟨rfl, hi⟩
    refine ⟨_, rfl, Value.noConfusion, ?_⟩
    exact .function hident hplace name hp.alike (.code hx.clean) (.tree hx.term)

theorem Table.find?_map {α β : Type} (f : α → β) (name : String) (t : Table α) :
    find? name (t.map fun e => (e.1, f e.2)) = (find? name t).map f := by
  induction t with
  | nil => rfl
  | cons e rest ih =>
    simp only [List.map_cons, find?]
    split
    · rfl
    · exact ih

theorem findFunction?_builtins (name : String) : findFunction? name builtins =
      (find? name table).map .builtin := by
  have hfind : builtins.funcs.find? name =
      (find? name table).map .builtin :=
    find?_map FuncDef.builtin name table
  unfold findFunction?
  rw [hfind]
  cases find? name table <;> rfl

def BuiltinFunction.isOperation : BuiltinFunction → Bool
  | env _ => true
  | _ => false

theorem has_of_builtin {name : String} {op : EnvOperation} (h : find? name table = some (.env op)) :
    has name EnvOperation.table = true := by
  have hall : table.all
      (fun e => !e.2.isOperation || has e.1 EnvOperation.table) = true := by decide
  exact List.all_eq_true.1 hall _ (mem_of_find? h)

variable (h : Loading Tree.callsEnvironment w)

include h

theorem Loading.seek {α : Type} (ask : Scope → Option α) :
    seek w.scopes 2 ask = ((ask (w.scopes.getD 2 default)).or
      (ask (w.scopes.getD 1 default))).or (ask builtins) := by
  unfold Scope.seek
  rw [h.scopes.parents]
  simp only [search, h.scopes.builtins]
  cases ask (w.scopes.getD 2 default) <;> cases ask (w.scopes.getD 1 default) <;>
    cases ask builtins <;> rfl

theorem Loading.seek_var (name : String) : Scope.seek w.scopes 2 (Scope.findVar? name) =
    (w.scopes.getD 1 default).vars.find? name := by
  rw [h.seek]
  simp only [findVar?, h.scopes.own.1]
  cases (w.scopes.getD 1 default).vars.find? name <;> rfl

theorem Loading.seek_function (name : String) : Scope.seek w.scopes 2 (Scope.findFunction? name) =
      (findFunction? name (w.scopes.getD 1 default)).or ((find? name table).map .builtin) := by
  have hown : findFunction? name (w.scopes.getD 2 default) = none := by
    unfold findFunction?
    rw [h.scopes.own.1, h.scopes.own.2]
    rfl
  rw [h.seek, hown, findFunction?_builtins]
  rfl

/-- What the program declares under a function's name is its own. -/
theorem Loading.declared_function (name : String) :
    Option.Rel (Callee.Alike (meaningLink.grow (meaningPairs w)))
      (findFunction? name (w.scopes.getD 1 default))
      (findFunction? name (w.scopes.getD 1 default)) ∧
    ∀ f, findFunction? name (w.scopes.getD 1 default) ≠ some (.builtin f) := by
  unfold findFunction?
  cases hf : (w.scopes.getD 1 default).funcs.find? name with
  | some f =>
    obtain ⟨v, rfl, hne, hv⟩ := (h.scopes.funcs name f hf).alike
    cases v with
    | undef => exact absurd rfl hne
    | _ => exact ⟨.some (.value hv), fun f hf => by cases hf⟩
  | none =>
    cases hd : (w.scopes.getD 1 default).vars.find? name with
    | none => exact ⟨.none, fun f hf => by cases hf⟩
    | some d =>
      have hd := h.scopes.vars name d hd
      have ha : d.Alike (meaningLink.grow (meaningPairs w)) d := hd.alike
      cases hd with
      | mk hx =>
        cases ha with
        | expr hs hb hfit => exact ⟨.some (.deferred hs hb hfit), fun f hf => by cases hf⟩

theorem Loading.seen : SeenAlike (meaningLink.grow (meaningPairs w)) w.scopes w.scopes where
  vars name := by
    rw [h.seek_var]
    cases hd : (w.scopes.getD 1 default).vars.find? name with
    | none => exact .none
    | some d => exact .some (h.scopes.vars name d hd).alike
  funcs name := by
    rw [h.seek_function]
    have hdecl := (h.declared_function name).1
    cases hc : findFunction? name (w.scopes.getD 1 default) with
    | some c =>
      rw [hc] at hdecl
      exact hdecl
    | none =>
      cases find? name table with
      | none => exact .none
      | some f => exact .some (.builtin f)
  operations name op hop := by
    rw [h.seek_function] at hop
    cases hc : findFunction? name (w.scopes.getD 1 default) with
    | some c =>
      rw [hc] at hop
      cases hop
      exact absurd hc ((h.declared_function name).2 _)
    | none =>
      rw [hc] at hop
      cases hf : find? name table with
      | none =>
        rw [hf] at hop
        cases hop
      | some f =>
        rw [hf] at hop
        cases hop
        exact has_of_builtin hf

theorem Loading.agrees : meaningGround.Agrees (meaningPairs w)
    (meaningLink.grow (meaningPairs w)) w w where
  unique := ⟨oneToOne_self, oneToOne_self, oneToOne_self, fun _ _ _ _ h => h.elim, oneToOne_single,
    oneToOne_single⟩
  lists := by
    refine stored_self fun vs hvs => List.forall₂_same.2 fun v hv => ?_
    obtain ⟨s, rfl⟩ := h.lists vs hvs v hv
    exact .str s
  nodes := stored_self fun c hc => (h.nodes c hc).alike
  streams := ⟨fun _ _ h => h.elim, False.elim, fun _ _ h => h.elim⟩
  numbered := False.elim
  newFrames _ _ _ := ⟨Nat.zero_le _, Nat.zero_le _⟩
  newTables _ _ _ := ⟨Nat.zero_le _, Nat.zero_le _⟩
  frames := by
    rintro a b ⟨rfl, rfl⟩
    rw [h.frames]
    refine ⟨_, _, rfl, rfl, ?_⟩
    exact
      { toAlike := Frame.alike_new ⟨rfl, rfl, rfl⟩ .none
        caller := .none
        table := ⟨rfl, rfl⟩ }
  tables := by
    rintro a b ⟨rfl, rfl⟩
    rw [h.tables]
    exact ⟨_, _, rfl, rfl, initialValues_alike, .nil⟩
  idents := ⟨aligned_self, False.elim⟩
  builders := fun _ _ h => h.elim
  loops := fun _ _ h => h.elim
  opened h := h.elim
  current := by
    rw [h.current]
    exact .none
  tracer := ⟨h.tracer, h.tracer⟩
  said := ⟨rfl, rfl⟩
  ground := h.seen

end

/-! ## Loading and reading -/

theorem loading_opened (q : Tree → Bool) : Loading q (opened {}) where
  scopes :=
    { size := Nat.le_refl 3
      builtins := rfl
      vars := fun _ _ h => by cases h
      funcs := fun _ _ h => by cases h
      kind := rfl
      parents := rfl
      own := ⟨rfl, rfl⟩
      inner := fun id hid => by
        rw [Array.getD_eq_getD_getElem?, Array.getElem?_eq_none hid]
        exact fun h => by cases h }
  lists := fun _ h => absurd h (Array.not_mem_empty _)
  nodes := fun _ h => absurd h (Array.not_mem_empty _)
  frames := rfl
  tables := rfl
  streams := rfl
  current := rfl
  tracer := rfl

namespace Environment

def ofText (text : String) : Run FrameId := do
  let env ← create
  load env text
  return env

theorem ofText_loading {q : Tree → Bool} {text : String} {t : Tree} (hp : parse text = .ok t)
    (hq : t.contains q = false) {env : FrameId} {w : World} (h : ofText text {} = .ok env w) :
    env = 0 ∧ Loading q w := by
  rw [ofText, Run.bind_of_ok (create_eq {})] at h
  obtain ⟨_, w2, hload, h⟩ := Run.bind_ok h
  cases h
  have hscope (w : World) (hw : Loading q w) :
      Loading.IsInner (w.frames.getD 0 default).scope := by
    rw [hw.frames]
    exact .inl rfl
  rcases load_lands hp (Loading.upkeep q) hscope hq _ (.refl _) (loading_opened q) with
    ⟨_, _, hw, -, hl, -⟩ | ⟨_, _, hw, -⟩
  · cases hw.symm.trans hload
    exact ⟨rfl, hl⟩
  · cases hw.symm.trans hload

end Environment

/-- Only expressions are evaluated, and none of them is an operation on the environment. -/
theorem meaning_watches :
    meaningGround.correspondence.Watches (fun _ _ => true) (fun _ _ => true) where
  left _ _ h := by cases h
  right _ _ _ h := by cases h
  serves := by
    rintro κ l r t u ⟨D, rfl, hw⟩ ht - -
    cases ht with
    | @apply e f hef name hn a b ha =>
      intro g hg
      obtain ⟨-, hscope, -⟩ := (hw.frames.getD hef default).place
      cases g with
      | env op =>
        change seek l.scopes (l.frames.getD e default).scope (findFunction? name) = _
          at hg
        rw [hscope] at hg
        have hno : has name EnvOperation.table = false := hn
        rw [hw.ground.operations name op hg] at hno
        cases hno
      | _ => trivial
    | instantiate h hm => exact absurd hm (meaningLink_not_handles (.inl rfl))
    | _ => trivial

theorem meaning_performs (depth : Nat) : meaningGround.correspondence.Performs
    (Eval.performWith depth) (Eval.performWith depth) := by
  rw [← Eval.watched_true]
  exact meaningGround_lawful.correspondence.performs_watched meaning_watches
    (fun _ _ _ => Ground.reads fun _ _ h => by cases h.1) depth depth (fun h =>
      absurd h (Nat.lt_irrefl _))
    fun h => absurd h (Nat.lt_irrefl _)

/-- Reading a variable of a program that calls no operation on its environment: every node
that is evaluated has the shape that its evaluation expects, and only five rules of
expressions have no meaning. -/
theorem Environment.read_has_meaning {text name : String} {t : Tree} (hp : parse text = .ok t)
    (hq : t.contains Tree.callsEnvironment = false) {env : FrameId} {w w' : World}
    (hload : Environment.ofText text {} = .ok env w) {e : Fault}
    (hread : Eval.perform (.read env name) w = .error e w') :
    e.faultClass ≠ .arity ∧ e ≠ .bareTerminal ∧ ∀ rule, e = .noMeaning rule →
      rule ∈ ["expr_let", "expr_echo", "add_member", "list_comprehension_elements_p",
        "parameters"] := by
  obtain ⟨rfl, hw⟩ := ofText_loading hp hq hload
  have hframe : (meaningLink.grow (meaningPairs w)).same .frame 0 0 := ⟨rfl, rfl⟩
  have ho := meaning_performs Eval.depthLimit (.read hframe name) w w hw.agrees.agree
  change meaningGround.correspondence.Outcome _ _ _ (Eval.perform (.read 0 name) w)
    (Eval.perform (.read 0 name) w) at ho
  rw [hread] at ho
  cases ho with
  | left h => exact h.elim
  | right h => exact h.elim
  | @error κ' _ _ _ _ hw' _ _ he =>
    obtain ⟨D, rfl, -⟩ := hw'
    cases he with
    | plain he =>
      refine ⟨?_, ?_, ?_⟩
      · cases e <;> first | (cases he; done) | exact fun h => by cases h
      · rintro rfl
        cases he
      · rintro rule rfl
        cases he
    | misfit he =>
      obtain ⟨rule, hr, rfl⟩ := he
      refine ⟨fun h => ?_, fun h => ?_, fun rule' h => ?_⟩ <;> cases h
      exact hr
    | failed _ => refine ⟨fun h => ?_, fun h => ?_, fun rule' h => ?_⟩ <;> cases h

/-- A variable that is read through another one and a function, down to a node without a
meaning. -/
theorem Environment.read_has_meaning_let : ∃ t env w e w',
    parse "x = f(1); function f(a) = y + a; y = let(b = 1) b;" = .ok t ∧
      t.contains Tree.callsEnvironment = false ∧
      Environment.ofText "x = f(1); function f(a) = y + a; y = let(b = 1) b;" {} = .ok env w ∧
      Eval.perform (.read env "x") w = .error e w' ∧ e.faultClass ≠ .arity ∧ e ≠ .bareTerminal ∧
      ∀ rule, e = .noMeaning rule → rule ∈ ["expr_let", "expr_echo", "add_member",
        "list_comprehension_elements_p", "parameters"] := by
  have hparse : (parse "x = f(1); function f(a) = y + a; y = let(b = 1) b;").toOption.any
      (fun t => !t.contains Tree.callsEnvironment) = true := by decide +kernel
  obtain ⟨env, w, hload⟩ := Run.succeeds_eq_true (w := {})
    (m := Environment.ofText "x = f(1); function f(a) = y + a; y = let(b = 1) b;")
    (by decide +kernel)
  obtain ⟨e, w', hread, -⟩ := Run.failsWith_eq_true (c := .runtime) (w := {})
    (m := do
      let env ← Environment.ofText "x = f(1); function f(a) = y + a; y = let(b = 1) b;"
      Eval.perform (.read env "x")) (by decide +kernel)
  rw [Run.bind_of_ok hload] at hread
  cases ht : parse "x = f(1); function f(a) = y + a; y = let(b = 1) b;" with
  | error e =>
    rw [ht] at hparse
    cases hparse
  | ok t =>
    rw [ht] at hparse
    have hq : t.contains Tree.callsEnvironment = false := by
      simpa [Except.toOption] using hparse
    exact ⟨t, env, w, e, w', rfl, hq, hload, hread,
      Environment.read_has_meaning ht hq hload hread⟩

end Scad
