import Scad.Proofs.Loading.Load
import Scad.Proofs.Loading.Renumbering

/-!
A list of statements that is declared in one scope. Each statement only changes the scope that
takes up what it declares, and scopes of its own. The first declaration of a name stays, and
what is to be built is kept in order. A block passes over a function or a module that it has,
while a program finds out when the name is entered.
-/

namespace Scad

open Run List
open Environment hiding addVar

abbrev Entry := String × Holding

namespace Entry

def part (e : Entry) : Part := e.2.part e.1

def first (p : Part) (es : List Entry) : Option Holding :=
  (es.find? fun e => e.part = p).map Prod.snd

theorem first_cons (p : Part) (e : Entry) (es : List Entry) :
    first p (e :: es) = if e.part = p then some e.2 else first p es := by
  by_cases h : e.part = p <;> simp [first, h]

theorem first_append (p : Part) (es : List Entry) (e : Entry) :
    first p (es ++ [e]) = (first p es).or (if e.part = p then some e.2 else none) := by
  induction es with
  | nil => exact first_cons p e []
  | cons e' es ih =>
    rw [cons_append, first_cons, first_cons, ih]
    split <;> rfl

end Entry

namespace Part

def isName : Part → Bool
  | .var _ | .func _ | .mod _ => true
  | .work | .branch => false

def isDefinition : Part → Bool
  | .func _ | .mod _ => true
  | .var _ | .work | .branch => false

/-- The warning that a name is entered twice. -/
def duplicate : Part → String
  | .var name => "Dup assignment of variable " ++ Quoted.write name
  | .func name => "Dup assignment of function " ++ Quoted.write name
  | .mod name => "Dup assignment of module " ++ Quoted.write name
  | .work | .branch => ""

/-- The notice that a definition is passed over. -/
def redefined : Part → String
  | .func name | .mod name => "Redefined: " ++ name
  | .var _ | .work | .branch => ""

end Part

theorem Scope.holding?_hold_self {name : String} {x : Holding} (h : (x.part name).isName = true)
    (s : Scope) : (hold name x s).holding? (x.part name) = some x := by
  cases x with
  | var d => exact congrArg (Option.map Holding.var) (Table.find?_put_self ..)
  | func f => exact congrArg (Option.map Holding.func) (Table.find?_put_self ..)
  | mod m => exact congrArg (Option.map Holding.mod) (Table.find?_put_self ..)
  | work | branch => cases h

theorem Scope.hold_work {name : String} {x : Holding} (h : (x.part name).isName = true)
    (s : Scope) : (hold name x s).work = s.work := by
  cases x <;> first | rfl | cases h

/-- The part of its scope that a statement is about. -/
def Tree.subject? : Tree → Option Part
  | .node _ [.node rule ts] => (DeclForm.ofRule? rule).bind fun form => (form.parts ts).head?
  | _ => none

/-! ## Scopes that are left alone -/

namespace World

/-- The scopes of a world are there as they were, and those after them are inner ones. -/
structure Untouched (w w' : World) : Prop where
  size : w.scopes.size ≤ w'.scopes.size
  scopes : ∀ a < w.scopes.size, w'.scopeAt a = w.scopeAt a
  inner : ∀ a, w.scopes.size ≤ a → (w'.scopeAt a).kind ≠ .main
  frames : w'.frames = w.frames

/-- Nothing has been said. -/
def Hushed (w w' : World) : Prop := w'.warnings = w.warnings ∧ w'.notices = w.notices

/-- A scope has one thing more to build. -/
def built (w : World) (a : ScopeId) (v : Value) : World :=
  { w with scopes := w.scopes.modify a fun s => { s with work := s.work ++ [v] } }

variable {w w1 w2 : World}

theorem scopeAt_built (w : World) (a b : ScopeId) (v : Value) : (w.built a v).scopeAt b =
    if a = b ∧ b < w.scopes.size then { w.scopeAt b with work := (w.scopeAt b).work ++ [v] }
    else w.scopeAt b :=
  getD_modify w.scopes a b _ default

theorem holding?_taken {a : ScopeId} {e : Entry} (ha : a < w.scopes.size)
    (he : e.part.isName = true) (b : ScopeId) (p : Part) :
    ((w.taken a e.1 e.2).scopeAt b).holding? p =
      if a = b ∧ e.part = p then some e.2 else (w.scopeAt b).holding? p := by
  rw [scopeAt_taken]
  by_cases hab : a = b
  · subst hab
    rw [if_pos ⟨rfl, ha⟩]
    by_cases hp : e.part = p
    · rw [if_pos ⟨rfl, hp⟩, ← hp]
      exact Scope.holding?_hold_self he _
    · rw [if_neg fun h => hp h.2]
      exact Scope.holding?_hold_ne (Ne.symm hp) _
  · rw [if_neg fun h => hab h.1, if_neg fun h => hab h.1]

theorem holding?_built {p : Part} (hp : p ≠ .work) (a b : ScopeId) (v : Value) :
    ((w.built a v).scopeAt b).holding? p = (w.scopeAt b).holding? p := by
  rw [scopeAt_built]
  split
  · cases p <;> first | rfl | exact absurd rfl hp
  · rfl

theorem Untouched.refl (w : World) : w.Untouched w where
  size := Nat.le_refl _
  scopes _ _ := rfl
  inner a ha := by
    rw [scopeAt, Array.getD_eq_getD_getElem?, Array.getElem?_eq_none ha]
    exact fun h => by cases h
  frames := rfl

theorem Untouched.of_eq (h : w.Untouched w1) (hs : w2.scopes = w1.scopes)
    (hf : w2.frames = w1.frames) : w.Untouched w2 := by
  have hat (a : ScopeId) : w2.scopeAt a = w1.scopeAt a := by rw [scopeAt, hs, scopeAt]
  exact ⟨hs ▸ h.size, fun a ha => (hat a).trans (h.scopes a ha),
    fun a ha => (hat a).symm ▸ h.inner a ha, hf.trans h.frames⟩

theorem Untouched.push (h : w.Untouched w1) {s : Scope} (hs : s.kind ≠ .main) :
    w.Untouched { w1 with scopes := w1.scopes.push s } where
  size := by
    rw [Array.size_push]
    exact Nat.le_succ_of_le h.size
  scopes a ha := (getD_push (Nat.lt_of_lt_of_le ha h.size) s default).trans (h.scopes a ha)
  inner a ha := by
    have hi := h.inner a ha
    rw [scopeAt, Array.getD_eq_getD_getElem?] at hi ⊢
    rw [Array.getElem?_push]
    split
    · exact hs
    · exact hi
  frames := h.frames

theorem Untouched.modify (h : w.Untouched w1) {a : ScopeId} {f : Scope → Scope}
    (ha : w.scopes.size ≤ a) (hf : ∀ s, (f s).kind = s.kind) :
    w.Untouched { w1 with scopes := w1.scopes.modify a f } where
  size := by
    rw [Array.size_modify]
    exact h.size
  scopes b hb := by
    have hne : ¬(a = b ∧ b < w1.scopes.size) := fun hab => Nat.not_lt.2 ha (hab.1 ▸ hb)
    rw [scopeAt, getD_modify, if_neg hne]
    exact h.scopes b hb
  inner b hb := by
    rw [scopeAt, getD_modify]
    split
    · exact fun hk => h.inner b hb ((hf _).symm.trans hk)
    · exact h.inner b hb
  frames := h.frames

theorem Untouched.upkeep (w : World) : Upkeep w.Untouched (w.scopes.size ≤ ·) fun _ => True :=
  .of_scopes (fun h => h.of_eq) (fun h hs => ⟨h.push hs, h.size⟩) (fun h => h.modify)
    fun h hid => (Scope.target_of_ne (h.inner _ hid) _).symm ▸ hid

theorem Untouched.keeps (w : World) :
    Keeps (fun w' => w.Untouched w' ∧ w.Hushed w') fun _ => True :=
  .of_cells fun h => ⟨h.1.of_eq rfl rfl, h.2⟩

end World

/-! ## One statement -/

namespace Declare

open Run (Lands Ends)

/-- Declare a statement in a scope, and tell what it declares. -/
def logForm (pass : Pass) (scope : ScopeId) (n : Tree) : DeclForm → Run (List Entry)
  | .assignment => do
    let name := (← lift (n.child 0)).value
    let body := Value.code (← lift (n.child 2))
    addVar scope name body
    return [(name, .var (.expr scope body))]
  | .stmtDeclFn => do
    lift (n.checkArity 7 8)
    let name := (← lift (n.child 1)).value
    if (← Run.scope scope).funcs.has name then
      notice ("Redefined: " ++ name)
      return []
    let params ←
      if (← lift n.size) = 8 then Params.ofValue (← pass scope (← lift (n.child 3)))
      else pure (.named [] [])
    let body ← lift (n.childFromEnd 2)
    let f := FuncDef.value (.function (← newIdent) scope name params (.code body))
    addFunc scope name f
    return [(name, .func f)]
  | .stmtDeclMod => do
    lift (n.checkArity 5 6)
    let name := (← lift (n.child 1)).value
    if (← Run.scope scope).mods.has name then
      notice ("Redefined: " ++ name)
      return []
    let params ←
      if (← lift n.size) = 6 then Params.ofValue (← pass scope (← lift (n.child 3)))
      else pure (.named [] [])
    let m := ModDef.module name params (← moduleBody pass scope (← lift (n.childFromEnd 1)))
    addMod scope name m
    return [(name, .mod m)]
  | form => do
    let _ ← declareForm pass scope n form
    return []

def logged : (fuel : Nat) → ScopeId → Tree → Run (List Entry)
  | 0, _, _ => throw .tooDeep
  | fuel + 1, scope, t => do
    let formed ← lift (t.unwrap DeclForm.ofRule? DeclForm.transparent)
    logForm (declareWith fuel) scope formed.2 formed.1

/-- What statements declare in turn, up to one that is refused. -/
def entries (fuel : Nat) (scope : ScopeId) : List Tree → World → List Entry
  | [], _ => []
  | t :: ts, w =>
    match logged fuel scope t w with
    | .ok es w' => es ++ entries fuel scope ts w'
    | .error _ _ => []

theorem declareForm_bind {α : Type} (pass : Pass) (scope : ScopeId) (n : Tree) (form : DeclForm)
    (m : Run α) : (declareForm pass scope n form >>= fun _ => m) =
      logForm pass scope n form >>= fun _ => m := by
  cases form with
  | stmtDeclFn | stmtDeclMod =>
    simp only [declareForm, declareFunction, declareModule, logForm, bind_assoc]
    refine congrArg _ (funext fun _ => congrArg _ (funext fun t => congrArg _ (funext fun s => ?_)))
    split
    · rfl
    · simp only [bind_assoc]
      refine congrArg _ (funext fun size => ?_)
      split <;> simp only [bind_assoc, pure_bind]
  | _ => simp only [declareForm, logForm, bind_assoc, pure_bind]

theorem each_cons (fuel : Nat) (scope : ScopeId) (t : Tree) (ts : List Tree) :
    each (declareWith fuel) scope (t :: ts) =
      logged fuel scope t >>= fun _ => each (declareWith fuel) scope ts := by
  cases fuel with
  | zero => rfl
  | succ fuel =>
    rw [each, declareWith_succ, body, logged, bind_assoc, bind_assoc]
    exact congrArg _ (funext fun formed => declareForm_bind ..)

/-- The entry that a statement can lead to. -/
inductive Declares (scope : ScopeId) : Tree → Entry → Prop
  | var (name e body c : Tree) :
      Declares scope (.node "statement" [.node "assignment" [name, e, body, c]])
        (name.value, .var (.expr scope (.code body)))
  | func (kw name o : Tree) (ps : List Tree) (c e body d : Tree) (i : Nat) (params : Params Value) :
      Declares scope
        (.node "statement" [.node "stmt_decl_fn" (kw :: name :: o :: (ps ++ [c, e, body, d]))])
        (name.value, .func (.value (.function i scope name.value params (.code body))))
  | mod (kw name o : Tree) (ps : List Tree) (c body : Tree) (params : Params Value)
      (inner : ScopeId) :
      Declares scope
        (.node "statement" [.node "stmt_decl_mod" (kw :: name :: o :: (ps ++ [c, body]))])
        (name.value, .mod (.module name.value params inner))

theorem Declares.subject {scope : ScopeId} {t : Tree} {e : Entry} (h : Declares scope t e) :
    t.subject? = some e.part ∧ e.part.isName = true := by
  cases h <;> exact ⟨rfl, rfl⟩

/-- How declaring a statement can end, by what its scope has. -/
inductive Logged (pass : Pass) (scope : ScopeId) (t : Tree) (w : World) :
    EStateM.Result Fault World (List Entry) → Prop
  | refused {e : Fault} {w' : World} (hw : w.Untouched w') : Logged pass scope t w (.error e w')
  | object {y : Tree} {v : Value} {w1 : World}
      (ht : t = .node "statement" [.node "stmt_obj" [y]]) (hy : pass scope y w = .ok v w1)
      (hw : w.Untouched w1) : Logged pass scope t w (.ok [] (w1.built scope v))
  | known {p : Part} (ht : t.subject? = some p) (hd : p.isDefinition = true)
      (hhas : (w.scopeAt scope).has p = true) :
      Logged pass scope t w (.ok [] { w with notices := w.notices.push p.redefined })
  | declared {e : Entry} {w1 w2 : World} (hd : Declares scope t e)
      (hhas : e.part.isDefinition = true → (w.scopeAt scope).has e.part = false)
      (hw : w.Untouched w1) (hq : (∀ m, e.2 ≠ .mod m) → w.Hushed w1)
      (ha : add scope e.1 e.part.duplicate e.2 w1 = .ok () w2) :
      Logged pass scope t w (.ok [e] w2)

section

variable {α : Type} {pass : Pass} {scope : ScopeId} {t : Tree} {w w1 : World} {fuel : Nat}

namespace Logged

theorem lift_bind (hw : w.Untouched w1) {x : Except Fault α} {f : α → Run (List Entry)}
    (h : ∀ a, x = .ok a → Logged pass scope t w (f a w1)) :
    Logged pass scope t w ((lift x >>= f) w1) := by
  cases x with
  | ok a => exact h a rfl
  | error e => exact .refused hw

theorem bind {I : World → Prop} (hI : ∀ w', I w' → w.Untouched w') (hw : I w1) {m : Run α}
    {P : World → α → Prop} {f : α → Run (List Entry)}
    (hm : Lands I w1 (fun _ => True) P m) (hf : ∀ a w2, I w2 → Logged pass scope t w (f a w2)) :
    Logged pass scope t w ((m >>= f) w1) := by
  rcases hm w1 (.refl w1) hw with ⟨a, w2, ha, -, hw2, -⟩ | ⟨e, w2, he, hw2, -⟩
  · rw [bind_of_ok ha]
    exact hf a w2 hw2
  · rw [bind_of_error he]
    exact .refused (hI w2 hw2)

theorem add {e : Entry} (hd : Declares scope t e)
    (hhas : e.part.isDefinition = true → (w.scopeAt scope).has e.part = false)
    (hw : w.Untouched w1) (hq : (∀ m, e.2 ≠ .mod m) → w.Hushed w1) {m : Run Unit}
    (hm : m = add scope e.1 e.part.duplicate e.2) :
    Logged pass scope t w ((do m; return [e]) w1) := by
  subst hm
  have hadd : ∃ w2, Run.add scope e.1 e.part.duplicate e.2 w1 = .ok () w2 := by
    rw [World.add_eq]
    split <;> exact ⟨_, rfl⟩
  obtain ⟨w2, ha⟩ := hadd
  rw [bind_of_ok ha]
  exact .declared hd hhas hw hq ha

theorem definition {p : Part} (ht : t.subject? = some p) (hd : p.isDefinition = true) {has : Bool}
    (hhas : (w.scopeAt scope).has p = has) {f : Run (List Entry)}
    (h : (w.scopeAt scope).has p = false → Logged pass scope t w (f w)) : Logged pass scope t w
      ((if has = true then (do notice p.redefined; return []) else f) w) := by
  cases has with
  | true => exact .known ht hd hhas
  | false => exact h hhas

/-- Parameters are read, and nothing is said. -/
theorem params {c : Prop} [Decidable c] {n : Tree} {f : Params Value → Run (List Entry)}
    (hn : c → ∀ q, n.child 3 = .ok q → q.Is .parameters)
    (hf : ∀ ps w1, w.Untouched w1 → w.Hushed w1 → Logged pass scope t w (f ps w1)) :
    Logged pass scope t w ((if c then lift (n.child 3) >>= fun q =>
      declareWith fuel scope q >>= fun v => Params.ofValue v >>= f else f (.named [] [])) w) := by
  have hbegin : w.Untouched w ∧ w.Hushed w := ⟨.refl w, rfl, rfl⟩
  split
  · next hc =>
    refine .lift_bind (.refl w) fun q hq => ?_
    refine .bind (fun _ h => h.1) hbegin ((declareWith_reads (World.Untouched.keeps w) _ fuel).lists
      ⟨.inl trivial, trivial, fun _ _ => trivial⟩ (.parameters (hn hc q hq))) fun v w1 h => ?_
    have hv : ∃ ps, Params.ofValue v w1 = .ok ps w1 := by
      unfold Params.ofValue
      split <;> exact ⟨_, rfl⟩
    obtain ⟨ps, hps⟩ := hv
    rw [bind_of_ok hps]
    exact hf ps w1 h.1 h.2
  · exact hf _ w (.refl w) hbegin.2

end Logged

variable {x : Tree}

theorem assignment_logged (h : x.Is .assignment) :
    Logged pass scope (.node "statement" [x]) w (logForm pass scope x .assignment w) := by
  obtain ⟨name, e, body, c, rfl, -⟩ := h.assignment
  exact .add (e := (name.value, .var _)) (.var ..) (fun h => by cases h) (.refl w)
    (fun _ => ⟨rfl, rfl⟩) (addVar_eq ..)

theorem object_logged (h : x.Is .stmtObj) : Logged (declareWith fuel) scope
    (.node "statement" [x]) w
    (logForm (declareWith fuel) scope x .stmtObj w) := by
  obtain ⟨y, rfl, hy⟩ := h.stmtObj
  have serves := declareWith_serves (World.Untouched.upkeep w) (fun _ => True) fuel
  have hpass {w1 : World} :=
    @serves.builds w1 scope _ ⟨.inl trivial, trivial, fun _ _ => trivial⟩ hy
  change Logged _ _ _ w ((declareForm _ scope _ .stmtObj >>= fun _ => pure []) w)
  rw [declareForm, bind_assoc]
  refine .lift_bind (.refl w) fun _ _ => ?_
  rw [bind_assoc]
  refine .lift_bind (.refl w) fun _ ht => ?_
  cases ht
  rw [bind_assoc]
  rcases hpass w (.refl w) (.refl w) with ⟨v, w1, hv, -, hw1, -⟩ | ⟨e, w1, he, hw1, -⟩
  · rw [bind_of_ok hv]
    by_cases hundef : v = .undef
    · subst hundef
      rw [bind_assoc]
      exact .bind (fun _ h => h) hw1 hpass fun _ _ hw2 => .refused hw2
    · have hwork : Logged (declareWith fuel) scope (.node "statement" [.node "stmt_obj" [y]]) w
          ((addWork scope v >>= fun _ => pure []) w1) := .object rfl hv hw1
      cases v <;> first | exact hwork | exact absurd rfl hundef
  · rw [bind_of_error he]
    exact .refused hw1

theorem function_logged (h : x.Is .stmtDeclFn) : Logged pass scope (.node "statement" [x]) w
    (logForm (declareWith fuel) scope x .stmtDeclFn w) := by
  obtain ⟨kw, name, o, ps, c, e, body, d, rfl, hps, -⟩ := h.stmtDeclFn
  refine .lift_bind (.refl w) fun _ _ => .lift_bind (.refl w) fun _ hname => ?_
  cases hname
  refine .definition (p := .func name.value) rfl rfl (Scope.has_func ..) fun hnew => ?_
  refine .lift_bind (.refl w) fun size hsize =>
    .params (fun hc q hq => ?_) fun params w1 hw hq => ?_
  · rcases hps with rfl | ⟨q, rfl, hps⟩
    · cases hc ▸ hsize
    · cases hq
      exact hps
  · refine .lift_bind hw fun body' hbody => ?_
    have hbody : body' = body := by
      rcases hps with rfl | ⟨q, rfl, -⟩ <;> cases hbody <;> rfl
    subst hbody
    refine .bind (fun _ h => h.1) ⟨hw, hq⟩ (World.Untouched.keeps w).newIdent fun i w2 h => ?_
    exact .add (e := (name.value, .func _)) (.func ..) (fun _ => hnew) h.1 (fun _ => h.2)
      (addFunc_eq ..)

theorem module_logged (h : x.Is .stmtDeclMod) : Logged pass scope (.node "statement" [x]) w
    (logForm (declareWith fuel) scope x .stmtDeclMod w) := by
  obtain ⟨kw, name, o, ps, c, body, rfl, hps, hb⟩ := h.stmtDeclMod
  refine .lift_bind (.refl w) fun _ _ => .lift_bind (.refl w) fun _ hname => ?_
  cases hname
  refine .definition (p := .mod name.value) rfl rfl (Scope.has_mod ..) fun hnew => ?_
  refine .lift_bind (.refl w) fun size hsize =>
    .params (fun hc q hq => ?_) fun params w1 hw hq => ?_
  · rcases hps with rfl | ⟨q, rfl, hps⟩
    · cases hc ▸ hsize
    · cases hq
      exact hps
  · refine .lift_bind hw fun body' hbody => ?_
    have hbody : body' = body := by
      rcases hps with rfl | ⟨q, rfl, -⟩ <;> cases hbody <;> rfl
    subst hbody
    have hinner : Ends w.Untouched w1 (fun _ => True) (moduleBody (declareWith fuel) scope body') :=
      moduleBody_lands (declareWith_serves (World.Untouched.upkeep w) _ fuel)
        ⟨.inl trivial, trivial, fun _ _ => trivial⟩ hb fun _ => trivial
    refine .bind (fun _ h => h) hw hinner fun inner w2 h => ?_
    exact .add (e := (name.value, .mod _)) (.mod ..) (fun _ => hnew) h
      (fun h => absurd rfl (h _)) (addMod_eq ..)

theorem statement_logged (h : t.Is .statement) (fuel : Nat) (scope : ScopeId) (w : World) :
    Logged (declareWith (fuel - 1)) scope t w (logged fuel scope t w) := by
  cases fuel with
  | zero => exact .refused (.refl w)
  | succ fuel =>
    obtain ⟨x, rfl, hx⟩ := h.statement
    have through (form : DeclForm) {r : String} {ts : List Tree}
        (hf : DeclForm.ofRule? r = some form) (ht : form.transparent = false) :
        logged (fuel + 1) scope (.node "statement" [.node r ts]) =
          logForm (declareWith fuel) scope (.node r ts) form := by
      rw [logged, unwrap_through (f := .statement) rfl rfl, unwrap_node hf ts (.inl ht)]
      rfl
    rcases hx with hx | hx | hx | hx | hx
    · obtain ⟨s, p, rfl⟩ := hx.leaf rfl
      rw [logged, unwrap_through (f := .statement) rfl rfl, Tree.unwrap]
      exact .refused (.refl w)
    · obtain ⟨y, rfl, -⟩ := hx.stmtObj
      rw [through .stmtObj rfl rfl]
      exact object_logged hx
    · obtain ⟨name, e, body, c, rfl, -⟩ := hx.assignment
      rw [through .assignment rfl rfl]
      exact assignment_logged hx
    · obtain ⟨kw, name, o, ps, c, body, rfl, -, -⟩ := hx.stmtDeclMod
      rw [through .stmtDeclMod rfl rfl]
      exact module_logged hx
    · obtain ⟨kw, name, o, ps, c, e, body, d, rfl, -, -⟩ := hx.stmtDeclFn
      rw [through .stmtDeclFn rfl rfl]
      exact function_logged hx

end

/-! ## Statements in turn -/

/-- What a statement does after others, whose scope leaves names to `target`. -/
inductive Enters (pass : Pass) (scope target : ScopeId) (before : List Tree) (t : Tree)
    (w : World) : List Entry → World → Prop
  | object {y : Tree} {v : Value} {w1 : World}
      (ht : t = .node "statement" [.node "stmt_obj" [y]]) (hy : pass scope y w = .ok v w1)
      (hw : w.Untouched w1) : Enters pass scope target before t w [] (w1.built scope v)
  | first {e : Entry} {w1 : World} (hd : Declares scope t e)
      (hnew : e.part ∉ before.filterMap Tree.subject?) (hw : w.Untouched w1)
      (hq : (∀ m, e.2 ≠ .mod m) → w.Hushed w1) :
      Enters pass scope target before t w [e] (w1.taken target e.1 e.2)
  | duplicate {e : Entry} {w1 : World} (hd : Declares scope t e)
      (hold : e.part ∈ before.filterMap Tree.subject?)
      (hprogram : e.part.isDefinition = true → target ≠ scope) (hw : w.Untouched w1)
      (hq : (∀ m, e.2 ≠ .mod m) → w.Hushed w1) :
      Enters pass scope target before t w [e]
        { w1 with warnings := w1.warnings.push e.part.duplicate }
  | redefined {p : Part} (ht : t.subject? = some p) (hd : p.isDefinition = true)
      (hold : p ∈ before.filterMap Tree.subject?) (hblock : target = scope) :
      Enters pass scope target before t w [] { w with notices := w.notices.push p.redefined }

/-- A scope after some statements, and after the entries that they have led to. -/
structure Placed (scope target : ScopeId) (done : List Tree) (es : List Entry) (w : World) :
    Prop where
  size : scope < w.scopes.size ∧ target < w.scopes.size
  leads : (w.scopeAt scope).target scope = target
  empty : target ≠ scope → ∀ p, p.isName = true → (w.scopeAt scope).has p = false
  held : ∀ p, p.isName = true → (w.scopeAt target).holding? p = Entry.first p es
  names : ∀ p, p.isName = true →
    (p ∈ done.filterMap Tree.subject? ↔ (Entry.first p es).isSome = true)
  work : (w.scopeAt scope).work.length = done.countP fun t => t.subject? = some .work

namespace Placed

variable {pass : Pass} {scope target : ScopeId} {done : List Tree} {es : List Entry} {t : Tree}
  {w w' : World} {e : Entry} {p : Part}

theorem has_iff (h : Placed scope target done es w) (hp : p.isName = true) :
    (w.scopeAt target).has p = true ↔ p ∈ done.filterMap Tree.subject? := by
  rw [h.names p hp, Scope.has, h.held p hp]

theorem untouched (h : Placed scope target done es w) (hw : w.Untouched w') :
    Placed scope target done es w' := by
  have hs := hw.scopes scope h.size.1
  have ht := hw.scopes target h.size.2
  exact
    { size := ⟨Nat.lt_of_lt_of_le h.size.1 hw.size, Nat.lt_of_lt_of_le h.size.2 hw.size⟩
      leads := hs ▸ h.leads
      empty := hs ▸ h.empty
      held := ht ▸ h.held
      names := h.names
      work := hs ▸ h.work }

theorem mem_concat (ht : t.subject? = some p) (q : Part) :
    q ∈ (done ++ [t]).filterMap Tree.subject? ↔ q ∈ done.filterMap Tree.subject? ∨ q = p := by
  simp [filterMap_append, ht]

theorem count_concat (ht : t.subject? = some p) (hp : p.isName = true) :
    (done ++ [t]).countP (fun t => t.subject? = some .work) =
      done.countP fun t => t.subject? = some .work := by
  have hne : p ≠ .work := by
    rintro rfl
    cases hp
  simp [countP_append, ht, hne]

section

variable (h : Placed scope target done es w)

include h

/-- A statement about a name that is there changes nothing in the scope. -/
theorem again (ht : t.subject? = some p)
    (hp : p.isName = true) (hold : p ∈ done.filterMap Tree.subject?) {es' : List Entry}
    (hes : ∀ q, Entry.first q (es ++ es') = Entry.first q es) :
    Placed scope target (done ++ [t]) (es ++ es') w where
  size := h.size
  leads := h.leads
  empty := h.empty
  held q hq := (h.held q hq).trans (hes q).symm
  names q hq := by
    rw [mem_concat ht, hes, ← h.names q hq, or_iff_left_of_imp]
    rintro rfl
    exact hold
  work := h.work.trans (count_concat ht hp).symm

theorem taken (ht : t.subject? = some e.part)
    (hp : e.part.isName = true) (hnew : e.part ∉ done.filterMap Tree.subject?) :
    Placed scope target (done ++ [t]) (es ++ [e]) (w.taken target e.1 e.2) where
  size := by
    have hsize : (w.taken target e.1 e.2).scopes.size = w.scopes.size := World.count_taken w .scope
    rw [hsize]
    exact h.size
  leads := by
    unfold Scope.target
    rw [World.taken_kind, World.taken_parents]
    exact h.leads
  empty hne q hq := by
    rw [Scope.has, World.holding?_taken h.size.2 hp, if_neg fun h => hne h.1]
    exact h.empty hne q hq
  held q hq := by
    have hnone : Entry.first e.part es = none := by
      rwa [h.names _ hp, Option.not_isSome_iff_eq_none] at hnew
    rw [World.holding?_taken h.size.2 hp, Entry.first_append, h.held q hq]
    by_cases heq : e.part = q
    · subst heq
      simp [hnone]
    · simp [heq]
  names q hq := by
    rw [mem_concat ht, h.names q hq, Entry.first_append]
    by_cases heq : e.part = q
    · simp [heq]
    · simp [heq, Ne.symm heq]
  work := by
    rw [count_concat ht hp, ← h.work, World.scopeAt_taken]
    split
    · rw [Scope.hold_work hp]
    · rfl

theorem built (ht : t.subject? = some .work) (v : Value) :
    Placed scope target (done ++ [t]) es (w.built scope v) := by
  have hname {q : Part} (hq : q.isName = true) : q ≠ .work := by
    rintro rfl
    cases hq
  have hscope : (w.built scope v).scopeAt scope =
      { w.scopeAt scope with work := (w.scopeAt scope).work ++ [v] } := by
    rw [World.scopeAt_built, if_pos ⟨rfl, h.size.1⟩]
  exact
    { size := by
        rw [World.built, Array.size_modify]
        exact h.size
      leads := by
        rw [hscope]
        exact h.leads
      empty := fun hne q hq => by
        rw [Scope.has, World.holding?_built (hname hq)]
        exact h.empty hne q hq
      held := fun q hq => (World.holding?_built (hname hq) ..).trans (h.held q hq)
      names := fun q hq => by
        rw [mem_concat ht, ← h.names q hq, or_iff_left (hname hq)]
      work := by simp [hscope, h.work, countP_append, ht] }

theorem step {es' : List Entry}
    (hn : Logged pass scope t w (.ok es' w')) : Placed scope target (done ++ [t]) (es ++ es') w' ∧
      Enters pass scope target done t w es' w' ∧
      (w.scopeAt scope).work <+: (w'.scopeAt scope).work := by
  cases hn with
  | @object y v w1 ht hy hw =>
    have hs : t.subject? = some .work := ht ▸ rfl
    refine ⟨?_, .object ht hy hw, ?_⟩
    · rw [append_nil]
      exact (h.untouched hw).built hs v
    · rw [World.scopeAt_built, if_pos ⟨rfl, (h.untouched hw).size.1⟩, hw.scopes scope h.size.1]
      exact prefix_append ..
  | @known p ht hd hhas =>
    have hp : p.isName = true := by
      cases p <;> first | rfl | cases hd
    have hblock : target = scope := by
      by_contra hne
      rw [h.empty hne p hp] at hhas
      cases hhas
    have hold : p ∈ done.filterMap Tree.subject? := (h.has_iff hp).1 (hblock ▸ hhas)
    have hw : w.Untouched { w with notices := w.notices.push p.redefined } :=
      (World.Untouched.refl w).of_eq rfl rfl
    exact ⟨(h.untouched hw).again ht hp hold fun _ => by rw [append_nil],
      .redefined ht hd hold hblock, prefix_rfl⟩
  | @declared e w1 w2 hd hhas hw hq ha =>
    obtain ⟨ht, hp⟩ := hd.subject
    have h1 := h.untouched hw
    have hwork : (w.scopeAt scope).work = (w1.scopeAt scope).work := by
      rw [hw.scopes scope h.size.1]
    rw [World.add_eq, h1.leads, show e.2.part e.1 = e.part from rfl] at ha
    by_cases hold : e.part ∈ done.filterMap Tree.subject?
    · rw [if_pos ((h1.has_iff hp).2 hold)] at ha
      cases ha
      have hsaid : w1.Untouched { w1 with warnings := w1.warnings.push e.part.duplicate } :=
        (World.Untouched.refl w1).of_eq rfl rfl
      refine ⟨(h1.untouched hsaid).again ht hp hold fun q => ?_, .duplicate hd hold ?_ hw hq,
        hwork ▸ prefix_rfl⟩
      · rw [Entry.first_append]
        by_cases heq : e.part = q
        · subst heq
          obtain ⟨x, hx⟩ := Option.isSome_iff_exists.1 ((h.names _ hp).1 hold)
          rw [hx]
          rfl
        · rw [if_neg heq, Option.or_none]
      · rintro hdef rfl
        rw [(h.has_iff hp).2 hold] at hhas
        cases hhas hdef
    · rw [if_neg (mt (h1.has_iff hp).1 hold)] at ha
      cases ha
      refine ⟨h1.taken ht hp hold, .first hd hold hw hq, ?_⟩
      change _ <+: ((w1.taken target e.1 e.2).scopeAt scope).work
      rw [World.scopeAt_taken, hwork]
      split
      · exact Scope.hold_work hp _ ▸ prefix_rfl
      · exact prefix_rfl

end

variable {fuel : Nat} {ts : List Tree}

theorem run (h : Placed scope target done es w) (hts : ∀ t ∈ ts, t.Is .statement)
    (hr : each (declareWith fuel) scope ts w = .ok () w') :
    Placed scope target (done ++ ts) (es ++ entries fuel scope ts w) w' ∧
      (w.scopeAt scope).work <+: (w'.scopeAt scope).work := by
  induction ts generalizing done es w with
  | nil =>
    cases hr
    rw [entries, append_nil, append_nil]
    exact ⟨h, prefix_rfl⟩
  | cons t ts ih =>
    rw [each_cons] at hr
    obtain ⟨es', w1, ht, hr⟩ := bind_ok hr
    have hn := statement_logged (hts t (mem_cons_self ..)) fuel scope w
    rw [ht] at hn
    obtain ⟨h1, -, hwork⟩ := h.step hn
    have hrest := ih h1 (fun t ht => hts t (mem_cons_of_mem _ ht)) hr
    rw [append_assoc, append_assoc] at hrest
    rw [entries, ht]
    exact ⟨hrest.1, hwork.trans hrest.2⟩

end Placed

theorem each_append (pass : Pass) (scope : ScopeId) (ts us : List Tree) :
    each pass scope (ts ++ us) = each pass scope ts >>= fun _ => each pass scope us := by
  induction ts with
  | nil => rfl
  | cons t ts ih => rw [cons_append, each, each, ih, bind_assoc]

/-- What statements leave in a scope, whose names are taken up by `target`. -/
structure Gathered (fuel : Nat) (scope target : ScopeId) (ts : List Tree) (w w' : World) :
    Prop where
  first : ∀ p, p.isName = true →
    (w'.scopeAt target).holding? p = Entry.first p (entries fuel scope ts w)
  names : ∀ p, p.isName = true →
    ((w'.scopeAt target).has p = true ↔ p ∈ ts.filterMap Tree.subject?)
  count : (w'.scopeAt scope).work.length = ts.countP fun t => t.subject? = some .work
  work : ∀ before y after, ts = before ++ .node "statement" [.node "stmt_obj" [y]] :: after →
    ∃ v w1 w2, each (declareWith fuel) scope before w = .ok () w1 ∧
      declareWith (fuel - 1) scope y w1 = .ok v w2 ∧
      (w'.scopeAt scope).work[before.countP fun t => t.subject? = some .work]? = some v
  steps : ∀ before t after, ts = before ++ t :: after → ∃ es w1 w2,
    each (declareWith fuel) scope before w = .ok () w1 ∧ logged fuel scope t w1 = .ok es w2 ∧
      Enters (declareWith (fuel - 1)) scope target before t w1 es w2

section

variable {fuel : Nat} {scope target : ScopeId} {ts before after : List Tree} {t : Tree}
  {w w' : World} (h : Placed scope target [] [] w)

include h

/-- The statements before one, the statement, and those after it. -/
theorem Placed.split (hts : ∀ u ∈ before ++ t :: after, u.Is .statement)
    (hr : each (declareWith fuel) scope (before ++ t :: after) w = .ok () w') :
    ∃ es es' w1 w2, each (declareWith fuel) scope before w = .ok () w1 ∧
      Placed scope target before es w1 ∧ logged fuel scope t w1 = .ok es' w2 ∧
      Enters (declareWith (fuel - 1)) scope target before t w1 es' w2 ∧
      (w2.scopeAt scope).work <+: (w'.scopeAt scope).work := by
  rw [each_append] at hr
  obtain ⟨⟨⟩, w1, hbefore, hr⟩ := bind_ok hr
  rw [each_cons] at hr
  obtain ⟨es, w2, ht, hafter⟩ := bind_ok hr
  have hin {u : Tree} (hu : u ∈ before ∨ u = t ∨ u ∈ after) : u.Is .statement :=
    hts u (by simpa using hu)
  have hw1 := (h.run (fun u hu => hin (.inl hu)) hbefore).1
  have hn := statement_logged (hin (.inr (.inl rfl))) fuel scope w1
  rw [ht] at hn
  obtain ⟨hw2, he, -⟩ := hw1.step hn
  exact ⟨_, es, w1, w2, hbefore, hw1, ht, he,
    (hw2.run (fun u hu => hin (.inr (.inr hu))) hafter).2⟩

theorem Placed.gathered (hts : ∀ t ∈ ts, t.Is .statement)
    (hr : each (declareWith fuel) scope ts w = .ok () w') : Gathered fuel scope target ts w w' := by
  have hall := (h.run hts hr).1
  refine ⟨hall.held, fun p hp => hall.has_iff hp, hall.work, ?_, ?_⟩
  · rintro before y after rfl
    obtain ⟨es, es', w1, w2, hbefore, hw1, -, he, hwork⟩ := h.split hts hr
    cases he with
    | @object y' v w2 ht hy hw =>
      cases ht
      refine ⟨v, w1, w2, hbefore, hy, ?_⟩
      obtain ⟨rest, hrest⟩ := hwork
      rw [← hrest, ← hw1.work, World.scopeAt_built, if_pos ⟨rfl, (hw1.untouched hw).size.1⟩,
        hw.scopes scope hw1.size.1]
      simp
    | @first e _ hd | @duplicate e _ hd =>
      have hs : some Part.work = some e.part := hd.subject.1
      have hp := hd.subject.2
      rw [← Option.some.inj hs] at hp
      cases hp
    | redefined ht hd =>
      cases ht
      cases hd
  · rintro before t after rfl
    obtain ⟨es, es', w1, w2, hbefore, -, ht, he, -⟩ := h.split hts hr
    exact ⟨es', w1, w2, hbefore, ht, he⟩

end

/-- In a block and in a program the first declaration of a name stays and nothing is lost.
A block warns of a variable that is assigned again and notes a function or a module that is
declared again; a program warns of all of them. -/
theorem first_declaration_stays {fuel : Nat} {parent id : ScopeId} {ts : List Tree}
    {w w' : World} (hts : ∀ t ∈ ts, t.Is .statement)
    (h : block (declareWith fuel) parent ts w = .ok id w') :
    (∃ w₀, Run.innerScope parent .block w = .ok id w₀ ∧ Gathered fuel id id ts w₀ w') ∧
      ∀ w₂, each (declareWith fuel) 2 ts (opened {}) = .ok () w₂ →
        Gathered fuel 2 1 ts (opened {}) w₂ := by
  constructor
  · obtain ⟨inner, w₀, hinner, h⟩ := Run.bind_ok h
    obtain ⟨⟨⟩, w₁, hr, h⟩ := Run.bind_ok h
    cases h
    refine ⟨w₀, hinner, Placed.gathered ?_ hts hr⟩
    cases hinner
    have hat := w.scopeAt_push { kind := .block, parents := parent :: (w.scopeAt parent).parents }
    exact
      { size := by simp
        leads := congrArg (·.target w.scopes.size) hat
        empty := fun hne => absurd rfl hne
        held := fun p _ => (congrArg (·.holding? p) hat).trans (Scope.holding?_new .block _ p)
        names := by simp [Entry.first]
        work := congrArg (·.work.length) hat }
  · intro w₂ h₂
    refine Placed.gathered ?_ hts h₂
    exact
      { size := ⟨Nat.lt_succ_self 2, by decide⟩
        leads := rfl
        empty := fun _ p _ => congrArg Option.isSome (Scope.holding?_new .main [1, 0] p)
        held := fun p _ => Scope.holding?_new .block [0] p
        names := by simp [Entry.first]
        work := rfl }

/-- Each kind of name twice, and an object before and after them. -/
def namesTwice : String :=
  "cube(1); x = 1; x = 2; function f(a, b = 1) = a; function f() = 2; " ++
    "module m() cube(2); module m(a) cube(a); cube(3);"

theorem first_declaration_stays_twice : ∃ ts id w' w₂, ts.length = 8 ∧
    (∀ t ∈ ts, t.Is .statement) ∧
    block (declareWith 30) 0 ts (opened {}) = .ok id w' ∧
    each (declareWith 30) 2 ts (opened {}) = .ok () w₂ ∧
    (∃ w₀, Run.innerScope 0 .block (opened {}) = .ok id w₀ ∧
      Gathered 30 id id ts w₀ w') ∧ Gathered 30 2 1 ts (opened {}) w₂ := by
  have hcheck : (parse namesTwice).toOption.any (fun t =>
        let ts := (t.children.toOption.getD []).dropLast
        ts.length = 8 && ts.all (·.rule = "statement") &&
          (block (declareWith 30) 0 ts).succeeds (opened {}) &&
          (each (declareWith 30) 2 ts).succeeds (opened {})) = true := by
    decide +kernel
  cases ht : parse namesTwice with
  | error e =>
    rw [ht] at hcheck
    cases hcheck
  | ok t =>
    obtain ⟨ts, s, p, rfl, hts⟩ := (parse_is_input ht).input
    rw [ht] at hcheck
    simp only [Except.toOption, Option.any_some, Tree.children, Option.getD_some,
      List.dropLast_concat, Bool.and_eq_true, List.all_eq_true, decide_eq_true_eq] at hcheck
    obtain ⟨⟨⟨hlen, hrule⟩, hb⟩, he⟩ := hcheck
    have hstatement (t : Tree) (hm : t ∈ ts) : t.Is .statement := by
      rcases hts t hm with h | h | h
      · exact absurd ((h.rule_eq rfl).symm.trans (hrule t hm)) (by decide)
      · exact absurd ((h.rule_eq rfl).symm.trans (hrule t hm)) (by decide)
      · exact h
    obtain ⟨id, w', hb⟩ := Run.succeeds_eq_true hb
    obtain ⟨⟨⟩, w₂, he⟩ := Run.succeeds_eq_true he
    have hfirst := first_declaration_stays hstatement hb
    exact ⟨ts, id, w', w₂, hlen, hstatement, hb, he, hfirst.1, hfirst.2 w₂ he⟩

end Declare
end Scad
