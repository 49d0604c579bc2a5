import Scad.Proofs.Environment.Layers
import Scad.Proofs.Scoping.InPlace
import Scad.Proofs.Scoping.Literal
import Scad.Session.Step

/-!
Settings of the host in an environment that is in use. A value that the environment has
computed for a name is kept, so a setting of the name comes too late. Functions are looked up
anew for each call. Modules cannot be set. After any number of settings and loads it is the
last setting that counts.
-/

namespace Scad

open Scope Environment

namespace Eval

variable {w : World} {env : FrameId} {name : String}

theorem search_cons {α : Type} (scopes : Array Scope) (ask : Scope → Option α) (id : ScopeId)
    (ids : List ScopeId) : search scopes ask (id :: ids) =
      (ask (scopes.getD id default)).or (search scopes ask ids) := by
  rw [search]
  cases ask (scopes.getD id default) <;> rfl

section

variable {α : Type} {ask : Scope → Option α} {s : ScopeId} {ids : List ScopeId}

/-- The scopes before `s` are asked first, then `s` itself. -/
theorem search_split (scopes : Array Scope) (hs : s ∈ ids) : search scopes ask ids =
    (search scopes ask (ids.takeWhile (· != s))).or ((ask (scopes.getD s default)).or
      (search scopes ask (ids.dropWhile (· != s)).tail)) := by
  induction ids with
  | nil => cases hs
  | cons id ids ih =>
    by_cases hid : id = s
    · subst hid
      have hnil : search scopes ask [] = none := rfl
      rw [search_cons]
      simp [hnil]
    · have hs : s ∈ ids := (List.mem_cons.1 hs).resolve_left (Ne.symm hid)
      simp [hid, search_cons, ih hs, Option.or_assoc]

theorem search_modify_of_not_mem (scopes : Array Scope) (f : Scope → Scope) (hs : s ∉ ids) :
    search (scopes.modify s f) ask ids = search scopes ask ids := by
  induction ids with
  | nil => rfl
  | cons id ids ih =>
    obtain ⟨hid, hs⟩ : s ≠ id ∧ s ∉ ids := by simpa using hs
    rw [search_cons, search_cons, ih hs, getD_modify, if_neg fun h => hid h.1]

/-- A search comes upon a scope that has been changed unless it ends before. -/
theorem search_modify_of_mem {scopes : Array Scope} (h : s < scopes.size) (f : Scope → Scope)
    (hs : s ∈ ids) : search (scopes.modify s f) ask ids =
      (search scopes ask (ids.takeWhile (· != s))).or ((ask (f (scopes.getD s default))).or
        (search (scopes.modify s f) ask (ids.dropWhile (· != s)).tail)) := by
  have hbefore : s ∉ ids.takeWhile (· != s) := fun hm => by
    simpa using List.all_eq_true.1 List.all_takeWhile s hm
  rw [search_split _ hs, search_modify_of_not_mem _ f hbefore, getD_modify, if_pos ⟨rfl, h⟩]

end

/-- What the environment's own scope knows after a change is found. -/
theorem seek_modified {α : Type} (ask : Scope → Option α) (f : Scope → Scope) {a : α}
    (hs : (w.frameAt env).scope < w.scopes.size)
    (h : ask (f (w.scopeAt (w.frameAt env).scope)) = some a) :
    World.seek { w with scopes := w.scopes.modify (w.frameAt env).scope f } (w.frameAt env).scope
      ask = some a := by
  refine World.seek_self (Eq.trans (congrArg ask ?_) h)
  exact (getD_modify ..).trans (if_pos ⟨rfl, hs⟩)

theorem eval_other {v : Value} (hv : v.isNode = false) (depth : Nat) (w : World) :
    performWith (depth + 1) (.eval env v) w = .error .noAttribute w := by
  cases v with
  | code _ | node _ => cases hv
  | _ => rfl

section

variable (hd : isDynamicName name = false) (hne : name ≠ "")

include hd hne

theorem firstChar_plain (w : World) : ∃ c, firstChar name w = .ok c w ∧ c ≠ '$' := by
  unfold firstChar
  cases hl : name.toList with
  | nil => exact absurd (String.toList_eq_nil_iff.1 hl) hne
  | cons c rest =>
    refine ⟨c, rfl, ?_⟩
    rintro rfl
    rw [isDynamicName, hl] at hd
    cases hd

theorem setVar_plain (v : Value) (w : World) : setVar env name v w =
    .ok () { w with scopes := w.scopes.modify (w.frameAt env).scope fun s =>
      { s with vars := s.vars.put name (.value v) } } := by
  have hscope : scopeOf env w = .ok (w.frameAt env).scope w := rfl
  obtain ⟨c, hc, hdollar⟩ := firstChar_plain hd hne w
  unfold setVar
  rw [Run.bind_of_ok hc, if_neg hdollar]
  exact Run.bind_of_ok hscope

theorem readVariable_found {d : VarDef} (h : w.seek (w.frameAt env).scope (findVar? name) = some d)
    (hslot : (w.slotsAt env).named.find? name = none) (p : Perform) :
    readVariable p env name w = note p env name d w := by
  have hlookup : Run.lookupVar (w.frameAt env).scope name w = .ok d w :=
    congrArg (Run.demand (.unknownName name) · w) h
  have hfind := (findDefinition_plain hd hne p env w).trans hlookup
  rw [readVariable_of_none (ne_children hd) hslot, Run.bind_of_ok hfind]

theorem readVariable_set {v : Value}
    (h : w.seek (w.frameAt env).scope (findVar? name) = some (.value v))
    (hslot : (w.slotsAt env).named.find? name = none) (hv : v.isCallable = false) (p : Perform) :
    readVariable p env name w =
      .ok v ((w.withSlot env name .busy).withSlot env name (.known v)) := by
  rw [readVariable_found hd hne h hslot]
  exact note_of_value hv w

theorem readVariable_added {v : Value} {scope : ScopeId}
    (h : w.seek (w.frameAt env).scope (findVar? name) = some (.expr scope v))
    (hslot : (w.slotsAt env).named.find? name = none) (hv : v.isNode = false) (depth : Nat) :
    (readVariable (performWith (depth + 1)) env name).Fails w .noAttribute := by
  have hdefine (w : World) : define (performWith (depth + 1)) env (.expr scope v) w =
      .error .noAttribute (entered w scope env) :=
    (Run.bind_of_ok (newFrame_entered w scope env)).trans (eval_other hv depth _)
  unfold Run.Fails
  rw [readVariable_found hd hne h hslot]
  exact ⟨_, note_of_error (hdefine _) rfl⟩

end

section

variable {target : ScopeId} {rest : List ScopeId}
  (hp : (w.scopeAt (w.frameAt env).scope).parents = target :: rest)
  (h : w.seek (w.frameAt env).scope (findVar? name) = none)

include hp h

theorem search_none : findVar? name (w.scopeAt (w.frameAt env).scope) = none ∧
    findVar? name (w.scopeAt target) = none := by
  have hown : search w.scopes (findVar? name)
      ((w.frameAt env).scope :: target :: rest) = none := hp ▸ h
  rw [search_cons, search_cons, Option.or_eq_none_iff, Option.or_eq_none_iff] at hown
  exact ⟨hown.1, hown.2.1⟩

/-- A variable that is not defined can be declared in the parent of the environment's own
scope. -/
theorem seek_added {d : VarDef} (ht : target < w.scopes.size)
    (hne : target ≠ (w.frameAt env).scope) :
    World.seek { w with scopes := w.scopes.modify target fun s =>
      { s with vars := s.vars.put name d } } (w.frameAt env).scope (findVar? name) =
        some d := by
  obtain ⟨hown, -⟩ := search_none hp h
  have hget (i : ScopeId) := getD_modify w.scopes target i
    (fun s => { s with vars := s.vars.put name d }) default
  have hself := (hget (w.frameAt env).scope).trans (if_neg fun h => hne h.1)
  have htarget := (hget target).trans (if_pos ⟨rfl, ht⟩)
  have hvar : findVar? name { w.scopeAt target with
    vars := (w.scopeAt target).vars.put name d } = some d := Table.find?_put_self ..
  have hown : findVar? name (w.scopes.getD (w.frameAt env).scope default) = none := hown
  have hp : (w.scopes.getD (w.frameAt env).scope default).parents = target :: rest := hp
  unfold World.seek World.scopeAt
  simp only
  rw [hself, hp, search_cons, search_cons, hself, hown, htarget, Option.none_or]
  exact hvar ▸ Option.some_or

theorem addVar_target (hk : (w.scopeAt (w.frameAt env).scope).kind = .main) (v : Value) :
    Run.addVar (w.frameAt env).scope name v w =
      .ok () { w with scopes := w.scopes.modify target fun s =>
        { s with vars := s.vars.put name (.expr (w.frameAt env).scope v) } } := by
  obtain ⟨-, hfree⟩ := search_none hp h
  have hscope (i : ScopeId) : Run.scope i w = .ok (w.scopeAt i) w := rfl
  have htarget : Run.declaring (w.frameAt env).scope w = .ok target w := by
    unfold Run.declaring
    rw [Run.bind_of_ok (hscope _), hk, hp]
    rfl
  have hhas : (w.scopeAt target).vars.has name = false := congrArg Option.isSome hfree
  unfold Run.addVar
  rw [Run.bind_of_ok htarget, Run.bind_of_ok (hscope _), hhas]
  rfl

end

theorem firstChar_dynamic (hd : isDynamicName name = true) (w : World) :
    firstChar name w = .ok '$' w := by
  obtain ⟨rest, hl⟩ := List.head?_eq_some_iff.1 (beq_iff_eq.1 hd)
  unfold firstChar
  rw [hl]
  rfl

theorem applyFunction_set {v : Value}
    (h : w.seek (w.frameAt env).scope (findFunction? name) = some (.value v)) {args : Args}
    (hargs : checkNames args w = .ok () w) (p : Perform) :
    applyFunction p env name args w = callValue p env v args w := by
  have hlookup := congrArg (Run.demand (.unknownName name) · w) h
  unfold applyFunction
  rw [Run.bind_of_ok hargs, Run.bind_of_ok (findCallee_found hlookup _)]

/-- What the settings of a run are good for afterwards, if nothing but settings and loads
happened since the environment was in the state `w`. -/
structure Outlasts (w : World) (name : String) (depth : Nat) (H : History) (w' : World) :
    Prop where
  /-- The last setting of a variable is read, if no value was known before. With the value that
  is known from then on, the run can go on. -/
  var : ∀ v, H.lastSet (.var name) = some (.var (.value v)) → v.isCallable = false →
    (w.slotsAt 0).named.find? name = none →
    ∃ w2, performWith (depth + 1) (.read 0 name) w' = .ok v w2 ∧ Layered H w2
  /-- A value that was known before stays, whatever is set. -/
  known : ∀ v, (w.slotsAt 0).named.find? name = some (.known v) →
    performWith (depth + 1) (.read 0 name) w' = .ok v w'
  /-- The last setting of a function is called. -/
  func : ∀ v, H.lastSet (.func name) = some (.func (.value v)) → ∀ args,
    checkNames args w' = .ok () w' → performWith (depth + 1) (.apply 0 name args) w' =
      callValue (performWith depth) 0 v args w'

theorem outlasts_of_layered {H : History} {w' : World} (h : Layered H w')
    (hw : w'.dynamic = w.dynamic) (hd : isDynamicName name = false) (hne : name ≠ "")
    (depth : Nat) : Outlasts w name depth H w' := by
  have hscope : (w'.frameAt 0).scope = 2 := h.frame
  have hslots : w'.slotsAt 0 = w.slotsAt 0 := by
    simp only [World.dynamic, Prod.mk.injEq] at hw
    unfold World.slotsAt World.frameAt
    rw [hw.1, hw.2.1]
  refine ⟨fun v hset hv hslot => ?_, fun v hknown => ?_, fun v hset args hargs => ?_⟩
  · have hown : findVar? name (w'.scopeAt (w'.frameAt 0).scope) = some (.value v) := by
      rw [hscope, findVar?_eq, h.own _ rfl, hset]
      rfl
    refine ⟨_, readVariable_set hd hne (World.seek_self hown) (hslots ▸ hslot) hv _, ?_⟩
    exact h.keep (Nat.le_refl _) rfl fun _ _ => .refl _ _
  · exact readVariable_known _ (ne_children hd) (hslots ▸ hknown)
  · obtain ⟨u, hu, hcase⟩ := h.given_of_own (p := .func name) rfl ((h.own _ rfl).trans hset)
    have hown : findFunction? name (w'.scopeAt (w'.frameAt 0).scope) = some (.value v) := by
      rw [hscope, findFunction?_eq, h.own (.func name) rfl, hset, Option.bind_some]
      rcases hcase with hcase | hcase | hcase <;> cases hcase
      cases v <;> first | rfl | exact absurd rfl hu
    exact applyFunction_set (World.seek_self hown) hargs _

/-- What a setting is good for, in any state of the environment. The value of a variable is
seen unless a value was known before, and then that one stays; a name that begins with `$` is
set in any case. A function is called with the arguments of the call. A module is refused. A
variable that is added cannot be read, as the value is taken for a node. After a run of settings
and loads the last setting of a name is what was said of one setting. -/
theorem setting_seen (w : World) (env : FrameId) (name : String) (v : Value) (depth : Nat)
    (hs : (w.frameAt env).scope < w.scopes.size) (hne : name ≠ "") :
    (isDynamicName name = false → ∃ w1, Session.setIn env name v .var w = .ok () w1 ∧
      ((w.slotsAt env).named.find? name = none → v.isCallable = false →
        ∃ w2, performWith (depth + 1) (.read env name) w1 = .ok v w2) ∧
      ∀ u, (w.slotsAt env).named.find? name = some (.known u) →
        performWith (depth + 1) (.read env name) w1 = .ok u w1) ∧
    (isDynamicName name = true → Session.addIn env name v .var w = .error .dynamicName w ∧
      ∃ w1, Session.setIn env name v .var w = .ok () w1 ∧
        (name ≠ "$children" → (w.frameAt env).table < w.tables.size →
          performWith (depth + 1) (.read env name) w1 = .ok v w1)) ∧
    (∃ w1, Session.setIn env name v .func w = .ok () w1 ∧ (v ≠ .undef → ∀ args,
      checkNames args w1 = .ok () w1 → performWith (depth + 1) (.apply env name args) w1 =
        callValue (performWith depth) env v args w1)) ∧
    Session.setIn env name v .mod w = .error .noAttribute w ∧
    (∀ target rest, isDynamicName name = false →
      (w.scopeAt (w.frameAt env).scope).kind = .main →
      (w.scopeAt (w.frameAt env).scope).parents = target :: rest → target < w.scopes.size →
      target ≠ (w.frameAt env).scope →
      w.seek (w.frameAt env).scope (Scope.findVar? name) = none →
      ∃ w1, Session.addIn env name v .var w = .ok () w1 ∧
        ((w.slotsAt env).named.find? name = none → v.isNode = false →
          (performWith (depth + 2) (.read env name)).Fails w1 .noAttribute)) ∧
    ∀ H, Layered H w → isDynamicName name = false → ∀ ops : List Operation,
      Outlasts w name depth (ops.foldl Operation.follow (H, w)).1
        (ops.foldl Operation.follow (H, w)).2 := by
  have hscope : scopeOf env w = .ok (w.frameAt env).scope w := rfl
  let asVar (s : Scope) : Scope := { s with vars := s.vars.put name (.value v) }
  let asFunc (s : Scope) : Scope := { s with funcs := s.funcs.put name (.value v) }
  refine ⟨fun hd => ?_, fun hd => ?_, ?_, rfl, fun target rest hd hk hp ht hts hnone => ?_,
    fun H hw hd ops => ?_⟩
  · refine ⟨{ w with scopes := w.scopes.modify (w.frameAt env).scope asVar },
      setVar_plain hd hne v w, fun hslot hv => ?_, fun u hu => ?_⟩
    · have hfind := seek_modified (Scope.findVar? name) asVar hs (Table.find?_put_self ..)
      exact ⟨_, readVariable_set hd hne hfind hslot hv _⟩
    · exact readVariable_known _ (ne_children hd) hu
  · have hc := firstChar_dynamic hd w
    exact ⟨Run.bind_of_ok hc, w.withSlot env name (.known v), Run.bind_of_ok hc,
      fun hn ht => readVariable_known _ hn (World.withSlot_known ht ..)⟩
  · refine ⟨{ w with scopes := w.scopes.modify (w.frameAt env).scope asFunc },
      Run.bind_of_ok hscope, fun hv args hargs => ?_⟩
    have hown : Scope.findFunction? name (asFunc (w.scopeAt (w.frameAt env).scope)) =
        some (.value v) := by
      simp only [asFunc, Scope.findFunction?, Table.find?_put_self]
    exact applyFunction_set (seek_modified (Scope.findFunction? name) asFunc hs hown) hargs _
  · obtain ⟨c, hc, hdollar⟩ := firstChar_plain hd hne w
    refine ⟨{ w with scopes := w.scopes.modify target fun s =>
      { s with vars := s.vars.put name (.expr (w.frameAt env).scope v) } }, ?_,
      fun hslot hv => readVariable_added hd hne (seek_added hp hnone ht hts) hslot hv depth⟩
    change addVar env name v w = _
    unfold addVar
    rw [Run.bind_of_ok hc, if_neg hdollar]
    exact (Run.bind_of_ok hscope).trans (addVar_target hp hnone hk v)
  · exact outlasts_of_layered (Operation.foldl_layered ops hw)
      (Operation.foldl_dynamic ops (H, w)) hd hne depth

/-- Two settings of `x`, with a program loaded between them. -/
def setTwice (text : String) : List Operation :=
  [.set .var "x" (.int 5) (by simp), .load text, .set .var "x" (.int 7) (by simp)]

/-- In a new environment `x` takes the value it is set to. Where it has been read as 1 it stays
1, and where it is only added it cannot be read. Of two settings the second is read, whatever is
loaded between them. -/
theorem setting_seen_opened :
    (∃ w1 w2, Session.setIn 0 "x" (.int 5) .var (opened {}) = .ok () w1 ∧
      performWith 1 (.read 0 "x") w1 = .ok (.int 5) w2) ∧
    (∃ w1, Session.setIn 0 "x" (.int 5) .var
        ((opened {}).withSlot 0 "x" (.known (.int 1))) = .ok () w1 ∧
      performWith 1 (.read 0 "x") w1 = .ok (.int 1) w1) ∧
    (∃ w1, Session.addIn 0 "x" (.int 5) .var (opened {}) = .ok () w1 ∧
      (performWith 2 (.read 0 "x")).Fails w1 .noAttribute) ∧
    ∀ text, ∃ w2, performWith 1 (.read 0 "x") (Operation.history (setTwice text)).2 =
      .ok (.int 7) w2 := by
  have hnone : (opened {}).seek 2 (Scope.findVar? "x") = none := by decide +kernel
  have hslot : ((opened {}).slotsAt 0).named.find? "x" = none := by decide +kernel
  obtain ⟨hplain, -, -, -, hadd, hrun⟩ := setting_seen (opened {}) 0 "x" (.int 5) 0
    (by decide +kernel) (by decide)
  obtain ⟨w1, hset, hread, -⟩ := hplain (by decide)
  obtain ⟨w2, hread⟩ := hread hslot rfl
  obtain ⟨u1, hset', -, hknown⟩ := (setting_seen
    ((opened {}).withSlot 0 "x" (.known (.int 1))) 0 "x" (.int 5) 0
    (by decide +kernel) (by decide)).1 (by decide)
  obtain ⟨a1, hadded, hfails⟩ :=
    hadd 1 [0] (by decide) rfl rfl (by decide +kernel) (by decide) hnone
  refine ⟨⟨w1, w2, hset, hread⟩, ⟨u1, hset', hknown _ rfl⟩, ⟨a1, hadded, hfails hslot rfl⟩,
    fun text => ?_⟩
  obtain ⟨w2, hread, -⟩ := (hrun {} .new (by decide) (setTwice text)).var (.int 7) rfl rfl hslot
  exact ⟨w2, hread⟩

end Eval

/-! ## Settings for a new program -/

/-- The value of a name in a program that has just been opened. -/
def Opening.valueOf (name : String) (o : Opening) : Run Value := do
  Eval.perform (.read (← o.run) name)

/-- A program that gives `x` a number and shows the default of a parameter as `y`. -/
def Opening.showingDefault (number : String) : Source :=
  .text ("x=" ++ number ++ ";\nfunction f(a=2)=str([a]);\ny=f();\n")

def Value.hasEight : Value → Bool
  | .str t => t.contains (.scalar '8')
  | _ => false

/-- A default is shown with its place in the text. Another number for `x` moves it, and setting
`x` does not. -/
theorem Opening.override_moves_nothing : ∃ v w v' w',
    valueOf "y" { source := showingDefault "1", named := [("x", .int 100)] } {} = .ok v w ∧
    valueOf "y" { source := showingDefault "100" } {} = .ok v' w' ∧ v ≠ v' := by
  obtain ⟨v, w, hset, hplace⟩ := Run.passes_eq_true (w := {})
    (m := valueOf "y" { source := showingDefault "1", named := [("x", .int 100)] })
    (t := fun v _ => v.hasEight) (by decide +kernel)
  obtain ⟨v', w', hedited, hplace'⟩ := Run.passes_eq_true (w := {})
    (m := valueOf "y" { source := showingDefault "100" })
    (t := fun v _ => !v.hasEight) (by decide +kernel)
  refine ⟨v, w, v', w', hset, hedited, fun h => ?_⟩
  rw [← h, hplace] at hplace'
  cases hplace'

end Scad
