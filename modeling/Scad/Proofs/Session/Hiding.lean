import Scad.Proofs.Environment.Layers
import Scad.Proofs.Session.Setting

/-!
Variables and functions of one name. A call looks at each scope in turn, first for a function
and then for a variable, so a variable hides a function of the same name that stands further
out, and none that stands in the same scope or further in. What is called then is the value of
the variable, and a value that is no function cannot be called.
-/

namespace Scad

open Environment

/-- Can something come of calling the value? -/
def Value.answersCalls : Value → Bool
  | .function .. | .host _ | .invoke _ | .pick .. => true
  | _ => false

def Scope.ownFunction? (name : String) (s : Scope) : Option Callee :=
  (s.holding? (.func name)).bind Holding.callee?

/-- What a call finds in the scopes further in than `s`, or else among the functions of `s`. -/
def World.calleeUpTo (w : World) (env : FrameId) (s : ScopeId) (name : String) : Option Callee :=
  (Scope.search w.scopes (Scope.findFunction? name)
    (((w.frameAt env).scope :: (w.scopeAt (w.frameAt env).scope).parents).takeWhile (· != s))).or
    ((w.scopeAt s).ownFunction? name)

theorem Scope.findFunction?_hold_var {d : VarDef} {c : Callee} (name : String) (s : Scope)
    (hd : (Holding.var d).callee? = some c) :
    (s.hold name (.var d)).findFunction? name = (s.ownFunction? name).or (some c) := by
  have hvar : (s.hold name (.var d)).holding? (.var name) = some (.var d) :=
    Scope.holding?_hold_self rfl s
  rw [Scope.findFunction?_eq, hvar, Option.bind_some, hd]
  rfl

/-- A scope is given a variable by a declaration of a name for which the scope that takes it up
has no variable yet, or by a setting of the host. -/
inductive GivesVariable (w : World) (name : String) : ScopeId → VarDef → Run Unit → Prop
  | declared (a : ScopeId) (body : Value)
      (hnew : (w.scopeAt ((w.scopeAt a).target a)).has (.var name) = false) :
      GivesVariable w name ((w.scopeAt a).target a) (.expr a body) (Run.addVar a name body)
  | set (e : FrameId) (v : Value) (hv : v ≠ .undef) (hd : Eval.isDynamicName name = false)
      (hne : name ≠ "") :
      GivesVariable w name (w.frameAt e).scope (.value v) (setVar e name v)

theorem GivesVariable.taken {w : World} {name : String} {s : ScopeId} {d : VarDef} {m : Run Unit}
    (h : GivesVariable w name s d m) :
    m w = .ok () (w.taken s name (.var d)) ∧ ∃ c, (Holding.var d).callee? = some c := by
  cases h with
  | declared a body hnew =>
    refine ⟨?_, _, rfl⟩
    rw [Run.addVar_eq, World.add_eq]
    exact congrFun (if_neg (ne_true_of_eq_false hnew)) w
  | set e v hv hd hne =>
    refine ⟨Eval.setVar_plain hd hne v w, .value v, ?_⟩
    cases v <;> first | rfl | exact absurd rfl hv

namespace Eval

variable {w : World} {env : FrameId} {name : String} {v : Value}

def applyCallee (p : Perform) (env : FrameId) (args : Args) : Callee → Run Value
  | .builtin f => callBuiltin p env f args
  | .deferred scope body => do callValue p env (← evalIn p env scope body) args
  | .value v => callValue p env v args

def calledValue (p : Perform) (env : FrameId) : VarDef → Run Value
  | .expr scope body => evalIn p env scope body
  | .value v => pure v

theorem applyCallee_var {d : VarDef} {c : Callee} (h : (Holding.var d).callee? = some c)
    (p : Perform) (args : Args) :
    applyCallee p env args c = calledValue p env d >>= fun v => callValue p env v args := by
  cases d with
  | expr scope body =>
    cases h
    rfl
  | value v =>
    have hc : c = .value v := by cases v <;> cases h <;> rfl
    rw [hc]
    rfl

theorem applyFunction_of_callee {c : Callee}
    (h : w.seek (w.frameAt env).scope (Scope.findFunction? name) = some c) (p : Perform)
    (args : Args) : applyFunction p env name args w =
      (checkNames args >>= fun _ => applyCallee p env args c) w := by
  have hlookup : Run.lookupFunction (w.frameAt env).scope name w = .ok c w :=
    congrArg (Run.demand (.unknownName name) · w) h
  unfold applyFunction checkNames
  split
  · rfl
  · change (findCallee p env name >>= _) w = _
    rw [Run.bind_of_ok (findCallee_found hlookup p)]
    cases c <;> rfl

theorem callValue_refused (hv : v.answersCalls = false) (env : FrameId) (u : World) (p : Perform)
    (args : Args) : ∃ e u', callValue p env v args u = .error e u' ∧
      ((u.frameAt env).token = none → e = .typeMismatch) := by
  have hcall : callValue p env v args = Run.within env (throw .typeMismatch) := by
    cases v <;> first | rfl | cases hv
  have hinside {w : World} (henter : Run.enter env u = .ok () w) :
      ∃ u', Run.within env (throw .typeMismatch : Run Value) u = .error .typeMismatch u' := by
    obtain ⟨u', hdepart⟩ := Correspondence.total_depart env w
    exact ⟨u', (Run.bind_of_ok henter).trans (Run.bind_of_ok hdepart)⟩
  rw [hcall]
  cases ht : (u.frameAt env).token with
  | none =>
    obtain ⟨u', h⟩ := hinside (Run.enter_of_none ht)
    exact ⟨_, u', h, fun _ => rfl⟩
  | some t =>
    by_cases hc : u.current = some env
    · obtain ⟨u', h⟩ := hinside (Run.enter_of_current ht hc)
      exact ⟨_, u', h, fun _ => rfl⟩
    · obtain ⟨e, -, henter⟩ := Run.enter_of_other ht hc
      exact ⟨e, u, Run.bind_of_error henter, fun h => by cases h⟩

/-- A scope that an environment sees is given a variable. If a scope further in has something
to call under the name, or the scope itself a function, that is called as before. Else the value
of the variable is called, whatever function stands further out, and the call fails if that is
no function. -/
theorem variable_hides_function {s : ScopeId} {d : VarDef} {m : Run Unit}
    (hm : GivesVariable w name s d m) (hs : s < w.scopes.size)
    (hmem : s ∈ (w.frameAt env).scope :: (w.scopeAt (w.frameAt env).scope).parents) :
    ∃ w', m w = .ok () w' ∧ ∀ p args,
      (∀ c, w.calleeUpTo env s name = some c → ∀ u ∈ [w, w'], applyFunction p env name args u =
        (checkNames args >>= fun _ => applyCallee p env args c) u) ∧
      (w.calleeUpTo env s name = none →
        applyFunction p env name args w' = (checkNames args >>= fun _ =>
          calledValue p env d >>= fun v => callValue p env v args) w' ∧
        ∀ v u, calledValue p env d w' = .ok v u → v.answersCalls = false →
          ∃ e u', applyFunction p env name args w' = .error e u' ∧
            ((u.frameAt env).token = none → e = .typeMismatch)) := by
  obtain ⟨hok, own, hown⟩ := hm.taken
  refine ⟨_, hok, fun p args => ?_⟩
  have hafter : (w.taken s name (.var d)).seek (w.frameAt env).scope (Scope.findFunction? name) =
      (w.calleeUpTo env s name).or (some own) := by
    rw [World.seek, World.taken_parents, World.calleeUpTo, Option.or_assoc]
    refine (search_modify_of_mem hs _ hmem).trans ?_
    rw [Scope.findFunction?_hold_var name _ hown, Option.or_assoc, Option.some_or]
    rfl
  refine ⟨fun c hc u hu => ?_, fun hnone => ?_⟩
  · have hbefore : w.seek (w.frameAt env).scope (Scope.findFunction? name) = some c := by
      refine (search_split _ hmem).trans ?_
      rw [Scope.findFunction?_eq, Option.or_assoc, ← Option.or_assoc]
      exact (congrArg (Option.or · _) hc).trans rfl
    rcases List.mem_cons.1 hu with rfl | hu
    · exact applyFunction_of_callee hbefore p args
    · cases List.mem_singleton.1 hu
      exact applyFunction_of_callee (hafter.trans (by rw [hc]; rfl)) p args
  · have happly := applyFunction_of_callee (hafter.trans (by rw [hnone]; rfl)) p args
    rw [applyCallee_var hown] at happly
    refine ⟨happly, fun v u hv hno => ?_⟩
    rw [happly]
    unfold checkNames
    split
    · exact ⟨_, _, rfl, fun _ => rfl⟩
    · obtain ⟨e, u', hcall, htoken⟩ := callValue_refused hno env u p args
      exact ⟨e, u', (Run.bind_of_ok hv).trans hcall, htoken⟩

/-- In a new environment `sin` is a built-in function. Once the host has set a variable of that
name to a number, calls of it fail. -/
theorem variable_hides_function_sin :
    (opened {}).seek 2 (Scope.findFunction? "sin") = some (.builtin .sin) ∧
    ∃ w' e u, setVar 0 "sin" (.int 1) (opened {}) = .ok () w' ∧
      applyFunction perform 0 "sin" ⟨[.int 0], []⟩ w' = .error e u ∧ e = .typeMismatch := by
  have hgives : GivesVariable (opened {}) "sin" 2 (.value (.int 1))
      (setVar 0 "sin" (.int 1)) :=
    .set 0 (.int 1) (fun h => by cases h) (by decide) (by decide)
  have hseen : 2 ∈ ((opened {}).frameAt 0).scope ::
      ((opened {}).scopeAt ((opened {}).frameAt 0).scope).parents := by
    decide
  obtain ⟨w', hset, hcalls⟩ := variable_hides_function hgives (by decide) hseen
  obtain ⟨e, u, hcall, htoken⟩ := ((hcalls perform ⟨[.int 0], []⟩).2 rfl).2 (.int 1) w' rfl rfl
  refine ⟨rfl, w', e, u, hset, hcall, htoken ?_⟩
  cases hset
  rfl

end Eval
end Scad
