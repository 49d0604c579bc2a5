import Scad.Proofs.Scoping.Lexical

/-!
The parameters of a module. They are values of the environment of the call, and only the
statements that stand directly in the module's body share these. A local variable, a nested
block and a function inside the module are evaluated in environments of their own, where
plain names are looked up in scopes, and no scope knows a parameter.
-/

namespace Scad

section

variable {w : World} {e : FrameId} {name : String} {v v' : Value}

theorem Table.mem_put {α : Type} {name : String} {a : α} {t : Table α} {x : String × α}
    (h : x ∈ Table.put name a t) : x ∈ t ∨ x.2 = a := by
  induction t with
  | nil =>
    rw [List.mem_singleton.1 h]
    exact .inr rfl
  | cons y t ih =>
    unfold Table.put at h
    split at h
    · rcases List.mem_cons.1 h with rfl | h
      · exact .inr rfl
      · exact .inl (List.mem_cons_of_mem y h)
    · rcases List.mem_cons.1 h with rfl | h
      · exact .inl (List.mem_cons_self ..)
      · exact (ih h).imp_left (List.mem_cons_of_mem y)

theorem World.Idle.withSlot (hw : w.Idle) (he : e < w.frames.size) (name : String)
    (hv : v.plain = true) : (w.withSlot e name (.known v)).Idle where
  lists := hw.lists
  nodes := hw.nodes
  scopes := hw.scopes
  slots t ht x hx := by
    obtain ⟨i, hi⟩ := Array.mem_iff_getElem?.1 ht
    simp only [World.withSlot, Array.getElem?_modify] at hi
    split at hi
    · cases hold : w.tables[i]? with
      | none =>
        rw [hold] at hi
        cases hi
      | some old =>
        rw [hold] at hi
        cases hi
        rcases Table.mem_put hx with hx | hx
        · exact hw.slots old (Array.mem_of_getElem? hold) x hx
        · rw [hx]
          exact hv
    · exact hw.slots t (Array.mem_of_getElem? hi) x hx
  streams := hw.streams
  current := hw.current
  tracer := hw.tracer
  rooted := by
    have hn := World.withSlot_notes (hw.rooted.table e he) name (.known v)
    rw [hn.size]
    exact hn.rooted hw.rooted

/-- An environment that knows a name with one value or another. The name does not begin
with `$`, so nobody asks for it. -/
theorem World.Idle.beside_withSlot (hw : w.Idle) (he : e < w.frames.size)
    (hn : Eval.isDynamicName name = false) (hv : v.plain = true) (hv' : v'.plain = true)
    (h : ∀ other, Eval.isDynamicName other = true → other ≠ "$children" →
      ∃ o, w.Answers other e o) :
    (w.withSlot e name (.known v)).Beside (w.withSlot e name (.known v')) e e where
  lists := rfl
  nodes := rfl
  scopes := rfl
  streams := rfl
  fresh := rfl
  out := rfl
  warnings := rfl
  left := hw.withSlot he name hv
  right := hw.withSlot he name hv'
  frames := rfl
  tables := by
    have ht := hw.rooted.table e he
    rw [(World.withSlot_notes ht name _).size, (World.withSlot_notes ht name _).size]
  here := he
  there := he
  answers other hd hc := by
    obtain ⟨o, ho⟩ := h other hd hc
    have hne : other ≠ name := fun heq => by
      rw [heq, hn] at hd
      cases hd
    have ht := hw.rooted.table e he
    exact ⟨o, (World.withSlot_notes ht name _).answers hne ho,
      (World.withSlot_notes ht name _).answers hne ho⟩

end

namespace Eval

theorem ne_children {name : String} (hd : isDynamicName name = false) : name ≠ "$children" := by
  rintro rfl
  revert hd
  decide

section

variable {w : World} {name : String} (hd : isDynamicName name = false) (hne : name ≠ "")

include hd hne

theorem findDefinition_plain (p : Perform) (e : FrameId) (w : World) :
    findDefinition p e name w = Run.lookupVar (w.frameAt e).scope name w := by
  cases hl : name.toList with
  | nil => exact absurd (String.toList_eq_nil_iff.1 hl) hne
  | cons c rest =>
    have hc : c ≠ '$' := by
      rintro rfl
      rw [isDynamicName, hl] at hd
      cases hd
    unfold findDefinition
    rw [hl]
    simp only
    split
    · rename_i heq
      cases heq
    · rename_i heq
      cases heq
      exact absurd rfl hc
    · rfl

theorem readVariable_undeclared {e : FrameId} (hs : (w.slotsAt e).named.find? name = none)
    (h : w.seek (w.frameAt e).scope (Scope.findVar? name) = none) (p : Perform) :
    readVariable p e name w = .error (.unknownName name) w := by
  have hlookup : Run.lookupVar (w.frameAt e).scope name w = .error (.unknownName name) w :=
    congrArg (Run.demand (.unknownName name) · w) h
  have hfind := (findDefinition_plain hd hne p e w).trans hlookup
  rw [readVariable_of_none (ne_children hd) hs, Run.bind_of_error hfind]

theorem readVariable_newFrame {scope : ScopeId}
    (h : w.seek scope (Scope.findVar? name) = none) (p : Perform) (e : FrameId) :
    Run.result (do readVariable p (← Run.newFrame scope e) name) w =
      .error (.unknownName name) := by
  have hnew : Run.newFrame scope e w = .ok w.frames.size { w with
      frames := w.frames.push
        { scope := scope, caller := some e, table := w.tables.size, level := (w.frameAt e).level }
      tables := w.tables.push {} } := rfl
  unfold Run.result
  rw [Run.bind_of_ok hnew, readVariable_undeclared hd hne]
  · simp [World.slotsAt, World.frameAt]
    rfl
  · simp [World.frameAt]
    exact h

end

/-- What a parameter with a plain name stands for cannot be seen by the local variables, the
nested blocks and the functions of the module. They come to the same end for all its
values, and there the name is unknown unless a scope declares it. -/
theorem locals_ignore_parameter {w : World} (hw : w.Idle) {e : FrameId}
    (he : e < w.frames.size) {name : String} (hn : isDynamicName name = false) (hne : name ≠ "")
    {v v' : Value} (hv : v.plain = true) (hv' : v'.plain = true)
    (h : ∀ other, isDynamicName other = true → other ≠ "$children" → ∃ o, w.Answers other e o)
    (n m : Nat) :
    (∀ (scope : ScopeId) (body : Value), body.plain = true →
      SameEnd (define (performWith n) e (.expr scope body) (w.withSlot e name (.known v)))
        (define (performWith m) e (.expr scope body) (w.withSlot e name (.known v')))) ∧
    (∀ scope : ScopeId, SameEnd (buildScope (performWith n) e scope (w.withSlot e name (.known v)))
      (buildScope (performWith m) e scope (w.withSlot e name (.known v')))) ∧
    (∀ f : Value, f.isProgramFunction = true → f.plain = true → ∀ args : Args, args.plain = true →
      SameEnd (callValue (performWith n) e f args (w.withSlot e name (.known v)))
        (callValue (performWith m) e f args (w.withSlot e name (.known v')))) ∧
    ∀ scope : ScopeId, w.seek scope (Scope.findVar? name) = none →
      Run.result (do readVariable (performWith n) (← Run.newFrame scope e) name)
        (w.withSlot e name (.known v)) = .error (.unknownName name) := by
  have beside := hw.beside_withSlot he hn hv hv' h
  exact ⟨fun scope body hb => evalIn_sameEnd beside n m scope hb,
    fun scope => buildScope_sameEnd beside n m scope,
    fun f hf hp args ha => callValue_sameEnd beside n m hf hp ha,
    fun scope hs => readVariable_newFrame (w := w.withSlot e name (.known v)) hn hne hs _ e⟩

end Eval

def VarDef.isExpr : VarDef → Bool
  | .expr _ _ => true
  | .value _ => false

/-- A local variable of a program's first module, in a world where the module was called
from the top and its parameters are still to be set. -/
def Environment.insideCall (text name : String) : Run VarDef := do
  let env ← Environment.ofText text
  let _ ← Run.newFrame 3 env
  Run.lookupVar 3 name

/-- A local variable that is computed from the parameter. -/
theorem Eval.locals_ignore_parameter_sum : ∃ d w,
    Environment.insideCall "module m(p){t=p+1; cube(t,center=true);}" "t" {} = .ok d w ∧
    SameEnd (define perform 1 d (w.withSlot 1 "p" (.known (.int 2))))
      (define perform 1 d (w.withSlot 1 "p" (.known (.int 5)))) := by
  obtain ⟨d, w, hrun, htest⟩ := Run.passes_eq_true (w := {})
    (m := Environment.insideCall "module m(p){t=p+1; cube(t,center=true);}" "t")
    (t := fun d w => w.isIdle && w.frames.size == 2 && w.knownIn isDynamicName 0 1 &&
      d.isExpr && d.plain) (by decide +kernel)
  simp only [Bool.and_eq_true, beq_iff_eq] at htest
  obtain ⟨⟨⟨⟨hidle, hsize⟩, hknown⟩, hd⟩, hp⟩ := htest
  refine ⟨d, w, hrun, ?_⟩
  cases d with
  | value v => cases hd
  | expr scope body =>
    refine (locals_ignore_parameter (World.idle_of_isIdle hidle) (by rw [hsize]; decide)
      (by decide) (by decide) rfl rfl (fun name hn _ => ?_) _ _).1 scope body hp
    obtain ⟨o, -, ho⟩ := World.answers_of_knownIn hknown hn
    exact ⟨o, ho⟩

/-- The parameter of a module is missed by its local variable. -/
theorem Eval.parameter_missed : ∃ e w,
    (do perform (.build (← Environment.ofText
      "module m(p){t=p+1; cube(t,center=true);} m(2);")) : Run Value) {} = .error e w ∧
    e.faultClass = .key :=
  Run.failsWith_eq_true (by decide +kernel)

end Scad
