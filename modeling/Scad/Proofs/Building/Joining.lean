import Scad.Proofs.Scoping.Block

/-!
Built-in modules that join what their children build. The children have their turns in order,
and each is built at most once; what comes of it is joined at once to what there is so far. So
a union, a difference and an intersection are folds from the left over the shapes of the
children, and a child that fails is the last one to have a turn.
-/

namespace Scad

open Run

variable (sign : String) (p : Perform) (e : FrameId)

def Value.made? : Value → Option Record
  | .shape _ made => some made
  | _ => none

inductive Value.IsSolid : Value → Prop
  | undef : IsSolid .undef
  | shape (ident : Nat) (made : Record) : IsSolid (.shape ident made)

/-- A shape joined to what there is so far. -/
def Record.add : Option Record → Record → Option Record
  | none, r => some r
  | some s, r => some (.shape sign [s, r] [])

/-- Shapes joined from the left. -/
def Record.joined (rs : List Record) : Option Record := rs.foldl (add sign) none

theorem Record.foldl_add_ne_none (s : Record) (rs : List Record) :
    rs.foldl (add sign) (some s) ≠ none := by
  induction rs generalizing s with
  | nil => exact Option.some_ne_none s
  | cons r rs ih => exact ih _

namespace Eval

/-! ## Joining two results -/

structure Joining where
  join : Value → Value → Run Value
  /-- How the outcome is recorded, and the word for it in the trace. -/
  sign : String
  word : String
  /-- After a first child that is nothing the others are not looked at. -/
  stops : Bool
  join_shapes : ∀ i m k n, join (.shape i m) (.shape k n) = joinShapes sign m n

namespace Joining

def sum : Joining := ⟨Value.plus, "+", "_add", false, fun _ _ _ _ => rfl⟩

def remainder : Joining := ⟨Value.minus, "-", "_diff", true, fun _ _ _ _ => rfl⟩

def overlap : Joining := ⟨Value.common, "&", "_inter", false, fun _ _ _ _ => rfl⟩

variable {j : Joining} {p : Perform} {e : FrameId} {s s' r v : Value} {w w' w1 w2 : World}

/-- Join a new result to what there is so far; the outcome is traced. -/
def take (j : Joining) (p : Perform) (e : FrameId) : (soFar new : Value) → Run Value
  | soFar, .undef => return soFar
  | .undef, new => return new
  | soFar, new => do
    let both ← j.join soFar new
    trace p e [both, .str j.word, soFar, new] []
    return both

theorem take_shapes {i k : Nat} {m n : Record}
    (h : j.take p e (.shape i m) (.shape k n) w = .ok s w') :
    ∃ w1, j.join (.shape i m) (.shape k n) w = .ok s w1 ∧
      trace p e [s, .str j.word, .shape i m, .shape k n] [] w1 = .ok () w' ∧
      s = .shape w.fresh (.shape j.sign [m, n] []) := by
  obtain ⟨both, w1, hboth, h⟩ := bind_ok h
  obtain ⟨_, w2, htrace, hreturn⟩ := bind_ok h
  cases hreturn
  refine ⟨w1, hboth, htrace, ?_⟩
  rw [j.join_shapes] at hboth
  cases hboth
  rfl

/-- Shapes are joined to a shape, and whatever is joined to it later comes after both. -/
theorem take_solid (hs : s.IsSolid) (hr : r.IsSolid) (h : j.take p e s r w = .ok s' w') :
    s'.IsSolid ∧ ∀ rs : List Value, (rs.filterMap Value.made?).foldl (Record.add j.sign) s'.made? =
      ((r :: rs).filterMap Value.made?).foldl (Record.add j.sign) s.made? := by
  cases hs <;> cases hr
  case shape.shape =>
    obtain ⟨_, -, -, rfl⟩ := take_shapes h
    exact ⟨.shape _ _, fun _ => rfl⟩
  all_goals
    cases h
    exact ⟨by constructor, fun _ => rfl⟩

end Joining

/-! ## The turns of the children -/

def buildPart : Value → Run Value
  | .statement call child => buildStatement p e call child
  | .scope id => buildScope p e id
  | _ => throw .noAttribute

/-- The turn of a child: it is built, unless it has been built before. -/
inductive Turn (p : Perform) (e : FrameId) (i : Nat) (item : Value) (w : World) :
    Value → World → Prop
  | kept {v : Value} {w' : World} (h : childResult? e (.int i) w = .ok (some v) w') :
      Turn p e i item w v w'
  | built {v : Value} {w1 w2 w' : World} (hnone : childResult? e (.int i) w = .ok none w1)
      (hbuild : buildPart p e item w1 = .ok v w2)
      (hset : setChildResult e (.int i) v w2 = .ok () w') : Turn p e i item w v w'

section

variable {p : Perform} {e : FrameId} {i : Nat} {item v : Value} {w w' w1 w2 : World}

theorem buildChild_of_none (h : childResult? e (.int i) w = .ok none w1) :
    buildChild p e i item w = (do
      let v ← buildPart p e item
      setChildResult e (.int i) v
      return v) w1 := by
  refine (bind_of_ok h).trans ?_
  cases item <;> rfl

theorem buildChild_eq_ok : buildChild p e i item w = .ok v w' ↔ Turn p e i item w v w' := by
  constructor
  · intro h
    obtain ⟨o, w1, hresult, hrest⟩ := bind_ok h
    cases o with
    | some u =>
      cases hrest
      exact .kept hresult
    | none =>
      rw [buildChild_of_none hresult] at h
      obtain ⟨u, w2, hbuild, h⟩ := bind_ok h
      obtain ⟨_, w3, hset, h⟩ := bind_ok h
      cases h
      exact .built hresult hbuild hset
  · intro h
    cases h with
    | kept h => exact (bind_of_ok h).trans rfl
    | built hnone hbuild hset =>
      rw [buildChild_of_none hnone, bind_of_ok hbuild, bind_of_ok hset]
      rfl

theorem buildChild_of_error {fault : Fault} (h : childResult? e (.int i) w = .ok none w1)
    (hb : buildPart p e item w1 = .error fault w2) : buildChild p e i item w = .error fault w2 := by
  rw [buildChild_of_none h, bind_of_error hb]

end

/-- The turns of children in order; each result is joined to what there is so far. The turns
are numbered. -/
inductive Joining.Folds (j : Joining) (p : Perform) (e : FrameId) :
    Nat → Value → List Value → World → List Value → Value → World → Prop
  | nil {i : Nat} {s : Value} {w : World} : Folds j p e i s [] w [] s w
  | cons {i : Nat} {s r s1 s' item : Value} {items rs : List Value} {w w1 w2 w' : World}
      (hturn : Turn p e i item w r w1) (hsolid : r.IsSolid)
      (hgo : j.stops = true → s = .undef → r ≠ .undef) (htake : j.take p e s r w1 = .ok s1 w2)
      (hrest : Folds j p e (i + 1) s1 items w2 rs s' w') :
      Folds j p e i s (item :: items) w (r :: rs) s' w'

/-- A visit of the children that joins their results, with its own form of what there is so
far, and what it makes of the outcome. -/
structure Joining.Consumes {σ : Type} (j : Joining) (p : Perform) (e : FrameId)
    (f : σ → Value → Run (Visit σ)) (state : Value → σ) (finish : σ → Run Value)
    (complete : Value → Run Value) : Prop where
  visits : ∀ {s r s' w w'}, s.IsSolid → r.IsSolid → (j.stops = true → s = .undef → r ≠ .undef) →
    j.take p e s r w = .ok s' w' → f (state s) r w = .ok (.more (state s')) w'
  finishes : ∀ {s}, s.IsSolid → (j.stops = true → s ≠ .undef) → finish (state s) = complete s
  stops : j.stops = true → ∃ t, (∀ w, f (state .undef) .undef w = .ok (.stop t) w) ∧
    finish t = pure Value.undef

/-- A run that joins what the items of a block build, and completes the outcome. -/
structure Joining.Joins (j : Joining) (p : Perform) (e : FrameId) (complete : Value → Run Value)
    (items : List Value) (w : World) (x : EStateM.Result Fault World Value) : Prop where
  /-- All of them give a shape or nothing: the shapes are folded from the left. -/
  whole : ∀ {rs s w'}, j.Folds p e 0 .undef items w rs s w' →
    x = complete s w' ∧ s.IsSolid ∧ s.made? = Record.joined j.sign (rs.filterMap Value.made?)
  /-- The first one gives nothing, and that is all. -/
  first : ∀ {item rest w'}, j.stops = true → items = item :: rest →
    Turn p e 0 item w .undef w' → x = .ok .undef w'
  /-- One of them fails, and the later ones have no turn. -/
  failing : ∀ {before item after rs s w1 w2 fault w'}, items = before ++ item :: after →
    j.Folds p e 0 .undef before w rs s w1 →
    childResult? e (.int before.length) w1 = .ok none w2 →
    buildPart p e item w2 = .error fault w' → x = .error fault w'

section

variable {j : Joining} {p : Perform} {e : FrameId} {w w' w0 : World} {σ : Type}
  {f : σ → Value → Run (Visit σ)} {state : Value → σ} {finish : σ → Run Value}
  {complete : Value → Run Value} {s s' : Value} {i : Nat} {items rs : List Value}

/-- In the end there is the left fold of the shapes. -/
theorem Joining.Folds.made (h : j.Folds p e i s items w rs s' w') (hs : s.IsSolid) : s'.IsSolid ∧
    s'.made? = (rs.filterMap Value.made?).foldl (Record.add j.sign) s.made? := by
  induction h with
  | nil => exact ⟨hs, rfl⟩
  | cons _ hsolid _ htake _ ih =>
    obtain ⟨hs1, hmade⟩ := take_solid hs hsolid htake
    exact ⟨(ih hs1).1, (ih hs1).2.trans (hmade _)⟩

theorem Joining.Folds.ne_undef (h : j.Folds p e i .undef items w rs s' w') (hne : items ≠ [])
    (hj : j.stops = true) :
    s' ≠ .undef := by
  rintro rfl
  have hmade := (h.made .undef).2
  cases h with
  | nil => exact hne rfl
  | cons _ hsolid hgo _ _ =>
    cases hsolid with
    | undef => exact hgo hj rfl rfl
    | shape _ _ => exact Record.foldl_add_ne_none _ _ _ hmade.symm

namespace Joining.Consumes

theorem visitItems_of_folds (h : j.Consumes p e f state finish complete)
    (hf : j.Folds p e i s items w rs s' w') (hs : s.IsSolid) (rest : List Value) :
    visitItems p e f i (state s) (items ++ rest) w =
      visitItems p e f (i + items.length) (state s') rest w' := by
  induction hf with
  | nil => rfl
  | @cons i s r s1 s' item items rs w w1 w2 w' hturn hsolid hgo htake _ ih =>
    have hbuild := buildChild_eq_ok.2 hturn
    rw [List.cons_append, visitItems, bind_of_ok hbuild,
      bind_of_ok (h.visits hs hsolid hgo htake), List.length_cons, Nat.add_comm items.length,
      ← Nat.add_assoc]
    exact ih (take_solid hs hsolid htake).1

theorem joins_items (h : j.Consumes p e f state finish complete) (hne : items ≠ []) :
    j.Joins p e complete items w ((visitItems p e f 0 (state .undef) items >>= finish) w) where
  whole {rs s w'} hf := by
    refine ⟨?_, hf.made .undef⟩
    have hvisit := h.visitItems_of_folds hf .undef []
    rw [List.append_nil] at hvisit
    rw [bind_of_ok hvisit, h.finishes (hf.made .undef).1 (hf.ne_undef hne)]
  first {item rest w'} hj heq ht := by
    obtain ⟨t, hstop, hfinish⟩ := h.stops hj
    have hvisit : visitItems p e f 0 (state .undef) items w = .ok t w' := by
      rw [heq, visitItems, bind_of_ok (buildChild_eq_ok.2 ht), bind_of_ok (hstop w')]
      rfl
    rw [bind_of_ok hvisit, hfinish]
    rfl
  failing {before item after rs s w1 w2 fault w'} heq hf hnone hbuild := by
    have hchild := buildChild_of_error (p := p) hnone hbuild
    have hvisit : visitItems p e f 0 (state .undef) items w = .error fault w' := by
      rw [heq, h.visitItems_of_folds hf .undef (item :: after), Nat.zero_add, visitItems,
        bind_of_error hchild]
    exact bind_of_error hvisit

theorem joins (state : Value → σ) (h : j.Consumes p e f state finish complete) {id : ScopeId}
    {c : FrameId}
    (hchild : (w.frameAt e).child = some (.scope id)) (hc : childFrame e w = .ok c w0)
    (hne : (w0.scopeAt id).work ≠ []) : j.Joins p e complete (w0.scopeAt id).work w0
      ((visitChildren p e f (state .undef) >>= finish) w) := by
  have hvisit : visitChildren p e f (state .undef) w =
      visitItems p e f 0 (state .undef) (w0.scopeAt id).work w0 := by
    unfold visitChildren
    rw [frame_bind]
    simp only [hchild]
    rw [bind_of_ok hc]
    rfl
  rw [bind_congr hvisit]
  exact h.joins_items hne

end Joining.Consumes

end

/-! ## The modules -/

def BuiltinModule.joining? : BuiltinModule → Option Joining
  | .union | .translate | .rotate | .color => some .sum
  | .difference => some .remainder
  | .intersection => some .overlap
  | _ => none

/-- What a module makes of its joined children. -/
def BuiltinModule.complete : BuiltinModule → (args : List Value) → Value → Run Value
  | .intersection, _, .undef => throw .noAttribute
  | .intersection, _, s => Solid.method "clean" s []
  | .translate, [v], .shape i made => do
    let moved ← Solid.method "translate" (.shape i made) [v]
    trace p e [moved, .str "translate", v] [("_obj", .shape i made)]
    return moved
  | .rotate, [a, v], .shape i made => rotated p e a v (.shape i made)
  | _, _, s => return s

/-- The world in which a module begins with its children. -/
def BuiltinModule.begun : BuiltinModule → World → World
  | .color, w => { w with warnings := w.warnings.push "Color is not yet supported" }
  | _, w => w

theorem BuiltinModule.frameAt_begun (m : BuiltinModule) (w : World) (e : FrameId) :
    (begun m w).frameAt e = w.frameAt e := by
  cases m <;> rfl

theorem finish_length {filled : Table Value} {params : List (String × Option Value)}
    {vs : List Value} (h : Signature.finish filled params = .ok vs) :
    vs.length = params.length := by
  induction params generalizing vs with
  | nil =>
    cases h
    rfl
  | cons x params ih =>
    obtain ⟨name, standard⟩ := x
    unfold Signature.finish at h
    split at h
    · cases hrest : Signature.finish filled params with
      | error e =>
        rw [hrest] at h
        cases h
      | ok us =>
        rw [hrest] at h
        cases h
        rw [List.length_cons, List.length_cons, ih hrest]
    · cases h

theorem bind_length {s : Signature} {args : Args} {b : Bound} (h : s.bind args = .ok b) :
    b.values.length = s.params.length := by
  unfold Signature.bind at h
  simp only at h
  split at h
  · cases h
  · cases hfill : s.fillNamed ((s.params.map Prod.fst).zip args.positional) [] args.named with
    | error e =>
      rw [hfill] at h
      cases h
    | ok x =>
      cases hfinish : Signature.finish x.1 s.params with
      | error e =>
        rw [hfill] at h
        simp only [Except.bind, bind, hfinish] at h
        cases h
      | ok vs =>
        rw [hfill] at h
        simp only [Except.bind, bind, pure, Except.pure, hfinish] at h
        cases h
        exact finish_length hfinish

section

variable {p : Perform} {e : FrameId}

theorem unite_eq_take {s r : Value} (hs : s.IsSolid) (hr : r.IsSolid) :
    unite p e s r = Joining.sum.take p e s r := by
  cases hs <;> cases hr <;> rfl

theorem union_consumes {finish complete : Value → Run Value}
    (h : ∀ {s}, s.IsSolid → finish s = complete s) :
    Joining.sum.Consumes p e (fun soFar v => Visit.more <$> unite p e soFar v) id finish
      complete where
  visits {s r s' w w'} hs hr _ htake := by
    rw [← unite_eq_take hs hr] at htake
    simp only [Functor.map, EStateM.map, id, htake]
  finishes hs _ := h hs
  stops hj := by cases hj

def shape? : Value → Option Value
  | .undef => none
  | v => some v

end

/-- A module that joins its children is a visit of them. -/
theorem buildBuiltin_consumes {m : BuiltinModule} {j : Joining}
    (hj : BuiltinModule.joining? m = some j) {args : Args} {b : Bound}
    (hb : (BuiltinModule.signature m).bind args = .ok b) (p : Perform) (e : FrameId) :
    ∃ (σ : Type) (f : σ → Value → Run (Visit σ)) (state : Value → σ) (finish : σ → Run Value),
      j.Consumes p e f state finish (BuiltinModule.complete p e m b.values) ∧
      ∀ w, buildBuiltin p e m args w =
        (visitChildren p e f (state .undef) >>= finish) (BuiltinModule.begun m w) := by
  have hlift (w : World) : Run.lift ((BuiltinModule.signature m).bind args) w = .ok b w := by
    rw [hb]
    rfl
  have hlength := bind_length hb
  obtain ⟨values, others, named⟩ := b
  cases m with
  | union =>
    cases hj
    refine ⟨_, _, _, pure, union_consumes fun _ => rfl, fun w => (bind_of_ok (hlift w)).trans ?_⟩
    rw [bind_pure]
    rfl
  | difference =>
    cases hj
    refine ⟨_, _, shape?, _, ⟨?_, ?_, ?_⟩, fun w => bind_of_ok (hlift w)⟩
    · intro s r s' w w' hs hr hgo htake
      cases hs <;> cases hr
      case undef.undef => exact absurd rfl (hgo rfl rfl)
      case shape.shape =>
        obtain ⟨_, hjoin, htrace, rfl⟩ := Joining.take_shapes htake
        exact (bind_of_ok hjoin).trans (bind_of_ok htrace)
      all_goals
        cases htake
        rfl
    · intro s hs hne
      cases hs with
      | undef => exact absurd rfl (hne rfl)
      | shape _ _ => rfl
    · exact fun _ => ⟨some .undef, fun _ => rfl, rfl⟩
  | intersection =>
    cases hj
    refine ⟨_, _, fun s => s, _, ⟨?_, ?_, ?_⟩, fun w => bind_of_ok (hlift w)⟩
    · intro s r s' w w' hs hr _ htake
      cases hs <;> cases hr
      case shape.shape =>
        obtain ⟨_, hjoin, htrace, rfl⟩ := Joining.take_shapes htake
        exact (bind_of_ok hjoin).trans (bind_of_ok htrace)
      all_goals
        cases htake
        rfl
    · intro s hs _
      cases hs <;> rfl
    · exact fun hj => by cases hj
  | translate =>
    cases hj
    obtain ⟨v, rfl⟩ := List.length_eq_one_iff.1 hlength
    refine ⟨_, _, _, _, union_consumes fun hs => ?_, fun w => bind_of_ok (hlift w)⟩
    cases hs <;> rfl
  | rotate =>
    cases hj
    obtain ⟨a, v, rfl⟩ := List.length_eq_two.1 hlength
    refine ⟨_, _, _, _, union_consumes fun hs => ?_, fun w => bind_of_ok (hlift w)⟩
    cases hs <;> rfl
  | color =>
    cases hj
    refine ⟨_, _, _, pure, union_consumes fun _ => rfl, fun w => (bind_of_ok (hlift w)).trans ?_⟩
    rw [bind_pure]
    rfl
  | _ => cases hj

end Eval

/-- The turn of the first child after a program's first statement: what comes of it, and the
items of the block. -/
def Environment.firstTurn (id : ScopeId) : Run (Value × List Value) := do
  let _ ← Eval.childFrame 1
  let work := (← scope id).work
  return (← Eval.buildChild Eval.perform 1 0 (work.getD 0 .undef), work)

/-- The turns of the first two children, and their results joined. -/
def Environment.twoTurns (j : Eval.Joining) (id : ScopeId) : Run (Value × Value × Nat) := do
  let first ← firstTurn id
  let second ← Eval.buildChild Eval.perform 1 1 (first.2.getD 1 .undef)
  let _ ← j.take Eval.perform 1 first.1 second
  return (first.1, second, first.2.length)

theorem Environment.firstTurn_eq_ok {id : ScopeId} {v : Value} {work : List Value} {w w' : World}
    (h : firstTurn id w = .ok (v, work) w') : ∃ c w₀, Eval.childFrame 1 w = .ok c w₀ ∧
      Eval.buildChild Eval.perform 1 0 (work.getD 0 .undef) w₀ = .ok v w' ∧
      work = (w₀.scopeAt id).work := by
  obtain ⟨c, w₀, hc, h⟩ := Run.bind_ok h
  obtain ⟨scope, w₁, hscope, h⟩ := Run.bind_ok h
  cases hscope
  obtain ⟨u, w₂, hbuild, h⟩ := Run.bind_ok h
  cases h
  exact ⟨c, w₀, hc, hbuild, rfl⟩

theorem Value.isSolid_of_made {v : Value} (h : v.made?.isSome = true) : v.IsSolid ∧ v ≠ .undef := by
  cases v <;> cases h
  exact ⟨.shape _ _, fun h => by cases h⟩

end Scad
