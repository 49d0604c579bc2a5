import Scad.Proofs.Building.Joining
import Scad.Proofs.Scoping.Rounds

/-!
What a loop over several variables builds. The values are taken one by one, the last variable
outermost, so the block is built once for each choice of values, and the shapes are joined in
that order. A loop looks again at what a variable runs through whenever the variable comes to
its turn; this is about loops that find the same each time, so that all they do can be planned.
-/

namespace Scad

open Run

namespace Eval
namespace Loop

/-! ## The plan of a loop -/

abbrev Row := List (String × Value)

/-- A loop variable and the values that it takes: the items of a tuple or a list, or the whole
numbers from one bound of a range to the other. -/
inductive Clause
  | items (name : String) (stepper : Value) (values : List Value)
  | range (name : String) (ident : Nat) (start stop : Value) (first last : Int)

/-- One thing that a loop does. -/
inductive Action
  /-- The bounds of a range are computed, with these values of the variables further out. -/
  | bounds (row : Row) (start stop : Value) (first last : Int)
  | set (name : String) (v : Value)
  /-- The block is built, with these values of the loop variables. -/
  | round (row : Row)

namespace Clause

def entry : Clause → String × Value
  | items name stepper _ => (name, stepper)
  | range name ident start stop _ _ => (name, .range ident start stop (.int 1))

def name (c : Clause) : String := c.entry.1

def values : Clause → List Value
  | items _ _ values => values
  | range _ _ _ _ first last => countUp first (last + 1)

def opening (row : Row) : Clause → List Action
  | items .. => []
  | range _ _ start stop first last => [.bounds row start stop first last]

end Clause

/-- What a loop does if each variable takes its values, the first variable outermost. -/
def plan (chosen : Row) : List Clause → List Action
  | [] => [.round chosen]
  | c :: rest => c.opening chosen ++
    c.values.flatMap fun v => .set c.name v :: plan ((c.name, v) :: chosen) rest

/-- All choices of values that go on from one for the variables further out. The first variable
changes last. -/
def rows (chosen : Row) : List Clause → List Row
  | [] => [chosen]
  | c :: rest => c.values.flatMap fun v => rows ((c.name, v) :: chosen) rest

namespace Action

def row? : Action → Option Row
  | round row => some row
  | _ => none

def act (l : Loop) (p : Perform) (s : Value) : Action → Run Value
  | bounds _ start stop _ _ => do
    let _ ← rangeItems p l.env start stop (.int 1)
    return s
  | set name v => do
    l.setVariable name v
    return s
  | round _ => l.round p s

end Action

theorem rows_of_plan (chosen : Row) (cs : List Clause) :
    (plan chosen cs).filterMap Action.row? = rows chosen cs := by
  induction cs generalizing chosen with
  | nil => rfl
  | cons c cs ih =>
    have hopening : (c.opening chosen).filterMap Action.row? = [] := by cases c <;> rfl
    rw [plan, rows, List.filterMap_append, hopening, List.nil_append, List.filterMap_flatMap]
    exact congrArg c.values.flatMap (funext fun v => ih _)

theorem length_rows (chosen : Row) (cs : List Clause) :
    (rows chosen cs).length = cs.foldr (fun c n => c.values.length * n) 1 := by
  induction cs generalizing chosen with
  | nil => rfl
  | cons c cs ih =>
    simp only [rows, List.length_flatMap, ih, List.map_const', List.sum_replicate_nat,
      List.foldr_cons]

/-- The loop variables have chosen values. -/
def Has (l : Loop) (row : Row) (w : World) : Prop :=
  ∀ e ∈ row, l.held? w e.1 = some (.value e.2)

/-- A plan is carried out, and a block is built for each row of it, with the values of the row.
What is built is joined at once to what there is so far. A fault is the end. -/
inductive Builds (l : Loop) (p : Perform) :
    List Action → Value → World → List Value → EStateM.Result Fault World Value → Prop
  | done {s w} : Builds l p [] s w [] (.ok s w)
  | prepare {a rest s w w1 rs o} (ha : a.row? = none) (hact : a.act l p s w = .ok s w1)
      (hrest : Builds l p rest s w1 rs o) : Builds l p (a :: rest) s w rs o
  | round {row rest s r s1 w w1 w2 rs o} (hrow : l.Has row w)
      (hbuild : buildScope p l.inner l.body w = .ok r w1)
      (hjoin : unite p l.env s r w1 = .ok s1 w2) (hrest : Builds l p rest s1 w2 rs o) :
      Builds l p (.round row :: rest) s w (r :: rs) o
  | fails {a rest s w w1 fault} (hrow : ∀ row ∈ a.row?, l.Has row w)
      (hact : a.act l p s w = .error fault w1) : Builds l p (a :: rest) s w [] (.error fault w1)

section

variable {l : Loop} {p : Perform} {s s1 s' : Value} {w w1 w' : World} {rs rs' : List Value}
  {before more : List Action} {o : EStateM.Result Fault World Value}

/-- A plan that comes to its end has one result for each row, and the sum of those that are
shapes. -/
theorem Builds.made (h : l.Builds p more s w rs (.ok s' w')) :
    rs.length = (more.filterMap Action.row?).length ∧ (s.IsSolid → (∀ r ∈ rs, r.IsSolid) →
      s'.IsSolid ∧ s'.made? = (rs.filterMap Value.made?).foldl (Record.add "+") s.made?) := by
  generalize ho : EStateM.Result.ok s' w' = o at h
  induction h with
  | done =>
    cases ho
    exact ⟨rfl, fun hs _ => ⟨hs, rfl⟩⟩
  | prepare ha _ _ ih =>
    rw [List.filterMap_cons_none ha]
    exact ih ho
  | round _ _ hjoin _ ih =>
    obtain ⟨hlength, hmade⟩ := ih ho
    refine ⟨congrArg (· + 1) hlength, fun hs hrs => ?_⟩
    obtain ⟨hr, hrs⟩ := List.forall_mem_cons.1 hrs
    rw [unite_eq_take hs hr] at hjoin
    obtain ⟨hs1, hadd⟩ := Joining.take_solid hs hr hjoin
    exact ⟨(hmade hs1 hrs).1, (hmade hs1 hrs).2.trans (hadd _)⟩
  | fails => cases ho

theorem Builds.append (h : l.Builds p before s w rs (.ok s1 w1))
    (h' : l.Builds p more s1 w1 rs' o) : l.Builds p (before ++ more) s w (rs ++ rs') o := by
  generalize hx : EStateM.Result.ok s1 w1 = x at h
  induction h with
  | done =>
    cases hx
    exact h'
  | prepare ha hact _ ih => exact .prepare ha hact (ih hx)
  | round hrow hbuild hjoin _ ih => exact .round hrow hbuild hjoin (ih hx)
  | fails => cases hx

theorem Builds.append_of_error {fault : Fault} (h : l.Builds p before s w rs (.error fault w1))
    (more : List Action) : l.Builds p (before ++ more) s w rs (.error fault w1) := by
  generalize hx : EStateM.Result.error fault w1 = x at h ⊢
  induction h with
  | done => cases hx
  | prepare ha hact _ ih => exact .prepare ha hact (ih hx)
  | round hrow hbuild hjoin _ ih => exact .round hrow hbuild hjoin (ih hx)
  | fails hrow hact => exact .fails hrow hact

/-! ## Loops that find the same each time -/

/-- The values of the variable are what the loop finds. -/
def Clause.Found (w : World) : Clause → Prop
  | items _ v vs => v = .tuple vs ∨ v.listItems? w = .ok (some vs) w
  | range .. => True

/-- The bounds are what the plan says, and neither they nor the block change the variables of
the loop. -/
def Action.Steady (l : Loop) (p : Perform) (s : Value) (w : World) : Action → Prop
  | bounds row start stop first last => ∀ v w1, p (.eval l.env start) w = .ok v w1 →
      v = .int first ∧ ∀ u w2, p (.eval l.env stop) w1 = .ok u w2 →
        u = .int last ∧ (l.Has row w → l.Has row w2)
  | set .. => True
  | round row => ∀ s' w', l.round p s w = .ok s' w' → l.Has row w → l.Has row w'

/-- All along the plan the variables run through the same values. -/
def Steady (l : Loop) (p : Perform) (cs : List Clause) : List Action → Value → World → Prop
  | [], _, w => ∀ c ∈ cs, c.Found w
  | a :: rest, s, w => (∀ c ∈ cs, c.Found w) ∧ a.Steady l p s w ∧
    ∀ s' w', a.act l p s w = .ok s' w' → Steady l p cs rest s' w'

variable {cs : List Clause}

theorem Steady.found (h : l.Steady p cs more s w) : ∀ c ∈ cs, c.Found w := by
  cases more with
  | nil => exact h
  | cons a rest => exact h.1

theorem Steady.left (h : l.Steady p cs (before ++ more) s w) : l.Steady p cs before s w := by
  induction before generalizing s w with
  | nil => exact h.found
  | cons a rest ih => exact ⟨h.1, h.2.1, fun s' w' hact => ih (h.2.2 s' w' hact)⟩

variable (hl : l.intersect = false)

include hl

theorem round_of_build {r : Value} {w2 : World}
    (hbuild : buildScope p l.inner l.body w = .ok r w1) (hjoin : unite p l.env s r w1 = .ok s1 w2) :
    l.round p s w = .ok s1 w2 := by
  refine (bind_of_ok hbuild).trans ?_
  rw [hl]
  exact hjoin

theorem Steady.right (h : l.Steady p cs (before ++ more) s w)
    (hbuilds : l.Builds p before s w rs (.ok s1 w1)) : l.Steady p cs more s1 w1 := by
  generalize hx : EStateM.Result.ok s1 w1 = x at hbuilds
  induction hbuilds with
  | done =>
    cases hx
    exact h
  | prepare _ hact _ ih => exact ih (h.2.2 _ _ hact) hx
  | round _ hbuild hjoin _ ih => exact ih (h.2.2 _ _ (round_of_build hl hbuild hjoin)) hx
  | fails => cases hx

/-- A part of a loop carries out a part of the plan and leaves the variables further out alone. -/
structure Lasts (l : Loop) (p : Perform) (chosen : Row) (part : List Action) (s : Value)
    (w : World) (o : EStateM.Result Fault World Value) : Prop where
  builds : ∃ rs, l.Builds p part s w rs o
  goes : ∀ {s' w'}, o = .ok s' w' → l.Has chosen w'

variable {chosen : Row} {y : String} {v : Value}

theorem Steady.round_lasts (h : l.Steady p cs [.round chosen] s w) (hhas : l.Has chosen w) :
    l.Lasts p chosen [.round chosen] s w (l.round p s w) := by
  cases hround : l.round p s w with
  | error fault w1 =>
    refine ⟨⟨[], .fails (fun row hrow => ?_) hround⟩, fun h => by cases h⟩
    cases hrow
    exact hhas
  | ok s' w' =>
    obtain ⟨r, w1, hbuild, hjoin⟩ := bind_ok hround
    rw [hl] at hjoin
    refine ⟨⟨[r], .round hhas hbuild hjoin .done⟩, fun h => ?_⟩
    cases h
    exact h.2.1 _ _ hround hhas

theorem Steady.next_lasts (hfresh : ∀ e ∈ chosen, e.1 ≠ y) {inner k : Value → Run Value}
    (h : l.Steady p cs (.set y v :: before ++ more) s w)
    (hinner : ∀ {w}, l.Steady p cs before s w → l.Has ((y, v) :: chosen) w →
      l.Lasts p ((y, v) :: chosen) before s w (inner s w))
    (hk : ∀ {s1 w1}, l.Steady p cs more s1 w1 → l.Has chosen w1 →
      l.Lasts p chosen more s1 w1 (k s1 w1)) (hhas : l.Has chosen w) :
    l.Lasts p chosen (.set y v :: before ++ more) s w ((do
      l.setVariable y v
      let s1 ← inner s
      k s1) w) := by
  cases hset : l.setVariable y v w with
  | error fault w1 =>
    rw [bind_of_error hset]
    exact ⟨⟨[], .fails (fun _ h => by cases h) (bind_of_error hset)⟩, fun h => by cases h⟩
  | ok _ w1 =>
    rw [bind_of_ok hset]
    have hact : Action.act l p s (.set y v) w = .ok s w1 := bind_of_ok hset
    have hsteady := h.2.2 _ _ hact
    obtain ⟨hself, hothers⟩ := held?_of_setVariable hset
    have hhas1 : l.Has ((y, v) :: chosen) w1 := by
      refine List.forall_mem_cons.2 ⟨hself, fun e he => ?_⟩
      exact (hothers e.1 (hfresh e he)).trans (hhas e he)
    obtain ⟨⟨rs, hbuilds⟩, hgoes⟩ := hinner hsteady.left hhas1
    cases hx : inner s w1 with
    | error fault w2 =>
      rw [hx] at hbuilds
      rw [bind_of_error hx]
      exact ⟨⟨rs, .prepare rfl hact (hbuilds.append_of_error more)⟩, fun h => by cases h⟩
    | ok s1 w2 =>
      rw [hx] at hbuilds
      have hhas2 := (List.forall_mem_cons.1 (hgoes hx)).2
      obtain ⟨⟨rs', hrest⟩, hgoes'⟩ := hk (hsteady.right hl hbuilds) hhas2
      rw [bind_of_ok hx]
      exact ⟨⟨rs ++ rs', .prepare rfl hact (hbuilds.append hrest)⟩, hgoes'⟩

section

variable {inner : Value → Run Value} {part : Value → List Action}
  (hfresh : ∀ e ∈ chosen, e.1 ≠ y)
  (hinner : ∀ {v s w}, l.Steady p cs (part v) s w → l.Has ((y, v) :: chosen) w →
    l.Lasts p ((y, v) :: chosen) (part v) s w (inner s w))

include hfresh hinner

theorem Steady.overItems_lasts {vs : List Value}
    (h : l.Steady p cs (vs.flatMap fun v => .set y v :: part v) s w) (hhas : l.Has chosen w) :
    l.Lasts p chosen (vs.flatMap fun v => .set y v :: part v) s w (overItems (fun s v => do
      l.setVariable y v
      inner s) vs s w) := by
  induction vs generalizing s w with
  | nil => exact ⟨⟨[], .done⟩, fun h => by cases h; exact hhas⟩
  | cons v vs ih =>
    rw [overItems, bind_assoc, List.flatMap_cons]
    rw [List.flatMap_cons] at h
    exact h.next_lasts hl hfresh hinner ih hhas

theorem Steady.overList_lasts {u : Value} {vs : List Value} {x : String}
    (hu : .items x u vs ∈ cs) (hlist : ∀ vs, u ≠ .tuple vs) {fuel i : Nat} (hi : i ≤ vs.length)
    (hfuel : vs.length < fuel + i)
    (h : l.Steady p cs ((vs.drop i).flatMap fun v => .set y v :: part v) s w)
    (hhas : l.Has chosen w) :
    l.Lasts p chosen ((vs.drop i).flatMap fun v => .set y v :: part v) s w
      (overList (do return (← u.listItems?).getD []) (fun s v => do
        l.setVariable y v
        inner s) fuel i s w) := by
  induction fuel generalizing i s w with
  | zero => omega
  | succ fuel ih =>
    have hitems : (do return (← u.listItems?).getD [] : Run (List Value)) w = .ok vs w :=
      bind_of_ok ((h.found _ hu).resolve_left (hlist vs))
    rw [overList, bind_of_ok hitems]
    cases hv : vs[i]? with
    | none =>
      rw [List.drop_eq_nil_of_le (List.getElem?_eq_none_iff.1 hv)]
      exact ⟨⟨[], .done⟩, fun h => by cases h; exact hhas⟩
    | some v =>
      obtain ⟨hlt, rfl⟩ := List.getElem?_eq_some_iff.1 hv
      rw [List.drop_eq_getElem_cons hlt, List.flatMap_cons] at h ⊢
      dsimp only
      rw [bind_assoc]
      exact h.next_lasts hl hfresh hinner (fun h hhas => ih hlt (by omega) h hhas) hhas

end

omit hl in
theorem run_over {x : String} {u : Value} {vs : List Value} {rest : List (String × Value)}
    (hu : u.listItems? w = .ok (some vs) w) :
    l.run p ((x, u) :: rest) s w = overList (do return (← u.listItems?).getD []) (fun s v => do
      l.setVariable x v
      l.run p rest s) (vs.length + Node.growthLimit) 0 s w := by
  cases u with
  | tuple _ | range _ _ _ _ => cases hu
  | _ => exact bind_of_ok hu

omit hl in
theorem rangeItems_eq_ok {env : FrameId} {start stop : Value} {vs : List Value}
    (h : rangeItems p env start stop (.int 1) w = .ok vs w') :
    ∃ v w1 u w2, p (.eval env start) w = .ok v w1 ∧ p (.eval env stop) w1 = .ok u w2 ∧
      ∀ first last, v = .int first → u = .int last → vs = countUp first (last + 1) ∧ w' = w2 := by
  obtain ⟨_, _, hstep, h⟩ := bind_ok h
  cases hstep
  obtain ⟨v, w1, hv, h⟩ := bind_ok h
  obtain ⟨u, w2, hu, h⟩ := bind_ok h
  refine ⟨v, w1, u, w2, hv, hu, ?_⟩
  rintro first last rfl rfl
  cases h
  exact ⟨rfl, rfl⟩

/-- The loop over some of the variables, with values chosen for those further out. -/
theorem Steady.run_lasts {some : List Clause} (hsome : ∀ c ∈ some, c ∈ cs)
    (hnodup : (some.map Clause.name).Nodup) (hc : ∀ e ∈ chosen, e.1 ∉ some.map Clause.name)
    (h : l.Steady p cs (plan chosen some) s w) (hhas : l.Has chosen w) :
    l.Lasts p chosen (plan chosen some) s w (l.run p (some.map Clause.entry) s w) := by
  induction some generalizing chosen s w with
  | nil => exact h.round_lasts hl hhas
  | cons c some ih =>
    obtain ⟨hmem, hsome⟩ := List.forall_mem_cons.1 hsome
    obtain ⟨hnew, hnodup⟩ := List.nodup_cons.1 hnodup
    have hfresh : ∀ e ∈ chosen, e.1 ≠ c.name := fun e he heq =>
      hc e he (List.mem_cons.2 (.inl heq))
    have hinner : ∀ {v s w}, l.Steady p cs (plan ((c.name, v) :: chosen) some) s w →
        l.Has ((c.name, v) :: chosen) w → l.Lasts p ((c.name, v) :: chosen)
          (plan ((c.name, v) :: chosen) some) s w (l.run p (some.map Clause.entry) s w) := by
      refine ih hsome hnodup (List.forall_mem_cons.2 ⟨hnew, fun e he hin => ?_⟩)
      exact hc e he (List.mem_cons_of_mem _ hin)
    cases c with
    | items x u vs =>
      rw [plan, Clause.opening, List.nil_append] at h ⊢
      rcases h.found _ hmem with rfl | hu
      · exact h.overItems_lasts hl hfresh hinner hhas
      · have hlist (vs : List Value) : u ≠ .tuple vs := by
          rintro rfl
          cases hu
        rw [List.map_cons, Clause.entry, run_over hu]
        exact h.overList_lasts hl hfresh hinner hmem hlist (i := 0) (Nat.zero_le _)
          (Nat.lt_add_of_pos_right (by decide)) hhas
    | range x i start stop first last =>
      rw [plan, Clause.opening, List.singleton_append] at h ⊢
      cases hitems : rangeItems p l.env start stop (.int 1) w with
      | error fault w1 =>
        have hrun : l.run p (List.map Clause.entry (.range x i start stop first last :: some)) s w =
            .error fault w1 := bind_of_error hitems
        rw [hrun]
        exact ⟨⟨[], .fails (fun _ h => by cases h) (bind_of_error hitems)⟩, fun h => by cases h⟩
      | ok vs w1 =>
        obtain ⟨v, w2, u, w3, hv, hu, hvs⟩ := rangeItems_eq_ok hitems
        obtain ⟨rfl, hstop⟩ := h.2.1 v w2 hv
        obtain ⟨rfl, hkeeps⟩ := hstop u w3 hu
        obtain ⟨rfl, rfl⟩ := hvs first last rfl rfl
        have hact : Action.act l p s (.bounds chosen start stop first last) w = .ok s w1 :=
          bind_of_ok hitems
        obtain ⟨⟨rs, hbuilds⟩, hgoes⟩ :=
          (h.2.2 _ _ hact).overItems_lasts hl hfresh hinner (hkeeps hhas)
        rw [List.map_cons, Clause.entry, run, bind_of_ok hitems]
        exact ⟨⟨rs, .prepare rfl hact hbuilds⟩, hgoes⟩

end

def started (w : World) (e : FrameId) (body : ScopeId) : Loop := ⟨e, body, w.frames.size, false⟩

end Loop

/-! ## The module -/

theorem fillNamed_of_others {s : Signature} (hs : s.named = true) {named : List (String × Value)}
    (h : ∀ e ∈ named, s.params.any (·.1 == e.1) = false) (filled : Table Value)
    (left : List (String × Value)) : s.fillNamed filled left named =
      .ok (filled, left ++ named) := by
  induction named generalizing left with
  | nil => rw [List.append_nil, Signature.fillNamed]
  | cons e named ih =>
    obtain ⟨he, h⟩ := List.forall_mem_cons.1 h
    rw [Signature.fillNamed, he, if_neg Bool.false_ne_true, if_pos hs, ih h, List.append_assoc]
    rfl

theorem bind_for {named : List (String × Value)} (h : "_intersect" ∉ named.map Prod.fst) :
    (BuiltinModule.signature .for).bind ⟨[], named⟩ = .ok ⟨[.bool false], [], named⟩ := by
  have hothers : ∀ e ∈ named,
      (BuiltinModule.signature .for).params.any (·.1 == e.1) = false := by
    intro e he
    have hne : "_intersect" ≠ e.1 := fun heq => h (List.mem_map.2 ⟨e, he, heq.symm⟩)
    simpa [BuiltinModule.signature] using hne
  unfold Signature.bind
  simp only [fillNamed_of_others rfl hothers]
  rfl

/-- A loop builds its block once for each choice of values, the last variable changing slowest,
and gives the sum of the shapes in that order. A block that fails is the last one to be built. -/
theorem for_builds_product (cs : List Loop.Clause) (hne : cs ≠ [])
    (hnames : (cs.map Loop.Clause.name).Nodup) (hplain : "_intersect" ∉ cs.map Loop.Clause.name)
    {w : World} {e : FrameId} {body : ScopeId} (hchild : (w.frameAt e).child = some (.scope body))
    {p : Perform} (hsteady : (Loop.started w e body).Steady p cs (Loop.plan [] cs.reverse) .undef
      (entered w body e)) :
    (Loop.plan [] cs.reverse).filterMap Loop.Action.row? = Loop.rows [] cs.reverse ∧
    ∃ rs, (Loop.started w e body).Builds p (Loop.plan [] cs.reverse) .undef (entered w body e) rs
        (buildBuiltin p e .for ⟨[], cs.map Loop.Clause.entry⟩ w) ∧
      ∀ s w', buildBuiltin p e .for ⟨[], cs.map Loop.Clause.entry⟩ w = .ok s w' →
        rs.length = cs.foldl (fun n c => c.values.length * n) 1 ∧
        ((∀ r ∈ rs, r.IsSolid) →
          s.IsSolid ∧ s.made? = Record.joined "+" (rs.filterMap Value.made?)) := by
  have hmodule : buildBuiltin p e .for ⟨[], cs.map Loop.Clause.entry⟩ w =
      (Loop.started w e body).run p (cs.reverse.map Loop.Clause.entry) .undef
        (entered w body e) := by
    have hlift : Run.lift ((BuiltinModule.signature .for).bind ⟨[], cs.map Loop.Clause.entry⟩) w =
        .ok ⟨[.bool false], [], cs.map Loop.Clause.entry⟩ w := by
      rw [bind_for (by rwa [List.map_map])]
      rfl
    have hframe : Run.frame e w = .ok (w.frameAt e) w := rfl
    refine (Run.bind_of_ok hlift).trans ?_
    change forModule p e (.bool false) (cs.map Loop.Clause.entry) w = _
    unfold forModule
    rw [if_neg (by simpa using hne)]
    refine (Run.bind_of_ok hframe).trans ?_
    rw [hchild, List.map_reverse]
    rfl
  have hnames : (cs.reverse.map Loop.Clause.name).Nodup := by
    rw [List.map_reverse]
    exact List.pairwise_reverse.2 (hnames.imp Ne.symm)
  obtain ⟨⟨rs, hbuilds⟩, -⟩ := hsteady.run_lasts rfl (fun c hc => List.mem_reverse.1 hc)
    hnames (List.forall_mem_nil _) (List.forall_mem_nil _)
  rw [hmodule]
  refine ⟨Loop.rows_of_plan [] _, rs, hbuilds, fun s w' h => ?_⟩
  rw [h] at hbuilds
  obtain ⟨hlength, hmade⟩ := hbuilds.made
  rw [hlength, Loop.rows_of_plan, Loop.length_rows, List.foldr_reverse]
  exact ⟨rfl, hmade .undef⟩

/-! ## A loop over a list and a range -/

namespace Loop

/-- Are the values the same whole numbers? -/
def sameNumbers : List Value → List Value → Bool
  | [], [] => true
  | .int m :: us, .int n :: vs => m == n && sameNumbers us vs
  | _, _ => false

theorem eq_of_sameNumbers {us vs : List Value} (h : sameNumbers us vs = true) : us = vs := by
  induction us, vs using sameNumbers.induct with
  | case1 => rfl
  | case2 m us n vs ih =>
    rw [sameNumbers, Bool.and_eq_true, beq_iff_eq] at h
    rw [h.1, ih h.2]
  | case3 us vs hnil hcons =>
    rw [sameNumbers.eq_3 us vs hnil hcons] at h
    cases h

def holds (l : Loop) (row : Row) (w : World) : Bool :=
  row.all fun e => (l.held? w e.1).any fun
    | .value v => sameNumbers [v] [e.2]
    | .expr .. => false

def Clause.finds (w : World) : Clause → Bool
  | items _ (.list cell) vs => sameNumbers (w.lists.getD cell []) vs
  | items .. => false
  | range .. => true

def Action.isSteady (l : Loop) (p : Perform) (s : Value) (w : World) : Action → Bool
  | bounds row start stop first last =>
    match p (.eval l.env start) w with
    | .error .. => true
    | .ok v w1 => sameNumbers [v] [.int first] &&
      match p (.eval l.env stop) w1 with
      | .error .. => true
      | .ok u w2 => sameNumbers [u] [.int last] && l.holds row w2
  | set .. => true
  | round row =>
    match l.round p s w with
    | .error .. => true
    | .ok _ w' => l.holds row w'

def isSteady (l : Loop) (p : Perform) (cs : List Clause) : List Action → Value → World → Bool
  | [], _, w => cs.all (·.finds w)
  | a :: rest, s, w => cs.all (·.finds w) && a.isSteady l p s w &&
    match a.act l p s w with
    | .error .. => true
    | .ok s' w' => isSteady l p cs rest s' w'

variable {l : Loop} {p : Perform} {w : World} {s : Value}

theorem has_of_holds {row : Row} (h : l.holds row w = true) : l.Has row w := by
  intro e he
  obtain ⟨d, hd, hv⟩ := (Option.any_eq_true _ _).1 (List.all_eq_true.1 h e he)
  cases d with
  | value v =>
    cases eq_of_sameNumbers hv
    exact hd
  | expr => cases hv

theorem found_of_finds {c : Clause} (h : c.finds w = true) : c.Found w := by
  cases c with
  | items x v vs =>
    cases v with
    | list cell =>
      exact .inr (congrArg (fun vs => EStateM.Result.ok (some vs) w) (eq_of_sameNumbers h))
    | _ => cases h
  | range => trivial

theorem Action.steady_of_isSteady {a : Action} (h : a.isSteady l p s w = true) :
    a.Steady l p s w := by
  cases a with
  | set => trivial
  | round row =>
    intro s' w' hround _
    rw [isSteady, hround] at h
    exact has_of_holds h
  | bounds row start stop first last =>
    intro v w1 hv
    rw [isSteady, hv] at h
    obtain ⟨hfirst, hstop⟩ := (Bool.and_eq_true _ _).mp h
    cases eq_of_sameNumbers hfirst
    refine ⟨rfl, fun u w2 hu => ?_⟩
    rw [hu] at hstop
    obtain ⟨hlast, hrow⟩ := (Bool.and_eq_true _ _).mp hstop
    cases eq_of_sameNumbers hlast
    exact ⟨rfl, fun _ => has_of_holds hrow⟩

theorem steady_of_isSteady {cs : List Clause} {as : List Action}
    (h : l.isSteady p cs as s w = true) : l.Steady p cs as s w := by
  induction as generalizing s w with
  | nil => exact fun c hc => found_of_finds (List.all_eq_true.1 h c hc)
  | cons a rest ih =>
    rw [isSteady, Bool.and_eq_true, Bool.and_eq_true] at h
    obtain ⟨⟨hfinds, ha⟩, hrest⟩ := h
    refine ⟨fun c hc => found_of_finds (List.all_eq_true.1 hfinds c hc),
      Action.steady_of_isSteady ha, fun s' w' hact => ?_⟩
    rw [hact] at hrest
    exact ih hrest

/-- The clauses of a loop over a range, which is to be from 5 to 6, and a list, which is to have
the items 1 and 2. -/
def twoClauses : List (String × Value) → List Clause
  | [(x, .range i start stop (.int 1)), (y, .list cell)] =>
    [.range x i start stop 5 6, .items y (.list cell) [.int 1, .int 2]]
  | _ => []

theorem entries_of_twoClauses {entries : List (String × Value)} (h : twoClauses entries ≠ []) :
    (twoClauses entries).map Clause.entry = entries := by
  unfold twoClauses at h ⊢
  split at h
  · rfl
  · exact absurd rfl h

end Loop

end Eval

/-- The block of a loop that is the first statement of a program, and what its variables run
through. -/
def Environment.loopOfFirst (text : String) : Run (ScopeId × Args) := do
  let body ← Environment.blockOfFirst text
  match (← scope 2).work with
  | .statement call _ :: _ =>
    return (body, ← Eval.argumentsAt Eval.perform (fun t => Eval.perform (.eval 1 t)) false 2
      (.code call))
  | _ => throw .malformed

/-- Four boxes. The size of each is read from the loop variables. -/
theorem Eval.for_builds_product_boxes : ∃ (cs : List Loop.Clause) (body : ScopeId) (w : World),
    Environment.loopOfFirst "for(i=[5:6],j=[1,2]){cube([i,j,1],center=true);}" {} =
      .ok (body, ⟨[], cs.map Loop.Clause.entry⟩) w ∧
    ∃ rs s w', (Loop.started w 1 body).Builds perform (Loop.plan [] cs.reverse) .undef
      (entered w body 1) rs (.ok s w') ∧
    buildBuiltin perform 1 .for ⟨[], cs.map Loop.Clause.entry⟩ w = .ok s w' ∧
    rs.length = 4 := by
  obtain ⟨⟨body, args⟩, w, hload, htest⟩ := Run.passes_eq_true (w := {})
    (m := Environment.loopOfFirst "for(i=[5:6],j=[1,2]){cube([i,j,1],center=true);}")
    (t := fun x w => x.2.positional.isEmpty && (w.frameAt 1).child.any (Value.isScope x.1) &&
      (Loop.twoClauses x.2.named).map Loop.Clause.name == ["i", "j"] &&
      (Loop.twoClauses x.2.named).map (·.values.length) == [2, 2] &&
      (Loop.started w 1 x.1).isSteady perform (Loop.twoClauses x.2.named)
        (Loop.plan [] (Loop.twoClauses x.2.named).reverse) .undef (entered w x.1 1) &&
      (buildBuiltin perform 1 .for x.2).succeeds w) (by decide +kernel)
  obtain ⟨positional, named⟩ := args
  simp only [Bool.and_eq_true, beq_iff_eq, Option.any_eq_true, List.isEmpty_iff] at htest
  obtain ⟨⟨⟨⟨⟨rfl, v, hv, hid⟩, hnames⟩, hlengths⟩, hsteady⟩, hrun⟩ := htest
  obtain rfl := Value.eq_of_isScope hid
  have hne : Loop.twoClauses named ≠ [] := by
    intro h
    rw [h] at hnames
    cases hnames
  have hentries := Loop.entries_of_twoClauses hne
  generalize Loop.twoClauses named = cs at hne hnames hlengths hsteady hentries
  subst hentries
  obtain ⟨s, w', hrun⟩ := Run.succeeds_eq_true hrun
  obtain ⟨-, rs, hbuilds, hends⟩ := for_builds_product cs hne (by rw [hnames]; decide)
    (by rw [hnames]; decide) hv (Loop.steady_of_isSteady hsteady)
  rw [hrun] at hbuilds
  refine ⟨cs, body, w, hload, rs, s, w', hbuilds, hrun, (hends s w' hrun).1.trans ?_⟩
  have hproduct : cs.foldl (fun n c => c.values.length * n) 1 =
      (cs.map (·.values.length)).foldl (fun n k => k * n) 1 := by rw [List.foldl_map]
  rw [hproduct, hlengths]
  rfl

/-- A block with nothing to build gives no shape in a union, but a loop over it fails. -/
theorem Eval.idle_loop_fails : ∃ e w,
    (do perform (.build (← Environment.ofText "for(i=[1,2]){x=1;}")) : Run Value) {} =
      .error e w ∧ e.faultClass = .assertion :=
  Run.failsWith_eq_true (by decide +kernel)

end Scad
