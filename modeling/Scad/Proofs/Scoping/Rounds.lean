import Scad.Proofs.Scoping.Block

/-!
What the block of a loop sees. The loop variables are set in the scope around the block, one
inside the other, and each round builds the block in a new environment, so plain names are
looked up afresh. All these environments have the same caller, and it keeps what it once
answered for a name that begins with `$`.
-/

namespace Scad

open Run

namespace Eval

variable {l : Loop} {name : String} {v : Value} {w w1 : World}

/-! ## The loop variable -/

section

variable (h : l.setVariable name v w = .ok () w1)

include h

theorem Loop.setVariable_eq : ∃ outer rest,
      (w.scopeAt l.body).parents = outer :: rest ∧ outer < w.scopes.size ∧ w1 = { w with
        scopes := w.scopes.modify outer fun s =>
          { s with vars := s.vars.put name (.value v) } } := by
  cases hset : Scope.setLoopVariable? w.scopes l.body name v with
  | none =>
    rw [Loop.setVariable_of_none hset] at h
    cases h
  | some scopes =>
    rw [Loop.setVariable_of_some hset] at h
    cases h
    unfold Scope.setLoopVariable? at hset
    cases hparents : (w.scopes.getD l.body default).parents with
    | nil =>
      rw [hparents] at hset
      cases hset
    | cons outer rest =>
      simp only [hparents] at hset
      -- A scope that is not there is a block, which holds no loop variables.
      have houter : outer < w.scopes.size := by
        refine Nat.lt_of_not_le fun hle => ?_
        rw [show w.scopes.getD outer default = default by simp [hle]] at hset
        cases hset
      refine ⟨outer, rest, hparents, houter, congrArg (fun scopes => { w with scopes }) ?_⟩
      cases hkind : (w.scopes.getD outer default).kind <;> rw [hkind] at hset <;> cases hset <;> rfl

theorem Loop.vars_of_setVariable : ∃ outer rest,
      (w.scopeAt l.body).parents = outer :: rest ∧ (w1.scopeAt l.body).parents = outer :: rest ∧
      (w1.scopeAt outer).vars = (w.scopeAt outer).vars.put name (.value v) := by
  obtain ⟨outer, rest, hparents, houter, rfl⟩ := setVariable_eq h
  refine ⟨outer, rest, hparents, ?_, ?_⟩
  · rw [World.scopeAt, getD_modify, ← hparents]
    split <;> rfl
  · rw [World.scopeAt, getD_modify, if_pos ⟨rfl, houter⟩]
    rfl

end

/-- What stands for a name in the scope around the block. -/
def Loop.held? (l : Loop) (w : World) (x : String) : Option VarDef :=
  match (w.scopeAt l.body).parents with
  | [] => none
  | outer :: _ => (w.scopeAt outer).vars.find? x

theorem Loop.held?_of_setVariable (h : l.setVariable name v w = .ok () w1) :
    l.held? w1 name = some (.value v) ∧ ∀ y, y ≠ name → l.held? w1 y = l.held? w y := by
  obtain ⟨outer, rest, hparents, hparents', hvars⟩ := vars_of_setVariable h
  unfold held?
  simp only [hparents, hparents', hvars]
  exact ⟨Table.find?_put_self name _ _, fun y hy => Table.find?_put_ne hy _ _⟩

theorem Loop.seek_of_held {d : VarDef} (h : l.held? w name = some d)
    (hbody : (w.scopeAt l.body).vars.find? name = none) :
    w.seek l.body (Scope.findVar? name) = some d := by
  unfold held? at h
  unfold World.seek
  cases hparents : (w.scopeAt l.body).parents with
  | nil =>
    rw [hparents] at h
    cases h
  | cons outer rest =>
    rw [hparents] at h
    simp only [Scope.search]
    rw [show Scope.findVar? name (w.scopes.getD l.body default) = none from hbody,
      show Scope.findVar? name (w.scopes.getD outer default) = some d from h]

/-! ## Reading in a new environment -/

/-- What reading a name gives in a new environment of the block that is called from `e`. -/
def Loop.reads (l : Loop) (p : Perform) (e : FrameId) (name : String) (w : World) :
    Except Fault Value :=
  result (do readVariable p (← newFrame l.body e) name) w

section

variable {p : Perform} {e : FrameId}

theorem Loop.reads_of_definition {d : VarDef} (hn : name ≠ "$children")
    (hfind : findDefinition p w.frames.size name (entered w l.body e) = .ok d w1) :
    l.reads p e name w = result (define p w.frames.size d)
      (w1.withSlot w.frames.size name .busy) := by
  have hslot : ((entered w l.body e).slotsAt w.frames.size).named.find? name = none := by
    rw [World.slotsAt, frameAt_entered]
    simp [entered]
    rfl
  unfold reads result
  rw [bind_of_ok (newFrame_entered w l.body e), readVariable_of_none hn hslot,
    bind_of_ok hfind]
  cases hdef : define p w.frames.size d (w1.withSlot w.frames.size name .busy) with
  | ok v w2 => rw [note_of_ok hdef]
  | error f w2 => rw [note_of_error hdef rfl]

theorem Loop.reads_plain {d : VarDef} (hd : isDynamicName name = false) (hne : name ≠ "")
    (h : w.seek l.body (Scope.findVar? name) = some d) :
    l.reads p e name w = result (define p w.frames.size d)
      ((entered w l.body e).withSlot w.frames.size name .busy) := by
  refine reads_of_definition (ne_children hd) ((findDefinition_plain hd hne p _ _).trans ?_)
  rw [frameAt_entered]
  change demand (.unknownName name) (w.seek l.body (Scope.findVar? name)) _ = _
  rw [h]
  rfl

/-- A name that begins with `$` and that the caller knows is not looked up in the block. -/
theorem Loop.reads_known {x : Value} (hd : isDynamicName name = true) (hn : name ≠ "$children")
    (he : e < w.frames.size) (ht : (w.frameAt e).table < w.tables.size)
    (h : (w.slotsAt e).named.find? name = some (.known x)) (hx : x.isCallable = false)
    (depth : Nat) : l.reads (performWith (depth + 1)) e name w = .ok x := by
  have hslot : slot e name (entered w l.body e) =
      .ok (some (.known x)) (entered w l.body e) := by
    refine congrArg (EStateM.Result.ok · (entered w l.body e))
      (?_ : ((entered w l.body e).slotsAt e).named.find? name = some (.known x))
    have hframe : (entered w l.body e).frameAt e = w.frameAt e := getD_push he _ _
    have htable : (entered w l.body e).tables.getD (w.frameAt e).table {} = w.slotsAt e :=
      getD_push ht _ _
    rw [World.slotsAt, hframe, htable]
    exact h
  have hread : performWith (depth + 1) (.read e name) (entered w l.body e) =
      .ok x (entered w l.body e) := by
    change readVariable _ e name _ = _
    rw [readVariable, if_neg hn]
    exact (bind_of_ok hslot).trans rfl
  have hcaller : ((entered w l.body e).frameAt w.frames.size).caller = some e := by
    rw [frameAt_entered]
  rw [reads_of_definition hn (findDefinition_of_value hd hcaller hread), define_value _ _ hx]
  rfl

end

/-! ## The rounds -/

namespace Loop

/-- A value that a loop variable was given, and the world in which it had just been set. -/
structure Choice where
  name : String
  value : Value
  since : World

/-- What the block can see when a round begins with these values, that of the innermost variable
first. -/
structure Sees (l : Loop) (row : List Choice) (w : World) : Prop where
  /-- Nothing has happened since the innermost variable was set. -/
  innermost : ∀ c ∈ row.head?, c.since = w
  /-- A variable has its value, whoever reads it, until a scope changes; one further out, if the
  rounds since it was set have not set it to something else. -/
  loopVariable : ∀ c ∈ row, l.held? w c.name = l.held? c.since c.name →
    isDynamicName c.name = false → c.name ≠ "" → c.value.isCallable = false →
    (w.scopeAt l.body).vars.find? c.name = none →
    ∀ p e w1, w1.scopes = w.scopes → l.reads p e c.name w1 = .ok c.value
  /-- A plain name that the block declares is computed from its definition. -/
  plain : ∀ {y scope body}, isDynamicName y = false → y ≠ "" →
    (w.scopeAt l.body).vars.find? y = some (.expr scope body) → ∀ p e,
      l.reads p e y w = result (evalIn p w.frames.size scope body)
        ((entered w l.body e).withSlot w.frames.size y .busy)
  /-- A name that begins with `$` keeps the value that the common caller has for it. -/
  dynamic : ∀ {y x}, isDynamicName y = true → y ≠ "$children" → l.inner < w.frames.size →
    (w.frameAt l.inner).table < w.tables.size →
    (w.slotsAt l.inner).named.find? y = some (.known x) → x.isCallable = false → ∀ depth,
      l.reads (performWith (depth + 1)) l.inner y w = .ok x

theorem sees_of_held {row : List Choice} (hhead : ∀ c ∈ row.head?, c.since = w)
    (hrow : ∀ c ∈ row, l.held? c.since c.name = some (.value c.value)) : l.Sees row w where
  innermost := hhead
  loopVariable c hc hsame hd hne hv hbody p e w2 hw := by
    have hseek : w2.seek l.body (Scope.findVar? c.name) = some (.value c.value) := by
      unfold World.seek World.scopeAt
      rw [hw]
      exact seek_of_held (hsame.trans (hrow c hc)) hbody
    rw [reads_plain hd hne hseek, define_value _ _ hv]
    rfl
  plain hy hye hdef p e := reads_plain hy hye (World.seek_self hdef)
  dynamic hy hc he ht hx hcall depth := reads_known hy hc he ht hx hcall depth

/-- What a loop variable is to run through; the bounds of a range are computed. -/
def begin (l : Loop) (p : Perform) : Value → Run Value
  | .tuple vs => return .tuple vs
  | .range _ start stop step => return .tuple (← rangeItems p l.env start stop step)
  | v => do
    match ← v.listItems? with
    | none => throw .noAttribute
    | some _ => return v

/-- The items of a tuple, or of a list as it is at the time. -/
def found (v : Value) (w : World) : List Value :=
  match v, result v.listItems? w with
  | .tuple vs, _ => vs
  | _, .ok (some vs) => vs
  | _, _ => []

/-- Is a variable about to begin, or at its `i`-th item? A list that grows all the time comes to
an end when `left` items have been looked at. -/
inductive Stage
  | start
  | item (i left : Nat)

/-- The course of a loop over some variables, the first outermost, with values chosen for those
further out. The items are looked at before each round. -/
inductive Course (l : Loop) (p : Perform) : List Choice → List (String × Value) → Stage →
    Value → World → EStateM.Result Fault World Value → Prop
  | round {row s w} (hsees : l.Sees row w) : Course l p row [] .start s w (l.round p s w)
  | begins {row x v u rest s w w1 o} (hbegin : l.begin p v w = .ok u w1)
      (hrest : Course l p row ((x, u) :: rest)
        (.item 0 ((found u w1).length + Node.growthLimit)) s w1 o) :
      Course l p row ((x, v) :: rest) .start s w o
  | unfit {row x v rest s w w1 e} (hbegin : l.begin p v w = .error e w1) :
      Course l p row ((x, v) :: rest) .start s w (.error e w1)
  | done {row x v rest i left s w} (hend : (found v w)[i]? = none) :
      Course l p row ((x, v) :: rest) (.item i (left + 1)) s w (.ok s w)
  | refused {row x v u rest i left s w w1 e} (hitem : (found v w)[i]? = some u)
      (hset : l.setVariable x u w = .error e w1) :
      Course l p row ((x, v) :: rest) (.item i (left + 1)) s w (.error e w1)
  | fails {row x v u rest i left s w w1 w2 e} (hitem : (found v w)[i]? = some u)
      (hset : l.setVariable x u w = .ok () w1)
      (hinner : Course l p (⟨x, u, w1⟩ :: row) rest .start s w1 (.error e w2)) :
      Course l p row ((x, v) :: rest) (.item i (left + 1)) s w (.error e w2)
  | next {row x v u rest i left s s1 w w1 w2 o} (hitem : (found v w)[i]? = some u)
      (hset : l.setVariable x u w = .ok () w1)
      (hinner : Course l p (⟨x, u, w1⟩ :: row) rest .start s w1 (.ok s1 w2))
      (hrest : Course l p row ((x, v) :: rest) (.item (i + 1) left) s1 w2 o) :
      Course l p row ((x, v) :: rest) (.item i (left + 1)) s w o
  | endless {row x v rest i s w} :
      Course l p row ((x, v) :: rest) (.item i 0) s w (.error .tooDeep w)

theorem found_of_items {o : Option (List Value)} (hv : ∀ vs, v ≠ .tuple vs)
    (h : v.listItems? w = .ok o w) : found v w = o.getD [] := by
  unfold found
  rw [result_of_ok h]
  split
  · exact absurd rfl (hv _)
  · rename_i heq
    cases heq
    rfl
  · rename_i hnone
    cases o with
    | none => rfl
    | some vs => exact absurd rfl (hnone vs)

theorem items_found (hv : ∀ vs, v ≠ .tuple vs) (w : World) :
    (do return (← v.listItems?).getD [] : Run (List Value)) w = .ok (found v w) w := by
  obtain ⟨o, ho⟩ := Arithmetic.listItems?_ok v w
  rw [bind_of_ok ho, found_of_items hv ho]
  rfl

section

variable {p : Perform} {row : List Choice} {x : String} {u s : Value}
  {rest : List (String × Value)}
  (hinner : ∀ {v s w w1}, l.setVariable x v w = .ok () w1 →
    l.Course p (⟨x, v, w1⟩ :: row) rest .start s w1 (l.run p rest s w1))

include hinner

theorem course_next {i left : Nat} {k : Value → Run Value} (hitem : (found u w)[i]? = some v)
    (hk : ∀ {s1 w2}, l.Course p row ((x, u) :: rest) (.item (i + 1) left) s1 w2 (k s1 w2)) :
    l.Course p row ((x, u) :: rest) (.item i (left + 1)) s w ((do
      l.setVariable x v
      let s1 ← l.run p rest s
      k s1) w) := by
  cases hset : l.setVariable x v w with
  | error e w1 =>
    rw [bind_of_error hset]
    exact .refused hitem hset
  | ok _ w1 =>
    rw [bind_of_ok hset]
    have hcourse := hinner (s := s) hset
    cases hrun : l.run p rest s w1 with
    | error e w2 =>
      rw [hrun] at hcourse
      rw [bind_of_error hrun]
      exact .fails hitem hset hcourse
    | ok s1 w2 =>
      rw [hrun] at hcourse
      rw [bind_of_ok hrun]
      exact .next hitem hset hcourse hk

theorem course_overItems {vs : List Value} {i left : Nat} (hi : vs.length ≤ i + left) :
    l.Course p row ((x, .tuple vs) :: rest) (.item i (left + 1)) s w (overItems (fun s v => do
      l.setVariable x v
      l.run p rest s) (vs.drop i) s w) := by
  induction hn : vs.length - i generalizing i left s w with
  | zero =>
    have hend : vs.length ≤ i := Nat.le_of_sub_eq_zero hn
    rw [List.drop_eq_nil_of_le hend]
    exact .done (List.getElem?_eq_none hend)
  | succ n ih =>
    have hlt : i < vs.length := Nat.lt_of_sub_eq_succ hn
    obtain ⟨left, rfl⟩ : ∃ m, left = m + 1 := ⟨left - 1, by omega⟩
    rw [List.drop_eq_getElem_cons hlt, overItems, bind_assoc]
    exact course_next hinner (List.getElem?_eq_getElem hlt) (ih (by omega) (by omega))

theorem course_overList (hu : ∀ vs, u ≠ .tuple vs) (left i : Nat) :
    l.Course p row ((x, u) :: rest) (.item i left) s w
      (overList (do return (← u.listItems?).getD []) (fun s v => do
        l.setVariable x v
        l.run p rest s) left i s w) := by
  induction left generalizing i s w with
  | zero => exact .endless
  | succ left ih =>
    rw [overList, bind_of_ok (items_found hu w)]
    cases hitem : (found u w)[i]? with
    | none => exact .done hitem
    | some v =>
      dsimp only
      rw [bind_assoc]
      exact course_next hinner hitem (ih (i + 1))

/-- A value other than a tuple and a range is read again before each of its rounds. -/
theorem course_listed (hu : ∀ vs, u ≠ .tuple vs)
    (hnone : u.listItems? w = .ok none w →
      l.run p ((x, u) :: rest) s w = .error .noAttribute w ∧
        l.begin p u w = .error .noAttribute w)
    (hsome : ∀ vs, u.listItems? w = .ok (some vs) w → l.begin p u w = .ok u w ∧
      l.run p ((x, u) :: rest) s w = overList (do return (← u.listItems?).getD []) (fun s v => do
        l.setVariable x v
        l.run p rest s) (vs.length + Node.growthLimit) 0 s w) :
    l.Course p row ((x, u) :: rest) .start s w (l.run p ((x, u) :: rest) s w) := by
  obtain ⟨o, ho⟩ := Arithmetic.listItems?_ok u w
  cases o with
  | none =>
    rw [(hnone ho).1]
    exact .unfit (hnone ho).2
  | some vs =>
    obtain ⟨hbegin, hrun⟩ := hsome vs ho
    refine .begins hbegin ?_
    rw [hrun, found_of_items hu ho]
    exact course_overList hinner hu _ 0

end

theorem course_run {p : Perform} {s : Value} (entries : List (String × Value))
    {row : List Choice} (hhead : ∀ c ∈ row.head?, c.since = w)
    (hrow : ∀ c ∈ row, l.held? c.since c.name = some (.value c.value)) :
    l.Course p row entries .start s w (l.run p entries s w) := by
  induction entries generalizing row s w with
  | nil => exact .round (sees_of_held hhead hrow)
  | cons entry rest ih =>
    obtain ⟨x, v⟩ := entry
    have hinner : ∀ {u s w w1}, l.setVariable x u w = .ok () w1 →
        l.Course p (⟨x, u, w1⟩ :: row) rest .start s w1 (l.run p rest s w1) := fun hset =>
      ih (fun _ hc => by cases hc; rfl)
        (List.forall_mem_cons.2 ⟨(held?_of_setVariable hset).1, hrow⟩)
    have htuple : ∀ (vs : List Value) {w}, l.Course p row ((x, .tuple vs) :: rest)
        (.item 0 (vs.length + Node.growthLimit)) s w (overItems (fun s v => do
          l.setVariable x v
          l.run p rest s) vs s w) := fun vs _ =>
      course_overItems hinner (i := 0) (Nat.le_trans (Nat.le_add_right _ 999999)
        (Nat.le_add_left _ _))
    cases v with
    | tuple vs => exact .begins rfl (htuple vs)
    | range i start stop step =>
      cases hitems : rangeItems p l.env start stop step w with
      | error e w1 =>
        have hrun : l.run p ((x, .range i start stop step) :: rest) s w = .error e w1 :=
          bind_of_error hitems
        rw [hrun]
        exact .unfit (bind_of_error hitems)
      | ok vs w1 =>
        rw [run, bind_of_ok hitems]
        exact .begins (bind_of_ok hitems) (htuple vs)
    | _ =>
      exact course_listed hinner (fun _ h => by cases h)
        (fun h => ⟨bind_of_ok h, bind_of_ok h⟩) fun _ h => ⟨bind_of_ok h, bind_of_ok h⟩

end Loop

/-- Every loop goes its course, whatever it ends in: one variable inside the other, each from item
to item. In every round the block sees the values that the loop variables have in that round: by
their names, and in the plain names it declares. What it declares under a name that begins with
`$` is not computed again once the caller of the rounds knows it. -/
theorem round_sees_its_value (l : Loop) (p : Perform) (entries : List (String × Value))
    (s : Value) (w : World) : l.Course p [] entries .start s w (l.run p entries s w) :=
  Loop.course_run entries (fun _ h => by cases h) (List.forall_mem_nil _)

end Eval

/-- The first numbers of two shapes that were joined. -/
def Value.joinedSizes? : Value → Option (Int × Int)
  | .shape _ (.shape _ [.shape _ (.int a :: _) _, .shape _ (.int b :: _) _] _) => some (a, b)
  | _ => none

/-- The second cube has the size of the first. -/
theorem Eval.round_keeps_dynamic : ∃ u w,
    (do perform (.build (← Environment.ofText
      "for(i=[1,2]){$y=i; cube($y,center=true);}")) : Run Value) {} = .ok u w ∧
    u.joinedSizes? = some (1, 1) := by
  obtain ⟨u, w, hrun, htest⟩ := Run.passes_eq_true (w := {})
    (m := do Eval.perform (.build (← Environment.ofText
      "for(i=[1,2]){$y=i; cube($y,center=true);}")))
    (t := fun u _ => u.joinedSizes? == some (1, 1)) (by decide +kernel)
  exact ⟨u, w, hrun, beq_iff_eq.1 htest⟩

end Scad
