import Mathlib.Data.List.Chain
import Scad.Proofs.Scoping.InPlace

/-!
Definitions that need themselves. A variable is marked while it is computed, in the environment
that computes it, and a mark that is met again is a fault. A definition is evaluated in a new
environment, which asks its callers only for names that begin with `$`. So the mark of such a
name is met again, and a cycle without such a name runs on until tasks nest too deep. Either
way nothing is known afterwards that was not known before.
-/

namespace Scad

open List

variable {env : FrameId} {name : String} {t : Tree} {w : World}

theorem Table.remove_of_none {α : Type} {t : Table α} (h : find? name t = none) :
    remove name t = t := by
  induction t with
  | nil => rfl
  | cons e rest ih =>
    obtain ⟨key, b⟩ := e
    by_cases hk : key = name
    · simp [find?, hk] at h
    · simp only [find?, if_neg hk] at h
      simp only [remove, if_neg hk, ih h]

theorem Table.remove_put {α : Type} {t : Table α} (h : find? name t = none)
    (a : α) : remove name (put name a t) = t := by
  induction t with
  | nil => simp [put, remove]
  | cons e rest ih =>
    obtain ⟨key, b⟩ := e
    by_cases hk : key = name
    · simp [find?, hk] at h
    · simp only [find?, if_neg hk] at h
      simp only [put, remove, if_neg hk, ih h]

theorem getD_push_self {α : Type} (xs : Array α) (d : α) (i : Nat) :
    (xs.push d).getD i d = xs.getD i d := by
  by_cases hi : i < xs.size
  · exact getD_push hi d d
  · rw [Array.getD_eq_getD_getElem?, Array.getD_eq_getD_getElem?, Array.getElem?_push,
      Array.getElem?_eq_none (Nat.le_of_not_lt hi)]
    split <;> rfl

/-! ## What a failed run leaves behind -/

/-- The environments of the first world are as they were, and so are all tables; those that
were made since are empty. -/
structure World.Lasts (w w' : World) : Prop where
  frames : ∀ e < w.frames.size, w'.frames[e]? = w.frames[e]?
  tables : ∀ i, w'.tables.getD i {} = w.tables.getD i {}
  size : w.tables.size ≤ w'.tables.size

namespace World.Lasts

variable {w w' : World} {env : FrameId}

theorem refl (w : World) : w.Lasts w := ⟨fun _ _ => rfl, fun _ => rfl, Nat.le_refl _⟩

theorem frameAt (h : w.Lasts w') (he : env < w.frames.size) : w'.frameAt env = w.frameAt env := by
  unfold World.frameAt
  rw [Array.getD_eq_getD_getElem?, Array.getD_eq_getD_getElem?, h.frames env he]

theorem lowered (h : (w.raised env).Lasts w') : w.Lasts { w' with
    frames := w'.frames.modify env fun f => { f with level := f.level - 1 } } where
  frames e he := by
    rw [Array.getElem?_modify, h.frames e (by simpa [World.raised] using he)]
    simp only [World.raised, Array.getElem?_modify]
    split
    · cases w.frames[e]? <;> rfl
    · rfl
  tables := h.tables
  size := h.size

theorem ofEntered {scope : ScopeId} (h : (Eval.entered w scope env).Lasts w') : w.Lasts w' where
  frames e he := by
    have hlt : e < (Eval.entered w scope env).frames.size := by
      simpa [Eval.entered] using Nat.lt_succ_of_lt he
    rw [h.frames e hlt]
    exact Array.getElem?_push_lt he ▸ (Array.getElem?_eq_getElem he).symm
  tables i := (h.tables i).trans (getD_push_self ..)
  size := by
    have hsize := h.size
    simp only [Eval.entered, Array.size_push] at hsize
    exact Nat.le_of_succ_le hsize

theorem cleared (he : env < w.frames.size)
    (hs : (w.slotsAt env).named.find? name = none) (h : (w.withSlot env name .busy).Lasts w') :
    ∃ u, Run.clearSlot env name w' = .ok () u ∧ w.Lasts u := by
  have hframe : w'.frameAt env = w.frameAt env := h.frameAt he
  have hsize : w.tables.size ≤ w'.tables.size :=
    Nat.le_trans (Nat.le_of_eq Array.size_modify.symm) h.size
  refine ⟨{ w' with tables := w'.tables.modify (w.frameAt env).table fun t =>
    { t with named := t.named.remove name } }, ?_, h.frames, fun i => ?_, ?_⟩
  · rw [← hframe]
    rfl
  · have hs : (w.tables.getD (w.frameAt env).table {}).named.find? name = none := hs
    have ht : w'.tables.getD i {} = (w.withSlot env name .busy).tables.getD i {} := h.tables i
    rw [World.withSlot, getD_modify] at ht
    simp only [getD_modify, ht]
    split
    · rename_i hi
      obtain ⟨rfl, -⟩ := hi
      split
      · simp only [Table.remove_put hs]
      · simp only [Table.remove_of_none hs]
    · split
      · rename_i hi hi'
        exact absurd ⟨hi'.1, Nat.lt_of_lt_of_le hi'.2 hsize⟩ hi
      · rfl
  · exact Nat.le_trans hsize (Nat.le_of_eq Array.size_modify.symm)

end World.Lasts

/-- The run ends in a fault, and nothing is known afterwards that was not known before. -/
def Run.Stops {α : Type} (m : Run α) (w : World) (e : Fault) : Prop :=
  ∃ w', m w = .error e w' ∧ w.Lasts w'

namespace Run.Stops

variable {α β : Type} {m : Run α} {f : α → Run β} {w : World} {e : Fault}

theorem bind (h : m.Stops w e) : (m >>= f).Stops w e := by
  obtain ⟨w', h, hw⟩ := h
  exact ⟨w', Run.bind_of_error h, hw⟩

theorem after {a : α} (h : m w = .ok a w) (hf : (f a).Stops w e) : (m >>= f).Stops w e := by
  obtain ⟨w', hf, hw⟩ := hf
  exact ⟨w', (Run.bind_of_ok h).trans hf, hw⟩

end Run.Stops

/-! ## Sums -/

/-- An expression without its wrappers. -/
def Tree.core : Tree → Tree
  | .leaf rule s pos => .leaf rule s pos
  | .node rule ts =>
    match ts with
    | [t] => if (ExprForm.ofRule? rule).any ExprForm.transparent then t.core else .node rule [t]
    | ts => .node rule ts

def Tree.isWhole (t : Tree) : Bool :=
  match t.word? with
  | some (rule, s) => rule == "pr_Num" && (Numeral.int? s).isSome
  | none => false

/-- Is the expression a sum of the variable and something else, or of a whole number and the
variable? -/
def Tree.adds (name : String) (t : Tree) : Bool :=
  match t.core with
  | .node "addition" [a, .leaf _ "+" _, b] =>
    a.word? == some ("pr_Sym", name) || a.isWhole && b.word? == some ("pr_Sym", name)
  | _ => false

theorem Tree.isWhole_eq_true (h : t.isWhole = true) :
    ∃ s n, t.word? = some ("pr_Num", s) ∧ Numeral.int? s = some n := by
  unfold isWhole at h
  split at h
  · rename_i rule s hw
    obtain ⟨hr, hs⟩ := Bool.and_eq_true_iff.1 h
    obtain ⟨n, hn⟩ := Option.isSome_iff_exists.1 hs
    exact ⟨s, n, beq_iff_eq.1 hr ▸ hw, hn⟩
  · cases h

theorem Tree.adds_eq_true (h : t.adds name = true) :
    ∃ a mark pos b, t.core = .node "addition" [a, .leaf mark "+" pos, b] ∧
      (a.word? = some ("pr_Sym", name) ∨ a.isWhole = true ∧ b.word? = some ("pr_Sym", name)) := by
  unfold adds at h
  split at h
  · rename_i a mark pos b hcore
    refine ⟨a, mark, pos, b, hcore, ?_⟩
    simpa using h
  · cases h

/-- Is the variable defined in a scope by a sum with the other variable, which is taken from
the same scope? -/
def World.needs (w : World) (scope : ScopeId) (x y : String) : Bool :=
  match w.seek scope (Scope.findVar? x) with
  | some (.expr own (.code t)) => own == scope && t.adds y
  | _ => false

theorem World.needs_eq_true {scope : ScopeId} {x y : String}
    (h : w.needs scope x y = true) :
    ∃ t : Tree, w.seek scope (Scope.findVar? x) = some (.expr scope (.code t)) ∧
      t.adds y = true := by
  unfold needs at h
  split at h
  · rename_i own t hseek
    obtain ⟨hown, ht⟩ := Bool.and_eq_true_iff.1 h
    exact ⟨t, beq_iff_eq.1 hown ▸ hseek, ht⟩
  · cases h

namespace Eval

open Arithmetic

theorem eval_core (t : Tree) {depth : Nat} (hq : Quiet env w) :
    performWith depth (.eval env (.code t)) w = performWith depth (.eval env (.code t.core)) w := by
  induction hh : t.height using Nat.strongRecOn generalizing t with
  | ind height ih =>
    subst hh
    cases t with
    | leaf => rfl
    | node rule ts =>
      rcases ts with _ | ⟨u, _ | _⟩
      · rfl
      · rw [Tree.core]
        split
        · rename_i ht
          obtain ⟨form, hform, ht⟩ := (Option.any_eq_true _ _).1 ht
          rw [← ih _ (Tree.height_lt_only rule u) u rfl]
          cases depth with
          | zero => rfl
          | succ depth => exact evalNode_wrapped _ hform ht hq
        · rfl
      · rfl

section

variable {env : FrameId} {w : World} {e : Fault} {depth : Nat} {t : Tree} {name : String}

theorem eval_stops {form : ExprForm} (hr : ExprForm.ofRule? t.rule = some form)
    (ho : form.transparent = true → Node.hasOneChild (.code t) = pure false) (hq : Quiet env w)
    (he : e.faultClass ≠ .arity)
    (h : (evalForm (performWith depth) env (.code t) form).Stops (w.raised env) e) :
    (performWith (depth + 1) (.eval env (.code t))).Stops w e := by
  obtain ⟨w', h, hw⟩ := h
  exact ⟨_, (evalNode_found hr ho hq).trans (Arithmetic.evalFound_error he h), hw.lowered⟩

theorem stops_deep (task : Task) (w : World) : (performWith 0 task).Stops w .tooDeep :=
  ⟨w, rfl, .refl w⟩

theorem word_stops {rule s : String} (ht : t.word? = some (rule, s)) (hq : Quiet env w)
    (he : e.faultClass ≠ .arity)
    (h : ∀ pos, (performWith depth (.eval env (.code (.leaf rule s pos)))).Stops
      (w.raised env) e) : (performWith (depth + 1) (.eval env (.code t))).Stops w e := by
  obtain ⟨pos, heval⟩ := eval_word ht
  unfold Run.Stops
  rw [heval _ env w hq]
  have hcall : ExprForm.ofRule? "call" = some .call := rfl
  have hwrap : ExprForm.ofRule? "primary" = some .primary := rfl
  refine eval_stops hcall Bool.noConfusion hq he ?_
  rw [evalForm_call]
  obtain ⟨w', h, hw⟩ := h pos
  refine ⟨w', ?_, hw⟩
  rw [← h]
  cases depth with
  | zero => rfl
  | succ depth => exact evalNode_wrapped _ hwrap rfl hq.raised

theorem word_deep {rule s : String} (ht : t.word? = some (rule, s)) (hq : Quiet env w)
    (hd : depth < 2) : (performWith depth (.eval env (.code t))).Stops w .tooDeep := by
  obtain rfl | rfl : depth = 0 ∨ depth = 1 := by omega
  · exact stops_deep _ w
  · exact word_stops ht hq (by decide) fun _ => stops_deep _ _

theorem variable_stops (ht : t.word? = some ("pr_Sym", name)) (hq : Quiet env w)
    (he : e.faultClass ≠ .arity) (hdeep : depth < 2 → e = .tooDeep)
    (h : ∀ k, depth = k + 2 → (performWith k (.read env name)).Stops
      ((w.raised env).raised env) e) :
    (performWith depth (.eval env (.code t))).Stops w e := by
  by_cases hd : depth < 2
  · rw [hdeep hd]
    exact word_deep ht hq hd
  · obtain ⟨k, rfl⟩ := Nat.exists_eq_add_of_le' (Nat.le_of_not_lt hd)
    refine word_stops ht hq he fun pos => ?_
    have hform : ExprForm.ofRule? "pr_Sym" = some .sym := rfl
    refine eval_stops hform Bool.noConfusion hq.raised he ?_
    rw [evalForm_sym]
    exact h k rfl

theorem sum_stops (ht : t.adds name = true) (hq : Quiet env w) (he : e.faultClass ≠ .arity)
    (hdeep : depth < 3 → e = .tooDeep)
    (h : ∀ k, depth = k + 3 → (performWith k (.read env name)).Stops
      (((w.raised env).raised env).raised env) e) :
    (performWith depth (.eval env (.code t))).Stops w e := by
  obtain ⟨a, mark, pos, b, hcore, hwords⟩ := Tree.adds_eq_true ht
  unfold Run.Stops
  rw [eval_core t hq, hcore]
  cases depth with
  | zero => exact hdeep (by decide) ▸ stops_deep _ w
  | succ depth =>
    have hform : ExprForm.ofRule? "addition" = some .addition := rfl
    refine eval_stops hform (fun _ => rfl) hq he ?_
    have hname : ∀ {t : Tree}, t.word? = some ("pr_Sym", name) →
        (performWith depth (.eval env (.code t))).Stops (w.raised env) e := fun hword =>
      variable_stops hword hq.raised he (fun hd => hdeep (by omega)) fun k hk => h k (by omega)
    have hfirst : Gives (Node.child 0 (.code (.node "addition" [a, .leaf mark "+" pos, b])))
      (w.raised env) (some (.code a)) := gives_child 0 rfl
    rcases hwords with hword | ⟨hwhole, hword⟩
    · exact .after hfirst (hname hword).bind
    · obtain ⟨s, n, hnum, hn⟩ := Tree.isWhole_eq_true hwhole
      refine .after hfirst ?_
      by_cases hd : depth < 2
      · rw [hdeep (by omega)]
        exact (word_deep hnum hq.raised hd).bind
      · have hvalue := Arithmetic.Yields.ofWord hnum hn depth env (w.raised env)
          (by omega) hq.raised
        have hsize : Gives (Value.size (.code (.node "addition" [a, .leaf mark "+" pos, b])))
          (w.raised env) (some 3) := gives_size _ _ _
        have hrounds : Node.rounds (.code (.node "addition" [a, .leaf mark "+" pos, b]))
          (w.raised env) = .ok (3 + 999999 + 1) (w.raised env) := rfl
        have hreaches : Gives (Node.reaches 1 (.code (.node "addition" [a, .leaf mark "+" pos, b])))
          (w.raised env) (some true) := gives_reaches 1 _ _ _
        have hsecond : Gives (Node.child (1 + 1)
          (.code (.node "addition" [a, .leaf mark "+" pos, b])))
          (w.raised env) (some (.code b)) := gives_child 2 rfl
        refine .after hvalue (.after hsize (.after hrounds ?_))
        exact .after hreaches (.after hsecond (hname hword).bind)

end

/-! ## Definitions that are sums -/

/-- The world in which a definition that is a sum reads its variable. -/
def spun (w : World) (env : FrameId) (name : String) (scope : ScopeId) : World :=
  (((entered (w.withSlot env name .busy) scope env).raised w.frames.size).raised
    w.frames.size).raised w.frames.size

section

variable {w : World} {env e : FrameId} {x y name : String} {scope : ScopeId} {fault : Fault}
  {depth : Nat}

theorem frameAt_raised_ne (h : e ≠ env) : (w.raised env).frameAt e = w.frameAt e := by
  unfold World.raised World.frameAt
  rw [getD_modify, if_neg fun hi => h hi.1.symm]

theorem spun_size (w : World) (env : FrameId) (name : String) (scope : ScopeId) :
    (spun w env name scope).frames.size = w.frames.size + 1 := by
  simp [spun, World.raised, entered, World.withSlot]

theorem spun_tables (w : World) (env : FrameId) (name : String) (scope : ScopeId) :
    (spun w env name scope).tables.size = w.tables.size + 1 := by
  simp [spun, World.raised, entered, World.withSlot]

theorem spun_frameAt (he : e < w.frames.size) :
    (spun w env name scope).frameAt e = w.frameAt e := by
  unfold spun
  have hne := Nat.ne_of_lt he
  rw [frameAt_raised_ne hne, frameAt_raised_ne hne, frameAt_raised_ne hne]
  exact getD_push he _ _

theorem spun_inner (w : World) (env : FrameId) (name : String) (scope : ScopeId) :
    ∃ level, (spun w env name scope).frameAt w.frames.size =
      { scope := scope, caller := some env, table := w.tables.size, level := level } := by
  let u := entered (w.withSlot env name .busy) scope env
  obtain ⟨l1, h1⟩ := u.frameAt_raised w.frames.size w.frames.size
  obtain ⟨l2, h2⟩ := (u.raised w.frames.size).frameAt_raised w.frames.size w.frames.size
  obtain ⟨l3, h3⟩ := ((u.raised w.frames.size).raised w.frames.size).frameAt_raised
    w.frames.size w.frames.size
  have hinner := frameAt_entered (w.withSlot env name .busy) scope env
  have htables : (w.withSlot env name .busy).tables.size = w.tables.size := Array.size_modify
  rw [htables] at hinner
  refine ⟨l3, h3.trans ?_⟩
  rw [h2, h1, show u.frameAt w.frames.size = _ from hinner]

theorem spun_slotsAt (he : e < w.frames.size) (ht : (w.frameAt e).table < w.tables.size) :
    (spun w env name scope).slotsAt e = (w.withSlot env name .busy).slotsAt e := by
  have hsize : (w.withSlot env name .busy).tables.size = w.tables.size := Array.size_modify
  rw [World.slotsAt, spun_frameAt he]
  exact getD_push (hsize ▸ ht) _ _

theorem spun_slotsAt_inner : (spun w env name scope).slotsAt w.frames.size = {} := by
  obtain ⟨level, hinner⟩ := spun_inner w env name scope
  rw [World.slotsAt, hinner]
  change ((w.withSlot env name .busy).tables.push {}).getD w.tables.size {} = {}
  rw [getD_push_self]
  simp [World.withSlot]

theorem read_stops (hn : name ≠ "$children") (he : env < w.frames.size)
    (hs : (w.slotsAt env).named.find? name = none)
    (hfind : findDefinition (performWith depth) env name w = .ok (.expr scope (.code t)) w)
    (ht : t.adds y = true) (hf : fault.faultClass ≠ .arity) (hdeep : depth < 3 → fault = .tooDeep)
    (h : ∀ k, depth = k + 3 →
      (performWith k (.read w.frames.size y)).Stops (spun w env name scope) fault) :
    (performWith (depth + 1) (.read env name)).Stops w fault := by
  have hquiet : Quiet w.frames.size (entered (w.withSlot env name .busy) scope env) :=
    congrArg Frame.debug (frameAt_entered (w.withSlot env name .busy) scope env)
  obtain ⟨w', heval, hlasts⟩ := sum_stops ht hquiet hf hdeep h
  obtain ⟨u, hclear, hlasts⟩ := hlasts.ofEntered.cleared he hs
  have hdefine : define (performWith depth) env (.expr scope (.code t))
      (w.withSlot env name .busy) = .error fault w' :=
    (Run.bind_of_ok (newFrame_entered ..)).trans heval
  refine ⟨u, ?_, hlasts⟩
  change readVariable _ env name w = _
  rw [readVariable_of_none hn hs, Run.bind_of_ok hfind, note_of_error hdefine hclear]

theorem findDefinition_needs (hn : isDynamicName x = false) (hne : x ≠ "")
    (h : w.seek (w.frameAt env).scope (Scope.findVar? x) = some (.expr scope (.code t)))
    (p : Perform) : findDefinition p env x w = .ok (.expr scope (.code t)) w :=
  (findDefinition_plain hn hne p env w).trans (congrArg (Run.demand (.unknownName x) · w) h)

/-! ## Cycles without a name that begins with `$` -/

theorem plain_cycle_deep {names : List String} (hplain : ∀ x ∈ names, isDynamicName x = false)
    (hne : "" ∉ names) (depth : Nat)
    (hneeds : ∀ x ∈ names, ∃ y ∈ names, w.needs (w.frameAt env).scope x y = true)
    (he : env < w.frames.size) {x : String} (hx : x ∈ names)
    (hs : (w.slotsAt env).named.find? x = none) :
    (performWith depth (.read env x)).Stops w .tooDeep := by
  induction depth using Nat.strongRecOn generalizing w env x with
  | ind depth ih =>
    cases depth with
    | zero => exact stops_deep _ w
    | succ depth =>
      obtain ⟨y, hy, hxy⟩ := hneeds x hx
      obtain ⟨t, hseek, ht⟩ := World.needs_eq_true hxy
      have hd := hplain x hx
      refine read_stops (ne_children hd) he hs
        (findDefinition_needs hd (fun h => hne (h ▸ hx)) hseek _) ht (by decide) (fun _ => rfl)
        fun k hk => ?_
      obtain ⟨level, hinner⟩ := spun_inner w env x (w.frameAt env).scope
      refine ih k (by omega) ?_ ?_ hy ?_
      · rw [hinner]
        exact hneeds
      · exact spun_size w env x _ ▸ Nat.lt_succ_self _
      · rw [spun_slotsAt_inner]
        rfl

end

/-! ## Names that begin with `$` -/

/-- An environment that asks `root` through `m` callers, none of which knows a name that begins
with `$`. -/
inductive Asks (w : World) (root : FrameId) : Nat → FrameId → Prop
  | here : Asks w root 0 root
  | up {m : Nat} {e c : FrameId} (he : e < w.frames.size)
      (ht : (w.frameAt e).table < w.tables.size) (hc : (w.frameAt e).caller = some c)
      (hs : ∀ x, isDynamicName x = true → (w.slotsAt e).named.find? x = none)
      (h : Asks w root m c) : Asks w root (m + 1) e

section

variable {w : World} {root e env : FrameId} {m depth : Nat} {x name : String} {scope : ScopeId}
  {fault : Fault}

/-- The root is asked, and its fault is what comes back. -/
theorem Asks.stops (h : Asks w root m e) (hd : isDynamicName x = true) (hn : x ≠ "$children")
    (hf : fault.faultClass ≠ .key) (hroot : (performWith depth (.read root x)).Stops w fault) :
    (performWith (depth + m) (.read e x)).Stops w fault := by
  induction h with
  | here => exact hroot
  | @up m e c _ _ hc hs _ ih =>
    obtain ⟨w', hread, hlasts⟩ := ih
    refine ⟨w', ?_, hlasts⟩
    change readVariable (performWith (depth + m)) e x w = _
    rw [readVariable_of_none hn (hs x hd),
      Run.bind_of_error (findDefinition_of_error hd hc hf hread)]

theorem slotsAt_marked (hx : x ≠ name) :
    ((w.withSlot env name .busy).slotsAt e).named.find? x = (w.slotsAt e).named.find? x := by
  unfold World.slotsAt
  change ((w.tables.modify _ _).getD (w.frameAt e).table {}).named.find? x = _
  rw [getD_modify]
  split
  · exact Table.find?_put_ne hx _ _
  · rfl

theorem ne_of_dynamic (hx : isDynamicName x = true) (hn : isDynamicName name = false) :
    x ≠ name := by
  rintro rfl
  rw [hx] at hn
  cases hn

theorem Asks.spun (h : Asks w root m e) (hn : isDynamicName name = false) (env : FrameId)
    (scope : ScopeId) : Asks (spun w env name scope) root m e := by
  induction h with
  | here => exact .here
  | @up m e c he ht hc hs _ ih =>
    have hframe : (Eval.spun w env name scope).frameAt e = w.frameAt e := spun_frameAt he
    refine .up (spun_size w env name scope ▸ Nat.lt_succ_of_lt he) ?_ (hframe ▸ hc)
      (fun x hx => ?_) ih
    · rw [hframe]
      exact spun_tables w env name scope ▸ Nat.lt_succ_of_lt ht
    · rw [spun_slotsAt he ht, slotsAt_marked (ne_of_dynamic hx hn)]
      exact hs x hx

theorem Asks.inner (h : Asks (Eval.spun w env name scope) root m env) :
    Asks (Eval.spun w env name scope) root (m + 1) w.frames.size := by
  obtain ⟨level, hinner⟩ := spun_inner w env name scope
  refine .up (spun_size w env name scope ▸ Nat.lt_succ_self _) ?_ (congrArg Frame.caller hinner)
    (fun x _ => ?_) h
  · rw [hinner]
    exact spun_tables w env name scope ▸ Nat.lt_succ_self _
  · rw [spun_slotsAt_inner]
    rfl

end

/-- On the way along the names, of which `marked` are marked before, the first mark that is met
again is that of `n`. -/
inductive Meets (n : String) : (marked path : List String) → Prop
  | again {marked rest : List String} (hd : isDynamicName n = true) (hm : n ∈ marked) :
      Meets n marked (n :: rest)
  | plain {marked rest : List String} {x : String} (hd : isDynamicName x = false)
      (h : Meets n marked rest) : Meets n marked (x :: rest)
  | mark {marked rest : List String} {x : String} (hd : isDynamicName x = true)
      (hm : x ∉ marked) (h : Meets n (x :: marked) rest) : Meets n marked (x :: rest)

namespace Meets

variable {n : String} {marked rest front : List String}

theorem exists_cons (h : Meets n marked rest) : ∃ y rest', rest = y :: rest' := by
  cases h <;> exact ⟨_, _, rfl⟩

theorem append_plain (hf : ∀ x ∈ front, isDynamicName x = false) (h : Meets n marked rest) :
    Meets n marked (front ++ rest) := by
  induction front with
  | nil => exact h
  | cons x front ih =>
    exact .plain (hf x (mem_cons_self ..)) (ih fun y hy => hf y (.tail _ hy))

theorem append_new (hf : front.Nodup) (hm : ∀ x ∈ front, x ∉ marked)
    (h : ∀ marked', marked ⊆ marked' → Meets n marked' rest) : Meets n marked (front ++ rest) := by
  induction front generalizing marked with
  | nil => exact h marked (List.Subset.refl _)
  | cons x front ih =>
    obtain ⟨hx, hf⟩ := nodup_cons.1 hf
    have hm' : ∀ y ∈ front, y ∉ marked := fun y hy => hm y (.tail _ hy)
    cases hd : isDynamicName x with
    | false => exact .plain hd (ih hf hm' h)
    | true =>
      refine .mark hd (hm x (mem_cons_self ..)) (ih hf (fun y hy hmem => ?_) fun marked' hs =>
        h marked' fun y hy => hs (.tail _ hy))
      rcases mem_cons.1 hmem with rfl | hmem
      · exact hx hy
      · exact hm' y hy hmem

/-- Twice around a cycle the first name that begins with `$` is met again. -/
theorem twice {names : List String} (hn : names.Nodup) (h : names.find? isDynamicName = some n) :
    Meets n [] (names ++ names) := by
  obtain ⟨hd, front, rest, rfl, hfront⟩ := find?_eq_some_iff_append.1 h
  have hplain : ∀ x ∈ front, isDynamicName x = false := fun x hx => by simpa using hfront x hx
  obtain ⟨-, hrest, -⟩ := nodup_append.1 hn
  obtain ⟨hnot, hrest⟩ := nodup_cons.1 hrest
  rw [append_assoc, cons_append]
  refine append_plain hplain (.mark hd (by simp) (append_new hrest (fun x hx hm => ?_) ?_))
  · exact hnot (mem_singleton.1 hm ▸ hx)
  · exact fun marked' hs => append_plain hplain (.again hd (hs (mem_singleton.2 rfl)))

end Meets

/-- The state in which the first name of a path is read in an environment. The marks stand in
the environment `root`, which all others ask. -/
structure Spinning (w : World) (s : ScopeId) (root : FrameId) (marked path : List String)
    (m : Nat) (e : FrameId) : Prop where
  inside : root < w.frames.size
  table : (w.frameAt root).table < w.tables.size
  caller : (w.frameAt root).caller = none
  rootScope : (w.frameAt root).scope = s
  marks : ∀ x ∈ path, isDynamicName x = true →
    (w.slotsAt root).named.find? x = if x ∈ marked then some .busy else none
  asks : Asks w root m e
  here : e < w.frames.size
  scope : (w.frameAt e).scope = s
  unknown : ∀ x ∈ path, isDynamicName x = false → (w.slotsAt e).named.find? x = none
  needs : path.IsChain (w.needs s · ·)
  names : "" ∉ path ∧ "$children" ∉ path

namespace Spinning

variable {w : World} {s : ScopeId} {root e : FrameId} {marked path : List String}
  {m depth : Nat} {x n : String}

/-- The environment that computes the first name goes on to the second. -/
theorem next {k : Nat} {marked' : List String}
    (h : Spinning w s root marked (x :: path) m e) (hasks : Asks (spun w env x s) root k env)
    (hmarks : ∀ y ∈ path, isDynamicName y = true →
      ((w.withSlot env x .busy).slotsAt root).named.find? y =
        if y ∈ marked' then some .busy else none) :
    Spinning (spun w env x s) s root marked' path (k + 1) w.frames.size := by
  obtain ⟨level, hinner⟩ := spun_inner w env x s
  have hroot : (spun w env x s).frameAt root = w.frameAt root := spun_frameAt h.inside
  exact
    { inside := spun_size w env x s ▸ Nat.lt_succ_of_lt h.inside
      table := by
        rw [hroot]
        exact spun_tables w env x s ▸ Nat.lt_succ_of_lt h.table
      caller := hroot ▸ h.caller
      rootScope := hroot ▸ h.rootScope
      marks := fun y hy hd => by
        rw [spun_slotsAt h.inside h.table]
        exact hmarks y hy hd
      asks := hasks.inner
      here := spun_size w env x s ▸ Nat.lt_succ_self _
      scope := by rw [hinner]
      unknown := fun y _ _ => by
        rw [spun_slotsAt_inner]
        rfl
      needs := h.needs.of_cons
      names := ⟨fun hy => h.names.1 (.tail _ hy), fun hy => h.names.2 (.tail _ hy)⟩ }

/-- On a path on which a mark is met again, reading ends with the fault that names it. One
read takes at most four tasks and one more for each environment that is asked. -/
theorem stops (hmeets : Meets n marked path) (h : Spinning w s root marked path m e)
    (hx : path.head? = some x) (hd : 5 * path.length + m ≤ depth) :
    (performWith depth (.read e x)).Stops w (.recursiveVariable (Quoted.write n)) := by
  induction hmeets generalizing w m e x depth with
  | @again marked rest hdyn hm =>
    cases hx
    obtain ⟨k, rfl⟩ : ∃ k, depth = k + 1 + m := ⟨depth - m - 1, by simp at hd; omega⟩
    have hn : n ≠ "$children" := fun hn => h.names.2 (hn ▸ mem_cons_self ..)
    refine h.asks.stops hdyn hn (fun hf => by cases hf) ⟨w, ?_, .refl w⟩
    have hslot : Run.slot root n w = .ok (some .busy) w := by
      have hmark := h.marks n (mem_cons_self ..) hdyn
      rw [if_pos hm] at hmark
      exact congrArg (EStateM.Result.ok · w) hmark
    change readVariable _ root n w = _
    rw [readVariable, if_neg hn, Run.bind_of_ok hslot]
    rfl
  | @plain marked rest x hplain hmeets ih =>
    cases hx
    obtain ⟨y, rest, rfl⟩ := hmeets.exists_cons
    obtain ⟨t, hseek, ht⟩ := World.needs_eq_true (isChain_cons_cons.1 h.needs).1
    have hmem : x ∈ x :: y :: rest := mem_cons_self ..
    rw [length_cons, length_cons] at hd
    obtain ⟨depth, rfl⟩ := Nat.exists_eq_add_of_le' (Nat.le_trans (by omega : 1 ≤ _) hd)
    have hfind (p : Perform) : findDefinition p e x w = .ok (.expr s (.code t)) w :=
      findDefinition_needs hplain (fun he => h.names.1 (he ▸ hmem)) (h.scope.symm ▸ hseek) p
    refine read_stops (ne_children hplain) h.here (h.unknown x hmem hplain) (hfind _) ht
      (fun hf => by cases hf) (fun _ => by omega) fun k hk => ?_
    refine ih (h.next (h.asks.spun hplain e s) fun z hz hdyn => ?_) rfl ?_
    · rw [slotsAt_marked (ne_of_dynamic hdyn hplain)]
      exact h.marks z (.tail _ hz) hdyn
    · rw [length_cons]
      omega
  | @mark marked rest x hdyn hm hmeets ih =>
    cases hx
    obtain ⟨y, rest, rfl⟩ := hmeets.exists_cons
    obtain ⟨t, hseek, ht⟩ := World.needs_eq_true (isChain_cons_cons.1 h.needs).1
    have hmem : x ∈ x :: y :: rest := mem_cons_self ..
    rw [length_cons, length_cons] at hd
    obtain ⟨depth, rfl⟩ : ∃ k, depth = k + 1 + m := ⟨depth - m - 1, by omega⟩
    have hn : x ≠ "$children" := fun hn => h.names.2 (hn ▸ hmem)
    have hslot := h.marks x hmem hdyn
    rw [if_neg hm] at hslot
    have hfind (p : Perform) : findDefinition p root x w = .ok (.expr s (.code t)) w := by
      rw [findDefinition_dynamic p root hdyn, askCaller, h.caller, h.rootScope]
      exact (Run.orIfUnknown_of_unknown rfl rfl).trans
        (congrArg (Run.demand (.unknownName x) · w) hseek)
    refine h.asks.stops hdyn hn (fun hf => by cases hf) ?_
    refine read_stops hn h.inside hslot (hfind _) ht (fun hf => by cases hf) (fun _ => by omega)
      fun k hk => ?_
    have hroot : Asks (spun w root x s) root 0 root := .here
    refine ih (h.next hroot fun z hz hdyn => ?_) rfl ?_
    · by_cases hz' : z = x
      · subst hz'
        rw [if_pos (mem_cons_self ..)]
        exact World.withSlot_known h.table z .busy
      · rw [slotsAt_marked hz', h.marks z (.tail _ hz) hdyn]
        simp [hz']
    · rw [length_cons]
      omega

end Spinning

/-- A cycle of definitions, each the sum of the next variable and a constant, read in an
environment that nobody called. If a name of the cycle begins with `$`, the fault names the
first such name, as soon as ten tasks for each name may be nested. If none does, tasks nest too
deep, whatever the bound. In both cases no value is known afterwards that was not known
before. -/
theorem cycle_reported {w : World} {env : FrameId} (he : env < w.frames.size)
    (ht : (w.frameAt env).table < w.tables.size) (hc : (w.frameAt env).caller = none)
    {x : String} {names : List String} (hnodup : (x :: names).Nodup)
    (hneeds : (x :: names ++ [x]).IsChain (w.needs (w.frameAt env).scope · ·))
    (hnames : "" ∉ x :: names ∧ "$children" ∉ x :: names)
    (hslots : ∀ y ∈ x :: names, (w.slotsAt env).named.find? y = none) :
    (∀ n, (x :: names).find? isDynamicName = some n → ∀ depth ≥ 10 * (names.length + 1),
      ∃ w', performWith depth (.read env x) w =
          .error (.recursiveVariable (Quoted.write n)) w' ∧
        ∀ i, w'.tables.getD i {} = w.tables.getD i {}) ∧
    ((x :: names).find? isDynamicName = none → ∀ depth,
      ∃ w', performWith depth (.read env x) w = .error .tooDeep w' ∧
        ∀ i, w'.tables.getD i {} = w.tables.getD i {}) := by
  refine ⟨fun n hn depth hd => ?_, fun hn depth => ?_⟩
  · have hmem : ∀ {y}, y ∈ x :: names ++ x :: names → y ∈ x :: names := fun hy =>
      (List.mem_append.1 hy).elim id id
    have hspin : Spinning w (w.frameAt env).scope env [] (x :: names ++ x :: names) 0 env :=
      { inside := he
        table := ht
        caller := hc
        rootScope := rfl
        marks := fun y hy _ => hslots y (hmem hy)
        asks := .here
        here := he
        scope := rfl
        unknown := fun y hy _ => hslots y (hmem hy)
        needs := List.isChain_split.2 ⟨hneeds, hneeds.left_of_append⟩
        names := ⟨fun hy => hnames.1 (hmem hy), fun hy => hnames.2 (hmem hy)⟩ }
    have hlength : 5 * (x :: names ++ x :: names).length + 0 ≤ depth := by
      simp only [List.length_append, List.length_cons]
      omega
    obtain ⟨w', hread, hlasts⟩ := hspin.stops (.twice hnodup hn) rfl hlength
    exact ⟨w', hread, hlasts.tables⟩
  · have hplain : ∀ y ∈ x :: names, isDynamicName y = false := fun y hy => by
      simpa using List.find?_eq_none.1 hn y hy
    have hnext : ∀ y ∈ x :: names, ∃ z ∈ x :: names, w.needs (w.frameAt env).scope y z = true := by
      intro y hy
      obtain ⟨front, rest, hl⟩ := List.append_of_mem hy
      have hrel := List.isChain_iff_forall_rel_of_append_cons_cons.1 hneeds
      cases rest with
      | nil =>
        have hlast : x :: names ++ [x] = front ++ y :: x :: [] := by rw [hl]; simp
        exact ⟨x, List.mem_cons_self .., hrel hlast⟩
      | cons z rest =>
        have hinner : x :: names ++ [x] = front ++ y :: z :: (rest ++ [x]) := by rw [hl]; simp
        exact ⟨z, hl ▸ by simp, hrel hinner⟩
    obtain ⟨w', hread, hlasts⟩ := plain_cycle_deep hplain hnames.1 depth hnext he
      (List.mem_cons_self ..) (hslots x (List.mem_cons_self ..))
    exact ⟨w', hread, hlasts.tables⟩

/-- In a cycle of `a`, `$b` and `c` the fault names `$b`. A variable that needs itself is
computed without end. -/
theorem cycle_reported_three :
    (∃ w w', Environment.ofText "a = $b + 1; $b = 2 + c; c = a + 3;" {} = .ok 0 w ∧
      perform (.read 0 "a") w = .error (.recursiveVariable (Quoted.write "$b")) w') ∧
    ∃ w w', Environment.ofText "x = x + 1;" {} = .ok 0 w ∧
      perform (.read 0 "x") w = .error .tooDeep w' := by
  let fits (names : List String) (env : FrameId) (w : World) : Bool :=
    decide (env = 0 ∧ 0 < w.frames.size ∧ (w.frameAt 0).table < w.tables.size ∧
      (w.frameAt 0).caller = none ∧ (names ++ names.take 1).IsChain
        (w.needs (w.frameAt 0).scope · ·) ∧
      ∀ y ∈ names, ((w.slotsAt 0).named.find? y).isNone)
  obtain ⟨env, w, hload, htest⟩ := Run.passes_eq_true (w := {})
    (m := Environment.ofText "a = $b + 1; $b = 2 + c; c = a + 3;") (t := fits ["a", "$b", "c"])
    (by decide +kernel)
  obtain ⟨env', w', hload', htest'⟩ := Run.passes_eq_true (w := {})
    (m := Environment.ofText "x = x + 1;") (t := fits ["x"]) (by decide +kernel)
  obtain ⟨rfl, he, ht, hc, hneeds, hslots⟩ := of_decide_eq_true htest
  obtain ⟨rfl, he', ht', hc', hneeds', hslots'⟩ := of_decide_eq_true htest'
  simp only [Option.isNone_iff_eq_none] at hslots hslots'
  obtain ⟨u, hread, -⟩ := (cycle_reported he ht hc (by decide) hneeds (by decide) hslots).1 "$b"
    (by decide) depthLimit (by decide)
  obtain ⟨u', hread', -⟩ := (cycle_reported he' ht' hc' (by decide) hneeds' (by decide) hslots').2
    (by decide) depthLimit
  exact ⟨⟨w, u, hload, hread⟩, w', u', hload', hread'⟩

end Eval
end Scad
