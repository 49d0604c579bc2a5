import Scad.Proofs.Scoping.Children

/-!
Sums and products of lists. The list on the left of the operator takes up the result, so
whoever holds this list sees it change. A variable that is only read in such an expression
has another value when it is read again.
-/

namespace Scad

open Run
namespace Eval

open Arithmetic

section

variable {env : FrameId} {w : World} {name : String} {v : Value}

theorem slotsAt_raised (env e : FrameId) (w : World) :
    (w.raised env).slotsAt e = w.slotsAt e := by
  obtain ⟨level, hf⟩ := w.frameAt_raised env e
  unfold World.slotsAt
  rw [hf]
  rfl

theorem eval_known {t : Tree} {depth : Nat} (ht : t.word? = some ("pr_Sym", name))
    (hn : name ≠ "$children") (h : (w.slotsAt env).named.find? name = some (.known v))
    (hq : Quiet env w) (hd : 3 ≤ depth) :
    Gives (performWith depth (.eval env (.code t))) w (some v) := by
  obtain ⟨pos, heval⟩ := eval_word ht
  obtain ⟨k, rfl⟩ := Nat.exists_eq_add_of_le' hd
  refine (heval _ env w hq).trans ?_
  have hcall : ExprForm.ofRule? "call" = some .call := rfl
  refine gives_evalNode hcall Bool.noConfusion hq ?_
  rw [evalForm_call]
  have hwrap : ExprForm.ofRule? "primary" = some .primary := rfl
  refine (evalNode_wrapped _ hwrap rfl hq.raised).trans ?_
  have hform : ExprForm.ofRule? "pr_Sym" = some .sym := rfl
  refine gives_evalNode hform Bool.noConfusion hq.raised ?_
  rw [evalForm_sym]
  refine readVariable_known _ hn ?_
  rw [slotsAt_raised, slotsAt_raised]
  exact h

end

/-- What an operator does to the items of a list on its left, with the value on its right. -/
inductive Takes (w : World) : (rule op : String) → Value → List Value → List Value → Prop
  | sum {v : Value} {us vs : List Value} (hv : v.items w = .ok vs w)
      (hp : ∀ id, v ≠ .pending id) : Takes w "addition" "+" v us (us ++ vs)
  | product {n : Nat} {us : List Value} (hn : Value.isIndex n = true)
      (hs : n * us.length ≤ Value.sizeLimit) :
      Takes w "multiplication" "*" (.int n) us (List.replicate n us).flatten

def relisted (w : World) (cell : Nat) (us : List Value) : World :=
  { w with lists := w.lists.setIfInBounds cell us }

section

variable {env : FrameId} {w : World} {rule op : String} {v : Value} {us : List Value} {cell : Nat}

theorem apply_takes (p : Perform) (h : Takes w rule op v (w.lists.getD cell []) us) :
    ∃ form apply, ExprForm.ofRule? rule = some form ∧ (∀ env n, evalForm p env n form =
        evalOperators (fun t => p (.eval env t)) apply n) ∧
      apply (Text.ofString op) (.list cell) v w = .ok (.list cell) (relisted w cell us) := by
  have hlist : listItems cell w = .ok (w.lists.getD cell []) w := rfl
  cases h with
  | @sum v _ vs hv hp =>
    have hadd : addTo p (.list cell) v = Value.addTo (.list cell) v := by
      cases v with
      | pending id => exact absurd rfl (hp id)
      | _ => rfl
    refine ⟨.addition, addOp p, rfl, fun _ _ => rfl, ?_⟩
    unfold addOp
    rw [if_pos rfl, hadd]
    exact (bind_of_ok hv).trans (bind_of_ok hlist)
  | @product n _ hn hs =>
    have hrepeat : Value.repeated (n : Int) (w.lists.getD cell []) w =
        .ok (List.replicate n (w.lists.getD cell [])).flatten w := by
      unfold Value.repeated
      rw [hn, Int.toNat_natCast, if_neg (by simp), if_neg (Nat.not_lt.2 hs)]
      rfl
    refine ⟨.multiplication, mulOp, rfl, fun _ _ => rfl, ?_⟩
    unfold mulOp
    rw [if_pos rfl]
    exact (bind_of_ok hlist).trans (bind_of_ok hrepeat)

theorem eval_takes {a b : Tree} {mark : String} {pos depth : Nat} {lists : Array (List Value)}
    (hq : Quiet env w)
    (ha : Gives (performWith depth (.eval env (.code a))) (w.raised env)
      (some (.list cell))) (hb : performWith depth (.eval env (.code b)) (w.raised env) =
      .ok v { w.raised env with lists := lists })
    (h : Takes { w.raised env with lists := lists } rule op v (lists.getD cell []) us) :
    performWith (depth + 1) (.eval env (.code (.node rule [a, .leaf mark op pos, b]))) w =
      .ok (.list cell) { w with lists := lists.setIfInBounds cell us } := by
  obtain ⟨form, apply, hform, hforms, happly⟩ := apply_takes (performWith depth) h
  refine eval_lists hform (fun _ => rfl) hq ?_
  rw [hforms]
  let n : Value := .code (.node rule [a, .leaf mark op pos, b])
  let w1 : World := { w.raised env with lists := lists }
  have hfirst : Gives (Node.child 0 n) (w.raised env) (some (.code a)) :=
    gives_child 0 rfl
  have hsize : Gives (Value.size n) (w.raised env) (some 3) := gives_size _ _ _
  have hreaches : Gives (Node.reaches 1 n) (w.raised env) (some true) :=
    gives_reaches 1 _ _ _
  have hsecond : Gives (Node.child (1 + 1) n) (w.raised env) (some (.code b)) :=
    gives_child 2 rfl
  have hword : Gives (Node.wordAt 1 n) w1 (some (Text.ofString op)) := gives_wordAt 1 rfl
  have hend : Gives (Node.reaches 3 n) (relisted w1 cell us) (some false) := gives_reaches 3 _ _ _
  let sub : Sub := fun t => performWith depth (.eval env t)
  have hstop : ∀ fuel, operatorChain sub apply n (fuel + 1) 3 (.list cell) (relisted w1 cell us) =
      .ok (.list cell) (relisted w1 cell us) := fun fuel => bind_of_ok hend
  have hchain : ∀ fuel, operatorChain sub apply n (fuel + 2) 1 (.list cell)
      (w.raised env) = .ok (.list cell) (relisted w1 cell us) := by
    intro fuel
    refine (bind_of_ok hreaches).trans ((bind_of_ok hsecond).trans
      ((bind_of_ok hb).trans ((bind_of_ok hword).trans ((bind_of_ok happly).trans ?_))))
    exact hstop fuel
  obtain ⟨fuel, hfuel⟩ : ∃ fuel, 3 + Node.growthLimit = fuel + 2 := ⟨1000001, by decide⟩
  have hrounds : Node.rounds n (w.raised env) =
      .ok (fuel + 2) (w.raised env) := by
    rw [← hfuel]
    rfl
  refine (bind_of_ok hfirst).trans ((bind_of_ok ha).trans ((bind_of_ok hsize).trans ?_))
  exact (bind_of_ok hrounds).trans (hchain fuel)

/-- An expression that only reads a variable changes it: after a sum or a product with the
variable on its left, the variable has the items of the result. -/
theorem operand_takes_result {name : String} {lists : Array (List Value)}
    (hn : name ≠ "$children")
    (hknown : (w.slotsAt env).named.find? name = some (.known (.list cell)))
    (hcell : cell < lists.size) (hq : Quiet env w) {a b : Tree}
    (ha : a.word? = some ("pr_Sym", name)) {mark : String} {pos depth : Nat} (hd : 3 ≤ depth)
    (hb : performWith depth (.eval env (.code b)) (w.raised env) =
      .ok v { w.raised env with lists := lists })
    (h : Takes { w.raised env with lists := lists } rule op v (lists.getD cell []) us) :
    ∃ w', performWith (depth + 1) (.eval env (.code (.node rule [a, .leaf mark op pos, b]))) w =
        .ok (.list cell) w' ∧
      Run.result (do (← readVariable (performWith depth) env name).items) w =
        .ok (w.lists.getD cell []) ∧
      Run.result (do (← readVariable (performWith depth) env name).items) w' = .ok us := by
  have hread : ∀ w', w'.slotsAt env = w.slotsAt env →
      readVariable (performWith depth) env name w' = .ok (.list cell) w' :=
    fun w' hs => readVariable_known _ hn (hs ▸ hknown)
  have hleft : Gives (performWith depth (.eval env (.code a))) (w.raised env)
      (some (.list cell)) :=
    eval_known ha hn (by rw [slotsAt_raised]; exact hknown) hq.raised hd
  refine ⟨_, eval_takes hq hleft hb h, ?_, ?_⟩
  · exact Run.result_of_ok ((Run.bind_of_ok (hread w rfl)).trans rfl)
  · let w' : World := { w with lists := lists.setIfInBounds cell us }
    have hitems : Value.items (.list cell) w' = .ok us w' := by
      change EStateM.Result.ok ((lists.setIfInBounds cell us).getD cell []) _ = _
      simp [Array.getD_eq_getD_getElem?, hcell]
    exact Run.result_of_ok ((Run.bind_of_ok (hread w' rfl)).trans hitems)

end

end Eval

/-- Is a value known, and is it a list with two items? -/
def World.isPair (w : World) : Slot → Bool
  | .known (.list cell) => cell < w.lists.size && (w.lists.getD cell []).length == 2
  | _ => false

theorem World.isPair_eq_true {w : World} {s : Slot} (h : w.isPair s = true) :
    ∃ cell, s = .known (.list cell) ∧ cell < w.lists.size ∧ (w.lists.getD cell []).length = 2 := by
  unfold isPair at h
  split at h
  · rename_i cell
    obtain ⟨hlt, hlen⟩ := Bool.and_eq_true_iff.1 h
    exact ⟨cell, rfl, of_decide_eq_true hlt, beq_iff_eq.1 hlen⟩
  · cases h

/-- A new environment with a program, in which a variable has been read. -/
def Environment.having (text name : String) : Run FrameId := do
  let env ← Environment.ofText text
  let _ ← Eval.readVariable Eval.perform env name
  return env

def Tree.named (name : String) (pos : Nat) : Tree :=
  .node "call" [.node "primary" [.leaf "pr_Sym" name pos]]

/-- The sum of a list with itself. -/
theorem Eval.operand_takes_result_twice : ∃ env w us,
    Environment.having "l=[1,2];" "l" {} = .ok env w ∧ us.length = 2 ∧ ∃ v w',
      performWith 4 (.eval env (.code (.node "addition"
        [.named "l" 0, .leaf "" "+" 1, .named "l" 2]))) w = .ok v w' ∧
      Run.result (do (← readVariable (performWith 3) env "l").items) w = .ok us ∧
      Run.result (do (← readVariable (performWith 3) env "l").items) w' = .ok (us ++ us) := by
  obtain ⟨env, w, hrun, htest⟩ := Run.passes_eq_true (w := {})
    (m := Environment.having "l=[1,2];" "l")
    (t := fun env w => !(w.frameAt env).debug &&
      ((w.slotsAt env).named.find? "l").any w.isPair) (by decide +kernel)
  simp only [Bool.and_eq_true, Bool.not_eq_true', Option.any_eq_true] at htest
  obtain ⟨hquiet, s, hs, hpair⟩ := htest
  obtain ⟨cell, rfl, hcell, hlen⟩ := World.isPair_eq_true hpair
  have hb := Eval.eval_known (t := .named "l" 2) rfl (by decide)
    (Eval.slotsAt_raised env env w ▸ hs) (Arithmetic.Quiet.raised hquiet) (Nat.le_refl 3)
  obtain ⟨w', heval, hbefore, hafter⟩ := Eval.operand_takes_result (by decide) hs hcell hquiet
    (a := .named "l" 0) rfl (Nat.le_refl 3) hb (.sum rfl fun _ h => by cases h)
  exact ⟨env, w, _, hrun, hlen, .list cell, w', heval, hbefore, hafter⟩

/-- The first number that a shape was made with. -/
def Value.firstSize? : Value → Option Int
  | .shape _ (.shape _ (.int n :: _) _) => some n
  | _ => none

/-- Building a program twice gives a cube of another size. -/
theorem Eval.second_build_differs : ∃ sizes w,
    (do
      let env ← Environment.ofText "l=[1,2]; cube(len(l+[3]),center=true);"
      let first ← perform (.build env)
      let second ← perform (.build env)
      return (first.firstSize?, second.firstSize?) : Run (Option Int × Option Int)) {} =
        .ok sizes w ∧ sizes = (some 3, some 4) := by
  obtain ⟨sizes, w, hrun, htest⟩ := Run.passes_eq_true (w := {})
    (m := do
      let env ← Environment.ofText "l=[1,2]; cube(len(l+[3]),center=true);"
      let first ← Eval.perform (.build env)
      let second ← Eval.perform (.build env)
      return (first.firstSize?, second.firstSize?))
    (t := fun sizes _ => sizes == (some 3, some 4)) (by decide +kernel)
  exact ⟨sizes, w, hrun, beq_iff_eq.1 htest⟩

end Scad
