import Scad.Proofs.Arithmetic.Yields

/-!
Rows of operators. A row is worked off by a loop over the children of one node, so
what is proved of a row is how far the loop has come after it, whatever operators
follow.
-/

namespace Scad.Arithmetic

open Value.Relation

open Scad (Tree Value World Run Perform FrameId Task Fault)
open Kind Eval

variable (m n : Int) (w : World)

/-! ## One round of a loop -/

section

variable {α : Type} {w : World} {sub : Eval.Sub} {rule r word : String} {pre post : List Tree}
  {t : Tree} {place fuel : Nat} {left : Value} {o : Option α} {inj : α → Value}
  {g : α → Option Value}

theorem getElem?_operator (pre post : List Tree) (op t : Tree) :
    (pre ++ op :: t :: post)[pre.length]? = some op := by
  simp

theorem getElem?_operand (pre post : List Tree) (op t : Tree) :
    (pre ++ op :: t :: post)[pre.length + 1]? = some t := by
  simp

theorem Gives.bindMap {β : Type} {m : Run Value} {f : Value → Run β} {g : α → Option β}
    (h : Gives m w (o.map inj)) (hf : ∀ a, o = some a → Gives (f (inj a)) w (g a)) :
    Gives (m >>= f) w (o.bind g) := by
  cases o with
  | none => exact h.bind (g := fun _ => none) fun a he => absurd he (Option.some_ne_none a).symm
  | some a => exact h.step (hf a rfl)

section

variable (hs : Gives (sub (.code t)) w (o.map inj))

include hs

theorem gives_operatorChain {apply : Text → Value → Value → Run Value}
    (h : ∀ x, o = some x → Gives (do
      operatorChain sub apply (.code (.node rule (pre ++ .leaf r word place :: t :: post)))
        fuel (pre.length + 2) (← apply (Text.ofString word) left (inj x))) w (g x)) :
    Gives (operatorChain sub apply
      (.code (.node rule (pre ++ .leaf r word place :: t :: post))) (fuel + 1) pre.length left) w
        (o.bind g) := by
  refine (gives_reaches _ _ _ w).step ?_
  rw [if_pos (by simp)]
  refine (gives_child _ (getElem?_operand ..)).step (hs.bindMap fun x hx => ?_)
  exact (gives_wordAt _ (getElem?_operator ..)).step (h x hx)

theorem gives_relationChain {breaks : Text → Value → Value → Run Bool} {holds : α → Bool}
    (hb : ∀ x, Gives (breaks (Text.ofString word) left (inj x)) w (some !holds x))
    (h : ∀ x, Gives (relationChain sub breaks
      (.code (.node rule (pre ++ .leaf r word place :: t :: post))) fuel (pre.length + 2) (inj x)) w
        (g x)) : Gives (relationChain sub breaks
      (.code (.node rule (pre ++ .leaf r word place :: t :: post))) (fuel + 1) pre.length left) w
        (o.bind fun x => if holds x then g x else some (.bool false)) := by
  refine (gives_reaches _ _ _ w).step ?_
  rw [if_pos (by simp)]
  refine (gives_child _ (getElem?_operand ..)).step (hs.bindMap fun x _ => ?_)
  refine (gives_wordAt _ (getElem?_operator ..)).step ((hb x).step ?_)
  cases holds x with
  | false => exact .pure (Value.bool false)
  | true => exact h x

theorem gives_logicChain {final b : Bool}
    (h : ∀ x, Gives (logicChain sub (Text.ofString word) final
      (.code (.node rule (pre ++ .leaf r word place :: t :: post))) fuel (pre.length + 2) (inj x)) w
        (g x)) : Gives (logicChain sub (Text.ofString word) final
      (.code (.node rule (pre ++ .leaf r word place :: t :: post))) (fuel + 1) pre.length
        (.bool b)) w
        (if b = final then some (.bool b) else o.bind g) := by
  refine (gives_reaches _ _ _ w).step ?_
  rw [if_pos (by simp)]
  have htruth : Gives (Value.truth (.bool b)) w (some b) := rfl
  refine htruth.step ?_
  by_cases hf : b = final
  · rw [if_pos (by simpa using hf), if_pos hf]
    exact .pure _
  · rw [if_neg (by simpa using hf), if_neg hf]
    refine (gives_wordAt _ (getElem?_operator ..)).step ?_
    rw [if_neg (by simp)]
    exact (gives_child _ (getElem?_operand ..)).step (hs.bindMap fun x _ => h x)

end

theorem logicChain_decided {ts : List Tree} {name : Text} {final : Bool} {i : Nat}
    {o : Option Value} (h : Gives (logicChain sub name final (.code (.node rule ts)) fuel i
      (.bool final)) w o) : o = some (.bool final) := by
  cases fuel with
  | zero =>
    change EStateM.Result.error Fault.tooDeep w = _ at h
    cases o <;> cases h
  | succ fuel =>
    refine h.unique ((gives_reaches _ _ _ w).step ?_)
    split
    · have htruth : Gives (Value.truth (.bool final)) w (some final) := rfl
      refine htruth.step ?_
      rw [if_pos (by simp)]
      exact .pure _
    · exact .pure _

end

/-! ## Rows -/

/-- The loop over the operators of a level. -/
def levelLoop (perform : Perform) (env : FrameId) :
    (level : Nat) → Value → (fuel i : Nat) → Value → Run Value
  | 1 => logicChain (fun t => perform (.eval env t)) "||" true
  | 2 => logicChain (fun t => perform (.eval env t)) "&&" false
  | 3 => relationChain (fun t => perform (.eval env t)) breaksEquality
  | 4 => relationChain (fun t => perform (.eval env t)) breaksOrder
  | 5 => operatorChain (fun t => perform (.eval env t)) (addOp perform)
  | _ => operatorChain (fun t => perform (.eval env t)) mulOp

/-- What the loop over a row has in hand after an expression. -/
abbrev Kind.State : Kind → Type
  | value .int | chain _ => Int
  | value .bool => Bool

def Kind.held : {k : Kind} → k.State → Value
  | value .int, n | chain _, n => .int n
  | value .bool, b => .bool b

/-- A chain that does not hold ends the loop. -/
def Kind.reached : {k : Kind} → k.Meaning → Option k.State
  | value .int, n => some n
  | value .bool, b => some b
  | chain _, last => last

variable {k : Kind}

/-- After an expression that begins a row, the loop goes on with what it stands for. -/
def Reaches (need level : Nat) (e : Expr k) (r : Row) : Prop :=
  ∀ (depth : Nat) (env : FrameId) (w : World) (rule : String) (rest : List Tree) (fuel : Nat)
    (g : k.State → Option Value), need ≤ depth → Quiet env w →
    (∀ s, Gives (levelLoop (performWith depth) env level
      (.code (.node rule (r.trees ++ rest))) fuel r.trees.length (held s)) w (g s)) →
    Gives (performWith depth (.eval env (.code r.head)) >>=
      levelLoop (performWith depth) env level (.code (.node rule (r.trees ++ rest)))
        (fuel + r.tail.length) 1) w
      (e.meaning.bind fun m => (reached m).elim (some (.bool false)) g)

def Kind.toValue : {k : Kind} → k.Meaning → Value
  | value .int, n => .int n
  | value .bool, b => .bool b
  | chain _, last => .bool last.isSome

namespace Reaches

variable {need level : Nat} {a b : Expr (.value .int)} {r : Row} {t : Tree}

theorem single {y : Ty} {e : Expr (.value y)} (h : Yields need t (e.meaning.map toValue)) :
    Reaches need level e { head := t } := by
  intro depth env w rule rest fuel g hd hq hg
  refine (h depth env w hd hq).bindMap fun m _ => ?_
  cases y with
  | int => exact hg m
  | bool => exact hg m

theorem gives_addOp (perform : Perform) (m n : Int) (w : World) :
    Gives (addOp perform "+" (.int m) (.int n)) w (some (.int (m + n))) ∧
      Gives (addOp perform "-" (.int m) (.int n)) w (some (.int (m - n))) :=
  ⟨rfl, rfl⟩

theorem gives_mulOp :
    Gives (mulOp "*" (.int m) (.int n)) w (some (.int (m * n))) ∧
      Gives (mulOp "%" (.int m) (.int n)) w ((Operation.mod.apply m n).map .int) := by
  refine ⟨rfl, ?_⟩
  change Gives (Run.lift (ite (n = 0) _ _) >>= Run.number) w (Option.map _ (ite (n = 0) _ _))
  by_cases hn : n = 0
  · rw [if_pos hn, if_pos hn]
    rfl
  · rw [if_neg hn, if_neg hn]
    rfl

theorem snoc {k l : Kind} {a : Expr k} {e : Expr l} {op : Tree} (ha : Reaches need level a r)
    (hround : ∀ (depth : Nat) (env : FrameId) (w : World) (rule : String) (rest : List Tree)
      (fuel : Nat) (g : l.State → Option Value), need ≤ depth → Quiet env w →
      (∀ s, Gives (levelLoop (performWith depth) env level
        (.code (.node rule (r.trees ++ op :: t :: rest))) fuel (r.trees.length + 2)
        (held s)) w (g s)) → ∃ f : k.State → Option Value,
        (∀ s, Gives (levelLoop (performWith depth) env level
          (.code (.node rule (r.trees ++ op :: t :: rest))) (fuel + 1) r.trees.length
          (held s)) w (f s)) ∧ (e.meaning.bind fun m => (reached m).elim (some (.bool false)) g) =
          a.meaning.bind fun m => (reached m).elim (some (.bool false)) f) :
    Reaches need level e (r.snoc op t) := by
  intro depth env w rule rest fuel g hd hq hg
  have htrees : (r.snoc op t).trees ++ rest = r.trees ++ op :: t :: rest := by
    rw [Row.trees_snoc, List.append_assoc]
    rfl
  have hlength : (r.snoc op t).trees.length = r.trees.length + 2 := by
    rw [Row.trees_snoc, List.length_append]
    rfl
  have htail : fuel + (r.snoc op t).tail.length = fuel + 1 + r.tail.length := by
    simp only [Row.snoc, List.length_append, List.length_cons, List.length_nil]
    omega
  rw [htrees, hlength] at hg
  obtain ⟨f, hf, he⟩ := hround depth env w rule rest fuel g hd hq hg
  rw [htrees, htail, he]
  exact ha depth env w rule (op :: t :: rest) (fuel + 1) f hd hq hf

theorem arith (op : Operation) (pos : Nat) (ha : Reaches need op.sign.level a r)
    (hb : Yields need t (b.meaning.map toValue)) :
    Reaches need op.sign.level (.arith op a b) (r.snoc (op.sign.leaf pos) t) := by
  refine ha.snoc fun depth env w rule rest fuel g hd hq hg => ?_
  refine ⟨fun m => b.meaning.bind fun n => (op.apply m n).bind g, fun m => ?_, ?_⟩
  · have hright := hb depth env w hd hq
    cases op with
    | plus => exact gives_operatorChain hright fun n _ => (gives_addOp _ m n w).1.step (hg _)
    | minus => exact gives_operatorChain hright fun n _ => (gives_addOp _ m n w).2.step (hg _)
    | times => exact gives_operatorChain hright fun n _ => (gives_mulOp m n w).1.step (hg _)
    | mod =>
      exact gives_operatorChain hright fun n _ => (gives_mulOp m n w).2.bindMap fun x _ => hg x
  · rw [Expr.meaning_arith]
    cases a.meaning with
    | none => rfl
    | some m => exact Option.bind_assoc b.meaning _ _

theorem logic (op : Connective) (pos : Nat) {a b : Expr (.value .bool)}
    (ha : Reaches need op.sign.level a r) (hb : Yields need t (b.meaning.map toValue)) :
    Reaches need op.sign.level (.logic op a b) (r.snoc (op.sign.leaf pos) t) := by
  refine ha.snoc fun depth env w rule rest fuel g hd hq hg => ?_
  have hdecided : g op.decisive = some (.bool op.decisive) := by
    cases op with
    | and => exact logicChain_decided (hg false)
    | or => exact logicChain_decided (hg true)
  refine ⟨fun x : Bool => if x = op.decisive then some (.bool x) else b.meaning.bind g,
    fun x => ?_, ?_⟩
  · have hright := hb depth env w hd hq
    cases op with
    | and => exact gives_logicChain hright hg
    | or => exact gives_logicChain hright hg
  · have hround (x : Bool) :
        Option.bind (if x = op.decisive then some x else b.meaning) g =
          if x = op.decisive then some (.bool x) else b.meaning.bind g := by
      by_cases hx : x = op.decisive
      · rw [if_pos hx, if_pos hx, hx]
        exact hdecided
      · rw [if_neg hx, if_neg hx]
    rw [Expr.meaning_logic]
    cases a.meaning with
    | none => rfl
    | some x => exact hround x

variable {f : Family}

theorem compare_cases :
    m < n ∧ compare m n = .lt ∨ m = n ∧ compare m n = .eq ∨ n < m ∧ compare m n = .gt := by
  rcases Int.lt_trichotomy m n with h | h | h
  · exact .inl ⟨h, Int.compare_eq_lt.2 h⟩
  · exact .inr (.inl ⟨h, Int.compare_eq_eq.2 h⟩)
  · exact .inr (.inr ⟨h, Int.compare_eq_gt.2 h⟩)

theorem gives_breaksOrder :
    Gives (breaksOrder "<" (.int m) (.int n)) w (some !decide (m < n)) ∧
      Gives (breaksOrder ">" (.int m) (.int n)) w (some !decide (n < m)) ∧
      Gives (breaksOrder "<=" (.int m) (.int n)) w (some !decide (m ≤ n)) ∧
      Gives (breaksOrder ">=" (.int m) (.int n)) w (some !decide (n ≤ m)) := by
  have horder : greaterEq.holds (compare m n) = !decide (m < n) ∧
      lessEq.holds (compare m n) = !decide (n < m) ∧
      greater.holds (compare m n) = !decide (m ≤ n) ∧
      less.holds (compare m n) = !decide (n ≤ m) := by
    rcases compare_cases m n with ⟨h, hc⟩ | ⟨h, hc⟩ | ⟨h, hc⟩
    · simp [hc, holds, h, Int.le_of_lt h, Int.not_lt.2 (Int.le_of_lt h)]
    · simp [holds, h]
    · simp [hc, holds, h, Int.le_of_lt h, Int.not_lt.2 (Int.le_of_lt h)]
  obtain ⟨h1, h2, h3, h4⟩ := horder
  exact ⟨congrArg (EStateM.Result.ok · w) h1, congrArg (EStateM.Result.ok · w) h2,
    congrArg (EStateM.Result.ok · w) h3, congrArg (EStateM.Result.ok · w) h4⟩

theorem gives_breaksEquality :
    Gives (breaksEquality "==" (.int m) (.int n)) w (some !(Test.equal.holds m n)) ∧
      Gives (breaksEquality "!=" (.int m) (.int n)) w (some !(Test.unequal.holds m n)) := by
  have hequal : (some (compare m n) == some .eq) = decide (m = n) := by
    rcases compare_cases m n with ⟨h, hc⟩ | ⟨h, hc⟩ | ⟨h, hc⟩
    · rw [hc, decide_eq_false (show ¬m = n by omega)]
      rfl
    · rw [hc, decide_eq_true h]
      rfl
    · rw [hc, decide_eq_false (show ¬m = n by omega)]
      rfl
  have hunequal : Test.unequal.holds m n = !(Test.equal.holds m n) := by
    simp [Test.holds]
  rw [hunequal, Bool.not_not]
  exact ⟨congrArg (fun b => EStateM.Result.ok (!b) w) hequal,
    congrArg (EStateM.Result.ok · w) hequal⟩

theorem gives_test (op : Test f) {pos depth fuel : Nat} {env : FrameId} {w : World}
    {rule : String} {rest : List Tree} {g : Int → Option Value} (hd : need ≤ depth)
    (hq : Quiet env w) (hb : Yields need t (b.meaning.map toValue))
    (hg : ∀ n : Int, Gives (levelLoop (performWith depth) env op.sign.level
      (.code (.node rule (r.trees ++ op.sign.leaf pos :: t :: rest))) fuel (r.trees.length + 2)
      (.int n)) w (g n)) (m : Int) : Gives (levelLoop (performWith depth) env op.sign.level
      (.code (.node rule (r.trees ++ op.sign.leaf pos :: t :: rest))) (fuel + 1) r.trees.length
      (.int m)) w (b.meaning.bind fun n => (op.passOn m n).elim (some (.bool false)) g) := by
  have hpass : (fun n => (op.passOn m n).elim (some (.bool false)) g) =
      fun n => if op.holds m n then g n else some (.bool false) := by
    funext n
    rw [Test.passOn]
    split <;> rfl
  have hright := hb depth env w hd hq
  rw [hpass]
  cases op with
  | less => exact gives_relationChain hright (fun n => (gives_breaksOrder m n w).1) hg
  | greater => exact gives_relationChain hright (fun n => (gives_breaksOrder m n w).2.1) hg
  | equal => exact gives_relationChain hright (fun n => (gives_breaksEquality m n w).1) hg
  | unequal => exact gives_relationChain hright (fun n => (gives_breaksEquality m n w).2) hg

theorem test (op : Test f) (pos : Nat) (ha : Reaches need op.sign.level a r)
    (hb : Yields need t (b.meaning.map toValue)) :
    Reaches need op.sign.level (.test op a b) (r.snoc (op.sign.leaf pos) t) := by
  refine ha.snoc fun depth env w rule rest fuel g hd hq hg => ?_
  refine ⟨_, gives_test op hd hq hb hg, ?_⟩
  rw [Expr.meaning_test]
  cases a.meaning with
  | none => rfl
  | some m => exact Option.bind_assoc b.meaning _ _

theorem more (op : Test f) (pos : Nat) {front : Expr (.chain f)}
    (ha : Reaches need op.sign.level front r) (hb : Yields need t (b.meaning.map toValue)) :
    Reaches need op.sign.level (.more op front b) (r.snoc (op.sign.leaf pos) t) := by
  refine ha.snoc fun depth env w rule rest fuel g hd hq hg => ?_
  refine ⟨_, gives_test op hd hq hb hg, ?_⟩
  rw [Expr.meaning_more]
  cases front.meaning with
  | none => rfl
  | some last =>
    cases last with
    | none => rfl
    | some m => exact Option.bind_assoc b.meaning _ _

theorem mono {k : Kind} {e : Expr k} (h : Reaches need level e r) {more : Nat} (hm : need ≤ more) :
    Reaches more level e r :=
  fun depth env w rule rest fuel g hd => h depth env w rule rest fuel g (Nat.le_trans hm hd)

end Reaches

/-! ## Whole rows -/

/-- What the loop gives at the end of a row. -/
def levelEnd : (level : Nat) → Value → Value
  | 3, _ | 4, _ => .bool true
  | _, v => v

def levelForm : Nat → ExprForm
  | 1 => .logicOr
  | 2 => .logicAnd
  | 3 => .equality
  | 4 => .comparison
  | 5 => .addition
  | _ => .multiplication

section

variable {level : Nat} {perform : Perform} {env : FrameId} {w : World} {rule : String}
  {ts : List Tree} {r : Row} {v : Value} {o : Option Value}

theorem gives_levelLoop_end (fuel : Nat) (h1 : 1 ≤ level) (h6 : level ≤ 6) :
    Gives (levelLoop perform env level (.code (.node rule ts)) (fuel + 1) ts.length v) w
      (some (levelEnd level v)) := by
  obtain rfl | rfl | rfl | rfl | rfl | rfl := level_cases h1 h6
  all_goals
    refine (gives_reaches _ _ _ w).step ?_
    rw [if_neg (by simp)]
    exact .pure _

theorem Row.length_trees (r : Row) : r.trees.length = 2 * r.tail.length + 1 := by
  obtain ⟨head, tail⟩ := r
  induction tail with
  | nil => rfl
  | cons p tail ih =>
    simp only [Row.trees, List.flatMap_cons, List.cons_append, List.nil_append,
      List.length_cons] at ih ⊢
    omega

/-- A node with operators starts the loop with its first operand. -/
theorem gives_evalForm (h1 : 1 ≤ level) (h6 : level ≤ 6) (ht : r.tail ≠ [])
    (h : Gives (perform (.eval env (.code r.head)) >>= levelLoop perform env level
      (.code (.node rule r.trees)) (r.trees.length + Node.growthLimit) 1) w o) :
    Gives (evalForm perform env (.code (.node rule r.trees)) (levelForm level)) w o := by
  have hsize : r.trees.length ≠ 1 := by
    have : r.tail.length ≠ 0 := mt List.length_eq_zero_iff.1 ht
    rw [Row.length_trees]
    omega
  -- The loops stay variables here, so that none of their many rounds is unfolded.
  have hrounds (loop : Nat → Run Value) : (Node.rounds (.code (.node rule r.trees)) >>= loop) =
      loop (r.trees.length + Node.growthLimit) := rfl
  have hlogic (loop : Nat → Value → Run Value)
      (hloop : Gives (perform (.eval env (.code r.head)) >>=
        loop (r.trees.length + Node.growthLimit)) w o) :
      Gives (Node.child 0 (.code (.node rule r.trees)) >>= fun t => perform (.eval env t) >>=
        fun first => Node.rounds (.code (.node rule r.trees)) >>= (loop · first)) w o := by
    refine (gives_child 0 rfl).step ?_
    simpa only [hrounds] using hloop
  have hthen (loop : Nat → Value → Run Value)
      (hloop : Gives (perform (.eval env (.code r.head)) >>=
        loop (r.trees.length + Node.growthLimit)) w o) :
      Gives (headThen (fun t => perform (.eval env t)) (.code (.node rule r.trees))
        fun first => Node.rounds (.code (.node rule r.trees)) >>= (loop · first)) w o := by
    have hskip (first : Value) : (Value.size (.code (.node rule r.trees)) >>= fun size =>
        if size = 1 then Pure.pure first
        else Node.rounds (.code (.node rule r.trees)) >>= (loop · first)) =
        Node.rounds (.code (.node rule r.trees)) >>= (loop · first) := if_neg hsize
    unfold headThen
    simpa only [hskip] using hlogic loop hloop
  obtain rfl | rfl | rfl | rfl | rfl | rfl := level_cases h1 h6
  · exact hlogic (levelLoop perform env 1 _ · 1) h
  · exact hlogic (levelLoop perform env 2 _ · 1) h
  · exact hthen (levelLoop perform env 3 _ · 1) h
  · exact hthen (levelLoop perform env 4 _ · 1) h
  · exact hthen (levelLoop perform env 5 _ · 1) h
  · exact hthen (levelLoop perform env 6 _ · 1) h

theorem Reaches.whole {need : Nat} {e : Expr k} (h : Reaches need level e r) (h1 : 1 ≤ level)
    (h6 : level ≤ 6) (ht : r.tail ≠ []) (hv : ∀ m : k.Meaning, (reached m).elim (some (.bool false))
      (fun s => some (levelEnd level (held s))) = some (toValue m)) :
    Yields (need + 1) (.node (levelRule level).name r.trees) (e.meaning.map toValue) := by
  have hrule : ExprForm.ofRule? (levelRule level).name = some (levelForm level) := by
    obtain rfl | rfl | rfl | rfl | rfl | rfl := level_cases h1 h6
    all_goals rfl
  have hone : Node.hasOneChild (.code (.node (levelRule level).name r.trees)) =
    Pure.pure false := by
    obtain ⟨p, ps, hp⟩ := List.exists_cons_of_ne_nil ht
    rw [Row.trees, hp]
    rfl
  refine .ofForm hrule (fun _ => hone) fun depth env w hd hq => gives_evalForm h1 h6 ht ?_
  have hend := h depth env w (levelRule level).name [] (Node.growthLimit + r.tail.length + 1)
    (fun s => some (levelEnd level (held s))) hd hq
  rw [List.append_nil] at hend
  have hmeaning : (e.meaning.bind fun m => (reached m).elim (some (.bool false))
      fun s => some (levelEnd level (held s))) = e.meaning.map toValue := by
    simp only [hv, Option.map_eq_bind]
    rfl
  have hfuel : r.trees.length + Node.growthLimit =
      Node.growthLimit + r.tail.length + 1 + r.tail.length := by
    rw [Row.length_trees]
    omega
  rw [hfuel, ← hmeaning]
  exact hend fun s => gives_levelLoop_end _ h1 h6

end

end Scad.Arithmetic
