import Scad.Proofs.Arithmetic.Rows
import Scad.Proofs.Scoping.Lexical

/-!
Chains of operators whose operands may do anything. What a chain gives is said by rules over its
operands; the loop that works it off looks for them in the node, which may be one that programs
hold, before every round. An operand that changes such a node changes the chain.
-/

namespace Scad

open Run List

/-- The operators that stand between the operands of a chain. -/
def ExprForm.words : ExprForm → List String
  | logicOr => ["||"]
  | logicAnd => ["&&"]
  | equality => ["==", "!="]
  | comparison => ["<", ">", "<=", ">="]
  | _ => []

namespace Eval

def wordHolds : String → Int → Int → Bool
  | "==", m, n => m = n
  | "!=", m, n => m ≠ n
  | "<", m, n => m < n
  | ">", m, n => n < m
  | "<=", m, n => m ≤ n
  | ">=", m, n => n ≤ m
  | _, _, _ => false

/-- A further operand of a chain, with the operator before it. -/
structure Joint where
  mark : Value
  word : String
  operand : Value

def Joint.values (x : Joint) : List Value := [x.mark, x.operand]

theorem Joint.length_values (first : Value) (rest : List Joint) :
    ([first] ++ rest.flatMap Joint.values).length = 2 * rest.length + 1 := by
  induction rest with
  | nil => rfl
  | cons x rest ih =>
    simp only [flatMap_cons, Joint.values, length_append, length_cons,
      length_nil] at ih ⊢
    omega

/-- What comes of operands of which the first that counts as `final` decides, or else the last. -/
inductive Decides (sub : Sub) (final : Bool) :
    List Value → World → EStateM.Result Fault World Value → Prop
  | fails {o os e w w'} (h : sub o w = .error e w') : Decides sub final (o :: os) w (.error e w')
  | stops {o os v w w'} (h : sub o w = .ok v w') (ht : v.truth w' = .ok final w') :
      Decides sub final (o :: os) w (.ok v w')
  | last {o v w w'} (h : sub o w = .ok v w') : Decides sub final [o] w (.ok v w')
  | goes {o os v w w' r} (h : sub o w = .ok v w') (ht : v.truth w' = .ok (!final) w')
      (more : Decides sub final os w' r) : Decides sub final (o :: os) w r

/-- What comes of further operands after the number `m`. Nothing is said once an operand is no
number. -/
inductive Compares (sub : Sub) :
    (m : Int) → List Joint → World → EStateM.Result Fault World Value → Prop
  | done {m w} : Compares sub m [] w (.ok (.bool true) w)
  | fails {m x xs e w w'} (h : sub x.operand w = .error e w') :
      Compares sub m (x :: xs) w (.error e w')
  | breaks {m n x xs w w'} (h : sub x.operand w = .ok (.int n) w')
      (hb : wordHolds x.word m n = false) : Compares sub m (x :: xs) w (.ok (.bool false) w')
  | holds {m n x xs w w' r} (h : sub x.operand w = .ok (.int n) w')
      (hh : wordHolds x.word m n = true) (more : Compares sub n xs w' r) :
      Compares sub m (x :: xs) w r
  | other {m v x xs w w' r} (h : sub x.operand w = .ok v w') (hv : ∀ n, v ≠ .int n) :
      Compares sub m (x :: xs) w r

/-- What comes of a chain of comparisons. -/
inductive Relates (sub : Sub) (first : Value) (rest : List Joint) (w : World) :
    EStateM.Result Fault World Value → Prop
  | fails {e w'} (h : sub first w = .error e w') : Relates sub first rest w (.error e w')
  | goes {m w' r} (h : sub first w = .ok (.int m) w') (more : Compares sub m rest w' r) :
      Relates sub first rest w r
  | other {v w' r} (h : sub first w = .ok v w') (hv : ∀ n, v ≠ .int n) : Relates sub first rest w r

/-- What comes of a chain, by its form. -/
def Settles (sub : Sub) (first : Value) (rest : List Joint) (w : World)
    (r : EStateM.Result Fault World Value) : ExprForm → Prop
  | .logicOr => Decides sub true (first :: rest.map Joint.operand) w r
  | .logicAnd => Decides sub false (first :: rest.map Joint.operand) w r
  | _ => Relates sub first rest w r

/-- In all worlds that `I` allows, the children of a node after those in `front` are the rest of
a chain. -/
structure Holds (I : World → Prop) (n : Value) (front : List Value) (rest : List Joint) : Prop where
  items : ∀ w, I w → n.listItems? w = .ok (some (front ++ rest.flatMap Joint.values)) w
  word : ∀ w, I w → ∀ x ∈ rest, Node.word x.mark w = .ok (Text.ofString x.word) w

/-- A node that stays a chain of some form. -/
structure Chained (I : World → Prop) (form : ExprForm) (n first : Value) (rest : List Joint) :
    Prop extends Holds I n [first] rest where
  more : rest ≠ []
  known : ∀ x ∈ rest, x.word ∈ form.words

section

variable {I : World → Prop} {form : ExprForm} {n first v : Value} {rest : List Joint}
  {front vs : List Value} {w : World} {sub : Sub} {i fuel : Nat}

section

variable (h : n.listItems? w = .ok (some vs) w)

include h

theorem size_of_items : n.size w = .ok vs.length w := by
  cases n with
  | code t =>
    cases t with
    | leaf => cases h
    | node rule ts =>
      cases h
      exact congrArg (EStateM.Result.ok · w) (length_map _).symm
  | list cell => exact bind_of_ok (bind_of_ok h)
  | node cell => exact bind_of_ok (bind_of_ok h)
  | _ => cases h

theorem child_of_items (hi : vs[i]? = some v) : Node.child i n w = .ok v w := by
  have hitem := Arithmetic.gives_itemAt (w := w) .list i hi
  cases n with
  | code t =>
    cases t with
    | leaf => cases h
    | node rule ts =>
      cases h
      rw [getElem?_map] at hi
      obtain ⟨t, ht, rfl⟩ := Option.map_eq_some_iff.1 hi
      exact Arithmetic.gives_child i ht
  | list cell => exact (bind_of_ok h).trans hitem
  | node cell => exact (bind_of_ok h).trans hitem
  | _ => cases h

theorem reaches_of_items : Node.reaches i n w = .ok (decide (i < vs.length)) w :=
  bind_of_ok (size_of_items h)

theorem rounds_of_items : Node.rounds n w = .ok (vs.length + Node.growthLimit) w :=
  bind_of_ok (size_of_items h)

end

theorem truth_ok (v : Value) (w : World) : ∃ b, v.truth w = .ok b w := by
  obtain ⟨vs, hvs⟩ := Arithmetic.listItems?_ok v w
  have hitems : (do return !(← v.listItems?).any isEmpty : Run Bool) w = .ok _ w :=
    bind_of_ok hvs
  cases v with
  | code _ | node _ => exact ⟨_, hitems⟩
  | _ => exact ⟨_, rfl⟩

namespace Holds

variable {x : Joint}

theorem reaches_end (h : Holds I n front []) (hw : I w) :
    Node.reaches front.length n w = .ok false w := by
  rw [reaches_of_items (h.items w hw)]
  simp

variable (h : Holds I n front (x :: rest)) (hw : I w)
include h hw

theorem reaches : Node.reaches front.length n w = .ok true w := by
  rw [reaches_of_items (h.items w hw)]
  simp [Joint.values]

theorem wordAt : Node.wordAt front.length n w = .ok (Text.ofString x.word) w := by
  have hchild := child_of_items (i := front.length) (v := x.mark)
    (h.items w hw) (by simp [Joint.values])
  exact (bind_of_ok hchild).trans (h.word w hw x mem_cons_self)

theorem operand : Node.child (front.length + 1 : Nat) n w = .ok x.operand w :=
  child_of_items (h.items w hw) (by simp [Joint.values])

omit hw in
theorem next : Holds I n (front ++ x.values) rest where
  items w hw := by
    rw [h.items w hw, flatMap_cons, append_assoc]
  word w hw y hy := h.word w hw y (mem_cons_of_mem x hy)

end Holds

variable (hkeep : ∀ x ∈ rest, ∀ w v w', I w → sub x.operand w = .ok v w' → I w')
include hkeep

theorem logicChain_decides {final : Bool} {word : String} {o : Value} {w0 : World}
    (h : Holds I n front rest) (hword : ∀ x ∈ rest, x.word = word) (hf : rest.length < fuel)
    (ho : sub o w0 = .ok v w) (hw : I w) : Decides sub final (o :: rest.map Joint.operand) w0
      (logicChain sub (Text.ofString word) final n fuel front.length v w) := by
  induction rest generalizing front v w o w0 fuel with
  | nil =>
    obtain _ | fuel := fuel
    · cases hf
    · have hend : logicChain sub (Text.ofString word) final n (fuel + 1) front.length v w =
          .ok v w := bind_of_ok (h.reaches_end hw)
      rw [hend]
      exact .last ho
  | cons x rest ih =>
    obtain _ | fuel := fuel
    · cases hf
    obtain ⟨b, ht⟩ := truth_ok v w
    have hround : logicChain sub (Text.ofString word) final n (fuel + 1) front.length v w =
        if b == final then .ok v w else (do
          logicChain sub (Text.ofString word) final n fuel (front.length + 2)
            (← sub x.operand)) w := by
      refine (bind_of_ok (h.reaches hw)).trans ((bind_of_ok ht).trans ?_)
      split
      · rfl
      · refine (bind_of_ok (h.wordAt hw)).trans ?_
        rw [hword x mem_cons_self, if_neg (by simp)]
        exact bind_of_ok (h.operand hw)
    rw [hround]
    by_cases hb : b = final
    · rw [if_pos (by simpa using hb)]
      exact .stops ho (hb ▸ ht)
    · rw [if_neg (by simpa using hb)]
      have hgoes : v.truth w = .ok (!final) w := by
        rw [ht, Bool.eq_not.2 hb]
      refine .goes ho hgoes ?_
      cases hs : sub x.operand w with
      | error e w' =>
        rw [bind_of_error hs]
        exact .fails hs
      | ok v' w' =>
        rw [bind_of_ok hs]
        have hlength : front.length + 2 = (front ++ x.values).length := by simp [Joint.values]
        rw [hlength]
        exact ih (fun y hy => hkeep y (mem_cons_of_mem x hy)) h.next
          (fun y hy => hword y (mem_cons_of_mem x hy)) (Nat.lt_of_succ_lt_succ hf) hs
          (hkeep x mem_cons_self w v' w' hw hs)

theorem relationChain_compares {breaks : Text → Value → Value → Run Bool} {m : Int}
    (h : Holds I n front rest) (hbreaks : ∀ x ∈ rest, ∀ m k w,
      breaks (Text.ofString x.word) (.int m) (.int k) w = .ok (!wordHolds x.word m k) w)
    (hf : rest.length < fuel) (hw : I w) :
    Compares sub m rest w (relationChain sub breaks n fuel front.length (.int m) w) := by
  induction rest generalizing front m w fuel with
  | nil =>
    obtain _ | fuel := fuel
    · cases hf
    · have hend : relationChain sub breaks n (fuel + 1) front.length (.int m) w =
          .ok (.bool true) w := bind_of_ok (h.reaches_end hw)
      rw [hend]
      exact .done
  | cons x rest ih =>
    obtain _ | fuel := fuel
    · cases hf
    have hround : relationChain sub breaks n (fuel + 1) front.length (.int m) w =
        (sub x.operand >>= fun right => Node.wordAt front.length n >>= fun op =>
          breaks op (.int m) right >>= fun b => if b then return .bool false
            else relationChain sub breaks n fuel (front.length + 2) right) w :=
      (bind_of_ok (h.reaches hw)).trans (bind_of_ok (h.operand hw))
    rw [hround]
    cases hs : sub x.operand w with
    | error e w' =>
      rw [bind_of_error hs]
      exact .fails hs
    | ok v w' =>
      have hw' := hkeep x mem_cons_self w v w' hw hs
      by_cases hv : ∃ k, v = .int k
      · obtain ⟨k, rfl⟩ := hv
        rw [bind_of_ok hs, bind_of_ok (h.wordAt hw'),
          bind_of_ok (hbreaks x mem_cons_self m k w')]
        cases hh : wordHolds x.word m k with
        | false => exact .breaks hs hh
        | true =>
          have hlength : front.length + 2 = (front ++ x.values).length := by simp [Joint.values]
          refine .holds hs hh ?_
          rw [hlength]
          exact ih (fun y hy => hkeep y (mem_cons_of_mem x hy)) h.next
            (fun y hy => hbreaks y (mem_cons_of_mem x hy)) (Nat.lt_of_succ_lt_succ hf) hw'
      · exact .other hs fun k hk => hv ⟨k, hk⟩

omit hkeep in
theorem breaksEquality_int {s : String} (hs : s ∈ ExprForm.equality.words) (m k : Int) (w : World) :
    breaksEquality (Text.ofString s) (.int m) (.int k) w = .ok (!wordHolds s m k) w := by
  have h := Arithmetic.Reaches.gives_breaksEquality m k w
  rcases mem_cons.1 hs with rfl | hs
  · exact h.1
  · obtain rfl := mem_singleton.1 hs
    exact h.2

omit hkeep in
theorem breaksOrder_int {s : String} (hs : s ∈ ExprForm.comparison.words) (m k : Int) (w : World) :
    breaksOrder (Text.ofString s) (.int m) (.int k) w = .ok (!wordHolds s m k) w := by
  obtain ⟨hless, hgreater, hatMost, hatLeast⟩ := Arithmetic.Reaches.gives_breaksOrder m k w
  simp only [ExprForm.words, mem_cons, not_mem_nil, or_false] at hs
  obtain rfl | rfl | rfl | rfl := hs
  · exact hless
  · exact hgreater
  · exact hatMost
  · exact hatLeast

theorem evalLogic_decides {final : Bool} {word : String} (h : Holds I n [first] rest)
    (hword : ∀ x ∈ rest, x.word = word)
    (hfirst : ∀ w v w', I w → sub first w = .ok v w' → I w') (hw : I w) :
    Decides sub final (first :: rest.map Joint.operand) w
      (evalLogic sub (Text.ofString word) final n w) := by
  have hchild : Node.child 0 n w = .ok first w := child_of_items (h.items w hw) (i := 0) rfl
  unfold evalLogic
  rw [bind_of_ok hchild]
  cases hs : sub first w with
  | error e w' =>
    rw [bind_of_error hs]
    exact .fails hs
  | ok v w' =>
    have hw' := hfirst w v w' hw hs
    rw [bind_of_ok hs, bind_of_ok (rounds_of_items (h.items w' hw'))]
    have hfuel := Joint.length_values first rest
    exact logicChain_decides hkeep h hword (by omega) hs hw'

theorem evalRelation_relates {breaks : Text → Value → Value → Run Bool}
    (h : Holds I n [first] rest) (hmore : rest ≠ []) (hbreaks : ∀ x ∈ rest, ∀ m k w,
      breaks (Text.ofString x.word) (.int m) (.int k) w = .ok (!wordHolds x.word m k) w)
    (hfirst : ∀ w v w', I w → sub first w = .ok v w' → I w') (hw : I w) :
    Relates sub first rest w (evalRelation sub breaks n w) := by
  have hchild : Node.child 0 n w = .ok first w := child_of_items (h.items w hw) (i := 0) rfl
  unfold evalRelation headThen
  rw [bind_of_ok hchild]
  cases hs : sub first w with
  | error e w' =>
    rw [bind_of_error hs]
    exact .fails hs
  | ok v w' =>
    by_cases hv : ∃ m, v = .int m
    · obtain ⟨m, rfl⟩ := hv
      have hw' := hfirst w _ w' hw hs
      have hlength := Joint.length_values first rest
      have hsome : rest.length ≠ 0 := mt length_eq_zero_iff.1 hmore
      rw [bind_of_ok hs, bind_of_ok (size_of_items (h.items w' hw')), if_neg (by omega)]
      beta_reduce
      rw [bind_of_ok (rounds_of_items (h.items w' hw'))]
      refine .goes hs ?_
      exact relationChain_compares hkeep h hbreaks (by omega) hw'
    · exact .other hs fun m hm => hv ⟨m, hm⟩

end

/-- The further operands of a tree. -/
def Joint.ofTrees : List Tree → List Joint
  | .leaf r s p :: t :: ts => ⟨.code (.leaf r s p), s, .code t⟩ :: ofTrees ts
  | _ => []

theorem Joint.word_ofTrees {ts : List Tree} {x : Joint} (hx : x ∈ ofTrees ts) (w : World) :
    Node.word x.mark w = .ok (Text.ofString x.word) w := by
  fun_induction ofTrees ts with
  | case1 r s p t ts ih =>
    rcases mem_cons.1 hx with rfl | hx
    · rfl
    · exact ih hx
  | case2 => cases hx

/-- The trees of a program do not change. -/
theorem chained_code (rule : String) (form : ExprForm) (t : Tree) {ts : List Tree}
    (hs : (Joint.ofTrees ts).flatMap Joint.values = ts.map .code) (hne : ts ≠ [])
    (hw : ∀ x ∈ Joint.ofTrees ts, x.word ∈ form.words) :
    Chained (fun _ => True) form (.code (.node rule (t :: ts))) (.code t) (Joint.ofTrees ts) where
  items w _ := by
    rw [hs]
    rfl
  word w _ x hx := Joint.word_ofTrees hx w
  more h := by
    rw [h] at hs
    exact hne (map_eq_nil_iff.1 hs.symm)
  known := hw

/-- A chain of operators is worked off from the left. Each operand is evaluated once, in the world
that the one before it left, up to the one that decides. -/
theorem chain_settles {I : World → Prop} {form : ExprForm} {n first : Value} {rest : List Joint}
    (hn : Chained I form n first rest) {p : Perform} {env : FrameId}
    (hkeep : ∀ o ∈ first :: rest.map Joint.operand, ∀ w v w', I w →
      p (.eval env o) w = .ok v w' → I w') {w : World} (hw : I w) :
    Settles (fun o => p (.eval env o)) first rest w (evalForm p env n form w) form := by
  have hfirst := hkeep first List.mem_cons_self
  have hrest : ∀ x ∈ rest, ∀ w v w', I w → p (.eval env x.operand) w = .ok v w' → I w' :=
    fun x hx => hkeep x.operand (List.mem_cons_of_mem first (List.mem_map_of_mem hx))
  obtain ⟨x, hx⟩ := List.exists_mem_of_ne_nil rest hn.more
  have hform := hn.known x hx
  cases form with
  | logicOr =>
    exact evalLogic_decides hrest hn.toHolds (fun x hx => List.mem_singleton.1 (hn.known x hx))
      hfirst hw
  | logicAnd =>
    exact evalLogic_decides hrest hn.toHolds (fun x hx => List.mem_singleton.1 (hn.known x hx))
      hfirst hw
  | equality =>
    exact evalRelation_relates hrest hn.toHolds hn.more
      (fun x hx => breaksEquality_int (hn.known x hx)) hfirst hw
  | comparison =>
    exact evalRelation_relates hrest hn.toHolds hn.more
      (fun x hx => breaksOrder_int (hn.known x hx)) hfirst hw
  | _ => cases hform

open Arithmetic (wrapFrom atom) in
/-- The operands of `0 || 5 || y`. -/
theorem chain_settles_or : ∃ o ts,
    Chained (fun _ => True) .logicOr (.code (.node "logic_or" (o :: ts))) (.code o)
      (Joint.ofTrees ts) ∧
    Settles (fun t => perform (.eval 0 t)) (.code o) (Joint.ofTrees ts) {}
      (evalForm perform 0 (.code (.node "logic_or" (o :: ts))) .logicOr {}) .logicOr := by
  have hsplit : (Joint.ofTrees [.leaf "OR" "||" 2, wrapFrom 2 6 (atom (.leaf "pr_Num" "5" 5)),
      .leaf "OR" "||" 7, wrapFrom 2 6 (atom (.leaf "pr_Sym" "y" 10))]).flatMap
        Joint.values = _ := rfl
  have hchained := chained_code "logic_or" .logicOr (wrapFrom 2 6 (atom (.leaf "pr_Num" "0" 0)))
    hsplit (List.cons_ne_nil _ _) (by simp [Joint.ofTrees, ExprForm.words])
  exact ⟨_, _, hchained, chain_settles hchained (fun _ _ _ _ _ _ _ => trivial) trivial⟩

end Eval

/-- An operand that empties the node ends the chain. -/
theorem Eval.emptied_chain_ends : ∃ v w, (do
      let env ← Environment.ofText
        "function g($a = 0 || $a[0][0] * 0 || 5) = eval($a); x = g();"
      perform (.read env "x") : Run Value) {} = .ok v w ∧ v ≠ .int 5 := by
  obtain ⟨v, w, hrun, htest⟩ := Run.passes_eq_true (w := {})
    (m := do
      let env ← Environment.ofText
        "function g($a = 0 || $a[0][0] * 0 || 5) = eval($a); x = g();"
      perform (.read env "x"))
    (t := fun v _ => v.isNode) (by decide +kernel)
  refine ⟨v, w, hrun, ?_⟩
  rintro rfl
  cases htest

end Scad
