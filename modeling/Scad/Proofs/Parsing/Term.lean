import Scad.Proofs.Correspondence.Laws
import Scad.Proofs.Parsing.Shape

/-!
The trees of expressions have the shapes that their evaluation expects: the number of
children is one that it allows, and what stands at the places that it evaluates is again
a tree of an expression. The few rules without a meaning are known by name.
-/

namespace Scad

open ExprForm Rule

/-- The rules of expressions: what is evaluated, or met in the place of what is. -/
def Rule.isTerm : Rule → Bool
  | expr | exprFn | exprLet | exprEcho | exprCase | logicOr | logicAnd | equality | comparison
  | addition | multiplication | unary | exponent | call | addon | addArgs | addIndex | addMember
  | primary | prTrue | prFalse | prUndef | prNum | prStr | prSym | prParen | prFor2 | prFor3
  | prVecEmpty | prVecElems | listComprehensionElementsP | vectorElements | vectorElement
  | parameters | arguments | argumentList | argument => true
  | _ => false

/-- The rules of expressions that have no meaning. -/
def Rule.unimplemented : List String :=
  ["expr_let", "expr_echo", "add_member", "list_comprehension_elements_p", "parameters"]

def Tree.IsTerm (t : Tree) : Prop := ∃ r : Rule, r.isTerm = true ∧ t.Is r

/-- The children fit a form: their number is allowed, and those that are evaluated are
trees of expressions. -/
structure ExprForm.Suits (form : ExprForm) (ts : List Tree) : Prop where
  allowed : form.allows ts.length = true
  parts : ∀ i t, form.evaluates ts.length i = true → ts[i]? = some t → t.IsTerm

/-- Do children of these rules fit a form? -/
def ExprForm.takes (form : ExprForm) (row : List (Option Rule)) : Bool :=
  form.allows row.length &&
    row.zipIdx.all fun x => !form.evaluates row.length x.2 || x.1.any isTerm

namespace ExprForm.Suits

variable {form : ExprForm} {ts : List Tree}

theorem row {D : Tree → Prop} (h : Row Tree.IsTerm D ts) (ha : ∀ n, form.allows n = true)
    (he : ∀ n i, form.evaluates n i = true → i % 2 = 0) : form.Suits ts where
  allowed := ha _
  parts := by
    intro i t hi ht
    replace hi := he _ _ hi
    clear ha he
    induction h generalizing i with
    | single hx =>
      cases i with
      | zero =>
        cases ht
        exact hx
      | succ i => cases ht
    | cons hx _ _ ih =>
      rcases i with _ | _ | i
      · cases ht
        exact hx
      · cases hi
      · exact ih i ht (by omega)

theorem ofRow {row : List (Option Rule)} (hf : form.takes row = true)
    (h : List.Forall₂ (fun o t => ∀ r ∈ o, t.Is r) row ts) : form.Suits ts := by
  obtain ⟨ha, hp⟩ := Bool.and_eq_true_iff.1 hf
  rw [h.length_eq] at ha hp
  refine ⟨ha, fun i t hi ht => ?_⟩
  obtain ⟨hlt, rfl⟩ := List.getElem?_eq_some_iff.1 ht
  have hlt' : i < row.length := h.length_eq.symm ▸ hlt
  have hat := List.all_eq_true.1 hp (row[i], i) (List.mk_mem_zipIdx_iff_getElem?.2 (by simp [hlt']))
  simp only [hi, Bool.not_true, Bool.false_or, Option.any_eq_true] at hat
  obtain ⟨r, hr, hterm⟩ := hat
  exact ⟨r, hterm, h.get hlt' hlt r hr⟩

theorem ofRows {p : Peg} (h : Derives p ts) (hne : ts ≠ [])
    (hp : p.rows?.any (·.all fun row => row.isEmpty || form.takes row) = true) : form.Suits ts := by
  obtain ⟨rows, hrows, hall⟩ := (Option.any_eq_true _ _).1 hp
  obtain ⟨row, hmem, hrow⟩ := h.fits_row hrows
  have htakes := List.all_eq_true.1 hall row hmem
  cases hrow with
  | nil => exact absurd rfl hne
  | cons ht hts => exact .ofRow htakes (.cons ht hts)

end ExprForm.Suits

namespace Derives

variable {ts : List Tree}

theorem term {r : Rule} {t : Tree} (h : Derives (.rule r) [t]) (hr : r.isTerm = true) : t.IsTerm :=
  ⟨r, hr, h⟩

theorem termRow {item : Rule} {divider : Peg} (h : Derives (.separated (.rule item) divider) ts)
    (hi : item.isTerm = true) (he : item.mayBeEmpty = false) (hd : divider.isOne = true) :
    Row Tree.IsTerm (fun _ => True) ts := by
  refine h.row (fun us hu => ?_) fun us hu => ?_
  · obtain ⟨t, rfl, ht⟩ := hu.one he
    exact ⟨t, rfl, ht.term hi⟩
  · obtain ⟨t, rfl, -⟩ := hu.single hd
    exact ⟨t, rfl, trivial⟩

end Derives

theorem call_suits {ts : List Tree} (h : Derives Rule.call.body ts) : ExprForm.call.Suits ts := by
  obtain ⟨a, us, rfl, ha, h1⟩ := h.cons rfl
  have haddons : ∀ t ∈ us, t.IsTerm := by
    refine h1.forall_many fun vs hv t ht => ?_
    obtain ⟨x, rfl, hx⟩ := hv.single rfl
    obtain rfl := List.mem_singleton.1 ht
    exact hx.term rfl
  refine ⟨rfl, fun i t _ ht => ?_⟩
  cases i with
  | zero =>
    cases ht
    exact ha.term rfl
  | succ i => exact haddons t (List.mem_of_getElem? ht)

namespace Tree.IsTerm

variable {rule : String} {ts : List Tree} {form : ExprForm}

theorem unimplemented (h : (Tree.node rule ts).IsTerm) (hf : ofRule? rule = none) :
    rule ∈ unimplemented := by
  obtain ⟨r, hr, h⟩ := h
  have known : ∀ r : Rule, r.isTerm = true → r.isToken = false →
      ofRule? r.name = none → r.name ∈ Rule.unimplemented := by
    intro r hr ht hn
    cases r <;> first | (cases hr; done) | (cases ht; done) | (cases hn; done) | decide
  cases h with
  | rule hb _ _ => exact known r hr hb hf

/-- Each rule of expressions and the form that evaluates it agree about the children. -/
theorem suits (h : (Tree.node rule ts).IsTerm) (hf : ofRule? rule = some form) : form.Suits ts := by
  obtain ⟨r, hr, h⟩ := h
  cases h with
  | rule hb hne h =>
    have rowOf : ∀ {item : Rule} {divider : Peg},
        Derives (.separated (.rule item) divider) ts → item.isTerm = true →
        item.mayBeEmpty = false → divider.isOne = true → (∀ n, form.allows n = true) →
        (∀ n i, form.evaluates n i = (i % 2 == 0)) → form.Suits ts := by
      intro item divider h hi he hd ha hp
      refine .row (h.termRow hi he hd) ha fun n i h => ?_
      rw [hp] at h
      exact beq_iff_eq.1 h
    cases r with
    | expr | addon | primary | vectorElement | prStr | prVecEmpty | exprFn | exprCase | unary
    | exponent | addArgs | addIndex | prParen | prFor2 | prFor3 | prVecElems | arguments
    | argument =>
      cases hf
      exact .ofRows h hne rfl
    | logicOr | logicAnd | equality | comparison | addition | multiplication | vectorElements
    | argumentList =>
      cases hf
      exact rowOf h rfl rfl rfl (fun _ => rfl) fun _ _ => rfl
    | call =>
      cases hf
      exact call_suits h
    | _ => first | (cases hr; done) | (cases hb; done) | cases hf

end Tree.IsTerm
end Scad
