import Scad.Proofs.Parsing.Shape

/-!
The shapes of statements: for each rule of the statement grammar, the children that a
tree made by it has. A part that may be empty, such as a parameter list or the inside of
a block, is there as one child or not at all.
-/

namespace Scad
namespace Tree.Is

variable {t : Tree}

theorem input (h : t.Is .input) : ∃ ts s p, t = .node "Input" (ts ++ [.leaf "EOF" s p]) ∧
    ∀ x ∈ ts, x.Is .includeFile ∨ x.Is .useFile ∨ x.Is .statement := by
  obtain ⟨us, rfl, -, hd⟩ := h.node rfl
  obtain ⟨ts, es, hts, hes, rfl⟩ := derives_seq.1 hd
  obtain ⟨s, p, rfl⟩ := derives_terminal.1 hes
  refine ⟨ts, s, p, rfl, hts.forall_many ?_⟩
  intro us hu x hx
  obtain ⟨y, rfl, hy⟩ :=
    hu.choice (show Peg.choices? _ = some [.includeFile, .useFile, .statement] from rfl)
  obtain rfl := List.mem_singleton.1 hx
  exact hy

theorem statement (h : t.Is .statement) : ∃ x, t = .node "statement" [x] ∧
    (x.Is .stmtEmpty ∨ x.Is .stmtObj ∨ x.Is .assignment ∨ x.Is .stmtDeclMod ∨
      x.Is .stmtDeclFn) :=
  h.choice rfl (show Peg.choices? _ =
    some [.stmtEmpty, .stmtObj, .assignment, .stmtDeclMod, .stmtDeclFn] from rfl)

theorem stmtObj (h : t.Is .stmtObj) : ∃ x, t = .node "stmt_obj" [x] ∧
    (x.Is .stmtList ∨ x.Is .moduleInstantiation) :=
  h.choice rfl (show Peg.choices? _ = some [.stmtList, .moduleInstantiation] from rfl)

theorem stmtList (h : t.Is .stmtList) : ∃ o ss c, t = .node "stmt_list" (o :: (ss ++ [c])) ∧
    ∀ x ∈ ss, x.Is .statement := by
  obtain ⟨us, rfl, -, hd⟩ := h.node rfl
  obtain ⟨o, _, rfl, -, h1⟩ := hd.cons rfl
  obtain ⟨ss, _, hs, h2, rfl⟩ := derives_seq.1 h1
  obtain ⟨c, rfl, -⟩ := h2.single rfl
  refine ⟨o, ss, c, rfl, hs.forall_many ?_⟩
  intro us hu x hx
  obtain ⟨y, rfl, hy⟩ := hu.one rfl
  obtain rfl := List.mem_singleton.1 hx
  exact hy

theorem assignment (h : t.Is .assignment) :
    ∃ name e x c, t = .node "assignment" [name, e, x, c] ∧ x.Is .expr := by
  obtain ⟨us, rfl, -, hd⟩ := h.node rfl
  obtain ⟨name, _, rfl, -, h1⟩ := hd.cons rfl
  obtain ⟨e, _, rfl, -, h2⟩ := h1.cons rfl
  obtain ⟨x, _, rfl, hx, h3⟩ := h2.cons rfl
  obtain ⟨c, rfl, -⟩ := h3.single rfl
  exact ⟨name, e, x, c, rfl, hx⟩

theorem stmtDeclMod (h : t.Is .stmtDeclMod) : ∃ kw name o ps c body,
    t = .node "stmt_decl_mod" (kw :: name :: o :: (ps ++ [c, body])) ∧
      (ps = [] ∨ ∃ q, ps = [q] ∧ q.Is .parameters) ∧ body.Is .statement := by
  obtain ⟨us, rfl, -, hd⟩ := h.node rfl
  obtain ⟨kw, _, rfl, -, h1⟩ := hd.cons rfl
  obtain ⟨name, _, rfl, -, h2⟩ := h1.cons rfl
  obtain ⟨o, _, rfl, -, h3⟩ := h2.cons rfl
  obtain ⟨ps, _, hps, h4, rfl⟩ := derives_seq.1 h3
  obtain ⟨c, _, rfl, -, h5⟩ := h4.cons rfl
  obtain ⟨body, rfl, hb⟩ := h5.one rfl
  exact ⟨kw, name, o, ps, c, body, rfl, hps.is, hb⟩

theorem stmtDeclFn (h : t.Is .stmtDeclFn) : ∃ kw name o ps c e body d,
    t = .node "stmt_decl_fn" (kw :: name :: o :: (ps ++ [c, e, body, d])) ∧
      (ps = [] ∨ ∃ q, ps = [q] ∧ q.Is .parameters) ∧ body.Is .expr := by
  obtain ⟨us, rfl, -, hd⟩ := h.node rfl
  obtain ⟨kw, _, rfl, -, h1⟩ := hd.cons rfl
  obtain ⟨name, _, rfl, -, h2⟩ := h1.cons rfl
  obtain ⟨o, _, rfl, -, h3⟩ := h2.cons rfl
  obtain ⟨ps, _, hps, h4, rfl⟩ := derives_seq.1 h3
  obtain ⟨c, _, rfl, -, h5⟩ := h4.cons rfl
  obtain ⟨e, _, rfl, -, h6⟩ := h5.cons rfl
  obtain ⟨body, _, rfl, hb, h7⟩ := h6.cons rfl
  obtain ⟨d, rfl, -⟩ := h7.single rfl
  exact ⟨kw, name, o, ps, c, e, body, d, rfl, hps.is, hb⟩

theorem moduleInstantiation (h : t.Is .moduleInstantiation) :
    ∃ x, t = .node "module_instantiation" [x] ∧
      (x.Is .ifelseStatement ∨ (∃ r ∈ [Rule.modInstBang, .modInstHash, .modInstPerc,
        .modInstStar], x.Is r) ∨ x.Is .modInstSpecial ∨ x.Is .modInstChild) := by
  obtain ⟨x, rfl, hx⟩ := h.choice rfl
    (show Peg.choices? _ = some [.ifelseStatement, .modInstBang, .modInstHash, .modInstPerc,
      .modInstStar, .modInstSpecial, .modInstChild] from rfl)
  refine ⟨x, rfl, ?_⟩
  rcases hx with hx | hx | hx | hx | hx | hx | hx
  · exact .inl hx
  iterate 4 exact .inr (.inl ⟨_, by decide, hx⟩)
  · exact .inr (.inr (.inl hx))
  · exact .inr (.inr (.inr hx))

theorem pair {r q : Rule} (htok : r.isToken = false) {p : Peg} (hp : p.isOne = true)
    (hq : (Peg.rule q).mayBeEmpty = false) (hbody : r.body = .seq p (.rule q)) (h : t.Is r) :
    ∃ m x, t = .node r.name [m, x] ∧ x.Is q := by
  obtain ⟨us, rfl, -, hd⟩ := h.node htok
  rw [hbody] at hd
  obtain ⟨m, _, rfl, -, h1⟩ := hd.cons hp
  obtain ⟨x, rfl, hx⟩ := h1.one hq
  exact ⟨m, x, rfl, hx⟩

theorem marked {r : Rule} (hr : r ∈ [Rule.modInstBang, .modInstHash, .modInstPerc, .modInstStar])
    (h : t.Is r) : ∃ m x, t = .node r.name [m, x] ∧ x.Is .moduleInstantiation := by
  have hbody : r.isToken = false ∧
      ∃ sign, r.body = .seq (.word sign) (.rule .moduleInstantiation) := by
    simp only [List.mem_cons, List.not_mem_nil, or_false] at hr
    rcases hr with rfl | rfl | rfl | rfl <;> exact ⟨rfl, _, rfl⟩
  obtain ⟨htok, sign, hbody⟩ := hbody
  exact h.pair htok rfl rfl hbody

theorem modInstChild (h : t.Is .modInstChild) :
    ∃ call x, t = .node "mod_inst_child" [call, x] ∧ x.Is .childStatement :=
  h.pair rfl rfl rfl rfl

theorem modInstSpecial (h : t.Is .modInstSpecial) :
    ∃ call x, t = .node "mod_inst_special" [call, x] ∧ x.Is .childStatement :=
  h.pair rfl rfl rfl rfl

theorem ifelseStatement (h : t.Is .ifelseStatement) : ∃ kw o test c yes rest,
    t = .node "ifelse_statement" (.node "if_statement" [kw, o, test, c, yes] :: rest) ∧
      yes.Is .childStatement := by
  obtain ⟨us, rfl, -, hd⟩ := h.node rfl
  obtain ⟨i, rest, rfl, hi, -⟩ := hd.cons rfl
  obtain ⟨us, rfl, -, h1⟩ := Tree.Is.node hi rfl
  obtain ⟨kw, _, rfl, -, h2⟩ := h1.cons rfl
  obtain ⟨o, _, rfl, -, h3⟩ := h2.cons rfl
  obtain ⟨test, _, rfl, -, h4⟩ := h3.cons rfl
  obtain ⟨c, _, rfl, -, h5⟩ := h4.cons rfl
  obtain ⟨yes, rfl, hyes⟩ := h5.one rfl
  exact ⟨kw, o, test, c, yes, rest, rfl, hyes⟩

theorem childStatement (h : t.Is .childStatement) : ∃ x, t = .node "child_statement" [x] ∧
    ((∃ s p, x = .leaf "no_child" s p) ∨ x.Is .explicitChild ∨ x.Is .moduleInstantiation) := by
  obtain ⟨x, rfl, hx⟩ := h.choice rfl
    (show Peg.choices? _ = some [.noChild, .explicitChild, .moduleInstantiation] from rfl)
  exact ⟨x, rfl, hx.imp_left (·.leaf rfl)⟩

theorem explicitChild (h : t.Is .explicitChild) : ∃ o s p,
    t = .node "explicit_child" [o, .leaf "" s p] ∨
      ∃ xs, t = .node "explicit_child" [o, .node "child_statements" xs, .leaf "" s p] ∧
        ∀ x ∈ xs, x.Is .childStatement ∨ x.Is .assignment := by
  obtain ⟨us, rfl, -, hd⟩ := h.node rfl
  obtain ⟨o, _, rfl, -, h1⟩ := hd.cons rfl
  obtain ⟨cs, _, hcs, h2, rfl⟩ := derives_seq.1 h1
  obtain ⟨s, p, rfl⟩ := derives_terminal.1 h2
  refine ⟨o, s, p, ?_⟩
  rcases hcs.is with rfl | ⟨x, rfl, hx⟩
  · exact .inl rfl
  · obtain ⟨xs, rfl, -, hxs⟩ := hx.node rfl
    refine .inr ⟨xs, rfl, hxs.forall_many ?_⟩
    intro us hu y hy
    obtain ⟨z, rfl, hz⟩ :=
      hu.choice (show Peg.choices? _ = some [.childStatement, .assignment] from rfl)
    obtain rfl := List.mem_singleton.1 hy
    exact hz

theorem parameterList (h : t.Is .parameterList) : ∃ ps, t = .node "parameter_list" ps ∧
    Row (Is .parameter) (fun d => ∃ s p, d = .leaf "" s p) ps := by
  obtain ⟨ps, rfl, -, hps⟩ := h.node rfl
  refine ⟨ps, rfl, hps.row (fun us hu => hu.one rfl) fun us hu => ?_⟩
  obtain ⟨s, p, rfl⟩ := derives_terminal.1 hu
  exact ⟨_, rfl, s, p, rfl⟩

theorem parameters (h : t.Is .parameters) : ∃ ps rest,
    t = .node "parameters" (.node "parameter_list" ps :: rest) ∧ rest.length ≤ 1 ∧
      Row (Is .parameter) (fun d => ∃ s p, d = .leaf "" s p) ps := by
  obtain ⟨us, rfl, hne, hd⟩ := h.node rfl
  obtain ⟨l, rest, rfl, hl, hrest⟩ := ((derives_opt.1 hd).resolve_left hne).cons rfl
  obtain ⟨ps, rfl, hps⟩ := parameterList hl
  refine ⟨ps, rest, rfl, ?_, hps⟩
  rcases hrest.is with rfl | ⟨_, rfl, -⟩ <;> simp

theorem parameter (h : t.Is .parameter) : ∃ name,
    t = .node "parameter" [name] ∨ ∃ e x, t = .node "parameter" [name, e, x] := by
  obtain ⟨us, rfl, -, hd⟩ := h.node rfl
  obtain ⟨name, _, rfl, -, h1⟩ := hd.cons rfl
  refine ⟨name, ?_⟩
  rcases derives_opt.1 h1 with rfl | h2
  · exact .inl rfl
  · obtain ⟨e, _, rfl, -, h3⟩ := h2.cons rfl
    obtain ⟨x, rfl, -⟩ := h3.one rfl
    exact .inr ⟨e, x, rfl⟩

end Tree.Is
end Scad
