import Scad.Proofs.Arithmetic.Outcome

/-!
Texts between quotes. A text without the quote and without a backslash is the value of its
literal, whatever else stands in it: blanks and marks of comments inside a literal are no
layout, and the other quote does not end it.
-/

namespace Scad

open List

variable {q : Char} {cs : List Char}

theorem Lexeme.untilQuote_plain (hq : q ≠ '\\') (h : ∀ c ∈ cs, c ≠ q ∧ c ≠ '\\') (n : Nat)
    (rest : List Char) : untilQuote q n (cs ++ q :: rest) = some (n + cs.length + 1) := by
  induction cs generalizing n with
  | nil => rw [nil_append, untilQuote.eq_3 _ _ _ _ fun _ _ h => absurd h hq, if_pos rfl]; rfl
  | cons c cs ih =>
    obtain ⟨⟨hc, hs⟩, h⟩ := forall_mem_cons.1 h
    rw [cons_append, untilQuote.eq_3 _ _ _ _ fun _ _ h => absurd h hs, if_neg hc, if_neg hs, ih h,
      length_cons]
    congr 1
    omega

theorem Lexeme.quotedLength_plain (hq : q ≠ '\\') (h : ∀ c ∈ cs, c ≠ q ∧ c ≠ '\\')
    (rest : List Char) : quotedLength q (q :: (cs ++ q :: rest)) = some (cs.length + 2) := by
  rw [quotedLength, if_pos rfl, untilQuote_plain hq h, Nat.add_comm 1]

theorem Escape.decode_plain (h : ∀ c ∈ cs, c ≠ '\\') (done : Text) :
    decode (cs.length + 1) done cs = some (done.reverse ++ Text.ofChars cs) := by
  induction cs generalizing done with
  | nil => simp [decode, Text.ofChars]
  | cons c cs ih =>
    obtain ⟨hc, h⟩ := forall_mem_cons.1 h
    rw [length_cons, decode.eq_4 _ _ _ _ hc, ih h, reverse_cons, append_assoc]
    rfl

/-- A quote, a text and the same quote again. -/
def quoted (q : Char) (s : String) : String := String.ofList (q :: (s.toList ++ [q]))

theorem toList_quoted (q : Char) (s : String) : (quoted q s).toList = q :: (s.toList ++ [q]) :=
  String.toList_ofList

theorem length_quoted (q : Char) (s : String) : (quoted q s).length = s.length + 2 := by
  rw [← String.length_toList, toList_quoted, length_cons, length_append, String.length_toList]
  rfl

/-- The tree of a literal. -/
def Tree.ofQuoted (q : Char) (s : String) (pos : Nat) : Tree :=
  .node "pr_Str" [.leaf (if q = '"' then "String1" else "String2") (quoted q s) pos]

section

variable {s : String} (hq : q = '"' ∨ q = '\'')
  (hs : ∀ c ∈ s.toList, 0x20 ≤ c.toNat ∧ c ≠ q ∧ c ≠ '\\')
include hq hs

theorem quotedLength_quoted (rest : List Char) :
    Lexeme.quotedLength q ((quoted q s).toList ++ rest) = some (quoted q s).length := by
  have hb : q ≠ '\\' := by rcases hq with rfl | rfl <;> decide
  have h := Lexeme.quotedLength_plain hb (fun c hc => (hs c hc).2) rest
  rw [toList_quoted, length_quoted, ← String.length_toList, ← h]
  simp

theorem inside?_quoted : Formula.inside? (quoted q s).toList = some s.toList := by
  have hlength := quotedLength_quoted hq hs []
  have hplain : (quoted q s).toList.all Formula.isPlain = true := by
    have low : ∀ c : Char, 0x20 ≤ c.toNat → Formula.isPlain c = true := by
      intro c hc
      have hn : c ≠ '\n' := by rintro rfl; revert hc; decide
      have hr : c ≠ '\r' := by rintro rfl; revert hc; decide
      have hz : c.toNat ≠ 0 := by omega
      simp [Formula.isPlain, hn, hr, hz]
    rw [toList_quoted, all_cons, all_append, all_cons]
    rcases hq with rfl | rfl <;> simpa [Formula.isPlain] using fun c hc => low c (hs c hc).1
  have hquote : (decide (q = '"') || decide (q = '\'')) = true := by simpa using hq
  rw [append_nil, ← String.length_toList] at hlength
  rw [toList_quoted] at hlength hplain ⊢
  simp only [Formula.inside?, hquote, hlength, hplain, beq_self_eq_true, Bool.and_true, if_true,
    dropLast_concat]

theorem evalLiteral_quoted (hl : s.length ≤ 100000) :
    Formula.evalLiteral (quoted q s) = pure (.str (Text.ofString s)) := by
  have hdecode : Escape.decodeAll s.toList = some (Text.ofString s) :=
    Escape.decode_plain (fun c hc => (hs c hc).2.2) []
  have hlength : ¬Formula.lengthLimit < (Text.ofString s).length := by
    rw [Text.ofString, Text.ofChars, length_map, String.length_toList, Nat.not_lt]
    exact hl
  rw [Formula.evalLiteral, inside?_quoted hq hs]
  simp only [hdecode, Formula.checkedText, if_neg hlength]

theorem yields_quoted (hl : s.length ≤ 100000) (pos : Nat) :
    Arithmetic.Yields 1 (.ofQuoted q s pos) (some (.str (Text.ofString s))) := by
  refine .ofForm rfl Bool.noConfusion fun depth env w (_ : 0 ≤ depth) _ => ?_
  have hword : Arithmetic.Gives (Node.word (.code (.ofQuoted q s pos))) w
      (some (Text.ofString (quoted q s))) := rfl
  refine hword.step ?_
  rw [Text.toString_ofString, evalLiteral_quoted hq hs hl]
  exact .pure _

theorem matches_quoted {c : Cursor} {rest : List Char}
    (hc : c.settle = ⟨4, (quoted q s).toList ++ rest⟩) : Matches (.rule .primary) c
      (.done [.node "primary" [.ofQuoted q s 4]] ⟨4 + (quoted q s).length, rest⟩) := by
  have shun : ∀ {p : Peg}, p.shuns [q] = true → Matches p c .failed := fun hp =>
    .shun [q] hp (by rw [hc, toList_quoted]; exact ⟨_, rfl⟩)
  have hread : ∀ {r : Rule} {k : Lexeme}, r.body = .lexeme k → k.length? = Lexeme.quotedLength q →
      Matches (.rule r) c (.done [.leaf r.name (quoted q s) 4] ⟨4 + (quoted q s).length,
        rest⟩) := by
    intro r k hr hk
    have h := Matches.token hr c
    have hlength : (Terminal.lexeme k).length? ((quoted q s).toList ++ rest) =
        some (quoted q s).length := (congrFun hk _).trans (quotedLength_quoted hq hs rest)
    rw [Terminal.read, hc, hlength] at h
    simpa only [Terminal.label, ← String.length_toList, take_left, String.ofList_toList,
      Cursor.advance, drop_left] using h
  have hstr : Matches (.rule .prStr) c
      (.done [.ofQuoted q s 4] ⟨4 + (quoted q s).length, rest⟩) := by
    rcases hq with rfl | rfl
    · exact .made rfl (.here (hread (r := .doubleQuoted) rfl rfl))
    · exact .made rfl (.next (shun rfl) (hread (r := .singleQuoted) rfl rfl))
  rcases hq with rfl | rfl
  all_goals exact .made rfl (.next (shun rfl) (.next (shun rfl) (.next (shun rfl)
    (.next (shun rfl) (.here hstr)))))

end

/-- A literal can be loaded and read back: its value is the text between the quotes. -/
theorem quoted_text_read {s : String} (hq : q = '"' ∨ q = '\'') (hl : s.length ≤ 100000)
    (hs : ∀ c ∈ s.toList, 0x20 ≤ c.toNat ∧ c ≠ q ∧ c ≠ '\\') (w : World) :
    ∃ env loaded after,
      (do
        let env ← Environment.create
        Environment.load env ("x = " ++ quoted q s ++ ";")
        return env) w = .ok env loaded ∧
      Eval.perform (.read env "x") loaded = .ok (.str (Text.ofString s)) after := by
  have hfront : [q] <+: (quoted q s).toList := by
    rw [toList_quoted]
    exact ⟨_, rfl⟩
  refine Arithmetic.read_primary [q] hfront ?_ ?_ (fun c => matches_quoted hq hs)
    (yields_quoted hq hs hl 4) w
  · rcases hq with rfl | rfl <;> rfl
  · rcases hq with rfl | rfl <;> rfl

theorem quoted_text_read_marks : ∃ env loaded after,
    (do
      let env ← Environment.create
      Environment.load env "x = ' /* \"if\";  // ';"
      return env) {} = .ok env loaded ∧
    Eval.perform (.read env "x") loaded = .ok (.str (Text.ofString " /* \"if\";  // ")) after := by
  have hs : " /* \"if\";  // ".toList.all
      (fun c => decide (0x20 ≤ c.toNat ∧ c ≠ '\'' ∧ c ≠ '\\')) = true := rfl
  exact quoted_text_read (.inr rfl) (by decide)
    (fun c hc => of_decide_eq_true (all_eq_true.1 hs c hc)) {}

end Scad
