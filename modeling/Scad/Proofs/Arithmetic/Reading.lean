import Scad.Proofs.Arithmetic.Expr
import Scad.Proofs.Parsing.Argument

/-!
How the text of an expression is parsed. Each level of precedence has a rule, whose
instances are rows of operands of the next level. An operand is read up to a text
that cannot continue it, so what is known of an expression is how it is read before
every such text; a row can also be continued by further operators of its level.
-/

namespace Scad.Arithmetic

open Scad (Tree Rule Peg Cursor Matches)
open Lexeme List

variable {level pos : Nat} {c : Cursor} {cs front rest : List Char} {p : Peg}

/-! ## Trees -/

def levelRule : Nat → Rule
  | 0 => .expr
  | 1 => .logicOr
  | 2 => .logicAnd
  | 3 => .equality
  | 4 => .comparison
  | 5 => .addition
  | 6 => .multiplication
  | 7 => .unary
  | _ => .exponent

def Sign.rule : Sign → String
  | or => "OR"
  | and => "AND"
  | equal => "EQ"
  | unequal => "NEQ"
  | _ => ""

def Sign.leaf (s : Sign) (pos : Nat) : Tree := .leaf s.rule s.text pos

/-- Operands with operators between them. -/
structure Row where
  head : Tree
  tail : List (Tree × Tree) := []

namespace Row

def trees (r : Row) : List Tree := r.head :: r.tail.flatMap fun p => [p.1, p.2]

def snoc (r : Row) (op operand : Tree) : Row := { r with tail := r.tail ++ [(op, operand)] }

/-- The tree of an expression; where there are no operators, the row is the tree. -/
def tree (level : Nat) (r : Row) : Tree :=
  if 1 ≤ level ∧ level ≤ 6 then .node (levelRule level).name r.trees else r.head

theorem trees_snoc (r : Row) (op operand : Tree) :
    (r.snoc op operand).trees = r.trees ++ [op, operand] := by
  simp [trees, snoc]

end Row

/-- A single operand as an expression of a lower level. -/
def wrap : Nat → Tree → Tree
  | 0, t => .node "expr" [.node "expr_case" [t]]
  | level + 1, t => .node (levelRule (level + 1)).name [t]

/-- An expression `n` levels up as one of the level `least`. -/
def wrapFrom (least : Nat) : (n : Nat) → Tree → Tree
  | 0, t => t
  | n + 1, t => wrap least (wrapFrom (least + 1) n t)

/-- What stands without brackets everywhere. -/
def atom (t : Tree) : Tree := .node "exponent" [.node "call" [.node "primary" [t]]]

/-- An expression of length `size` in brackets. -/
def paren (size : Nat) (t : Nat → Tree) (pos : Nat) : Tree :=
  atom (.node "pr_paren" [.leaf "" "(" pos, t (pos + 1), .leaf "" ")" (pos + 1 + size)])

/-- The tree of `Expr.bracketed`. -/
def bracketedTree (least level size : Nat) (t : Nat → Tree) : Nat → Tree :=
  if level < least then
    wrapFrom least (8 - least) ∘ paren size (wrapFrom 0 level ∘ t)
  else wrapFrom least (level - least) ∘ t

namespace Expr

variable {k : Kind}

/-- The row of the left operand, which goes on if it has the same level. -/
def spine (level la size : Nat) (r : Nat → Row) (pos : Nat) : Row :=
  if la = level then r pos
  else { head := bracketedTree (level + 1) la size (fun pos => (r pos).tree la) pos }

/-- The row of `Expr.joined`. -/
def joinedRow (s : Sign) (la : Nat) (ta : List Char) (ra : Nat → Row) (lb : Nat) (tb : List Char)
    (rb : Nat → Row) (pos : Nat) : Row :=
  let place := pos + (bracketed s.level la ta).length
  (spine s.level la ta.length ra pos).snoc (s.leaf place)
    (bracketedTree (s.level + 1) lb tb.length (fun pos => (rb pos).tree lb)
      (place + s.text.length))

/-- The operands and operators of an expression that begins at a place. -/
def row : {k : Kind} → Expr k → Nat → Row
  | _, num d ds h, pos => { head := atom (.leaf "pr_Num" (String.ofList (num d ds h).text) pos) }
  | _, truth b, pos =>
    { head := atom (if b then .leaf "pr_true" "true" pos else .leaf "pr_false" "false" pos) }
  | _, neg a, pos =>
    { head := .node "unary" [.leaf "" "-" pos,
        bracketedTree 8 a.level a.text.length (fun pos => (a.row pos).tree a.level) (pos + 1)] }
  | _, not a, pos =>
    { head := .node "unary" [.leaf "" "!" pos,
        bracketedTree 8 a.level a.text.length (fun pos => (a.row pos).tree a.level) (pos + 1)] }
  | _, arith op a b, pos => joinedRow op.sign a.level a.text a.row b.level b.text b.row pos
  | _, logic op a b, pos => joinedRow op.sign a.level a.text a.row b.level b.text b.row pos
  | _, test op a b, pos => joinedRow op.sign a.level a.text a.row b.level b.text b.row pos
  | _, more op a b, pos => joinedRow op.sign a.level a.text a.row b.level b.text b.row pos
  | _, holds c, pos => c.row pos
  | _, cond c a b, pos =>
    let first := pos + (bracketed 1 c.level c.text).length
    let second := first + 1 + a.text.length
    { head := .node "expr" [.node "expr_case" [
        bracketedTree 1 c.level c.text.length (fun pos => (c.row pos).tree c.level) pos,
        .leaf "" "?" first,
        bracketedTree 0 a.level a.text.length (fun pos => (a.row pos).tree a.level) (first + 1),
        .leaf "" ":" second,
        bracketedTree 0 b.level b.text.length (fun pos => (b.row pos).tree b.level) (second + 1)]] }

def tree (e : Expr k) (pos : Nat) : Tree := (e.row pos).tree e.level

end Expr

/-! ## What can stand before and after an expression -/

def operator : Nat → Peg
  | 1 => .rule .opOr
  | 2 => .rule .opAnd
  | 3 => .alt (.rule .opEq) (.rule .opNeq)
  | 4 => .any (.word ">") [.rule .opGe, .word "<", .rule .opLe]
  | 5 => .alt (.word "+") (.word "-")
  | _ => .any (.word "*") [.word "/", .word "%"]

/-- How texts begin that may follow an expression of a level. -/
def followers (level : Nat) : List (List Char) :=
  [[')'], [';'], [':'], [','], [']']] ++ (if level = 0 then [] else [['?']]) ++
    (([.or, .and, .equal, .unequal, .less, .greater, .plus, .minus, .times, .mod] :
      List Sign).filter (·.level < level)).map (·.text.toList)

/-- A text that does not continue an expression of a level. -/
def Stops (level : Nat) (rest : List Char) : Prop := ∃ front ∈ followers level, front <+: rest

def starters : List (List Char) :=
  (finRange 10).map (fun d => [Nat.digitChar d]) ++ [['t'], ['f', 'a'], ['('], ['['], ['-'], ['!']]

theorem followers_mono (h : front ∈ followers level) : front ∈ followers (level + 1) := by
  simp only [followers, mem_append, mem_map, mem_filter, decide_eq_true_eq,
    Nat.succ_ne_zero, if_false] at h ⊢
  rcases h with (h | h) | ⟨s, ⟨hs, hl⟩, h⟩
  · exact .inl (.inl h)
  · split at h
    · exact absurd h not_mem_nil
    · exact .inl (.inr h)
  · exact .inr ⟨s, ⟨hs, Nat.lt_succ_of_lt hl⟩, h⟩

theorem Stops.mono (h : Stops level rest) (n : Nat) : Stops (level + n) rest := by
  induction n with
  | zero => exact h
  | succ n ih =>
    obtain ⟨front, hf, hp⟩ := ih
    exact ⟨front, followers_mono hf, hp⟩

theorem Stops.sign (s : Sign) (cs : List Char) : Stops (s.level + 1) (s.text.toList ++ cs) := by
  refine ⟨s.text.toList, ?_, prefix_append _ _⟩
  cases s <;> decide

/-- No layout stands before a text that begins like this. -/
def isInky : List Char → Bool
  | [] => false
  | c :: _ => !Layout.isBlank c && c != '/'

theorem isInk_of_isInky (h : isInky front = true) (hc : front <+: cs) : Layout.isInk cs = true := by
  obtain ⟨ds, rfl⟩ := hc
  cases front with
  | nil => cases h
  | cons c front =>
    simp only [isInky, Bool.and_eq_true, bne_iff_ne] at h
    simp [Layout.isInk, h.1, Layout.commentLength_of_ne h.2]

theorem Stops.settle (h : Stops level rest) (hl : level ≤ 8) (pos : Nat) :
    Cursor.settle ⟨pos, rest⟩ = ⟨pos, rest⟩ := by
  obtain ⟨n, hn⟩ := Nat.exists_eq_add_of_le hl
  have h8 : Stops 8 rest := hn ▸ h.mono n
  obtain ⟨front, hf, hp⟩ := h8
  have hi : (followers 8).all isInky = true := by decide
  exact Cursor.settle_ink (isInk_of_isInky (all_eq_true.1 hi front hf) hp)

theorem Stops.shun (h : Stops level rest) (hl : level ≤ 8)
    (hp : (followers level).all (fun front => p.shuns front) = true) :
    Matches p ⟨pos, rest⟩ .failed := by
  obtain ⟨front, hf, hc⟩ := h
  refine .shun front (all_eq_true.1 hp front hf) ?_
  rw [Stops.settle ⟨front, hf, hc⟩ hl pos]
  exact hc

/-- A text that begins like an expression. -/
def Begins (cs : List Char) : Prop := ∃ front ∈ starters, front <+: cs

theorem Begins.append (h : Begins cs) (ds : List Char) : Begins (cs ++ ds) := by
  obtain ⟨front, hf, hp⟩ := h
  exact ⟨front, hf, hp.trans (prefix_append cs ds)⟩

theorem Begins.settle (h : Begins cs) : Cursor.settle ⟨pos, cs⟩ = ⟨pos, cs⟩ := by
  obtain ⟨front, hf, hp⟩ := h
  have hi : starters.all isInky = true := by decide
  exact Cursor.settle_ink (isInk_of_isInky (all_eq_true.1 hi front hf) hp)

theorem matches_expr {c' : Cursor} {t : Tree} (hb : Begins c.settle.rest)
    (h : Matches (.rule .exprCase) c (.done [t] c')) :
    Matches (.rule .expr) c (.done [.node "expr" [t]] c') := by
  obtain ⟨front, hf, hc⟩ := hb
  have hshun : starters.all (fun front => Peg.exprWords.all (·.shuns front)) = true := rfl
  exact .expr_of_exprCase front hc (all_eq_true.1 hshun front hf) h

/-! ## Levels -/

section

variable (h1 : 1 ≤ level) (h6 : level ≤ 6)

include h1 h6

theorem level_cases : level = 1 ∨ level = 2 ∨ level = 3 ∨ level = 4 ∨ level = 5 ∨ level = 6 := by
  omega

theorem levelRule_body :
    (levelRule level).body = .separated (.rule (levelRule (level + 1))) (operator level) := by
  obtain rfl | rfl | rfl | rfl | rfl | rfl := level_cases h1 h6
  all_goals rfl

theorem followers_shun :
    (followers level).all (fun front => (operator level).shuns front) = true := by
  obtain rfl | rfl | rfl | rfl | rfl | rfl := level_cases h1 h6
  all_goals rfl

end

/-- A text is read as an expression of a level before everything that does not
continue it. -/
def ReadsAt (level : Nat) (text : List Char) (t : Nat → Tree) : Prop :=
  ∀ (c : Cursor) (pos : Nat) (rest : List Char), c.settle = ⟨pos, text ++ rest⟩ →
    Stops level rest →
    Matches (.rule (levelRule level)) c (.done [t pos] ⟨pos + text.length, rest⟩)

/-- A text is read as the beginning of a row, whatever operators follow. -/
def ReadsRow (level : Nat) (text : List Char) (r : Nat → Row) : Prop :=
  ∀ (c c' : Cursor) (pos : Nat) (rest : List Char) (us : List Tree),
    c.settle = ⟨pos, text ++ rest⟩ → Stops (level + 1) rest →
    Matches (.many (.seq (operator level) (.rule (levelRule (level + 1)))))
      ⟨pos + text.length, rest⟩ (.done us c') →
    Matches (.separated (.rule (levelRule (level + 1))) (operator level)) c
      (.done ((r pos).trees ++ us) c')

section

variable {text : List Char} {t : Nat → Tree} {r : Nat → Row}

theorem ReadsAt.climb (h : ReadsAt (level + 1) text t) (hb : Begins text) (hl : level ≤ 7) :
    ReadsAt level text (wrap level ∘ t) := by
  intro c pos rest hc hs
  have hnext := h c pos rest hc (hs.mono 1)
  obtain rfl | ⟨h1, h6⟩ | rfl : level = 0 ∨ (1 ≤ level ∧ level ≤ 6) ∨ level = 7 := by omega
  · have hcase := Matches.climb_exprCase hnext (hs.shun (by omega) rfl)
    have begins : Begins c.settle.rest := by
      rw [hc]
      exact hb.append rest
    exact matches_expr begins hcase
  · obtain ⟨n, rfl⟩ := Nat.exists_eq_add_of_le' h1
    exact Matches.climb (levelRule_body h1 h6) hnext (hs.shun (by omega) (followers_shun h1 h6))
  · exact .climb_unary hnext

theorem ReadsAt.climbFrom {n : Nat} (h : ReadsAt (level + n) text t) (hb : Begins text)
    (hl : level + n ≤ 8) : ReadsAt level text (wrapFrom level n ∘ t) := by
  induction n generalizing level with
  | zero => exact h
  | succ n ih =>
    have hnext : ReadsAt (level + 1) text (wrapFrom (level + 1) n ∘ t) :=
      ih (by rwa [Nat.add_assoc, Nat.add_comm 1]) (by omega)
    exact hnext.climb hb (by omega)

/-- What is read as a primary expression is an expression of every level. -/
theorem matches_atom {c : Cursor} {t : Tree} {pos : Nat} {rest : List Char}
    (h : Matches (.rule .primary) c (.done [.node "primary" [t]] ⟨pos, rest⟩))
    (hs : Stops 8 rest) : Matches (.rule .exponent) c (.done [atom t] ⟨pos, rest⟩) := by
  have hcall : Matches (.rule .call) c (.done [.node "call" [.node "primary" [t]]] ⟨pos, rest⟩) :=
    .made rfl (.both h (.stop (hs.shun (by omega) rfl)))
  exact .climb_exponent hcall (hs.shun (by omega) rfl)

theorem ReadsAt.paren (h : ReadsAt 0 text t) (hb : Begins text) :
    ReadsAt 8 ('(' :: (text ++ [')'])) (paren text.length t) := by
  intro c pos rest hc hs
  have hopen : Matches (.word "(") c
      (.done [.leaf "" "(" pos] ⟨pos + 1, text ++ ')' :: rest⟩) := by
    refine .word ?_
    rw [hc]
    simp
  have hexpr : Matches (.rule .expr) ⟨pos + 1, text ++ ')' :: rest⟩ _ :=
    h _ _ _ (hb.append _).settle ⟨[')'], by decide, rest, rfl⟩
  have hclose : Matches (.word ")") ⟨pos + 1 + text.length, ')' :: rest⟩
      (.done [.leaf "" ")" (pos + 1 + text.length)] ⟨pos + 1 + text.length + 1, rest⟩) :=
    .word (Cursor.settle_ink rfl)
  have shun : ∀ {p : Peg}, p.shuns ['('] = true → Matches p c .failed := fun hp =>
    .shun _ hp (by rw [hc]; exact ⟨_, rfl⟩)
  have hparen := Matches.made (r := .prParen) rfl (.both hopen (.both hexpr hclose))
  have hlength : pos + ('(' :: (text ++ [')'])).length = pos + 1 + text.length + 1 := by
    simp only [length_cons, length_append, length_nil]
    omega
  rw [hlength]
  refine matches_atom (.made rfl ?_) hs
  exact .next (shun rfl) (.next (shun rfl) (.next (shun rfl) (.next (shun rfl) (.next (shun rfl)
    (.next (shun rfl) (.here hparen))))))

/-- An expression is read where one of the level `least` is expected. -/
theorem ReadsAt.bracketed (h : ReadsAt level text t) (hb : Begins text) (hl : level ≤ 8)
    {least : Nat} (hm : least ≤ 8) :
    ReadsAt least (Expr.bracketed least level text) (bracketedTree least level text.length t) := by
  unfold Expr.bracketed bracketedTree
  split
  · have hexpr : ReadsAt 0 text (wrapFrom 0 level ∘ t) :=
      ReadsAt.climbFrom (by rwa [Nat.zero_add]) hb (by omega)
    have hparen := hexpr.paren hb
    rw [← Nat.add_sub_cancel' hm] at hparen
    exact hparen.climbFrom ⟨['('], by decide, _, rfl⟩ (by omega)
  · have hn : level = least + (level - least) := by omega
    rw [hn] at h
    exact h.climbFrom hb (by omega)

/-- A program that assigns an expression to `x`. -/
theorem parse_reads (h : ReadsAt 0 text t) (hb : Begins text) :
    parse ("x = " ++ String.ofList text ++ ";") = .ok ((t 4).assignX (4 + text.length)) := by
  have hsettle : (Cursor.mk 3 (' ' :: (text ++ [';']))).settle = ⟨4, text ++ [';']⟩ := by
    rw [Cursor.settle_blank rfl]
    exact (hb.append _).settle
  exact parse_assignX (by simp) (h _ 4 [';'] hsettle ⟨[';'], by decide, [], rfl⟩)

/-! ## Rows -/

theorem Sign.reads (s : Sign) {c : Cursor} {pos : Nat} {cs : List Char}
    (h : c.settle = ⟨pos, s.text.toList ++ cs⟩) :
    Matches (operator s.level) c (.done [s.leaf pos] ⟨pos + s.text.length, cs⟩) := by
  have shun : ∀ {p : Peg}, p.shuns s.text.toList = true → Matches p c .failed := fun hp =>
    .shun _ hp (by rw [h]; exact prefix_append _ _)
  cases s with
  | or => exact .wordRule (r := .opOr) rfl h
  | and => exact .wordRule (r := .opAnd) rfl h
  | equal => exact .here (.wordRule (r := .opEq) rfl h)
  | unequal => exact .next (shun rfl) (.wordRule (r := .opNeq) rfl h)
  | less => exact .next (shun rfl) (.next (shun rfl) (.here (.word h)))
  | greater | plus | times => exact .here (.word h)
  | minus => exact .next (shun rfl) (.word h)
  | mod => exact .next (shun rfl) (.next (shun rfl) (.word h))

theorem ReadsRow.single (h : ReadsAt (level + 1) text t) :
    ReadsRow level text fun pos => { head := t pos } := by
  intro c c' pos rest us hc hs hm
  exact .both (h c pos rest hc hs) hm

theorem ReadsRow.snoc {s : Sign} {tail : List Char} (ha : ReadsRow s.level text r)
    (hb : ReadsAt (s.level + 1) tail t) (hbegins : Begins tail) :
    ReadsRow s.level (text ++ (s.text.toList ++ tail)) fun pos =>
      (r pos).snoc (s.leaf (pos + text.length)) (t (pos + text.length + s.text.length)) := by
  intro c c' pos rest us hc hs hm
  have hstops : Stops (s.level + 1) (s.text.toList ++ (tail ++ rest)) := .sign s _
  have hle : s.level + 1 ≤ 8 := by cases s <;> decide
  have hsign := s.reads (hstops.settle hle (pos + text.length))
  have hright := hb ⟨pos + text.length + s.text.length, tail ++ rest⟩ _ rest
    (hbegins.append rest).settle hs
  have hplace : pos + (text ++ (s.text.toList ++ tail)).length =
      pos + text.length + s.text.length + tail.length := by
    simp only [length_append, String.length_toList]
    omega
  rw [hplace] at hm
  have hmore := Matches.again (.both hsign hright) (cons_ne_nil _ _) hm
  have := ha c c' pos _ _ (by simpa using hc) hstops hmore
  rw [Row.trees_snoc, append_assoc]
  exact this

theorem ReadsRow.whole (h : ReadsRow level text r) (h1 : 1 ≤ level) (h6 : level ≤ 6) :
    ReadsAt level text fun pos => (r pos).tree level := by
  intro c pos rest hc hs
  have hend : Matches (operator level) ⟨pos + text.length, rest⟩ .failed :=
    hs.shun (by omega) (followers_shun h1 h6)
  have hrow := h c _ pos rest [] hc (hs.mono 1) (.stop (.seqFailed hend))
  rw [append_nil] at hrow
  simp only [Row.tree, if_pos (And.intro h1 h6)]
  refine .made ?_ ?_
  · rw [Rule.isToken, levelRule_body h1 h6]
    rfl
  · rw [levelRule_body h1 h6]
    exact hrow

end

/-! ## Numbers -/

theorem digitChar_isDigit (d : Fin 10) : isDigit (Nat.digitChar d) = true := by
  revert d
  decide

abbrev digitChars (ds : List (Fin 10)) : List Char := ds.map fun (d : Fin 10) => Nat.digitChar d

theorem isDigit_of_mem {ds : List (Fin 10)} {c : Char} (h : c ∈ digitChars ds) :
    isDigit c = true := by
  obtain ⟨d, -, rfl⟩ := mem_map.1 h
  exact digitChar_isDigit d

def numberFronts : List Char := '.' :: digitChars (finRange 10)

theorem matches_number {c : Cursor} {pos : Nat} {d : Char} {ds rest : List Char}
    (hd : d ∈ numberFronts) (hc : c.settle = ⟨pos, d :: ds ++ rest⟩)
    (hk : numberLength (d :: ds ++ rest) = some (d :: ds).length) :
    Matches (.rule .primary) c (.done
      [.node "primary" [.leaf "pr_Num" (String.ofList (d :: ds)) pos]]
      ⟨pos + (d :: ds).length, rest⟩) := by
  have shun : ∀ {p : Peg}, numberFronts.all (fun d => p.shuns [d]) = true → Matches p c .failed :=
    fun hp => .shun [d] (all_eq_true.1 hp d hd) (by rw [hc]; exact ⟨_, rfl⟩)
  have hnum := Matches.token (r := .prNum) rfl c
  rw [Terminal.read, hc, show (Terminal.lexeme .number).length? _ = _ from hk] at hnum
  simp only [take_left, Cursor.advance, drop_left] at hnum
  exact .made rfl (.next (shun rfl) (.next (shun rfl) (.next (shun rfl) (.here hnum))))

namespace Expr

/-! ## Expressions -/

/-- How an expression is read: as a whole, and as the beginning of a longer row. -/
structure Readable {k : Kind} (e : Expr k) : Prop where
  begins : Begins e.text
  level_le : e.level ≤ 8
  whole : ReadsAt e.level e.text e.tree
  row : 1 ≤ e.level → e.level ≤ 6 → ReadsRow e.level e.text e.row

variable {k : Kind}

theorem Readable.bracketed {e : Expr k} (h : e.Readable) (least : Nat) (hl : least ≤ 8) :
    ReadsAt least (bracketed least e.level e.text)
      (bracketedTree least e.level e.text.length e.tree) :=
  h.whole.bracketed h.begins h.level_le hl

theorem begins_bracketed {level : Nat} {text : List Char} (h : Begins text) (least : Nat) :
    Begins (bracketed least level text) := by
  unfold bracketed
  split
  · exact ⟨['('], by decide, _, rfl⟩
  · exact h

theorem spine_reads (s : Sign) {a : Expr k} (ha : a.Readable) :
    ReadsRow s.level (bracketed s.level a.level a.text)
      (spine s.level a.level a.text.length a.row) := by
  obtain ⟨h1, h6⟩ := s.level_bounds
  by_cases hl : a.level = s.level
  · have hspine : spine s.level a.level a.text.length a.row = a.row := by
      funext pos
      exact if_pos hl
    rw [hspine, bracketed, if_neg (by omega), ← hl]
    exact ha.row (by omega) (by omega)
  · have htext : bracketed s.level a.level a.text = bracketed (s.level + 1) a.level a.text := by
      unfold bracketed
      exact if_congr (by omega) rfl rfl
    have hspine : spine s.level a.level a.text.length a.row = fun pos =>
        { head := bracketedTree (s.level + 1) a.level a.text.length a.tree pos } := by
      funext pos
      exact if_neg hl
    rw [hspine, htext]
    exact .single (ha.bracketed _ (by omega))

theorem joined_reads (s : Sign) {k' : Kind} {a : Expr k} {b : Expr k'} (ha : a.Readable)
    (hb : b.Readable) : ReadsRow s.level (joined s a.level a.text b.level b.text)
      (joinedRow s a.level a.text a.row b.level b.text b.row) := by
  have hle : s.level + 1 ≤ 8 := by cases s <;> decide
  exact (spine_reads s ha).snoc (hb.bracketed _ hle) (begins_bracketed hb.begins _)

theorem Readable.joined (s : Sign) {k' l : Kind} {a : Expr k} {b : Expr k'} {e : Expr l}
    (ha : a.Readable) (hb : b.Readable) (hl : e.level = s.level)
    (ht : e.text = joined s a.level a.text b.level b.text)
    (hr : e.row = joinedRow s a.level a.text a.row b.level b.text b.row) : e.Readable := by
  obtain ⟨h1, h6⟩ := s.level_bounds
  have hrow : ReadsRow e.level e.text e.row := by
    rw [hl, ht, hr]
    exact joined_reads s ha hb
  refine ⟨?_, by omega, hrow.whole (by omega) (by omega), fun _ _ => hrow⟩
  rw [ht]
  exact (begins_bracketed ha.begins _).append _

theorem readsAt_signed {text : List Char} {t : Nat → Tree} {c0 : Char}
    {word : String} (h : ReadsAt 8 text t) (hb : Begins text)
    (hs : (Peg.rule .exponent).shuns [c0] = true)
    (hop : ∀ {c : Cursor} {pos : Nat} {cs : List Char}, c.settle = ⟨pos, c0 :: cs⟩ →
      Matches (.any (.word "+") [.word "-", .word "!"]) c
        (.done [.leaf "" word pos] ⟨pos + 1, cs⟩)) :
    ReadsAt 7 (c0 :: text) fun pos => .node "unary" [.leaf "" word pos, t (pos + 1)] := by
  intro c pos rest hc hstops
  have hoperand := h ⟨pos + 1, text ++ rest⟩ _ rest (hb.append rest).settle (hstops.mono 1)
  have hfail : Matches (.rule .exponent) c .failed :=
    .shun [c0] hs (by rw [hc]; exact ⟨text ++ rest, rfl⟩)
  have hlength : pos + (c0 :: text).length = pos + 1 + text.length := by
    rw [length_cons]
    omega
  rw [hlength]
  exact .made rfl (.next hfail (.both (.present (hop hc)) hoperand))

/-! ## Literals -/

/-- A numeral ends before a text that begins like this. -/
def endsNumeral : List Char → Bool
  | [] => false
  | c :: _ => !Lexeme.isDigit c && c != '.' && c != 'e' && c != 'E'

theorem numberLength_whole {ds cs : List Char} {c : Char} (hd : ∀ d ∈ ds, isDigit d = true)
    (hn : ds ≠ []) (hc : isDigit c = false) (hp : c ≠ '.') :
    numberLength (ds ++ c :: cs) = some (ds.length + exponentLength (c :: cs)) := by
  have hcount : countWhile isDigit (ds ++ c :: cs) = ds.length := by
    rw [countWhile_all hd]
    simp [countWhile, hc]
  have hlength : ds.length ≠ 0 := by simpa using hn
  simp only [numberLength, hcount, drop_left]
  split
  · exact absurd (cons.inj ‹_›).1 hp
  · rw [if_neg hlength]

theorem numberLength_digits (ds : List Char) {rest : List Char} (hd : ∀ d ∈ ds, isDigit d = true)
    (hn : ds ≠ []) (hs : Stops 8 rest) : numberLength (ds ++ rest) = some ds.length := by
  obtain ⟨front, hf, tail, rfl⟩ := hs
  have he : (followers 8).all endsNumeral = true := by decide
  have he := all_eq_true.1 he front hf
  cases front with
  | nil => cases he
  | cons c front =>
    simp only [endsNumeral, Bool.and_eq_true, Bool.not_eq_true', bne_iff_ne] at he
    obtain ⟨⟨⟨hdigit, hdot⟩, he⟩, hE⟩ := he
    rw [cons_append, numberLength_whole hd hn hdigit hdot]
    cases front ++ tail <;> simp [exponentLength, he, hE]

theorem readsAt_digits (d : Fin 10) (ds : List (Fin 10)) : ReadsAt 8 (digitChars (d :: ds))
    fun pos => atom (.leaf "pr_Num" (String.ofList (digitChars (d :: ds))) pos) := by
  intro c pos rest hc hs
  have hlength := numberLength_digits (digitChars (d :: ds)) (fun _ => isDigit_of_mem)
    (cons_ne_nil _ _) hs
  exact matches_atom (matches_number (mem_cons_of_mem _ (mem_map_of_mem (mem_finRange d))) hc
    hlength) hs

theorem begins_digits (d : Fin 10) (ds : List (Fin 10)) : Begins (digitChars (d :: ds)) :=
  ⟨[Nat.digitChar d], by revert d; decide, _, rfl⟩

theorem readable_num (d : Fin 10) (ds : List (Fin 10)) (short : ds.length < Numeral.maxDigits) :
    (num d ds short).Readable :=
  ⟨begins_digits d ds, Nat.le_refl 8, readsAt_digits d ds, by simp [level]⟩

theorem readable_truth (b : Bool) : (truth b).Readable := by
  cases b with
  | true =>
    refine ⟨⟨['t'], by decide, _, rfl⟩, Nat.le_refl 8, ?_, by simp [level]⟩
    intro c pos rest hc hs
    have hword : Matches (.rule .prTrue) c (.done [.leaf "pr_true" "true" pos] ⟨pos + 4, rest⟩) :=
      .wordRule rfl hc
    exact matches_atom (.made rfl (.here hword)) hs
  | false =>
    refine ⟨⟨['f', 'a'], by decide, _, rfl⟩, Nat.le_refl 8, ?_, by simp [level]⟩
    intro c pos rest hc hs
    have hword : Matches (.rule .prFalse) c
        (.done [.leaf "pr_false" "false" pos] ⟨pos + 5, rest⟩) := .wordRule rfl hc
    have htrue : Matches (.rule .prTrue) c .failed :=
      .shun ['f', 'a'] rfl (by rw [hc]; exact ⟨_, rfl⟩)
    exact matches_atom (.made rfl (.next htrue (.here hword))) hs

/-! ## All expressions -/

theorem bracketed_zero (level : Nat) (text : List Char) : bracketed 0 level text = text :=
  if_neg (Nat.not_lt_zero level)

theorem readable_cond {t : Ty} {c : Expr (.value .bool)} {a b : Expr (.value t)}
    (hc : c.Readable) (ha : a.Readable) (hb : b.Readable) : (cond c a b).Readable := by
  have hbegins : Begins (cond c a b).text := (begins_bracketed hc.begins 1).append _
  refine ⟨hbegins, Nat.zero_le 8, ?_, by simp [level]⟩
  intro cur pos rest hcur hs
  have hyes := ha.bracketed 0 (Nat.zero_le 8)
  have hno := hb.bracketed 0 (Nat.zero_le 8)
  rw [bracketed_zero] at hyes hno
  have begins : Begins cur.settle.rest := by
    rw [hcur]
    exact hbegins.append rest
  have htest := hc.bracketed 1 (by omega) cur pos
    ('?' :: (a.text ++ ':' :: (b.text ++ rest))) (by simpa [text] using hcur)
    ⟨['?'], by decide, _, rfl⟩
  generalize hfirst : pos + (bracketed 1 c.level c.text).length = first at htest
  have hyes := hyes ⟨first + 1, _⟩ _ (':' :: (b.text ++ rest)) (ha.begins.append _).settle
    ⟨[':'], by decide, _, rfl⟩
  have hno := hno ⟨first + 1 + a.text.length + 1, _⟩ _ rest (hb.begins.append _).settle hs
  have hquestion : Matches (.word "?") ⟨first, '?' :: (a.text ++ ':' :: (b.text ++ rest))⟩
      (.done [.leaf "" "?" first] ⟨first + 1, a.text ++ ':' :: (b.text ++ rest)⟩) :=
    .word (Cursor.settle_ink rfl)
  have hcolon : Matches (.word ":") ⟨first + 1 + a.text.length, ':' :: (b.text ++ rest)⟩
      (.done [.leaf "" ":" (first + 1 + a.text.length)]
        ⟨first + 1 + a.text.length + 1, b.text ++ rest⟩) :=
    .word (Cursor.settle_ink rfl)
  have hcase := Matches.made (r := .exprCase) rfl
    (.both htest (.present (.both hquestion (.both hyes (.both hcolon hno)))))
  have hlength : pos + (cond c a b).text.length =
      first + 1 + a.text.length + 1 + b.text.length := by
    simp only [text, length_append, length_cons, ← hfirst]
    omega
  rw [hlength]
  subst hfirst
  exact matches_expr begins hcase

theorem readable (e : Expr k) : e.Readable := by
  induction e with
  | num d ds short => exact readable_num d ds short
  | truth b => exact readable_truth b
  | neg a ih =>
    refine ⟨⟨['-'], by decide, _, rfl⟩, by simp [level], ?_, by simp [level]⟩
    exact readsAt_signed (ih.bracketed 8 (Nat.le_refl 8)) (begins_bracketed ih.begins 8) rfl
      fun h => .next (.shun ['-'] rfl (by rw [h]; exact ⟨_, rfl⟩))
        (.here (.word h))
  | not a ih =>
    refine ⟨⟨['!'], by decide, _, rfl⟩, by simp [level], ?_, by simp [level]⟩
    exact readsAt_signed (ih.bracketed 8 (Nat.le_refl 8)) (begins_bracketed ih.begins 8) rfl
      fun h => .next (.shun ['!'] rfl (by rw [h]; exact ⟨_, rfl⟩))
        (.next (.shun ['!'] rfl (by rw [h]; exact ⟨_, rfl⟩)) (.word h))
  | arith op a b iha ihb => exact iha.joined op.sign ihb rfl rfl rfl
  | logic op a b iha ihb => exact iha.joined op.sign ihb rfl rfl rfl
  | test op a b iha ihb => exact iha.joined op.sign ihb rfl rfl rfl
  | more op a b iha ihb => exact iha.joined op.sign ihb rfl rfl rfl
  | holds c ih => exact ⟨ih.begins, ih.level_le, ih.whole, ih.row⟩
  | cond c a b ihc iha ihb => exact readable_cond ihc iha ihb

/-- An expression as the right side of an assignment, in the program that assigns it. -/
def exprTree (e : Expr k) : Tree := bracketedTree 0 e.level e.text.length e.tree 4

theorem reads (e : Expr k) :
    ReadsAt 0 e.text (bracketedTree 0 e.level e.text.length e.tree) := by
  have := e.readable.bracketed 0 (Nat.zero_le 8)
  rwa [bracketed_zero] at this

theorem parse_program (e : Expr k) :
    parse e.program = .ok (e.exprTree.assignX (4 + e.text.length)) :=
  parse_reads e.reads e.readable.begins

end Expr

end Scad.Arithmetic
