import Scad.Proofs.Parsing.Conservation
import Scad.Proofs.Parsing.Words

/-!
The pieces of a text: comments, quoted texts and single characters. What an expression
of the grammar reads is a sequence of pieces, and whatever else is tried in between
keeps to the same pieces: it neither ends inside a quoted text nor starts inside a
comment. So a reading does not change when the text after the last piece changes, as
long as that text cannot continue a word.
-/

namespace Scad

open Layout Lexeme
open List hiding length

variable {n : Nat} {q : Char} {t : Terminal} {x y : List Char}

variable {n : Nat} {x u cs : List Char} {c q : Char}

def isQuote (c : Char) : Bool := c == '"' || c == '\''

def bracketStep (c : Char) : Int :=
  if c = '(' ∨ c = '[' ∨ c = '\x7b' then 1
  else if c = ')' ∨ c = ']' ∨ c = '\x7d' then -1
  else 0

/-- Does a text begin like a comment, be it closed or not? -/
def opensComment : List Char → Bool
  | '/' :: c :: _ => c == '/' || c == '*'
  | _ => false

def Quoted (y : List Char) : Prop :=
  ∃ q, isQuote q = true ∧ y.head? = some q ∧ quotedLength q y = some y.length

/-- A text made of pieces, the last of which is no layout, and how many brackets it
opens. A comment mark opens a comment that is closed. -/
inductive Pieces : List Char → Int → Prop
  | char {c : Char} (hb : isBlank c = false) (hq : isQuote c = false) :
      Pieces [c] (bracketStep c)
  | quoted {y : List Char} (hy : Quoted y) : Pieces y 0
  | consChar {c : Char} {x : List Char} {k : Int} (hc : opensComment (c :: x) = false)
      (hq : isQuote c = false) (h : Pieces x k) : Pieces (c :: x) (bracketStep c + k)
  | consQuoted {y x : List Char} {k : Int} (hy : Quoted y) (h : Pieces x k) : Pieces (y ++ x) k
  | consComment {y x : List Char} {k : Int} (hy : Comment y x) (h : Pieces x k) :
      Pieces (y ++ x) k

/-! ## Pieces that stand alone -/

theorem Lexeme.untilQuote_split (hq : q ≠ '\\') {k : Nat} (h : untilQuote q k cs = some n) :
    ∃ x r, cs = x ++ q :: r ∧ n = k + x.length + 1 ∧ ∀ v, untilQuote q k (x ++ q :: v) =
      some n := by
  fun_induction untilQuote q k cs with
  | case1 | case2 | case5 => cases h
  | case3 k c cs hc ih =>
    obtain ⟨x, r, rfl, hn, hv⟩ := ih h
    refine ⟨'\\' :: c :: x, r, rfl, by simp only [length_cons]; omega, fun v => ?_⟩
    rw [cons_append, cons_append, untilQuote, if_neg hc, hv]
  | case4 k cs =>
    cases h
    refine ⟨[], cs, rfl, rfl, fun v => ?_⟩
    rw [nil_append, untilQuote.eq_3 _ _ _ _ fun _ _ h => absurd h hq, if_pos rfl]
  | case6 k c cs _ hc hs ih =>
    obtain ⟨x, r, rfl, hn, hv⟩ := ih h
    refine ⟨c :: x, r, rfl, by simp only [length_cons]; omega, fun v => ?_⟩
    rw [cons_append, untilQuote.eq_3 _ _ _ _ fun _ _ h => absurd h hs, if_neg hc, if_neg hs, hv]

/-- What is quoted ends with its quote, whatever follows. -/
theorem Lexeme.quotedLength_closed (hq : isQuote q = true) (h : quotedLength q cs = some n) :
    (cs.take n).getLast? = some q ∧ ∀ v, quotedLength q (cs.take n ++ v) = some n := by
  have hs : q ≠ '\\' := by
    rintro rfl
    cases hq
  cases cs with
  | nil => cases h
  | cons c cs =>
    simp only [quotedLength] at h
    split at h
    · obtain ⟨x, r, rfl, rfl, hv⟩ := untilQuote_split hs h
      have htake : (c :: (x ++ q :: r)).take (1 + x.length + 1) = c :: x ++ [q] := by
        simp [Nat.add_comm 1, take_append, take_of_length_le (Nat.le_succ x.length)]
      rw [htake, getLast?_concat]
      refine ⟨rfl, fun v => ?_⟩
      rw [append_assoc, cons_append, quotedLength, if_pos ‹c = q›]
      exact hv v
    · cases h

namespace Quoted

variable {y : List Char}

theorem of_length (hq : isQuote q = true) {cs : List Char}
    (h : quotedLength q cs = some n) : Quoted (cs.take n) := by
  have hl := (quotedLength_closed hq h).2 []
  have hn := quotedLength_bounds h
  rw [append_nil] at hl
  refine ⟨q, hq, ?_, by rw [hl, length_take_of_le hn.2]⟩
  cases cs with
  | nil => cases h
  | cons c cs =>
    simp only [quotedLength] at h
    split at h
    · rename_i hc
      obtain ⟨m, rfl⟩ : ∃ m, n = m + 1 := ⟨n - 1, by omega⟩
      simp [hc]
    · cases h

theorem ne_nil (h : Quoted y) : y ≠ [] := by
  obtain ⟨q, -, hh, -⟩ := h
  rintro rfl
  cases hh

theorem length {x' : List Char} (h : Quoted y) (he : q :: x = y ++ x') (v : List Char) :
    quotedLength q (y ++ v) = some y.length := by
  obtain ⟨q', hq', hh, hl⟩ := h
  obtain ⟨y, rfl⟩ := head?_eq_some_iff.1 hh
  cases he
  simpa using (quotedLength_closed hq' hl).2 v

end Quoted

theorem Layout.untilClose_of_block (hl : '\n' ∉ cs) (hf : ¬['*', '/'] <:+: cs ++ ['*'])
    (v : List Char) : untilClose (cs ++ '*' :: '/' :: v) = some (cs.length + 2) := by
  induction cs with
  | nil => simp [untilClose]
  | cons c cs ih =>
    rw [mem_cons, not_or] at hl
    rw [cons_append, infix_cons_iff, not_or] at hf
    have hne : ∀ rest, c = '*' → cs ++ '*' :: '/' :: v = '/' :: rest → False := by
      rintro rest rfl he
      cases cs with
      | nil => cases he
      | cons d cs =>
        cases he
        exact hf.1 ⟨cs ++ ['*'], rfl⟩
    rw [cons_append, untilClose.eq_2 _ _ hne, if_neg (Ne.symm hl.1), ih hl.2 hf.2]
    simp

theorem Comment.length {next : List Char} (h : Comment y next) :
    commentLength (y ++ next) = some y.length := by
  cases h with
  | @line cs _ h hn =>
    have hc : countWhile (fun c => c != '\r' && c != '\n') (cs ++ next) = cs.length := by
      induction cs with
      | nil =>
        cases next with
        | nil => rfl
        | cons c next =>
          have := hn c rfl
          simp only [nil_append, countWhile, length_nil]
          rw [if_neg]
          rcases this with rfl | rfl <;> decide
      | cons c cs ih =>
        obtain ⟨hc, hcs⟩ := forall_mem_cons.1 h
        simp only [cons_append, countWhile, length_cons]
        rw [if_pos (by simp [hc]), ih hcs]
    simp [commentLength, hc]
  | @block cs _ hl hf =>
    have := untilClose_of_block hl hf next
    simp only [cons_append, append_assoc, commentLength, nil_append, this]
    simp

theorem Comment.append (h : Comment y x) (hx : x ≠ []) (v : List Char) :
    Comment y (x ++ v) := by
  cases h with
  | line h hn =>
    refine .line h ?_
    rwa [head?_append_of_ne_nil x hx]
  | block hl hf => exact .block hl hf

theorem Comment.of_append {v : List Char} (h : Comment y (x ++ v)) (hx : x ≠ []) :
    Comment y x := by
  cases h with
  | line h hn =>
    refine .line h ?_
    rwa [head?_append_of_ne_nil x hx] at hn
  | block hl hf => exact .block hl hf

/-! ## Sequences of pieces -/

theorem opensComment_append (hx : x ≠ []) (v : List Char) :
    opensComment (c :: (x ++ v)) = opensComment (c :: x) := by
  obtain ⟨d, x, rfl⟩ := exists_cons_of_ne_nil hx
  by_cases hc : c = '/'
  · subst hc
    rfl
  · simp [opensComment, hc]

theorem Layout.commentLength_of_opensComment (h : opensComment cs = false) :
    commentLength cs = none := by
  unfold commentLength
  split
  · cases h
  · cases h
  · rfl

theorem isQuote_ne_slash (h : isQuote c = true) : c ≠ '/' ∧ isBlank c = false := by
  simp only [isQuote, Bool.or_eq_true, beq_iff_eq] at h
  rcases h with rfl | rfl <;> decide

theorem isBlank_step (hc : isBlank c = true) (cs : List Char) :
    opensComment (c :: cs) = false ∧ isQuote c = false ∧ bracketStep c = 0 := by
  simp only [isBlank, Bool.or_eq_true, beq_iff_eq] at hc
  rcases hc with ((rfl | rfl) | rfl) | rfl <;> exact ⟨rfl, rfl, rfl⟩

theorem isWordy_step (hc : isWordy c = true) :
    isBlank c = false ∧ c ≠ '/' ∧ isQuote c = false ∧ bracketStep c = 0 := by
  have hs : ∀ d ∈ stopChars, c ≠ d := by
    rintro d hd rfl
    rw [isWordy_eq_false.2 hd] at hc
    cases hc
  simp only [stopChars, forall_mem_cons] at hs
  simp [isBlank, isQuote, bracketStep, hs]

/-- A text that makes no comment of a slash before it. -/
def Parts (x u : List Char) : Prop :=
  x.getLast? = some '/' → ∀ c ∈ u.head?, c ≠ '/' ∧ c ≠ '*'

theorem Parts.opensComment {u : List Char} (h : Parts [c] u) : opensComment (c :: u) = false := by
  by_cases hc : c = '/'
  · subst hc
    cases u with
    | nil => rfl
    | cons d u =>
      have := h rfl d rfl
      simp [Scad.opensComment, this]
  · simp [Scad.opensComment, hc]

theorem Parts.tail {u : List Char} (h : Parts (y ++ x) u) : Parts x u := by
  intro hl
  apply h
  rw [getLast?_append, hl]
  rfl

namespace Pieces

variable {x y u : List Char} {k d : Int}

theorem ne_nil (h : Pieces x k) : x ≠ [] := by
  cases h with
  | char | consChar => exact cons_ne_nil _ _
  | quoted hy => exact hy.ne_nil
  | consQuoted hy => simp [hy.ne_nil]
  | consComment hy => cases hy <;> simp

theorem append (h : Pieces x d) (hy : Pieces y k) (hp : Parts x y) : Pieces (x ++ y) (d + k) := by
  induction h with
  | char hb hq => exact .consChar hp.opensComment hq hy
  | quoted hx =>
    rw [Int.zero_add]
    exact .consQuoted hx hy
  | @consChar c x k' hc hq h ih =>
    rw [cons_append, Int.add_assoc]
    refine .consChar ?_ hq (ih (hp.tail (y := [c])))
    rwa [opensComment_append h.ne_nil]
  | consQuoted hx h ih =>
    rw [append_assoc]
    exact .consQuoted hx (ih hp.tail)
  | consComment hx h ih =>
    rw [append_assoc]
    exact .consComment (hx.append h.ne_nil y) (ih hp.tail)

theorem afterGap {g next : List Char} (hg : Gap g (x ++ next)) (h : Pieces x k) :
    Pieces (g ++ x) k := by
  generalize hn : x ++ next = v at hg
  induction hg with
  | nil => exact h
  | @blank c cs _ hc _ ih =>
    have hs := isBlank_step hc (cs ++ x)
    have := consChar (c := c) (x := cs ++ x) hs.1 hs.2.1 (ih hn)
    rwa [hs.2.2, Int.zero_add] at this
  | @comment cs ds _ hc _ ih =>
    rw [append_assoc]
    refine consComment ?_ (ih hn)
    rw [← hn, ← append_assoc] at hc
    exact hc.of_append (by simp [h.ne_nil])

/-- The layout in front of the first piece that is none is the same whatever follows. -/
theorem settle (h : Pieces x k) : ∃ g x', x = g ++ x' ∧ Pieces x' k ∧ ∀ u, Parts x u →
    length (x ++ u) = g.length ∧ isInk (x' ++ u) = true := by
  -- A piece that is no layout.
  have ink : ∀ {x : List Char} {k : Int}, Pieces x k → (∀ u, Parts x u → isInk (x ++ u) = true) →
      ∃ g x', x = g ++ x' ∧ Pieces x' k ∧ ∀ u, Parts x u →
        length (x ++ u) = g.length ∧ isInk (x' ++ u) = true :=
    fun {x _} h hi => ⟨[], x, rfl, h, fun u hu => ⟨length_ink (hi u hu), hi u hu⟩⟩
  have quote : ∀ {y : List Char}, Quoted y → ∀ v, isInk (y ++ v) = true := by
    rintro y ⟨q, hq, hh, -⟩ v
    cases y with
    | nil => cases hh
    | cons c y =>
      cases hh
      have hc := isQuote_ne_slash hq
      simp [isInk, hc.2, commentLength_of_ne hc.1]
  induction h with
  | char hb hq =>
    refine ink (.char hb hq) fun u hu => ?_
    simp [isInk, hb, commentLength_of_opensComment hu.opensComment]
  | quoted hy => exact ink (.quoted hy) fun u _ => quote hy u
  | @consChar c x k hc hq h ih =>
    cases hb : isBlank c with
    | false =>
      refine ink (.consChar hc hq h) fun u _ => ?_
      rw [← opensComment_append h.ne_nil u] at hc
      simp [isInk, hb, commentLength_of_opensComment hc]
    | true =>
      obtain ⟨g, x', rfl, hx', hl⟩ := ih
      rw [(isBlank_step hb []).2.2, Int.zero_add]
      refine ⟨c :: g, x', rfl, hx', fun u hu => ?_⟩
      obtain ⟨hlen, hink⟩ := hl u (hu.tail (y := [c]))
      exact ⟨by rw [cons_append, length_blank hb, hlen]; rfl, hink⟩
  | @consQuoted y x k hy h _ =>
    refine ink (.consQuoted hy h) fun u _ => ?_
    rw [append_assoc]
    exact quote hy _
  | @consComment y x k hy h ih =>
    obtain ⟨g, x', rfl, hx', hl⟩ := ih
    refine ⟨y ++ g, x', (append_assoc y g x').symm, hx', fun u hu => ?_⟩
    obtain ⟨hlen, hink⟩ := hl u hu.tail
    have hc := (hy.append h.ne_nil u).length
    refine ⟨?_, hink⟩
    rw [append_assoc, length_comment hc, drop_left, hlen, length_append]

theorem cons_char {c : Char} (h : Pieces (c :: x) k) (hq : isQuote c = false)
    (hi : isInk (c :: x ++ u) = true) :
    x = [] ∧ k = bracketStep c ∨ ∃ k', k = bracketStep c + k' ∧ Pieces x k' := by
  have quote : ∀ {y v : List Char}, Quoted y → c :: x ≠ y ++ v := by
    rintro y v ⟨q, hq', hh, -⟩ he
    cases y with
    | nil => cases hh
    | cons d y =>
      cases hh
      cases he
      rw [hq'] at hq
      cases hq
  generalize hz : c :: x = z at h
  cases h with
  | char =>
    cases hz
    exact .inl ⟨rfl, rfl⟩
  | quoted hy => exact absurd (hz.trans (append_nil z).symm) (quote hy)
  | consChar _ _ h =>
    cases hz
    exact .inr ⟨_, rfl, h⟩
  | consQuoted hy => exact absurd hz (quote hy)
  | consComment hy h =>
    have hc := (hy.append h.ne_nil u).length
    rw [← append_assoc, ← hz, cons_append] at hc
    simp [isInk, hc] at hi

theorem cons_quote (h : Pieces (q :: x) k) (hq : isQuote q = true) :
    ∃ y x', q :: x = y ++ x' ∧ Quoted y ∧ (x' = [] ∧ k = 0 ∨ Pieces x' k) := by
  generalize hz : q :: x = z at h
  cases h with
  | char _ hc =>
    cases hz
    rw [hc] at hq
    cases hq
  | quoted hy => exact ⟨z, [], (append_nil z).symm, hy, .inl ⟨rfl, rfl⟩⟩
  | consChar _ hc h =>
    cases hz
    rw [hc] at hq
    cases hq
  | consQuoted hy h => exact ⟨_, _, rfl, hy, .inr h⟩
  | consComment hy h => cases hy <;> cases hz <;> cases hq

theorem word (h : Pieces (y ++ x) k) (hy : ∀ c ∈ y, isWordy c = true) (hn : y ≠ []) :
    x = [] ∧ k = 0 ∨ Pieces x k := by
  induction y with
  | nil => exact absurd rfl hn
  | cons c y ih =>
    obtain ⟨hc, hy⟩ := forall_mem_cons.1 hy
    have hw := isWordy_step hc
    have hi : isInk (c :: (y ++ x) ++ []) = true := by
      simp [isInk, hw.1, commentLength_of_ne hw.2.1]
    rcases h.cons_char hw.2.2.1 hi with ⟨hnil, hk⟩ | ⟨k', hk, ht⟩
    · exact .inl ⟨(append_eq_nil_iff.1 hnil).2, hk.trans hw.2.2.2⟩
    · rw [hw.2.2.2, Int.zero_add] at hk
      subst hk
      cases y with
      | nil => exact .inr ht
      | cons d y => exact ih ht hy (cons_ne_nil d y)

end Pieces

/-! ## Terminals -/

/-- A word is one character, or all its characters can stand in words. -/
def Terminal.isSound : Terminal → Bool
  | word text =>
    match text.toList with
    | [] => false
    | [c] => !Layout.isBlank c && !isQuote c
    | cs => cs.all isWordy
  | lexeme .path | finish => false
  | lexeme _ => true

def Terminal.turn : Terminal → Int
  | word text =>
    match text.toList with
    | [c] => bracketStep c
    | _ => 0
  | _ => 0

theorem Terminal.sound_cases (h : t.isSound = true) :
    (∃ c, (∀ cs, t.length? cs = if cs.head? = some c then some 1 else none) ∧
      isBlank c = false ∧ isQuote c = false ∧ t.turn = bracketStep c) ∨
    ((∀ cs n, t.length? cs = some n → 0 < n ∧ ∀ c ∈ cs.take n, isWordy c = true) ∧
      (∀ v, Halts v → ∀ cs, t.length? (cs ++ v) = t.length? cs) ∧ t.turn = 0) ∨
    (∃ q, isQuote q = true ∧ t.length? = quotedLength q ∧ t.turn = 0) := by
  cases t with
  | finish => cases h
  | lexeme l =>
    cases l with
    | path => cases h
    | number =>
      exact .inr (.inl ⟨fun cs n hn => ⟨(numberLength_bounds hn).1,
        numberLength_wordy hn⟩, fun v hv => hv.numberLength, rfl⟩)
    | symbol =>
      exact .inr (.inl ⟨fun cs n hn => ⟨(symbolLength_bounds hn).1,
        symbolLength_wordy hn⟩, fun v hv => hv.symbolLength, rfl⟩)
    | doubleQuoted => exact .inr (.inr ⟨'"', rfl, rfl, rfl⟩)
    | singleQuoted => exact .inr (.inr ⟨'\'', rfl, rfl, rfl⟩)
  | word text =>
    have hlen : text.length = text.toList.length := String.length_toList.symm
    simp only [isSound] at h
    rcases hl : text.toList with _ | ⟨c, _ | ⟨d, ds⟩⟩
    · simp [hl] at h
    · simp only [hl, Bool.and_eq_true, Bool.not_eq_true'] at h
      refine .inl ⟨c, fun cs => ?_, h.1, h.2, by simp [turn, hl]⟩
      cases cs with
      | nil => simp [length?, hl]
      | cons e cs => simp [length?, hl, hlen, Eq.comm (a := c)]
    · rw [hl] at h
      have hall : ∀ e ∈ text.toList, isWordy e = true := by
        rw [hl]
        exact all_eq_true.1 h
      refine .inr (.inl ⟨fun cs n hn => ?_, fun v hv cs => ?_, by simp [turn, hl]⟩)
      · simp only [length?] at hn
        split at hn <;> cases hn
        rename_i hp
        obtain ⟨r, rfl⟩ := isPrefixOf_iff_prefix.1 hp
        refine ⟨by rw [hlen, hl]; exact Nat.succ_pos _, ?_⟩
        rw [hlen, take_left]
        exact hall
      · have hp : text.toList <+: cs ++ v ↔ text.toList <+: cs := by
          refine ⟨fun h => ?_, fun h => h.trans (prefix_append cs v)⟩
          rcases prefix_or_prefix_of_prefix h (prefix_append cs v) with h' | ⟨ws, hw⟩
          · exact h'
          · rw [← hw, prefix_append_right_inj] at h
            cases ws with
            | nil => exact ⟨[], by rw [← hw, append_nil, append_nil]⟩
            | cons e ws =>
              -- The word would go on into a text that continues no word.
              obtain ⟨r, rfl⟩ := h
              have hstop := hv e rfl
              rw [hall e (by rw [← hw]; simp)] at hstop
              cases hstop
        simp only [length?, Bool.eq_iff_iff.2 ( isPrefixOf_iff_prefix.trans
          (hp.trans isPrefixOf_iff_prefix.symm))]

theorem Terminal.slash_of_last (ht : t.isSound = true)
    (hn : t.length? cs = some n) (hl : (cs.take n).getLast? = some '/') :
    n = 1 ∧ cs = '/' :: cs.drop 1 := by
  rcases sound_cases ht with ⟨d, hd, -⟩ | ⟨hw, -⟩ | ⟨q, hq, hlen, -⟩
  · rw [hd] at hn
    split at hn <;> cases hn
    cases cs with
    | nil => cases hl
    | cons e es =>
      have he : e = '/' := Option.some.inj hl
      exact ⟨rfl, by rw [he]; rfl⟩
  · have := (hw _ _ hn).2 '/' (mem_of_getLast? hl)
    cases this
  · rw [hlen] at hn
    rw [(quotedLength_closed hq hn).1] at hl
    cases hl
    cases hq

/-- No word goes on from a text into the next. -/
def Fenced (x u : List Char) : Prop := (∃ c ∈ x.getLast?, isWordy c = false) ∨ Halts u

theorem Fenced.length_le (h : Fenced x u)
    (hn : ∀ c ∈ (x ++ u).take n, isWordy c = true) (hl : n ≤ (x ++ u).length) : n ≤ x.length := by
  by_contra hlt
  rw [take_append, take_of_length_le (by omega)] at hn
  rcases h with ⟨c, hc, hw⟩ | h
  · rw [hn c (mem_append_left _ (mem_of_getLast? hc))] at hw
    cases hw
  · cases u with
    | nil =>
      rw [append_nil] at hl
      omega
    | cons c u =>
      have hw := h c rfl
      obtain ⟨m, hm⟩ : ∃ m, n - x.length = m + 1 := ⟨n - x.length - 1, by omega⟩
      rw [hn c (mem_append_right _ (by simp [hm]))] at hw
      cases hw

namespace Terminal

variable {t : Terminal} {u' : List Char} {k : Int}

theorem take_pieces (ht : t.isSound = true) (h : Pieces x k) (hi : isInk (x ++ u) = true)
    (hf : Fenced x u) (hn : t.length? (x ++ u) = some n) :
    ∃ y x', x = y ++ x' ∧ y.length = n ∧ (x' = [] ∧ k = t.turn ∨ Pieces x' (k - t.turn)) := by
  obtain ⟨c, x, rfl⟩ := exists_cons_of_ne_nil h.ne_nil
  rcases sound_cases ht with ⟨d, hd, -, hq, hturn⟩ | ⟨hw, -, hturn⟩ | ⟨q, hq, hlen, hturn⟩
  · rw [hd] at hn
    split at hn <;> cases hn
    rename_i hc
    cases hc
    refine ⟨[c], x, rfl, rfl, ?_⟩
    rw [hturn]
    rcases h.cons_char hq hi with h | ⟨k', rfl, h⟩
    · exact .inl h
    · right
      rwa [Int.add_comm, Int.add_sub_cancel]
  · obtain ⟨hpos, hall⟩ := hw _ _ hn
    have hle := hf.length_le hall (length?_le hn)
    rw [take_append_of_le_length hle] at hall
    have hy := take_append_drop n (c :: x)
    rw [hturn, Int.sub_zero]
    refine ⟨_, _, hy.symm, length_take_of_le hle, Pieces.word (by rwa [hy]) hall ?_⟩
    intro he
    have := congrArg List.length he
    simp only [length_take_of_le hle, length_nil] at this
    omega
  · have hc : c = q := by
      rw [hlen, cons_append, quotedLength] at hn
      split at hn
      · assumption
      · cases hn
    subst hc
    obtain ⟨y, x', he, hy, hx'⟩ := h.cons_quote hq
    refine ⟨y, x', he, ?_, ?_⟩
    · rw [he, append_assoc, hlen, hy.length he] at hn
      exact Option.some.inj hn
    · rwa [hturn, Int.sub_zero]

theorem length?_swap (ht : t.isSound = true) (h : Pieces x k) (hf : Fenced x u)
    (hf' : Fenced x u') :
    t.length? (x ++ u') = t.length? (x ++ u) := by
  obtain ⟨c, x, rfl⟩ := exists_cons_of_ne_nil h.ne_nil
  rcases sound_cases ht with ⟨d, hd, -⟩ | ⟨-, hw, -⟩ | ⟨q, hq, hlen, -⟩
  · rw [hd, hd]
    rfl
  · by_cases hx : ∃ d ∈ (c :: x).getLast?, isWordy d = false
    · obtain ⟨d, hd, hstop⟩ := hx
      obtain ⟨a, b, hab⟩ := append_of_mem (mem_of_getLast? hd)
      have halts : ∀ v, Halts (d :: b ++ v) := fun v e he => by
        cases he
        exact hstop
      rw [hab, append_assoc, append_assoc, hw _ (halts u'), hw _ (halts u)]
    · rw [hw _ (hf'.resolve_left hx), hw _ (hf.resolve_left hx)]
  · rw [hlen]
    by_cases hc : c = q
    · subst hc
      obtain ⟨y, x', he, hy, -⟩ := h.cons_quote hq
      rw [he, append_assoc, append_assoc, hy.length he, hy.length he]
    · simp [quotedLength, hc]

theorem pieces (ht : t.isSound = true) {cs : List Char} (hn : t.length? cs = some n) :
    Pieces (cs.take n) t.turn := by
  rcases sound_cases ht with ⟨d, hd, hb, hq, hturn⟩ | ⟨hw, -, hturn⟩ | ⟨q, hq, hlen, hturn⟩
  · rw [hd] at hn
    split at hn <;> cases hn
    rename_i hc
    cases cs with
    | nil => cases hc
    | cons c cs =>
      cases hc
      rw [hturn]
      exact .char hb hq
  · obtain ⟨hpos, hall⟩ := hw _ _ hn
    have hle := length?_le hn
    rw [hturn]
    refine word_pieces hall fun he => ?_
    have := congrArg List.length he
    simp only [length_take_of_le hle, length_nil] at this
    omega
  · rw [hlen] at hn
    rw [hturn]
    exact .quoted (.of_length hq hn)
where
  word_pieces {y : List Char} (hy : ∀ c ∈ y, isWordy c = true) (hn : y ≠ []) : Pieces y 0 := by
    induction y with
    | nil => exact absurd rfl hn
    | cons c y ih =>
      obtain ⟨hc, hy⟩ := forall_mem_cons.1 hy
      have hw := isWordy_step hc
      cases y with
      | nil =>
        rw [← hw.2.2.2]
        exact .char hw.1 hw.2.2.1
      | cons d y =>
        have := Pieces.consChar (c := c) (by simp [opensComment, hw.2.1]) hw.2.2.1
          (ih hy (cons_ne_nil d y))
        rwa [hw.2.2.2, Int.zero_add] at this

end Terminal

/-- Neither a word nor a comment mark goes on from a text into the next. -/
structure Border (x u : List Char) : Prop where
  parts : Parts x u
  fenced : Fenced x u

theorem Border.nil (x : List Char) : Border x [] where
  parts := fun _ c hc => by cases hc
  fenced := .inr fun c hc => by cases hc

theorem Border.tail (h : Border (y ++ x) u) (hx : x ≠ []) : Border x u where
  parts := h.parts.tail
  fenced := by
    have := h.fenced
    rwa [Fenced, getLast?_append_of_ne_nil y hx] at this

theorem Pieces.opensComment_ink {k : Int} (h : Pieces x k)
    (hi : isInk (x ++ u) = true) : opensComment x = false := by
  have quote : ∀ {y v : List Char}, Quoted y → opensComment (y ++ v) = false := by
    rintro y v ⟨q, hq, hh, -⟩
    cases y with
    | nil => cases hh
    | cons c y =>
      cases hh
      simp [opensComment, (isQuote_ne_slash hq).1]
  cases h with
  | char => simp [opensComment]
  | quoted hy => simpa using quote (v := []) hy
  | consChar hc => exact hc
  | consQuoted hy => exact quote hy
  | consComment hy h =>
    have hc := (hy.append h.ne_nil u).length
    cases hy <;> simp_all [isInk]

/-- A terminal reads the same at the front of pieces whatever follows them, and leaves
pieces. -/
theorem Terminal.read_pieces {k : Int} (ht : t.isSound = true)
    (h : Pieces x k) (name : String) :
    (∀ u, Border x u → ∀ pos, t.read name ⟨pos, x ++ u⟩ = .failed) ∨
    ∃ g y x', x = g ++ (y ++ x') ∧ (x' = [] ∧ k = t.turn ∨ Pieces x' (k - t.turn)) ∧
      Parts (g ++ y) x' ∧ ∀ u, Border x u → ∀ pos, t.read name ⟨pos, x ++ u⟩ =
        .done [.leaf (t.label name) (String.ofList y) (pos + g.length)]
          ⟨pos + g.length + y.length, x' ++ u⟩ := by
  obtain ⟨g, x, rfl, hx, hl⟩ := h.settle
  have settle : ∀ u, Border (g ++ x) u → ∀ pos,
      (Cursor.mk pos (g ++ x ++ u)).settle = ⟨pos + g.length, x ++ u⟩ := by
    intro u hu pos
    rw [Cursor.settle, (hl u hu.parts).1, Cursor.advance, append_assoc, drop_left]
  have length : ∀ u, Border (g ++ x) u → t.length? (x ++ u) = t.length? (x ++ []) := fun u hu =>
    length?_swap ht hx (Border.nil x).fenced (hu.tail hx.ne_nil).fenced
  cases hn : t.length? (x ++ []) with
  | none =>
    left
    intro u hu pos
    simp only [read, settle u hu, length u hu, hn]
  | some n =>
    right
    obtain ⟨y, x', rfl, hy, hx'⟩ :=
      take_pieces ht hx (hl [] (Border.nil _).parts).2 (Border.nil _).fenced hn
    have hn' : t.length? (y ++ x') = some y.length := by rw [hy, ← hn, append_nil]
    have hpy : Pieces y t.turn := by simpa using pieces ht hn'
    refine ⟨g, y, x', rfl, hx', fun hlast c hc => ?_, fun u hu pos => ?_⟩
    · -- What ends with a slash is a slash, and it begins no comment.
      rw [getLast?_append_of_ne_nil g hpy.ne_nil] at hlast
      obtain ⟨hone, hslash⟩ := slash_of_last ht hn' (by rwa [take_left])
      have hopen := hx.opensComment_ink (hl [] (Border.nil _).parts).2
      obtain ⟨d, rfl⟩ := length_eq_one_iff.1 hone
      obtain ⟨rfl, -⟩ := cons.inj hslash
      obtain ⟨r, rfl⟩ := head?_eq_some_iff.1 hc
      simpa [opensComment] using hopen
    simp only [read, settle u hu, length u hu, hn, Cursor.advance]
    rw [append_assoc, ← hy, take_left, drop_left]

end Scad
