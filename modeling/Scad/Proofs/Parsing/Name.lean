import Scad.Proofs.Parsing.Argument

/-!
Names as values. A name on the right side of an assignment is read whole and as a name,
also if it is a keyword or begins with one. Only `true`, `false` and `undef` are read
without a look at what follows them, so that a longer name that begins with one of them is
refused.
-/

namespace Scad

open Cursor Lexeme List

variable {s : String}

/-- A letter and then letters and digits, with or without a dollar sign in front. -/
def IsName (s : String) : Prop :=
  ∃ front c tail, s.toList = front ++ c :: tail ∧ (front = [] ∨ front = ['$']) ∧
    isLetter c = true ∧ ∀ d ∈ tail, isWordChar d = true

theorem IsName.symbolLength (h : IsName s) : symbolLength (s.toList ++ [';']) = some s.length := by
  obtain ⟨front, c, tail, hs, hf, hc, ht⟩ := h
  have hcount : countWhile isWordChar (tail ++ [';']) = tail.length := by
    rw [countWhile_all ht]
    rfl
  rw [← String.length_toList, hs]
  rcases hf with rfl | rfl
  · simp only [nil_append, cons_append, symbolLength_word hc, hcount, length_cons]
  · change (identifierLength (c :: (tail ++ [';']))).map (· + 1) = _
    rw [identifierLength, if_pos hc]
    exact congrArg (fun n => some (n + 1 + 1)) hcount

theorem IsName.isInk (h : IsName s) (cs : List Char) : Layout.isInk (s.toList ++ cs) = true := by
  obtain ⟨front, c, tail, hs, rfl | rfl, hc, _⟩ := h
  · rw [hs]
    exact Layout.isInk_of_word (Bool.or_eq_true_iff.2 (.inl hc))
  · rw [hs]
    rfl

/-- The rule for a name as a value. -/
def valueRule (s : String) : Rule :=
  if s = "true" then .prTrue else if s = "false" then .prFalse
  else if s = "undef" then .prUndef else .prSym

theorem constant_starts {k : Rule × String} (hk : k ∈ constants) :
    k.2.toList <+: s.toList ++ [';'] ↔ k.2.toList <+: s.toList := by
  rw [prefix_concat_iff, or_iff_right]
  intro h
  have : k.2.toList.getLast? = some ';' := by rw [h, getLast?_concat]
  simp only [constants, mem_cons, not_mem_nil, or_false] at hk
  rcases hk with rfl | rfl | rfl <;> cases this

theorem primaryName_of_whole (h : ∀ k ∈ constants, k.2.toList <+: s.toList → k.2 = s) :
    primaryName s.length (s.toList ++ [';']) = (valueRule s, s) := by
  have hrest : String.ofList ((s.toList ++ [';']).take s.length) = s := by
    rw [← String.length_toList, take_left, String.ofList_toList]
  rw [primaryName, hrest]
  cases hf : constants.find? (·.2.toList <+: s.toList ++ [';']) with
  | none =>
    have hs : ∀ k ∈ constants, k.2 ≠ s := by
      rintro k hk rfl
      simpa [constant_starts hk] using find?_eq_none.1 hf k hk
    simp only [constants, forall_mem_cons, ne_eq, eq_comm] at hs
    simp [valueRule, hs]
  | some k =>
    have hk := mem_of_find?_eq_some hf
    have hp : k.2.toList <+: s.toList ++ [';'] := by simpa using find?_some hf
    have hrule : ∀ k ∈ constants, valueRule k.2 = k.1 := by decide
    rw [← h k hk ((constant_starts hk).1 hp), hrule k hk]
    rfl

theorem primaryName_of_constant {k : Rule × String} (hk : k ∈ constants)
    (hs : k.2.toList <+: s.toList) (n : Nat) : primaryName n (s.toList ++ [';']) = k := by
  have hp := (constant_starts hk).2 hs
  cases hf : constants.find? (·.2.toList <+: s.toList ++ [';']) with
  | none => simpa [hp] using find?_eq_none.1 hf k hk
  | some l =>
    have hl : l.2.toList <+: s.toList ++ [';'] := by simpa using find?_some hf
    have hsame : ∀ k ∈ constants, ∀ l ∈ constants, k.2.toList <+: l.2.toList → k = l := by decide
    have hm := mem_of_find?_eq_some hf
    rw [primaryName, hf]
    rcases prefix_or_prefix_of_prefix hp hl with h | h
    · exact (hsame k hk l hm h).symm
    · exact hsame l hm k hk h

/-- A name can be used as a value unless it goes on after a constant, and then it is read
whole and by its own rule. -/
theorem name_value_accepted_iff (hs : IsName s) :
    ((∃ t, parse ("x = " ++ s ++ ";") = .ok t) ↔
      ∀ w ∈ ["true", "false", "undef"], w.toList <+: s.toList → w = s) ∧
    ∀ t, parse ("x = " ++ s ++ ";") = .ok t →
      t = Tree.assignX (.ofPrimary (.leaf (valueRule s).name s 4)) (4 + s.length) := by
  have ht : ("x = " ++ s ++ ";").toList = 'x' :: ' ' :: '=' :: ' ' :: (s.toList ++ [';']) := by
    simp
  have hc : settle ⟨3, ' ' :: (s.toList ++ [';'])⟩ = ⟨4, s.toList ++ [';']⟩ := by
    rw [settle_blank rfl, settle_ink (hs.isInk _)]
  have hend : advance s.length ⟨4, s.toList ++ [';']⟩ = ⟨4 + s.length, [';']⟩ := by
    rw [advance, ← String.length_toList, drop_left]
  have hn : symbolLength (settle ⟨3, ' ' :: (s.toList ++ [';'])⟩).rest = some s.length := by
    rw [hc]
    exact hs.symbolLength
  have hi : Idle ((settle ⟨3, ' ' :: (s.toList ++ [';'])⟩).advance s.length) := by
    rw [hc, hend]
    exact .of_ink [';'] [] rfl _ rfl
  have hexpr := Matches.expr_name hn hi
  by_cases hw : ∀ k ∈ constants, k.2.toList <+: s.toList → k.2 = s
  · rw [Tree.ofName, hc, primaryName_of_whole hw, hend] at hexpr
    have hok := parse_assignX ht hexpr
    refine ⟨iff_of_true ⟨_, hok⟩ ?_, fun t h => (Except.ok.inj (hok.symm.trans h)).symm⟩
    simpa [constants] using hw
  · push Not at hw
    obtain ⟨k, hk, hp, hne⟩ := hw
    -- The constant is read and more of the name is left, so no semicolon follows.
    have hstuck : Stuck (advance k.2.length
        (settle ⟨3, ' ' :: (s.toList ++ [';'])⟩)).settle.rest := by
      have hend := primaryName_end hn
      rw [hc, primaryName_of_constant hk hp] at hend
      rcases hend with h | h
      · rw [← String.length_toList, ← String.length_toList] at h
        exact absurd (String.toList_injective (hp.eq_of_length h)) hne
      · rw [hc]
        exact h.2
    rw [hc, primaryName_of_constant hk hp, ← hc] at hexpr
    obtain ⟨e, he⟩ := parse_assignX_error ht (.seqVoid hexpr (.failed_of_stuck hstuck rfl))
    refine ⟨iff_of_false ?_ ?_, ?_⟩
    · rintro ⟨t, h⟩
      cases he.symm.trans h
    · exact fun h => hne (h k.2 (by simpa [constants] using mem_map_of_mem hk) hp)
    · intro t h
      cases he.symm.trans h

theorem name_value_accepted_functional :
    (IsName "functional" ∧ ∃ t, parse "x = functional;" = .ok t) ∧
      IsName "undefined" ∧ ¬∃ t, parse "x = undefined;" = .ok t := by
  have hf : IsName "functional" :=
    ⟨[], 'f', "unctional".toList, rfl, .inl rfl, rfl, all_eq_true.1 rfl⟩
  have hu : IsName "undefined" :=
    ⟨[], 'u', "ndefined".toList, rfl, .inl rfl, rfl, all_eq_true.1 rfl⟩
  refine ⟨⟨hf, (name_value_accepted_iff hf).1.2 (by decide)⟩, hu, fun h => ?_⟩
  exact absurd ((name_value_accepted_iff hu).1.1 h "undef" (by decide) (by decide)) (by decide)

end Scad
