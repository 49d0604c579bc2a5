import Scad.Proofs.Correspondence.Operator

/-!
Tables of named values and the matching of arguments with parameters respect
every lawful correspondence.
-/

namespace Scad

open Table

/-! ## Tables -/

namespace Entries.Alike

variable {κ : Link} {es fs gs hs : List (String × Value)} {v w : Value}

section

variable (h : Entries.Alike κ es fs)

include h

theorem has_eq (name : String) : has name es = has name fs := by
  have hf := h.find? name
  unfold has
  generalize Table.find? name es = x at hf ⊢
  generalize Table.find? name fs = y at hf ⊢
  cases hf <;> rfl

theorem put (name : String) (hv : v.Alike κ w) :
    Entries.Alike κ (put name v es) (put name w fs) :=
  put_rel entryRel_iff h name hv

theorem remove (name : String) : Entries.Alike κ (remove name es) (remove name fs) :=
  remove_rel entryRel_iff h name

theorem merge (h' : Entries.Alike κ gs hs) : Entries.Alike κ (merge es gs) (merge fs hs) := by
  induction h' generalizing es fs with
  | nil => exact h
  | cons he _ ih =>
    obtain ⟨key, hv⟩ := he
    exact ih (h.put key hv)

/-- Tables that are alike come from one table with two values to each name. -/
theorem exists_pairs :
    ∃ ts : List (String × Value × Value), es = ts.map (fun t => (t.1, t.2.1)) ∧
      fs = ts.map (fun t => (t.1, t.2.2)) ∧ ∀ t ∈ ts, t.2.1.Alike κ t.2.2 := by
  induction h with
  | nil => exact ⟨[], rfl, rfl, by simp⟩
  | cons he _ ih =>
    obtain ⟨key, hv⟩ := he
    obtain ⟨ts, rfl, rfl, ht⟩ := ih
    exact ⟨(key, _, _) :: ts, rfl, rfl, List.forall_mem_cons.2 ⟨hv, ht⟩⟩

theorem sorted : Entries.Alike κ (sorted es) (sorted fs) := by
  obtain ⟨ts, rfl, rfl, ht⟩ := h.exists_pairs
  have hl := List.map_mergeSort (l := ts) (r := fun a b => !(b.1 < a.1))
    (s := fun a b => !(b.1 < a.1)) (f := fun t : String × Value × Value => (t.1, t.2.1))
    fun _ _ _ _ => rfl
  have hr := List.map_mergeSort (l := ts) (r := fun a b => !(b.1 < a.1))
    (s := fun a b => !(b.1 < a.1)) (f := fun t : String × Value × Value => (t.1, t.2.2))
    fun _ _ _ _ => rfl
  unfold sorted
  rw [← hl, ← hr]
  refine List.forall₂_map_left_iff.2 (List.forall₂_map_right_iff.2 (List.forall₂_same.2 ?_))
  exact fun t hm => .mk t.1 (ht t (List.mem_mergeSort.1 hm))

end

end Entries.Alike

/-! ## Parameters -/

/-- A value that is the same in every world. -/
def Value.isScalar : Value → Bool
  | undef | bool _ | int _ | float _ | str _ => true
  | _ => false

theorem Value.Alike.of_isScalar {κ : Link} {v : Value} (h : v.isScalar = true) : v.Alike κ v := by
  cases v <;> first | cases h; done | constructor

/-- All standard values are the same in every world. -/
def Signature.isScalar (s : Signature) : Bool :=
  s.params.all fun p => p.2.all Value.isScalar

structure Bound.Alike (κ : Link) (a b : Bound) : Prop where
  values : Values.Alike κ a.values b.values
  rest : Values.Alike κ a.rest b.rest
  named : Entries.Alike κ a.named b.named
  allowed : κ.Allows a.named

namespace Signature

variable {κ : Link}

theorem fillNamed_rel (s : Signature)
    {filled filled' left left' named named' : List (String × Value)}
    (hf : Entries.Alike κ filled filled') (hl : Entries.Alike κ left left') (ha : κ.Allows left)
    (hn : Entries.Alike κ named named') (hb : κ.Allows named) :
    ExceptRel (fun p q => Entries.Alike κ p.1 q.1 ∧ Entries.Alike κ p.2 q.2 ∧ κ.Allows p.2)
      (s.fillNamed filled left named) (s.fillNamed filled' left' named') := by
  induction hn generalizing filled filled' left left' with
  | nil => exact .ok ⟨hf, hl, ha⟩
  | cons he _ ih =>
    obtain ⟨name, hv⟩ := he
    obtain ⟨hname, hb⟩ := List.forall_mem_cons.1 hb
    simp only [fillNamed]
    rw [hf.has_eq name]
    split
    · split
      · exact .error rfl
      · exact ih (List.rel_append hf (.cons (.mk name hv) .nil)) hl ha hb
    · split
      · refine ih hf (List.rel_append hl (.cons (.mk name hv) .nil)) (ha.append ?_) hb
        exact List.forall_mem_singleton.2 hname
      · exact .error rfl

theorem finish_rel {filled filled' : List (String × Value)} (hf : Entries.Alike κ filled filled')
    {params : List (String × Option Value)} (hs : ∀ p ∈ params, p.2.all Value.isScalar = true) :
    ExceptRel (Values.Alike κ) (finish filled params) (finish filled' params) := by
  induction params with
  | nil => exact .ok .nil
  | cons p params ih =>
    obtain ⟨name, standard⟩ := p
    have hp := hs _ (List.mem_cons_self ..)
    have found : Option.Rel (Value.Alike κ) ((find? name filled).or standard)
        ((find? name filled').or standard) := by
      have h := hf.find? name
      generalize find? name filled = x at h ⊢
      generalize find? name filled' = y at h ⊢
      cases h with
      | some h => exact .some h
      | none =>
        cases standard with
        | none => exact .none
        | some v => exact .some (.of_isScalar hp)
    simp only [finish]
    generalize (find? name filled).or standard = x at found ⊢
    generalize (find? name filled').or standard = y at found ⊢
    cases found with
    | none => exact .error rfl
    | some hv =>
      exact (ih fun p hm => hs p (List.mem_cons_of_mem _ hm)).bind fun _ _ h => .ok (.cons hv h)

theorem zip_alike (names : List String) {vs ws : List Value} (h : Values.Alike κ vs ws) :
    Entries.Alike κ (names.zip vs) (names.zip ws) := by
  induction names generalizing vs ws with
  | nil => exact .nil
  | cons name names ih =>
    cases h with
    | nil => exact .nil
    | cons hv h => exact .cons (.mk name hv) (ih h)

theorem bind_rel {s : Signature} (hs : s.isScalar = true) {a b : Args} (h : a.Alike κ b) :
    ExceptRel (Bound.Alike κ) (s.bind a) (s.bind b) := by
  have hd := List.forall₂_drop (s.params.map Prod.fst).length h.positional
  have filled := s.fillNamed_rel (zip_alike (s.params.map Prod.fst) h.positional)
    (.nil : Entries.Alike κ [] []) (List.forall_mem_nil _) h.named h.allowed
  have hs' : ∀ p ∈ s.params, p.2.all Value.isScalar = true := by
    simpa [isScalar, List.all_eq_true] using hs
  unfold Signature.bind
  dsimp only
  rw [forall₂_isEmpty hd]
  split
  · exact .error rfl
  · exact filled.bind fun _ _ hf => (finish_rel hf.1 hs').bind fun _ _ hv =>
      .ok ⟨hv, hd, hf.2.1, hf.2.2⟩

end Signature

namespace Correspondence
namespace Lawful

variable {C : Correspondence} {κ : Link}

theorem sim_bind {s : Signature} (hs : s.isScalar = true) {a b : Args} (h : a.Alike κ b) :
    C.Sim κ Bound.Alike (Run.lift (s.bind a)) (Run.lift (s.bind b)) :=
  Sim.lift (s.bind_rel hs h)

/-! ## Shapes -/

variable (L : C.Lawful)

include L

theorem sim_freezeAll {vs ws : List Value} (h : Values.Alike κ vs ws) :
    C.Same κ (vs.mapM Value.freeze) (ws.mapM Value.freeze) :=
  Sim.mapM_eq h fun hv => L.sim_freeze hv

theorem sim_construct (name : String) {vs ws : List Value} (h : Values.Alike κ vs ws)
    {es fs : List (String × Value)} (hn : Entries.Alike κ es fs) :
    C.Alike κ (Run.construct name vs es) (Run.construct name ws fs) := by
  refine (L.sim_freezeAll h).bindEq fun _ => ?_
  refine (Sim.mapM_eq (R := fun κ => EntryRel (Value.Alike κ)) hn.up.sorted fun he => ?_).bind
    fun he => ?_
  · obtain ⟨key, hv⟩ := he
    exact (L.sim_freeze hv).bindEq fun _ => .pure rfl
  · subst he
    exact L.sim_newShape _

end Lawful
end Correspondence
end Scad
