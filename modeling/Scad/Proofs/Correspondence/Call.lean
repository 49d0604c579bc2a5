import Scad.Proofs.Correspondence.Builtin

/-!
Calls respect every lawful correspondence, if the tasks they lead to do and the
built-in functions and modules that are called find what they depend on.
-/

namespace Scad

open Eval

theorem Entries.Alike.any_eq {κ : Link} {es fs : List (String × Value)} (h : Entries.Alike κ es fs)
    (test : String → Bool) : es.any (fun t => test t.1) = fs.any (fun t => test t.1) := by
  have hn := congrArg (List.any · test) h.names
  simpa only [List.any_map, Function.comp_def] using hn

namespace Correspondence
namespace Lawful

variable {C : Correspondence} (L : C.Lawful) {κ : Link} {v w : Value} {e f : FrameId}
  {p q : Perform} {a b : Args} {es fs : List (String × Value)} {m n : Params Value} {name : String}
  {l r : World}

/-! ## Parameters -/

theorem sim_bindPositional (names : List String) (he : Entries.Alike κ es fs) {vs ws : List Value}
    (hv : Values.Alike κ vs ws) :
    C.Sim κ Entries.Alike (bindPositional es names vs) (bindPositional fs names ws) := by
  induction names generalizing es fs vs ws with
  | nil =>
    cases hv with
    | nil => exact .pure he
    | cons => exact .fail rfl
  | cons name names ih =>
    cases hv with
    | nil => exact .pure he
    | cons hx hv => exact ih (he.put name hx) hv

theorem sim_bindMissing (P : C.Performs p q) (h : κ.same .frame e f) (names : List String)
    (he : Entries.Alike κ es fs) :
    C.Sim κ Entries.Alike (bindMissing p e es names) (bindMissing q f fs names) := by
  induction names generalizing κ es fs with
  | nil => exact .pure he
  | cons name names ih =>
    refine .ite (by rw [he.has_eq]) (fun _ => ih h he) fun _ => ?_
    refine .branch ?_ (.fail rfl)
    refine (Sim.orIfUnknown (P (.read h name)) (.fail rfl)).bind fun hv => ?_
    exact ih h.up (he.up.put name hv)

include L

theorem sim_setAll (h : κ.same .frame e f) (ho : κ.same .own e f) (he : Entries.Alike κ es fs) :
    C.Same κ (setAll e es) (setAll f fs) := by
  induction es generalizing κ fs with
  | nil =>
    cases he
    exact .pure rfl
  | cons x es ih =>
    cases he with
    | cons hx he =>
      obtain ⟨name, hv⟩ := hx
      refine (L.setValue h (.inl ho) hv).bind fun _ => ?_
      exact ih h.up ho.up (Entries.Alike.up he)

theorem sim_bindParams (P : C.Performs p q) (h : κ.same .frame e f) (ho : κ.same .own e f)
    (hp : m.Alike κ n) (ha : a.Given κ b) : C.Same κ (bindParams p e m a) (bindParams q f n b) := by
  cases hp with
  | @named required es fs he =>
    unfold bindParams
    dsimp only
    rw [show Table.names es = Table.names fs from Entries.Alike.names he]
    refine (sim_bindPositional _ (Entries.Alike.merge he ha.named) ha.positional).bind fun hb => ?_
    refine (sim_bindMissing P h.up _ hb).bind fun hb => ?_
    exact L.sim_setAll h.up ho.up hb
  | other hv => exact (L.sim_item hv (.int 1)).bind fun _ => .fail rfl

/-! ## Functions -/

theorem sim_callFunction (P : C.Performs p q) (h : κ.same .frame e f ∨ κ.same .origin e f)
    {s t : ScopeId} (hs : κ.same .place s t) (hp : m.Alike κ n) (hv : v.Alike κ w) (hfit : κ.Fit v)
    (ha : a.Given κ b) : C.Alike κ (callFunction p e s m v a) (callFunction q f t n w b) := by
  refine (L.newFrame hs h).bind fun hf => ?_
  refine (L.sim_bindParams P hf.1 hf.2.1 hp.up ha.up).bind fun _ => ?_
  exact P (.eval hf.1.up hv.up hfit.up)

theorem sim_callValue (P : C.Performs p q) (h : κ.same .frame e f) (hv : v.Alike κ w)
    (ha : a.Alike κ b) : C.Alike κ (callValue p e v a) (callValue q f w b) := by
  have other : C.Alike κ (Run.within e (callPlain p v a))
      (Run.within f (callPlain q w b)) :=
    L.within h <| L.sim_callPlain P hv.up ha.up
  cases hv with
  | function _ hs _ hp hb hf => exact L.sim_callFunction P (.inl h) hs hp hb hf ha.toGiven
  | host g =>
    refine .branch (L.sim_callHost P g (.some (.inl h)) ha) ?_
    exact L.within h <| L.sim_callHost P g .none ha.up
  | _ => exact other

section

variable (hw : C.agree κ l r) (P : C.Performs p q) (h : κ.same .frame e f)

include hw P h

theorem findCallee_outcome
    (name : String) : C.Outcome κ l (fun κ' c d => c.Alike κ' d ∧ ∀ g, c = .builtin g →
        l.seek (l.frameAt e).scope (Scope.findFunction? name) = some (.builtin g))
      (findCallee p e name l) (findCallee q f name r) := by
  have found := searchFrom_outcome name hw (L.funcs hw (L.frames hw h).place name)
  refine Outcome.orIfUnknown (found.weaken fun hc => ?_) ?_
  · exact ⟨hc.1.up, fun g hg => hg ▸ hc.2⟩
  · refine .orIfUnknown ((P (.read h.up name)).map fun hv => ?_) (.fail rfl)
    exact ⟨.value hv, nofun⟩

theorem applyFunction_outcome
    (hs : ∀ g, l.seek (l.frameAt e).scope (Scope.findFunction? name) = some (.builtin g) →
      C.ServesFunction g)
    (ha : a.Alike κ b) : C.Outcome κ l Value.Alike (applyFunction p e name a l)
      (applyFunction q f name b r) := by
  unfold applyFunction checkNames
  rw [ha.named.any_eq fun k => k == "self" || k == "name"]
  split
  · exact .throw hw (.plain rfl)
  rw [pure_bind, pure_bind]
  refine (L.findCallee_outcome hw P h name).bind fun hc => ?_
  obtain ⟨hc, hg⟩ := hc
  cases hc with
  | builtin g => exact L.sim_callBuiltin P h.up g (hs g (hg g rfl)) ha.up
  | deferred hp hb hf =>
    refine (L.sim_evalIn P (.inl h.up) hp hb hf).bind fun hv => ?_
    exact L.sim_callValue P h.up hv ha.up
  | value hv => exact L.sim_callValue P h.up hv ha.up

/-! ## Modules -/

theorem instantiateModule_outcome
    (hmod : κ.Handles .modCall)
    (hs : ∀ m, l.seek (l.frameAt e).scope (Scope.findModule? name) = some (.builtin m) →
      C.ServesModule κ e f m)
    (ha : a.Alike κ b) : C.Outcome κ l Value.Alike (instantiateModule p e name a l)
      (instantiateModule q f name b r) := by
  unfold instantiateModule checkNames
  rw [ha.named.any_eq fun k => k == "self" || k == "name"]
  split
  · exact .throw hw (.plain rfl)
  rw [pure_bind, pure_bind]
  -- The environment is only looked at, so the search still starts in these worlds.
  change C.Outcome κ l Value.Alike ((Run.lookupModule (l.frameAt e).scope name >>= _) l)
    ((Run.lookupModule (r.frameAt f).scope name >>= _) r)
  have found := searchFrom_outcome name hw (L.mods hw hmod (L.frames hw h).place name)
  refine found.bind @fun _ m _ _ hm => ?_
  obtain ⟨hm, hg⟩ := hm
  cases hm with
  | builtin m => exact L.sim_buildBuiltin P h.up m ((hs m hg).up) ha.up
  | module _ hp hb hc =>
    refine (L.newFrame hb.up (.inl h.up)).bind fun hf => ?_
    refine (L.sim_bindParams P hf.1 hf.2.1 hp.up ha.up.toGiven).bind fun _ => ?_
    exact P (.build hf.1.up ((hf.2.2 hc.up).up))
  | value hv => exact L.sim_callValue P h.up hv.up ha.up

end

end Lawful
end Correspondence
end Scad
