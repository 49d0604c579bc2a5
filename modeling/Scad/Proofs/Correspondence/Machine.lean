import Scad.Proofs.Correspondence.Expression

/-!
The evaluator as a whole respects every lawful correspondence: what one step does
corresponds if the tasks that it leads to do, and so, by induction on how deep tasks
may nest, whole runs do.

A watch stops a run before a task that it does not let pass, as if the task nested too
deep. A correspondence that does not cover every built-in function and module is one
between watched runs.
-/

namespace Scad

namespace Eval

/-- A step under a watch. -/
def watchedStep (watch : World → Task → Bool) (perform : Perform) (task : Task) : Run Value := do
  if watch (← get) task then step perform task else throw .tooDeep

/-- Carry out a task under a watch, with at most `depth` tasks nested in each other. -/
def watched (watch : World → Task → Bool) : (depth : Nat) → Perform
  | 0, _ => throw .tooDeep
  | depth + 1, task => watchedStep watch (watched watch depth) task

/-- A watch that lets everything pass does not change a run. -/
theorem watched_true (depth : Nat) : watched (fun _ _ => true) depth = performWith depth := by
  induction depth with
  | zero => rfl
  | succ depth ih =>
    funext task
    simp only [watched, performWith, watchedStep, if_true, ih]
    rfl

end Eval

open Eval

namespace Correspondence

/-- Reading corresponds also where only what is asked from below does. -/
structure Reads (C : Correspondence) (p q : Perform) : Prop where
  name : ∀ {κ e f name}, κ.same .origin e f → name ≠ "$children" →
    isDynamicName name = true ∨ κ.same .frame e f ∧ ¬κ.same .plain e f →
    C.Alike κ (readVariable p e name) (readVariable q f name)
  key : ∀ {κ e f v w}, κ.same .origin e f → v.Alike κ w →
    (v.isKey = true ∧ v ≠ .str "$children") ∨ κ.same .frame e f →
    C.Alike κ (readKey p e v) (readKey q f w)

/-- What is built in and called by a task finds what it depends on. -/
def Serves (C : Correspondence) (κ : Link) (w : World) : Task → Task → Prop
  | .apply e name _, _ => ∀ g,
    w.seek (w.frameAt e).scope (Scope.findFunction? name) = some (.builtin g) → C.ServesFunction g
  | .instantiate e name _, .instantiate f _ _ => ∀ m,
    w.seek (w.frameAt e).scope (Scope.findModule? name) = some (.builtin m) → C.ServesModule κ e f m
  | _, _ => True

theorem Open.serves {C : Correspondence} (O : C.Open) {κ : Link} {l r : World} {t u : Task}
    (hw : C.agree κ l r) (ht : t.Alike κ u) : C.Serves κ l t u := by
  cases ht with
  | apply h _ _ =>
    intro g _
    cases g with
    | env _ => exact O
    | _ => trivial
  | instantiate h _ _ _ _ =>
    intro m _
    cases m with
    | env _ => exact O
    | «for» => exact O.frame hw (by decide) h
    | linearExtrude => exact ⟨O.frame hw (by decide) h, O.loose hw⟩
    | _ => trivial
  | _ => trivial

/-- Two watches that may stop a run alone only where that is allowed. -/
structure Watches (C : Correspondence) (g g' : World → Task → Bool) : Prop where
  left : ∀ {κ l r t u}, C.agree κ l r → t.Alike κ u → g l t = false → g' r u = true → C.leftStops
  right : ∀ {κ l r t u}, C.agree κ l r → t.Alike κ u → g l t = true → g' r u = false → C.rightStops
  serves : ∀ {κ l r t u}, C.agree κ l r → t.Alike κ u → g l t = true → g' r u = true →
    C.Serves κ l t u

theorem Open.watches {C : Correspondence} (O : C.Open) :
    C.Watches (fun _ _ => true) (fun _ _ => true) where
  left _ _ h := by cases h
  right _ _ _ h := by cases h
  serves hw ht _ _ := O.serves hw ht

namespace Lawful

variable {C : Correspondence} (L : C.Lawful) {κ : Link} {p q : Perform} {l r : World} {t u : Task}
  {g g' : World → Task → Bool}

include L

theorem step_outcome (P : C.Performs p q) (R : C.Reads p q) (hw : C.agree κ l r)
    (ht : t.Alike κ u) (hs : C.Serves κ l t u) :
    C.Outcome κ l Value.Alike (step p t l) (step q u r) := by
  cases ht with
  | eval h hv hf => exact L.sim_evalNode P h hv hf l r hw
  | evalCall h hc hl => exact L.sim_evalStatement P h hc hl l r hw
  | @read e f h name =>
    by_cases hk : κ.Knows e f name
    · exact L.sim_readVariable P h hk l r hw
    · rcases L.own_or_origin hw h with ho | ho
      · exact absurd (.inl ho) hk
      · by_cases hc : name = "$children"
        · subst hc
          exact L.sim_childCount h l r hw
        refine R.name ho hc ?_ l r hw
        cases hd : isDynamicName name with
        | true => exact .inl rfl
        | false => exact .inr ⟨h, fun hp => hk (.inr ⟨hp, hd⟩)⟩
  | readOrigin h hd hc => exact R.name h hc (.inl hd) l r hw
  | readKey h hv =>
    rcases L.own_or_origin hw h with ho | ho
    · exact L.sim_readKey P (L.asked h ho) hv l r hw
    · exact R.key ho hv (.inr h) l r hw
  | readKeyOrigin h hv hk hc => exact R.key h hv (.inl ⟨hk, hc⟩) l r hw
  | apply h _ ha => exact L.applyFunction_outcome hw P h hs ha
  | call h hv ha => exact L.sim_callValue P h hv ha l r hw
  | instantiate h hm _ _ ha => exact L.instantiateModule_outcome hw P h hm hs ha
  | build h hb => exact L.sim_build P h hb l r hw
  | buildOne h hv => exact L.sim_buildItem P h hv l r hw

theorem performs_watchedStep (W : C.Watches g g') (P : C.Performs p q) (R : C.Reads p q) :
    C.Performs (watchedStep g p) (watchedStep g' q) := by
  intro κ t u ht l r hw
  change C.Outcome κ l Value.Alike ((if g l t then step p t else throw .tooDeep : Run Value) l)
    ((if g' r u then step q u else throw .tooDeep : Run Value) r)
  cases hl : g l t with
  | true =>
    cases hr : g' r u with
    | true => exact L.step_outcome P R hw ht (W.serves hw ht hl hr)
    | false => exact .right (W.right hw ht hl hr)
  | false =>
    cases hr : g' r u with
    | true => exact .left (W.left hw ht hl hr)
    | false => exact .throw hw (.plain rfl)

/-- Whole runs correspond. The run that may nest less deep may give up first. -/
theorem performs_watched (W : C.Watches g g') (R : ∀ n m, C.Performs (watched g n) (watched g' m) →
      C.Reads (watched g n) (watched g' m)) (n m : Nat) (hl : n < m → C.leftStops)
    (hr : m < n → C.rightStops) : C.Performs (watched g n) (watched g' m) := by
  induction n generalizing m with
  | zero =>
    intro κ t u _
    cases m with
    | zero => exact .fail rfl
    | succ m => exact fun _ _ _ => .left (hl (Nat.zero_lt_succ m))
  | succ n ih =>
    cases m with
    | zero => exact fun κ t u _ _ _ _ => .right (hr (Nat.zero_lt_succ n))
    | succ m =>
      have P := ih m (fun h => hl (Nat.succ_lt_succ h)) fun h => hr (Nat.succ_lt_succ h)
      exact L.performs_watchedStep W P (R n m P)

end Lawful
end Correspondence
end Scad
