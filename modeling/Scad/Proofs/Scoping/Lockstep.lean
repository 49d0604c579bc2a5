import Scad.Proofs.Correspondence.Growth
import Scad.Proofs.Scoping.Settled

/-!
Two runs that begin with a call from two different environments. They make the same cells
in the same order, so everything new has the same number in both, and what is alike is
equal. Of the environments that were there before, only the answers of the two callers to
names that begin with `$` matter, and these are settled and the same.
-/

namespace Scad

open Eval Scope

/-- Two callers, what both answer, and how many environments and tables there were when
they called. -/
structure Callers where
  left : FrameId
  right : FrameId
  answer : String → Option Value
  frames : Nat
  tables : Nat

namespace Callers

/-- Cells keep their numbers. Of the environments only the callers are linked, as origins. -/
def link (B : Callers) : Link where
  same k a b :=
    match k with
    | .origin => a = B.left ∧ b = B.right
    | .frame | .own | .current | .builder | .loop | .extruder | .table | .plain => False
    | _ => a = b
  tree _ := True
  rule _ := True
  word _ := True
  entry name := isDynamicName name = false
  fit _ := False
  loose := True
  misfit _ := True

variable {B : Callers} {e : FrameId} {s : Scope} {name : String} {v : Value}
  {w w' : World}

theorem link_exact (B : Callers) : B.link.Exact where
  same {k a b} h := by
    cases k with
    | list | node | ident | stream | scope | work | place | decl | cycle => exact Iff.rfl
    | _ => cases h
  tree _ := trivial
  rule _ := trivial
  word _ := trivial
  entry h := h
  loose := trivial
  misfit _ := trivial

/-! ## What was there before -/

/-- A caller with settled answers. -/
structure Stand (B : Callers) (e : FrameId) (w : World) : Prop where
  rooted : w.Rooted B.frames B.tables
  here : e < B.frames
  size : B.frames ≤ w.frames.size
  tables : B.tables ≤ w.tables.size
  answers : ∀ name, isDynamicName name = true → name ≠ "$children" →
    w.Answers name e (B.answer name)

/-- A change that leaves alone what was there before. -/
structure Spares (B : Callers) (w w' : World) : Prop where
  frames : ∀ e < B.frames, w'.frameAt e = w.frameAt e
  tables : ∀ i < B.tables, w'.tables.getD i {} = w.tables.getD i {}
  vars : ∀ name id, isDynamicName name = true →
    w'.seek id (findVar? name) = w.seek id (findVar? name)
  size : w.frames.size ≤ w'.frames.size
  tableSize : w.tables.size ≤ w'.tables.size

theorem Spares.answers (h : B.Spares w w') (hr : w.Rooted B.frames B.tables)
    (hd : isDynamicName name = true) {o : Option Value} (ha : w.Answers name e o)
    (he : e < B.frames) : w'.Answers name e o := by
  have hslots : ∀ e < B.frames, w'.slotsAt e = w.slotsAt e := by
    intro e he
    unfold World.slotsAt
    rw [h.frames e he]
    exact h.tables _ (hr.table e he)
  induction ha with
  | known hs => exact .known (hslots _ he ▸ hs)
  | asked hs hc _ hv ih =>
    exact .asked (hslots _ he ▸ hs) (h.frames _ he ▸ hc)
      (ih (Nat.lt_trans (hr.caller _ he _ hc) he)) hv
  | unknown hs hc hd' ih =>
    refine .unknown (hslots _ he ▸ hs) (fun c hcaller => ?_) ?_
    · rw [h.frames _ he] at hcaller
      exact ih c hcaller (Nat.lt_trans (hr.caller _ he c hcaller) he)
    · rw [h.frames _ he, h.vars name _ hd]
      exact hd'

theorem Stand.spared (hs : B.Stand e w) (h : B.Spares w w') : B.Stand e w' where
  rooted :=
    { table := fun e he => h.frames e he ▸ hs.rooted.table e he
      caller := fun e he => h.frames e he ▸ hs.rooted.caller e he
      keyed := fun i hi => h.tables i hi ▸ hs.rooted.keyed i hi }
  here := hs.here
  size := Nat.le_trans hs.size h.size
  tables := Nat.le_trans hs.tables h.tableSize
  answers name hd hn := h.answers hs.rooted hd (hs.answers name hd hn) hs.here

/-! ## What is new -/

structure ScopeSelf (κ : Link) (s : Scope) : Prop where
  vars : ∀ name d, s.vars.find? name = some d → d.Alike κ d
  funcs : ∀ name v, s.funcs.find? name = some (.value v) → v.Alike κ v
  mods : ∀ name m, s.mods.find? name = some m → m.Alike κ m
  work : Values.Alike κ s.work s.work

/-- The scopes are the same in both worlds, and both callers stand. -/
structure Holds (B : Callers) (κ : Link) (l r : World) : Prop where
  le : B.link ≤ κ
  scopes : l.scopes = r.scopes
  scopesSelf : ∀ s ∈ l.scopes, ScopeSelf κ s
  left : B.Stand B.left l
  right : B.Stand B.right r
  answersSelf : ∀ name v, B.answer name = some v → v.Alike κ v

theorem ScopeSelf.up {κ κ' : Link} [κ.Before κ'] (h : ScopeSelf κ s) : ScopeSelf κ' s where
  vars name d hd := (h.vars name d hd).up
  funcs name v hv := (h.funcs name v hv).up
  mods name m hm := (h.mods name m hm).up
  work := h.work.up

theorem ScopeSelf.put {κ : Link} (h : ScopeSelf κ s) (name : String) (hv : v.Alike κ v) :
    ScopeSelf κ { s with vars := s.vars.put name (.value v) } :=
  { h with
    vars := fun other d hd => by
      by_cases ho : other = name
      · subst ho
        rw [Table.find?_put_self] at hd
        cases hd
        exact .value hv
      · rw [Table.find?_put_ne ho] at hd
        exact h.vars other d hd }

theorem scopeSelf_default (κ : Link) : ScopeSelf κ default where
  vars _ _ h := by cases h
  funcs _ _ h := by cases h
  mods _ _ h := by cases h
  work := .nil

/-- Two runs go in step. Either may nest too deep alone, since the one caller may have more callers
than the other. -/
def ground (B : Callers) : Ground where
  link := B.link
  holds := B.Holds
  frames := B.frames
  tables := B.tables
  numbers := True
  opens := True
  leftStops := True
  rightStops := True

open Correspondence

section

variable {κ : Link} {l r : World}

/-! ## What is read -/

theorem Holds.scope (h : B.Holds κ l r) (id : ScopeId) :
    ScopeSelf κ (l.scopes.getD id default) := by
  rw [Array.getD_eq_getD_getElem?]
  cases hs : l.scopes[id]? with
  | none => exact scopeSelf_default κ
  | some s => exact h.scopesSelf s (Array.mem_of_getElem? hs)

theorem Holds.seek (h : B.Holds κ l r) {α : Type} {R : α → α → Prop}
    {ask : Scope → Option α} (ha : ∀ s, ScopeSelf κ s → ∀ a, ask s = some a → R a a)
    (id : ScopeId) : Option.Rel R (l.seek id ask) (r.seek id ask) := by
  have hsearch : ∀ ids, Option.Rel R (search l.scopes ask ids)
      (search l.scopes ask ids) := by
    intro ids
    induction ids with
    | nil => exact .none
    | cons i ids ih =>
      unfold search
      cases hi : ask (l.scopes.getD i default) with
      | none => exact ih
      | some a => exact .some (ha _ (h.scope i) a hi)
  unfold World.seek World.scopeAt
  rw [← h.scopes]
  exact hsearch _

theorem ScopeSelf.function (h : ScopeSelf κ s) {c : Callee}
    (hc : findFunction? name s = some c) : c.Alike κ c := by
  unfold findFunction? at hc
  split at hc
  · cases hc
    exact .builtin _
  · split at hc
    · cases hc
      cases h.vars _ _ ‹_› with
      | expr hs hb hf => exact .deferred hs hb hf
    · cases hc
    · cases hc
    · cases hc
      cases h.vars _ _ ‹_› with
      | value hv => exact .value hv
  · split at hc
    · cases hc
      cases h.vars _ _ ‹_› with
      | expr hs hb hf => exact .deferred hs hb hf
    · cases hc
    · cases hc
    · cases hc
      cases h.vars _ _ ‹_› with
      | value hv => exact .value hv
  · cases hc
    exact .value (h.funcs _ _ ‹_›)

theorem ScopeSelf.module (h : ScopeSelf κ s) {m : ModDef}
    (hm : findModule? name s = some m) : m.Alike κ m := by
  unfold findModule? at hm
  split at hm
  · cases hm
  · cases hm
  · cases hm
    exact h.mods _ _ ‹_›

/-! ## What is left alone -/

theorem Spares.of_spares (h : w.Spares B.frames B.tables w') : B.Spares w w' where
  frames := h.frameAt
  tables := h.tableAt
  vars name id _ := by rw [World.seek, World.scopeAt, h.scopes, World.seek, World.scopeAt]
  size := h.count
  tableSize := h.tableCount

theorem search_modify {α : Type} {ask : Scope → Option α} {f : Scope → Scope}
    (h : ∀ s, ask (f s) = ask s) (scopes : Array Scope) (i : Nat) (ids : List ScopeId) :
    search (scopes.modify i f) ask ids = search scopes ask ids := by
  have hask : ∀ j, ask ((scopes.modify i f).getD j default) = ask (scopes.getD j default) := by
    intro j
    rw [getD_modify]
    split
    · exact h _
    · rfl
  induction ids with
  | nil => rfl
  | cons j ids ih =>
    unfold search
    rw [hask j, ih]

theorem setLoopVariable?_self {scopes xs : Array Scope} {body : ScopeId} {v : Value}
    (hx : setLoopVariable? scopes body name v = some xs) : ∃ outer,
      xs = scopes.modify outer fun s => { s with vars := s.vars.put name (.value v) } := by
  unfold setLoopVariable? at hx
  split at hx
  · cases hx
  · split at hx <;> cases hx <;> exact ⟨_, rfl⟩

theorem Holds.put (h : B.Holds κ l r) (hn : isDynamicName name = false) (hv : v.Alike κ v)
    (outer : ScopeId) : B.Holds κ
      { l with scopes := l.scopes.modify outer fun s =>
        { s with vars := s.vars.put name (.value v) } }
      { r with scopes := l.scopes.modify outer fun s =>
        { s with vars := s.vars.put name (.value v) } } := by
  have spares (w : World) (hs : w.scopes = l.scopes) : B.Spares w { w with
      scopes := l.scopes.modify outer fun s => { s with vars := s.vars.put name (.value v) } } :=
    { frames := fun _ _ => rfl
      tables := fun _ _ => rfl
      vars := fun other id ho => by
        have hne : other ≠ name := by
          rintro rfl
          rw [hn] at ho
          cases ho
        have hask (s : Scope) : findVar? other
            { s with vars := s.vars.put name (.value v) } = findVar? other s :=
          Table.find?_put_ne hne _ _
        simp only [World.seek, World.scopeAt, search_modify hask, getD_modify, hs]
        split <;> rfl
      size := Nat.le_refl _
      tableSize := Nat.le_refl _ }
  refine { h with
    scopes := rfl
    scopesSelf := fun s hs => ?_
    left := h.left.spared (spares l rfl)
    right := h.right.spared (spares r h.scopes.symm) }
  obtain ⟨i, hi⟩ := Array.mem_iff_getElem?.1 hs
  rw [Array.getElem?_modify] at hi
  split at hi
  · obtain ⟨s0, hs0, rfl⟩ := Option.map_eq_some_iff.1 hi
    exact (h.scopesSelf s0 (Array.mem_of_getElem? hs0)).put name hv
  · exact h.scopesSelf s (Array.mem_of_getElem? hi)

end

/-! ## All laws -/

theorem lawful (B : Callers) : B.ground.Lawful where
  toLawful := B.link_exact.lawful fun _ h => h
  unique := oneToOne_eq
  opens_work _ h := h
  opens_cycle _ h := h
  opens_of_tree _ _ _ := trivial
  opens_of_rule _ _ _ := trivial
  exactly _ h := ⟨B.link_exact, h.le⟩
  up h := { h with
    le := h.le.trans Link.Before.le
    scopesSelf := fun s hs => (h.scopesSelf s hs).up
    answersSelf := fun name v hv => (h.answersSelf name v hv).up }
  spared h hl hr := { h with
    scopes := hl.scopes.trans (h.scopes.trans hr.scopes.symm)
    scopesSelf := hl.scopes ▸ h.scopesSelf
    left := h.left.spared (.of_spares hl)
    right := h.right.spared (.of_spares hr) }
  sizes h := ⟨⟨h.left.size, h.right.size⟩, h.left.tables, h.right.tables⟩
  fit_work h _ _ := .loose (h.le.loose trivial)
  kinds {κ l r a b} h hab := by
    obtain rfl : a = b := hab
    rw [World.scopeAt, World.scopeAt, h.scopes]
  works {κ l r a b} h hab := by
    obtain rfl : a = b := hab
    rw [World.scopeAt, World.scopeAt, ← h.scopes]
    exact (h.scope a).work
  branches {κ l r a b} h _ hab := by
    obtain rfl : a = b := hab
    rw [World.scopeAt, World.scopeAt, ← h.scopes]
    exact option_rel_self fun c _ => ⟨h.le.same .scope _ _ rfl,
      option_rel_self fun _ _ => h.le.same .scope _ _ rfl⟩
  vars {κ l r a b} h hab name := by
    obtain rfl : a = b := hab
    exact h.seek (fun s hs d hd => hs.vars name d hd) a
  funcs {κ l r a b} h hab name := by
    obtain rfl : a = b := hab
    exact h.seek (fun s hs c hc => hs.function hc) a
  mods {κ l r a b} h _ hab name := by
    obtain rfl : a = b := hab
    exact h.seek (fun s hs m hm => hs.module hm) a
  cycles {κ l r a b name v w} h hab hn hv E := by
    obtain rfl : a = b := hab
    obtain rfl := hv.eq (E trivial)
    rw [← h.scopes]
    refine option_rel_self fun xs hx => ?_
    obtain ⟨outer, rfl⟩ := setLoopVariable?_self hx
    exact h.put hn hv outer

theorem Stand.noted (hs : B.Stand e w) (h : w.Notes B.tables name w') (hv : B.answer name = some v)
    (hknown : (w'.slotsAt e).named.find? name = some (.known v)) : B.Stand e w' where
  rooted := h.rooted hs.rooted
  here := hs.here
  size := by
    rw [h.rest]
    exact hs.size
  tables := h.size ▸ hs.tables
  answers other hd hn := by
    by_cases ho : other = name
    · subst ho
      rw [hv]
      exact .known hknown
    · exact h.answers ho (hs.answers other hd hn)

theorem noted {D : Pairs} {κ : Link} {l r l' r' : World} (hw : B.ground.Agrees D κ l r)
    (hv : B.answer name = some v) (hl : l.Notes B.tables name l') (hr : r.Notes B.tables name r')
    (hleft : (l'.slotsAt B.left).named.find? name = some (.known v))
    (hright : (r'.slotsAt B.right).named.find? name = some (.known v)) :
    B.ground.Agrees D κ l' r' := by
  have tables : Cells (D .table) (Slots.Alike κ) l'.tables r'.tables := by
    intro a b hab
    obtain ⟨x, y, hx, hy, hxy⟩ := hw.tables a b hab
    obtain ⟨ha, hb⟩ := hw.newTables a b hab
    exact ⟨x, y, (hl.above a ha).trans hx, (hr.above b hb).trans hy, hxy⟩
  have hold := hw.holds B.lawful
  have scopes : l'.scopes = r'.scopes := by
    rw [hl.rest, hr.rest]
    exact hold.scopes
  have scopesSelf : ∀ s ∈ l'.scopes, ScopeSelf κ s := by
    rw [hl.rest]
    exact hold.scopesSelf
  have ground : B.Holds κ l' r' := { hold with
    scopes := scopes
    scopesSelf := scopesSelf
    left := hold.left.noted hl hv hleft
    right := hold.right.noted hr hv hright }
  rw [hl.rest, hr.rest] at ground ⊢
  exact { hw with
    tables := tables
    ground := B.lawful.spared ground (.to_core _) (.to_core _) }

/-- The two callers answer alike, or one of them has too many callers itself. -/
theorem reads (B : Callers) (n m : Nat) :
    B.ground.correspondence.Reads (performWith n) (performWith m) where
  name := by
    intro κ e f name h hn hd l r hw
    have hagree := hw
    obtain ⟨D, rfl, hw⟩ := hw
    obtain ⟨rfl, rfl⟩ : e = B.left ∧ f = B.right := h
    have hold := hw.holds B.lawful
    have hd : isDynamicName name = true := by
      rcases hd with hd | ⟨hf, _⟩
      · exact hd
      · exact absurd hold.left.here (Nat.not_lt_of_le (hw.newFrames _ _ hf).1)
    have hleft := readVariable_answers hold.left.rooted hold.left.tables hd hn
      (hold.left.answers name hd hn) hold.left.here n
    have hright := readVariable_answers hold.right.rooted hold.right.tables hd hn
      (hold.right.answers name hd hn) hold.right.here m
    generalize readVariable (performWith n) B.left name l = x at hleft ⊢
    generalize readVariable (performWith m) B.right name r = y at hright ⊢
    cases ho : B.answer name with
    | none =>
      rw [ho] at hleft hright
      cases hleft with
      | deep _ w => exact .left trivial
      | unknown =>
        cases hright with
        | deep _ w => exact .right trivial
        | unknown => exact .error le_rfl trivial hagree (.plain rfl)
    | some v =>
      rw [ho] at hleft hright
      cases hleft with
      | deep _ w => exact .left trivial
      | value hl hkl =>
        cases hright with
        | deep _ w => exact .right trivial
        | value hr hkr =>
          exact .ok le_rfl trivial (noted hw ho hl hr hkl hkr).agree
            (hold.answersSelf name v ho)
  key := by
    intro κ e f v v' h hv hk l r hw
    have hagree := hw
    obtain ⟨D, rfl, hw⟩ := hw
    obtain ⟨rfl, rfl⟩ : e = B.left ∧ f = B.right := h
    obtain rfl := hv.eq (hw.exact B.lawful trivial)
    have hold := hw.holds B.lawful
    have hk : v.isKey = true ∧ v ≠ .str "$children" := by
      rcases hk with hk | hf
      · exact hk
      · exact absurd hold.left.here (Nat.not_lt_of_le (hw.newFrames _ _ hf).1)
    obtain ⟨fault, hfault⟩ := readKey_rooted hk.1 hk.2
    rcases hfault hold.left.rooted n hold.left.here with ⟨w, hl⟩ | hl
    · rw [hl]
      exact .left trivial
    · rcases hfault hold.right.rooted m hold.right.here with ⟨w, hr⟩ | hr
      · rw [hr]
        exact .right trivial
      · rw [hl, hr]
        exact .error le_rfl trivial hagree (.misfit trivial)

/-- What two callers with the same answers have done goes the same way. -/
theorem performs (B : Callers) (n m : Nat) :
    B.ground.correspondence.Performs (performWith n) (performWith m) := by
  have h := B.lawful.correspondence.performs_watched
    (Ground.isOpen trivial (fun _ => trivial) trivial).watches
    (fun n m _ => by
      rw [watched_true, watched_true]
      exact B.reads n m) n m (fun _ => trivial) fun _ => trivial
  rwa [watched_true, watched_true] at h

end Callers
end Scad
