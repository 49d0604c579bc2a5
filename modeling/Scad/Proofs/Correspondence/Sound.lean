import Scad.Proofs.Correspondence.Laws
import Scad.Proofs.Environment.Fresh

/-!
Worlds in which everything that is referred to is there, and what two worlds have in common
if the second one comes after the first one and all that had to be undone in between is
undone: environments are entered as before and have their levels, the current environment
is the same, and nothing is being computed that was not before.
-/

namespace Scad

open Array

/-! ## Sound worlds -/

/-- An environment of a world that has so many environments and tables. -/
structure Frame.Sound (frames tables : Nat) (f : Frame) : Prop where
  caller : ∀ c ∈ f.caller, c < frames
  childFrame : ∀ c ∈ f.childFrame, c < frames
  token : ∀ t ∈ f.token, ∀ c ∈ t, c < frames
  table : f.table < tables
  entries : f.token = none → f.entries = 0

theorem Frame.Sound.mono {n m t u : Nat} {f : Frame} (h : f.Sound n t) (hn : n ≤ m) (ht : t ≤ u) :
    f.Sound m u where
  caller c hc := Nat.lt_of_lt_of_le (h.caller c hc) hn
  childFrame c hc := Nat.lt_of_lt_of_le (h.childFrame c hc) hn
  token t ht c hc := Nat.lt_of_lt_of_le (h.token t ht c hc) hn
  table := Nat.lt_of_lt_of_le h.table ht
  entries := h.entries

theorem Frame.sound_new {n t : Nat} {f : Frame} (hc : ∀ c ∈ f.caller, c < n) (ht : f.table < t)
    (hchild : f.childFrame = none) (htoken : f.token = none) (hn : f.entries = 0) :
    f.Sound n t where
  caller := hc
  childFrame c h := by
    rw [hchild] at h
    cases h
  token o h := by
    rw [htoken] at h
    cases h
  table := ht
  entries _ := hn

/-- The environment whose children a stream goes through. -/
def Stream.env? : Stream → Option FrameId
  | .waiting e | .walking e _ _ => some e
  | .busy | .ended => none

structure Slots.Sound (t : Slots) : Prop where
  named : t.named.names.Nodup
  keyed : ∀ e ∈ t.keyed, e.2 ≠ .busy

theorem Slots.sound_empty : ({} : Slots).Sound := ⟨.nil, by simp⟩

/-- All that a world refers to is there. -/
structure World.Sound (w : World) : Prop where
  frames : ∀ e < w.frames.size, (w.frameAt e).Sound w.frames.size w.tables.size
  streams : ∀ i, ∀ e ∈ (w.streams.getD i .ended).env?, e < w.frames.size
  tables : ∀ i, (w.tables.getD i {}).Sound
  current : ∀ c ∈ w.current, c < w.frames.size

/-- An environment that is entered as often as before, with the same level. -/
structure Frame.Restored (f g : Frame) : Prop where
  level : g.level = f.level
  token : g.token = f.token
  entries : g.entries = f.entries
  table : g.table = f.table

theorem Frame.Restored.refl (f : Frame) : f.Restored f := ⟨rfl, rfl, rfl, rfl⟩

theorem Frame.Restored.trans {f g h : Frame} (hf : f.Restored g) (hg : g.Restored h) :
    f.Restored h :=
  ⟨hg.level.trans hf.level, hg.token.trans hf.token, hg.entries.trans hf.entries,
    hg.table.trans hf.table⟩

theorem Frame.Rests.restored {F : Frame → Frame} (h : Frame.Rests F) (f : Frame) :
    f.Restored (F f) :=
  ⟨h.level f, h.token f, h.entries f, h.table f⟩

/-- Whatever has to be undone is undone: environments are entered as before and have their
levels, new ones are not entered, the current environment is the same, scopes have their levels,
and nothing is being computed that was not before. -/
structure World.Restored (w w' : World) : Prop where
  count : w.frames.size ≤ w'.frames.size
  tableCount : w.tables.size ≤ w'.tables.size
  frames : ∀ e < w.frames.size, (w.frameAt e).Restored (w'.frameAt e)
  fresh : ∀ e, w.frames.size ≤ e → (w'.frameAt e).token = none
  current : w'.current = w.current
  passes : w'.passes = w.passes
  busy : ∀ i name, (name, .busy) ∈ (w'.tables.getD i {}).named →
    (name, .busy) ∈ (w.tables.getD i {}).named

theorem modify_congr {α : Type} {xs : Array α} {i : Nat} {d : α} {f g : α → α}
    (h : f (xs.getD i d) = g (xs.getD i d)) : xs.modify i f = xs.modify i g := by
  refine ext_getElem? fun j => ?_
  rw [getElem?_modify, getElem?_modify]
  split
  · rename_i hij
    subst hij
    rw [getD_eq_getD_getElem?] at h
    cases hx : xs[i]? with
    | none => rfl
    | some x =>
      rw [hx] at h
      exact congrArg some h
  · rfl

theorem modify_undo {α : Type} {xs : Array α} {i : Nat} {d : α} {f g : α → α}
    (h : g (f (xs.getD i d)) = xs.getD i d) : (xs.modify i f).modify i g = xs := by
  calc (xs.modify i f).modify i g
    _ = xs.modify i (fun x => g (f x)) := by
      refine ext_getElem? fun j => ?_
      simp only [getElem?_modify]
      split
      · exact Option.map_map ..
      · rfl
    _ = xs.modify i id := modify_congr h
    _ = xs := by
      refine ext_getElem? fun j => ?_
      rw [getElem?_modify]
      split
      · exact congrFun Option.map_id _
      · rfl

namespace World

variable {w w' w'' : World} {tables : Array Slots} {F : Frame → Frame} {a : FrameId} {i : TableId}

theorem frameAt_of_size_le {e : FrameId} (h : w.frames.size ≤ e) : w.frameAt e = default := by
  unfold frameAt
  rw [getD_eq_getD_getElem?, getElem?_eq_none h]
  rfl

theorem Restored.of_eq (hf : w'.frames = w.frames) (ht : w'.tables = w.tables)
    (hc : w'.current = w.current) (hp : w'.passes = w.passes) : w.Restored w' where
  count := Nat.le_of_eq (congrArg size hf.symm)
  tableCount := Nat.le_of_eq (congrArg size ht.symm)
  frames e _ := by
    unfold frameAt
    rw [hf]
    exact .refl _
  fresh e he := by
    unfold frameAt
    rw [hf]
    exact congrArg Frame.token (frameAt_of_size_le he)
  current := hc
  passes := hp
  busy i name h := ht ▸ h

theorem Restored.refl (w : World) : w.Restored w := .of_eq rfl rfl rfl rfl

theorem Restored.trans (h : w.Restored w') (h' : w'.Restored w'') : w.Restored w'' where
  count := Nat.le_trans h.count h'.count
  tableCount := Nat.le_trans h.tableCount h'.tableCount
  frames e he := (h.frames e he).trans (h'.frames e (Nat.lt_of_lt_of_le he h.count))
  fresh e he := by
    rcases Nat.lt_or_ge e w'.frames.size with hlt | hge
    · exact (h'.frames e hlt).token.trans (h.fresh e he)
    · exact h'.fresh e hge
  current := h'.current.trans h.current
  passes := h'.passes.trans h.passes
  busy i name hb := h.busy i name (h'.busy i name hb)

theorem Sound.of_eq (hs : w.Sound) (hf : w'.frames = w.frames) (ht : w'.tables = w.tables)
    (hst : w'.streams = w.streams) (hc : w'.current = w.current) : w'.Sound where
  frames e he := by
    unfold frameAt
    rw [hf, ht]
    exact hs.frames e (hf ▸ he)
  streams i e he := by
    rw [hf]
    exact hs.streams i e (hst ▸ he)
  tables i := ht ▸ hs.tables i
  current c h := by
    rw [hf]
    exact hs.current c (hc ▸ h)

/-! ### Changes of environments -/

theorem frameAt_modify (w : World) (a e : FrameId) (F : Frame → Frame) :
    ({ w with frames := w.frames.modify a F } : World).frameAt e =
      if a = e ∧ e < w.frames.size then F (w.frameAt e) else w.frameAt e :=
  getD_modify w.frames a e F default

theorem frameAt_of_modify (h : w'.frames = w.frames.modify a F) (e : FrameId) :
    w'.frameAt e = if a = e ∧ e < w.frames.size then F (w.frameAt e) else w.frameAt e := by
  unfold frameAt
  rw [h, getD_modify]

theorem frameAt_push (w : World) (f : Frame) (e : Nat) :
    ({ w with frames := w.frames.push f, tables := tables } : World).frameAt e =
      if e = w.frames.size then f else w.frameAt e :=
  getD_push_eq w.frames f default e

theorem Sound.modifyFrame (hs : w.Sound)
    (hF : a < w.frames.size → (F (w.frameAt a)).Sound w.frames.size w.tables.size) :
    ({ w with frames := w.frames.modify a F } : World).Sound where
  frames e he := by
    replace he : e < w.frames.size := size_modify ▸ he
    rw [frameAt_modify]
    dsimp only
    rw [size_modify]
    split
    · rename_i h
      exact h.1 ▸ hF (h.1 ▸ h.2)
    · exact hs.frames e he
  streams i e he := by
    dsimp only
    rw [size_modify]
    exact hs.streams i e he
  tables := hs.tables
  current c h := by
    dsimp only
    rw [size_modify]
    exact hs.current c h

theorem Restored.modifyFrame (w : World) (hF : (w.frameAt a).Restored (F (w.frameAt a))) :
    w.Restored { w with frames := w.frames.modify a F } where
  count := Nat.le_of_eq size_modify.symm
  tableCount := Nat.le_refl _
  frames e he := by
    rw [frameAt_modify]
    split
    · rename_i h
      exact h.1 ▸ hF
    · exact .refl _
  fresh e he := by
    rw [frameAt_modify, if_neg fun h => Nat.not_lt_of_le he h.2, frameAt_of_size_le he]
    rfl
  current := rfl
  passes := rfl
  busy _ _ h := h

theorem Sound.pushFrame (hs : w.Sound) {f : Frame} (ht : w.tables.size ≤ tables.size)
    (hts : ∀ i, (tables.getD i {}).Sound) (hf : f.Sound w.frames.size tables.size) :
    ({ w with frames := w.frames.push f, tables := tables } : World).Sound where
  frames e he := by
    rw [frameAt_push]
    dsimp only at he ⊢
    rw [size_push] at he ⊢
    split
    · exact hf.mono (Nat.le_succ _) (Nat.le_refl _)
    · exact (hs.frames e (by omega)).mono (Nat.le_succ _) ht
  streams i e he := by
    dsimp only
    rw [size_push]
    exact Nat.lt_succ_of_lt (hs.streams i e he)
  tables := hts
  current c h := by
    dsimp only
    rw [size_push]
    exact Nat.lt_succ_of_lt (hs.current c h)

theorem Restored.pushFrame (w : World) {f : Frame} (ht : w.tables.size ≤ tables.size)
    (hf : f.token = none)
    (hb : ∀ i name, (name, .busy) ∈ (tables.getD i {}).named →
      (name, .busy) ∈ (w.tables.getD i {}).named) :
    w.Restored { w with frames := w.frames.push f, tables := tables } where
  count := by
    dsimp only
    rw [size_push]
    exact Nat.le_succ _
  tableCount := ht
  frames e he := by
    rw [frameAt_push, if_neg (Nat.ne_of_lt he)]
    exact .refl _
  fresh e he := by
    rw [frameAt_push]
    split
    · exact hf
    · exact congrArg Frame.token (frameAt_of_size_le he)
  current := rfl
  passes := rfl
  busy := hb

/-- A change of one environment, something else, and a change that undoes the first one. -/
theorem Restored.around {w w1 w2 w3 : World} {G : Frame → Frame} (ha : a < w.frames.size)
    (hr : w1.Restored w2) (h1 : w1.frames = w.frames.modify a F) (t1 : w1.tables = w.tables)
    (h3 : w3.frames = w2.frames.modify a G) (t3 : w3.tables = w2.tables)
    (hFG : (F (w.frameAt a)).Restored (w2.frameAt a) → (w.frameAt a).Restored (G (w2.frameAt a)))
    (hc : w3.current = w.current) (hp : w3.passes = w.passes) : w.Restored w3 := by
  have size1 : w1.frames.size = w.frames.size := by rw [h1, size_modify]
  have size3 : w3.frames.size = w2.frames.size := by rw [h3, size_modify]
  have hcount : w.frames.size ≤ w2.frames.size := size1 ▸ hr.count
  exact
    { count := size3 ▸ hcount
      tableCount := t3 ▸ t1 ▸ hr.tableCount
      frames := fun e he => by
        have hback := hr.frames e (size1 ▸ he)
        rw [frameAt_of_modify h1] at hback
        rw [frameAt_of_modify h3]
        by_cases hae : a = e
        · subst hae
          rw [if_pos ⟨rfl, he⟩] at hback
          rw [if_pos ⟨rfl, Nat.lt_of_lt_of_le he hcount⟩]
          exact hFG hback
        · rw [if_neg fun h => hae h.1] at hback
          rw [if_neg fun h => hae h.1]
          exact hback
      fresh := fun e he => by
        have hne : ¬(a = e ∧ e < w2.frames.size) := fun h => Nat.not_lt_of_le he (h.1 ▸ ha)
        rw [frameAt_of_modify h3, if_neg hne]
        exact hr.fresh e (size1 ▸ he)
      current := hc
      passes := hp
      busy := fun i name h => t1 ▸ hr.busy i name (t3 ▸ h) }

/-! ### Changes of tables -/

theorem Sound.modifyTable (hs : w.Sound) {f : Slots → Slots} (hf : (f (w.tables.getD i {})).Sound) :
    ({ w with tables := w.tables.modify i f } : World).Sound where
  frames e he := by
    dsimp only
    rw [size_modify]
    exact hs.frames e he
  streams := hs.streams
  tables j := by
    dsimp only
    rw [getD_modify]
    split
    · rename_i h
      exact h.1 ▸ hf
    · exact hs.tables j
  current := hs.current

theorem Restored.modifyTable (w : World) {f : Slots → Slots}
    (hf : ∀ name, (name, .busy) ∈ (f (w.tables.getD i {})).named →
      (name, .busy) ∈ (w.tables.getD i {}).named) :
    w.Restored { w with tables := w.tables.modify i f } where
  count := Nat.le_refl _
  tableCount := Nat.le_of_eq size_modify.symm
  frames _ _ := .refl _
  fresh e he := congrArg Frame.token (frameAt_of_size_le (w := w) he)
  current := rfl
  passes := rfl
  busy j name h := by
    dsimp only at h
    rw [getD_modify] at h
    split at h
    · rename_i hj
      exact hj.1 ▸ hf name (hj.1 ▸ h)
    · exact h

/-- A change of one table, something else, and a change that undoes the first one. -/
theorem Restored.aroundTable {w w2 : World} {f g : Slots → Slots} (hi : i < w.tables.size)
    (hr : ({ w with tables := w.tables.modify i f } : World).Restored w2)
    (hfg : ∀ name, (name, .busy) ∈ (g (w2.tables.getD i {})).named →
      ((name, .busy) ∈ (w2.tables.getD i {}).named →
        (name, .busy) ∈ (f (w.tables.getD i {})).named) →
          (name, .busy) ∈ (w.tables.getD i {}).named) :
    w.Restored { w2 with tables := w2.tables.modify i g } where
  count := hr.count
  tableCount := by
    have := hr.tableCount
    dsimp only at this ⊢
    rwa [size_modify] at this ⊢
  frames := hr.frames
  fresh := hr.fresh
  current := hr.current
  passes := hr.passes
  busy j name h := by
    have hback := hr.busy j name
    dsimp only at h hback
    rw [getD_modify] at h hback
    by_cases hij : i = j
    · subst hij
      rw [if_pos ⟨rfl, hi⟩] at hback
      split at h
      · exact hfg name h hback
      · rename_i hne
        refine absurd ⟨rfl, Nat.lt_of_lt_of_le hi ?_⟩ hne
        exact size_modify ▸ hr.tableCount
    · rw [if_neg fun h => hij h.1] at h hback
      exact hback h

end World

/-! ## A run apart from what was there before -/

/-- The environments and tables that belong to a run, all new ones among them, and the entries of
other tables that it may change as if they were its own. These are under names that begin with
`$`. -/
structure Base where
  own : FrameId → Prop
  ownTable : TableId → Prop
  frames : Nat
  tables : Nat
  later : ∀ {e}, frames ≤ e → own e
  laterTable : ∀ {i}, tables ≤ i → ownTable i
  free : TableId → String → Prop
  dynamic : ∀ {i name}, free i name → Eval.isDynamicName name = true

/-- A run to which everything belongs from given numbers on. -/
def Base.since (frames tables : Nat) : Base :=
  ⟨(frames ≤ ·), (tables ≤ ·), frames, tables, id, id, fun _ _ => False, False.elim⟩

def Base.all : Base := .since 0 0

def Base.Allows (B : Base) (i : TableId) (name : String) : Prop := B.ownTable i ∨ B.free i name

/-- The environments of a run have their children and their tables in it. -/
structure Frame.Apart (B : Base) (e : FrameId) (f : Frame) : Prop where
  children : B.own e → ∀ c ∈ f.childFrame, B.own c
  own : B.own e → B.ownTable f.table

def World.entry (w : World) (i : TableId) (name : String) : Option Slot :=
  (w.tables.getD i {}).named.find? name

/-- What a run does to tables that are not its own: entries stay, and there are new ones only
under names that begin with `$`. -/
structure World.Footprint (B : Base) (w w' : World) : Prop where
  kept : ∀ {i name s}, ¬B.Allows i name → w.entry i name = some s → w'.entry i name = some s
  plain : ∀ {i name}, ¬B.Allows i name → Eval.isDynamicName name = false →
    w'.entry i name = w.entry i name

namespace World

variable {B : Base} {w w' w'' : World}

/-- A sound world in which a run is apart from what was there before. -/
structure SoundFrom (B : Base) (w : World) : Prop extends w.Sound where
  count : B.frames ≤ w.frames.size
  tableCount : B.tables ≤ w.tables.size
  apart : ∀ e < w.frames.size, (w.frameAt e).Apart B e
  runs : ∀ i, ∀ e ∈ (w.streams.getD i .ended).env?, B.own e

theorem SoundFrom.lt_size (hs : w.SoundFrom B) {e : FrameId} (h : ¬B.own e) : e < w.frames.size :=
  Nat.lt_of_not_le fun hle => h (B.later (Nat.le_trans hs.count hle))

theorem Sound.from_all (hs : w.Sound) : w.SoundFrom .all where
  toSound := hs
  count := Nat.zero_le _
  tableCount := Nat.zero_le _
  apart _ _ := ⟨fun _ _ _ => Nat.zero_le _, fun _ => Nat.zero_le _⟩
  runs _ _ _ := Nat.zero_le _

section

variable (hs : w.SoundFrom B)

include hs

theorem SoundFrom.of_eq (hf : w'.frames = w.frames)
    (ht : w'.tables = w.tables) (hst : w'.streams = w.streams) (hc : w'.current = w.current) :
    w'.SoundFrom B where
  toSound := hs.toSound.of_eq hf ht hst hc
  count := hf ▸ hs.count
  tableCount := ht ▸ hs.tableCount
  apart e he := by
    unfold frameAt
    rw [hf]
    exact hs.apart e (hf ▸ he)
  runs i e he := hs.runs i e (hst ▸ he)

theorem SoundFrom.modifyFrame {a : FrameId} {F : Frame → Frame}
    (hF : a < w.frames.size → (F (w.frameAt a)).Sound w.frames.size w.tables.size)
    (hA : a < w.frames.size → (F (w.frameAt a)).Apart B a) :
    ({ w with frames := w.frames.modify a F } : World).SoundFrom B where
  toSound := hs.toSound.modifyFrame hF
  count := size_modify.symm ▸ hs.count
  tableCount := hs.tableCount
  apart e he := by
    replace he : e < w.frames.size := size_modify ▸ he
    rw [frameAt_modify]
    split
    · rename_i h
      exact h.1 ▸ hA (h.1 ▸ h.2)
    · exact hs.apart e he
  runs := hs.runs

theorem SoundFrom.pushFrame {f : Frame} {tables : Array Slots}
    (ht : w.tables.size ≤ tables.size) (hts : ∀ i, (tables.getD i {}).Sound)
    (hf : f.Sound w.frames.size tables.size) (hA : f.Apart B w.frames.size) :
    ({ w with frames := w.frames.push f, tables := tables } : World).SoundFrom B where
  toSound := hs.toSound.pushFrame ht hts hf
  count := by
    dsimp only
    rw [size_push]
    exact Nat.le_succ_of_le hs.count
  tableCount := Nat.le_trans hs.tableCount ht
  apart e he := by
    rw [frameAt_push]
    dsimp only at he
    rw [size_push] at he
    split
    · rename_i h
      exact h ▸ hA
    · exact hs.apart e (by omega)
  runs := hs.runs

theorem SoundFrom.modifyTable {i : TableId} {f : Slots → Slots}
    (hf : (f (w.tables.getD i {})).Sound) :
    ({ w with tables := w.tables.modify i f } : World).SoundFrom B where
  toSound := hs.toSound.modifyTable hf
  count := hs.count
  tableCount := size_modify.symm ▸ hs.tableCount
  apart := hs.apart
  runs := hs.runs

theorem SoundFrom.allows {a : FrameId} (ha : a < w.frames.size) (h : B.own a) (name : String) :
    B.Allows (w.frameAt a).table name :=
  .inl ((hs.apart a ha).own h)

end

theorem Footprint.of_entries
    (h : ∀ i name, ¬B.Allows i name → w'.entry i name = w.entry i name) : w.Footprint B w' where
  kept hn hv := (h _ _ hn).trans hv
  plain hn _ := h _ _ hn

theorem Footprint.of_eq (h : w'.tables = w.tables) : w.Footprint B w' :=
  .of_entries fun i name _ => by
    unfold entry
    rw [h]

theorem Footprint.trans (h : w.Footprint B w') (h' : w'.Footprint B w'') : w.Footprint B w'' where
  kept hn hv := h'.kept hn (h.kept hn hv)
  plain hn hd := (h'.plain hn hd).trans (h.plain hn hd)

theorem Footprint.modifyTable (w : World) {i : TableId} {f : Slots → Slots}
    (h : ∀ name, ¬B.Allows i name →
      (f (w.tables.getD i {})).named.find? name = (w.tables.getD i {}).named.find? name) :
    w.Footprint B { w with tables := w.tables.modify i f } := by
  refine .of_entries fun j name hn => ?_
  unfold entry
  dsimp only
  rw [getD_modify]
  split
  · rename_i hij
    rw [← hij.1]
    exact h name (hij.1 ▸ hn)
  · rfl

end World

namespace Table

variable {α : Type} {name key : String} {a b : α} {t : Table α}

theorem mem_names_put : key ∈ (put name a t).names ↔ key = name ∨ key ∈ t.names := by
  induction t with
  | nil => simp [put, names]
  | cons e t ih =>
    obtain ⟨k, c⟩ := e
    simp only [names] at ih ⊢
    by_cases h : k = name
    · simp [put, h]
    · simp [put, h, ih, or_left_comm]

theorem nodup_put (h : t.names.Nodup) : (put name a t).names.Nodup := by
  induction t with
  | nil => simp [put, names]
  | cons e t ih =>
    obtain ⟨k, c⟩ := e
    obtain ⟨hk, ht⟩ := List.nodup_cons.1 h
    unfold put
    split
    · exact List.nodup_cons.2 ⟨hk, ht⟩
    · rename_i hne
      refine List.nodup_cons.2 ⟨fun hm => ?_, ih ht⟩
      exact (mem_names_put.1 hm).elim hne hk

theorem find?_of_mem (hn : t.names.Nodup) (h : (key, b) ∈ t) : find? key t = some b := by
  induction t with
  | nil => cases h
  | cons e t ih =>
    obtain ⟨k, c⟩ := e
    obtain ⟨hk, ht⟩ := List.nodup_cons.1 hn
    rcases List.mem_cons.1 h with h | h
    · cases h
      exact if_pos rfl
    · have hm : key ∈ names t := List.mem_map_of_mem h
      exact (if_neg fun he : k = key => hk (he ▸ hm)).trans (ih ht h)

theorem mem_put_nodup (hn : t.names.Nodup) (h : (key, b) ∈ put name a t) :
    key = name ∧ b = a ∨ key ≠ name ∧ (key, b) ∈ t := by
  have hf := find?_of_mem (nodup_put hn) h
  by_cases hk : key = name
  · rw [hk, find?_put_self] at hf
    cases hf
    exact .inl ⟨hk, rfl⟩
  · rw [find?_put_ne hk] at hf
    exact .inr ⟨hk, mem_of_find? hf⟩

theorem remove_sublist (name : String) (t : Table α) : (remove name t).Sublist t := by
  induction t with
  | nil => exact .slnil
  | cons e t ih =>
    obtain ⟨k, c⟩ := e
    unfold remove
    split
    · exact .cons _ (.refl t)
    · exact .cons_cons _ ih

theorem find?_remove_ne (h : key ≠ name) (t : Table α) :
    find? key (remove name t) = find? key t := by
  induction t with
  | nil => rfl
  | cons e t ih =>
    obtain ⟨k, c⟩ := e
    by_cases hk : k = name
    · subst hk
      simp [remove, find?, Ne.symm h]
    · simp [remove, find?, hk, ih]

theorem nodup_remove (h : t.names.Nodup) : (remove name t).names.Nodup :=
  h.sublist ((remove_sublist name t).map Prod.fst)

theorem find?_remove_self (h : t.names.Nodup) : find? name (remove name t) = none := by
  induction t with
  | nil => rfl
  | cons e t ih =>
    obtain ⟨k, c⟩ := e
    obtain ⟨hk, ht⟩ := List.nodup_cons.1 h
    by_cases he : k = name
    · simp [remove, he, find?_eq_none.2 (he ▸ hk)]
    · simp [remove, find?, he, ih ht]

theorem mem_remove (hn : t.names.Nodup) (h : (key, b) ∈ remove name t) :
    key ≠ name ∧ (key, b) ∈ t := by
  refine ⟨?_, (remove_sublist name t).subset h⟩
  rintro rfl
  cases (find?_remove_self hn).symm.trans (find?_of_mem (nodup_remove hn) h)

end Table

/-! ## Entering an environment -/

/-- An environment is entered for the first time. -/
def World.entered (w : World) (a : FrameId) : World :=
  { w with
    frames := w.frames.modify a fun f => { f with token := some w.current }
    current := some a }

/-- Why an environment that is entered but not current cannot be entered again. -/
def World.refusal (w : World) : Fault :=
  if w.current.isSome then .recursiveCall else .noCurrentEnvironment

namespace Run

variable {w : World} {a : FrameId} {t : Option FrameId}

theorem enter_of_none (h : (w.frameAt a).token = none) : enter a w = .ok () (w.entered a) := by
  have hget : (get : Run World) w = .ok w w := rfl
  rw [enter, frame_bind, bind_of_ok hget, h]
  rfl

section

variable (h : (w.frameAt a).token = some t)

include h

theorem enter_of_current (hc : w.current = some a) : enter a w =
    .ok () { w with frames := w.frames.modify a fun f =>
      { f with entries := f.entries + 1 } } := by
  have hget : (get : Run World) w = .ok w w := rfl
  rw [enter, frame_bind, bind_of_ok hget, h]
  dsimp only
  conv_lhs => rw [hc]
  exact congrFun (if_pos rfl) w

theorem enter_refused (hc : w.current ≠ some a) : enter a w = .error w.refusal w := by
  have hget : (get : Run World) w = .ok w w := rfl
  rw [enter, frame_bind, bind_of_ok hget, h, World.refusal]
  cases hcur : w.current with
  | none => rfl
  | some c => exact congrFun (if_neg fun he => hc (hcur.trans (congrArg some he))) w

theorem enter_of_other (hc : w.current ≠ some a) :
    ∃ e, e.isPlain = true ∧ enter a w = .error e w := by
  refine ⟨w.refusal, ?_, enter_refused h hc⟩
  unfold World.refusal
  split <;> rfl

end

theorem depart_of_none (h : (w.frameAt a).token = none) (hn : (w.frameAt a).entries = 0) :
    depart a w = .ok () w := by
  rw [depart, frame_bind, if_pos hn, h]
  rfl

theorem depart_of_token (h : (w.frameAt a).token = some t) (hn : (w.frameAt a).entries = 0) :
    depart a w = .ok () { w with
      frames := w.frames.modify a fun f => { f with token := none }
      current := t } := by
  rw [depart, frame_bind, if_pos hn, h]
  rfl

theorem depart_of_entries (hn : (w.frameAt a).entries ≠ 0) :
    depart a w = .ok () { w with frames := w.frames.modify a fun f =>
      { f with entries := f.entries - 1 } } := by
  rw [depart, frame_bind, if_neg hn]
  rfl

end Run

/-! ## Tables while a name is being computed -/

/-- A name is marked while its value is being computed. -/
def World.computing (w : World) (a : FrameId) (name : String) : World :=
  { w with
    tables := w.tables.modify (w.frameAt a).table fun t =>
      { t with named := t.named.put name .busy } }

namespace Slots

variable {t : Slots}

theorem Sound.put (h : t.Sound) (name : String) (s : Slot) :
    ({ t with named := t.named.put name s } : Slots).Sound :=
  ⟨Table.nodup_put h.named, h.keyed⟩

theorem Sound.remove (h : t.Sound) (name : String) :
    ({ t with named := t.named.remove name } : Slots).Sound :=
  ⟨Table.nodup_remove h.named, h.keyed⟩

end Slots

end Scad
