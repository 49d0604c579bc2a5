import Scad.Proofs.Scoping.Parameter
import Scad.Proofs.Scoping.Resolution

/-!
What is left in the table of an environment when a name has been read there, whether the read
ended well or not. Whatever runs in between has environments of its own, and all that it can
add to the table are names that begin with `$`.
-/

namespace Scad

/-- From one world to a later one an environment keeps its entries, and gets new ones under
allowed names only. -/
structure World.EntersOnly (w : World) (allowed : String → Prop) (e : FrameId) (w' : World) :
    Prop where
  kept : ∀ {name s}, (w.slotsAt e).named.find? name = some s →
    (w'.slotsAt e).named.find? name = some s
  new : ∀ {name}, (w.slotsAt e).named.find? name = none → ¬allowed name →
    (w'.slotsAt e).named.find? name = none

namespace World

variable {w w1 w' : World} {allowed : String → Prop} {e : FrameId} {name other : String}

theorem EntersOnly.refl (w : World) : w.EntersOnly allowed e w := ⟨id, fun h _ => h⟩

theorem entersOnly_of_footprint {B : Base} (hB : ∀ name, ¬B.Allows (w.frameAt e).table name)
    (he : (w'.frameAt e).table = (w.frameAt e).table) (hf : w.Footprint B w') :
    w.EntersOnly (Eval.isDynamicName · = true) e w' where
  kept h := by
    unfold slotsAt
    rw [he]
    exact hf.kept (hB _) h
  new h hn := by
    unfold slotsAt
    rw [he]
    exact (hf.plain (hB _) (Bool.eq_false_iff.2 hn)).trans h

theorem slotsAt_modify_other {f : Slots → Slots}
    (hf : ∀ t : Slots, (f t).named.find? other = t.named.find? other) (i : TableId) :
    ((({ w with tables := w.tables.modify i f } : World).slotsAt e).named).find? other =
      (w.slotsAt e).named.find? other := by
  simp only [slotsAt, frameAt, getD_modify]
  split
  · exact hf _
  · rfl

theorem withSlot_other (ho : other ≠ name) (s : Slot) :
    ((w.withSlot e name s).slotsAt e).named.find? other = (w.slotsAt e).named.find? other :=
  slotsAt_modify_other (fun _ => Table.find?_put_ne ho _ _) _

end World

namespace Eval

variable {w w' : World} {name : String} {e : FrameId} {n : Nat}

/-- How a read of a name may end: its environment is as it was, but for names that begin with
`$` and, if the read ended well, the name itself. A plain name that could not be read is not
bound, unless it was before. -/
structure Bounded (w : World) (e : FrameId) (name : String)
    (x : EStateM.Result Fault World Value) : Prop where
  ok : ∀ {v w'}, x = .ok v w' →
    w.EntersOnly (fun other => isDynamicName other = true ∨ other = name) e w'
  error : ∀ {fault w'}, x = .error fault w' →
    w.EntersOnly (fun other => isDynamicName other = true) e w' ∧
      (isDynamicName name = false → (w.slotsAt e).named.find? name = none →
        (w'.slotsAt e).named.find? name = none)

theorem Bounded.unchanged {x : EStateM.Result Fault World Value}
    (h : (∃ v, x = .ok v w) ∨ ∃ fault, x = .error fault w) : Bounded w e name x := by
  rcases h with ⟨v, rfl⟩ | ⟨fault, rfl⟩ <;> refine ⟨fun hx => ?_, fun hx => ?_⟩ <;> cases hx
  · exact .refl w
  · exact ⟨.refl w, fun _ h => h⟩

section

variable (hw : w.Sound) (hc : w.Calm) (he : e < w.frames.size)

include hw hc he

theorem define_leaves (d : VarDef) (h : (define (performWith n) e d).EndsIn w w') :
    w'.Sound ∧ w.Restored w' ∧ w.Footprint w.base w' := by
  have hs := hw.from_base hc
  have horigin : (Link.mirror w.base.own w.frames.size).same .origin e e :=
    ⟨rfl, Nat.not_le_of_lt he⟩
  have ho := Mirror.lawful.sim_define_of_within (Mirror.performs n) (.inr horigin)
    (Mirror.asked_origin horigin).within (Mirror.var_self d) w w ⟨rfl, rfl, hs⟩
  obtain ⟨hs', hk⟩ := Mirror.keeps_of_outcome ho h
  exact ⟨hs'.toSound, hk⟩

/-- What is left of a definition once the mark of its name is replaced or taken away. -/
theorem note_enters_only {w1 : World} {f : Slots → Slots}
    (hs : (w.slotsAt e).named.find? name = none) {d : VarDef}
    (h : (define (performWith n) e d).EndsIn (w.withSlot e name .busy) w1)
    (hf : ∀ (t : Slots) other, other ≠ name → (f t).named.find? other = t.named.find? other) :
    w.EntersOnly (fun other => isDynamicName other = true ∨ other = name) e
      { w1 with tables := w1.tables.modify (w1.frameAt e).table f } := by
  have hmarked : (w.withSlot e name .busy).Sound := hw.modifyTable ((hw.tables _).put name .busy)
  obtain ⟨-, hrest, hfoot⟩ := define_leaves hmarked hc he d h
  have only := World.entersOnly_of_footprint (w := w.withSlot e name .busy)
    (World.not_allows_base (hmarked.frames e he).table) (hrest.frames e he).table hfoot
  constructor
  · intro other s hbefore
    have ho : other ≠ name := by
      rintro rfl
      cases hs.symm.trans hbefore
    rw [World.slotsAt_modify_other (fun t => hf t other ho)]
    exact only.kept ((World.withSlot_other ho _).trans hbefore)
  · intro other h hn
    have ho : other ≠ name := fun ho => hn (.inr ho)
    rw [World.slotsAt_modify_other (fun t => hf t other ho)]
    exact only.new ((World.withSlot_other ho _).trans h) fun hd => hn (.inl hd)

theorem slotsAt_removed {w1 : World}
    {d : VarDef} (h : (define (performWith n) e d).EndsIn (w.withSlot e name .busy) w1) :
    (({ w1 with tables := w1.tables.modify (w1.frameAt e).table fun t =>
      { t with named := t.named.remove name } } : World).slotsAt e).named.find? name = none := by
  have hmarked : (w.withSlot e name .busy).Sound := hw.modifyTable ((hw.tables _).put name .busy)
  obtain ⟨hs, hrest, -⟩ := define_leaves hmarked hc he d h
  have hlt := (hs.frames e (Nat.lt_of_lt_of_le he hrest.count)).table
  unfold World.slotsAt
  rw [show ∀ t : Array Slots, ({ w1 with tables := t } : World).frameAt e = w1.frameAt e from
    fun _ => rfl, getD_modify, if_pos ⟨rfl, hlt⟩]
  exact Table.find?_remove_self (hs.tables _).named

theorem read_plain_enters_only
    (hd : isDynamicName name = false) (hs : (w.slotsAt e).named.find? name = none) :
    Bounded w e name (readVariable (performWith n) e name w) := by
  rw [readVariable_of_none (ne_children hd) hs]
  by_cases hne : name = ""
  · subst hne
    exact .unchanged (.inr ⟨_, rfl⟩)
  have hfind := findDefinition_plain hd hne (performWith n) e w
  have hlookup : Run.lookupVar (w.frameAt e).scope name w =
    Run.demand (.unknownName name) (w.seek (w.frameAt e).scope (Scope.findVar? name)) w := rfl
  rw [hlookup] at hfind
  cases hseek : w.seek (w.frameAt e).scope (Scope.findVar? name) with
  | none =>
    rw [hseek] at hfind
    rw [Run.bind_of_error hfind]
    exact .unchanged (.inr ⟨_, rfl⟩)
  | some d =>
    rw [hseek] at hfind
    rw [Run.bind_of_ok hfind]
    cases hdef : define (performWith n) e d (w.withSlot e name .busy) with
    | ok v w1 =>
      rw [note_of_ok hdef]
      refine ⟨fun h => ?_, fun h => ?_⟩ <;> cases h
      exact note_enters_only hw hc he hs (.inl ⟨v, hdef⟩) fun t other ho =>
        Table.find?_put_ne ho _ _
    | error fault w1 =>
      rw [note_of_error hdef rfl]
      refine ⟨fun h => ?_, fun h => ?_⟩ <;> cases h
      have only := note_enters_only (f := fun t => { t with named := t.named.remove name }) hw hc he
        hs (.inr ⟨fault, hdef⟩) fun t other ho => Table.find?_remove_ne ho t.named
      have hgone := slotsAt_removed hw hc he (.inr ⟨fault, hdef⟩)
      refine ⟨⟨only.kept, fun {other} h hn => ?_⟩, fun _ _ => hgone⟩
      by_cases ho : other = name
      · exact ho ▸ hgone
      · exact only.new h fun hor => hor.elim hn ho

end

/-- Reading a name leaves its environment as it was, but for names that begin with `$` and,
if the read ended well, the name itself. -/
theorem read_enters_only (hw : w.Sound) (hcalm : w.Calm) (he : e < w.frames.size) (name : String)
    (n : Nat) : Bounded w e name (readVariable (performWith n) e name w) := by
  by_cases hn : name = "$children"
  · rw [readVariable, if_pos hn]
    exact .unchanged (Mirror.childCount_outcome e w)
  cases hd : isDynamicName name with
  | true =>
    have ho := Mirror.readVariable_origin (Mirror.performs n) (hw.from_base hcalm)
      (Nat.not_le_of_lt he) hn hd
    have only : ∀ {w'}, (readVariable (performWith n) e name).EndsIn w w' →
        w.EntersOnly (fun other => isDynamicName other = true) e w' := fun h => by
      obtain ⟨-, hrest, hfoot⟩ := Mirror.keeps_of_outcome ho h
      exact World.entersOnly_of_footprint (World.not_allows_base (hw.frames e he).table)
        (hrest.frames e he).table hfoot
    refine ⟨fun h => ?_, fun h => ⟨only (.inr ⟨_, h⟩), fun h => by cases hd.symm.trans h⟩⟩
    have only := only (.inl ⟨_, h⟩)
    exact ⟨only.kept, fun h hn => only.new h fun hd => hn (.inl hd)⟩
  | false =>
    cases hs : (w.slotsAt e).named.find? name with
    | none => exact read_plain_enters_only hw hcalm he hd hs
    | some s =>
      have hslot : Run.slot e name w = .ok (some s) w := hs ▸ rfl
      rw [readVariable, if_neg hn, Run.bind_of_ok hslot]
      cases s with
      | known v => exact .unchanged (.inl ⟨_, rfl⟩)
      | busy => exact .unchanged (.inr ⟨_, rfl⟩)

/-- In a program's environment the read of `x` fails at the definition of `$y`. -/
theorem read_enters_only_failed :
    let w := (({} : Session).after [.load "x=$z+$y; $z=2; $y=y;", .build]).world
    ∃ fault w', readVariable (performWith 30) 0 "x" w = .error fault w' ∧
      (w'.slotsAt 0).named.find? "x" = none ∧
      w.EntersOnly (fun other => isDynamicName other = true) 0 w' := by
  intro w
  have htest : (w.streams.isEmpty && decide (0 < w.frames.size) &&
      ((w.slotsAt 0).named.find? "x").isNone &&
      (readVariable (performWith 30) 0 "x").failsWith .key w) = true := by
    decide +kernel
  simp only [Bool.and_eq_true, decide_eq_true_eq, Option.isNone_iff_eq_none,
    Array.isEmpty_iff] at htest
  obtain ⟨⟨⟨hstreams, hsize⟩, hx⟩, hread⟩ := htest
  have hw : w.Sound := (Session.after_sound Session.sound_empty (by decide)).world
  have hcalm : w.Calm := fun i => by
    rw [hstreams]
    rfl
  obtain ⟨fault, w', hread, -⟩ := Run.failsWith_eq_true hread
  obtain ⟨only, hgone⟩ := (read_enters_only hw hcalm hsize "x" 30).error hread
  exact ⟨fault, w', hread, hgone (by decide) hx, only⟩

/-- With a run through children among the values, reading `q` binds `p`, too. -/
theorem read_enters_other_name :
    let w := (({} : Session).after
      [.load "p=1; q=max($s); module m(){} m($s=children()){cube(p,center=true);}", .build]).world
    w.Sound ∧ (w.slotsAt 0).named.find? "p" = none ∧ isDynamicName "p" = false ∧
      ∃ v w', readVariable (performWith 60) 0 "q" w = .ok v w' ∧
        ∃ u, (w'.slotsAt 0).named.find? "p" = some u := by
  intro w
  have htest : (((w.slotsAt 0).named.find? "p").isNone &&
      (readVariable (performWith 60) 0 "q").passes
        (fun _ w' => ((w'.slotsAt 0).named.find? "p").isSome) w) = true := by
    decide +kernel
  simp only [Bool.and_eq_true, Option.isNone_iff_eq_none] at htest
  obtain ⟨v, w', hread, hknown⟩ := Run.passes_eq_true htest.2
  exact ⟨(Session.after_sound Session.sound_empty (by decide)).world, htest.1, by decide, v, w',
    hread, Option.isSome_iff_exists.1 hknown⟩

end Eval
end Scad
