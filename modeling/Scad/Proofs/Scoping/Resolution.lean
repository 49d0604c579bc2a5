import Scad.Proofs.Scoping.Lexical
import Scad.Proofs.Session.Residue

/-!
How a name that begins with `$` is resolved through the callers of an environment. The nearest
environment that knows a value has it. If none does, the definition counts that the caller
furthest away has in its scope, and it is evaluated there. The value is then noted in all
environments on the way, and no other name becomes known in the callers but such as begin
with `$`, too.
-/

namespace Scad

open List

/-- Environments of which each is called by the next one, and the last one by none. -/
def World.CallChain (w : World) : List FrameId → Prop
  | [] => True
  | e :: es => e < w.frames.size ∧ (w.frameAt e).caller = es.head? ∧ w.CallChain es

/-- No run through children has to go on. -/
def World.Calm (w : World) : Prop := ∀ i, (w.streams.getD i .ended).env? = none

/-- A name has become known with a value in the environments on the way. Of the other names
only such as begin with `$` have, unless a run through children has gone on. -/
structure World.Resolves (w : World) (name : String) (v : Value) (way chain : List FrameId)
    (w' : World) : Prop where
  known : ∀ c ∈ way, (w'.slotsAt c).named.find? name = some (.known v)
  plain : w.Calm → ∀ c ∈ chain, ∀ other, Eval.isDynamicName other = false →
    (w'.slotsAt c).named.find? other = (w.slotsAt c).named.find? other

namespace World

variable {w w' : World} {e : FrameId} {near far : List FrameId}

theorem CallChain.lt {es : List FrameId} (h : w.CallChain es) : ∀ c ∈ es, c < w.frames.size := by
  induction es with
  | nil => exact fun c hc => absurd hc not_mem_nil
  | cons e es ih => exact forall_mem_cons.2 ⟨h.1, ih h.2.2⟩

theorem CallChain.drop (h : w.CallChain (near ++ far)) : w.CallChain far := by
  induction near with
  | nil => exact h
  | cons c near ih => exact ih h.2.2

theorem CallChain.caller {c : FrameId} (h : w.CallChain (c :: near ++ e :: far)) :
    (w.frameAt c).caller = some (near.headD e) := by
  rw [h.2.1]
  cases near <;> rfl

/-- The world may be the beginning of a run that is apart from everything in it. -/
def base (w : World) : Base := .since w.frames.size w.tables.size

theorem Sound.from_base (hw : w.Sound) (hc : w.Calm) : w.SoundFrom w.base where
  toSound := hw
  count := Nat.le_refl _
  tableCount := Nat.le_refl _
  apart e he := ⟨fun h => absurd he (Nat.not_lt_of_le h), fun h => absurd he (Nat.not_lt_of_le h)⟩
  runs i e he := by
    rw [hc i] at he
    cases he

theorem not_allows_base {i : TableId} (hi : i < w.tables.size) (name : String) :
    ¬w.base.Allows i name := by
  rintro (h | h)
  · exact Nat.not_lt_of_le h hi
  · exact h

theorem noted_known {c : FrameId} {name : String} {v : Value}
    (h : (w.slotsAt c).named.find? name = some (.known v) ∨
      c = e ∧ (w.frameAt e).table < w.tables.size) :
    (((w.withSlot e name .busy).withSlot e name (.known v)).slotsAt c).named.find? name =
      some (.known v) := by
  simp only [withSlot, slotsAt, frameAt, getD_modify, Array.size_modify]
  by_cases htable : (w.frames.getD e default).table = (w.frames.getD c default).table ∧
      (w.frames.getD c default).table < w.tables.size
  · rw [if_pos htable]
    exact Table.find?_put_self ..
  · rw [if_neg htable, if_neg htable]
    refine h.resolve_right ?_
    rintro ⟨rfl, hlt⟩
    exact htable ⟨rfl, hlt⟩

end World

namespace Eval

variable {w w1 : World} {name : String} {e c : FrameId} {near far : List FrameId} {v : Value}

theorem readVariable_restored (hw : w.Sound) (he : e < w.frames.size) {n : Nat}
    (h : readVariable (performWith n) e name w = .ok v w1) : w.Restored w1 := by
  have hr : Mirror.Restores (.mirror (0 ≤ ·) w.frames.size) (performWith (n + 1) (.read e name)) :=
    .of_frame ⟨rfl, Nat.zero_le _, he⟩ fun _ hn => .of_alike (Mirror.performs _ (.read hn name))
  exact (hr.restored hw (.inl ⟨v, h⟩)).2

theorem readVariable_footprint (hw : w.Sound) (hc : w.Calm) (he : e < w.frames.size)
    (hn : name ≠ "$children") (hd : isDynamicName name = true) {n : Nat}
    (h : readVariable (performWith n) e name w = .ok v w1) : w.Footprint w.base w1 := by
  have ho := Mirror.readVariable_origin (Mirror.performs n) (hw.from_base hc)
    (Nat.not_le_of_lt he) hn hd
  rw [h] at ho
  cases ho with
  | ok _ hk _ _ => exact hk.2

section

variable (hn : name ≠ "$children") (hd : isDynamicName name = true)

include hn hd

/-! ## Names that nobody knows -/

theorem asked_unknown (n : Nat) : ∀ {far e}, w.CallChain (e :: far) →
    (∀ c ∈ far, (w.slotsAt c).named.find? name = none) →
    (∀ c ∈ far, w.seek (w.frameAt c).scope (Scope.findVar? name) = none) →
    ∀ c, (w.frameAt e).caller = some c →
      performWith (far.length + n) (.read c name) w = .error (.unknownName name) w := by
  intro far
  induction far with
  | nil =>
    intro e chain _ _ c hc
    rw [chain.2.1] at hc
    cases hc
  | cons c far ih =>
    intro e chain hs hv d hc
    rw [chain.2.1] at hc
    cases hc
    rw [length_cons, Nat.add_right_comm]
    change readVariable (performWith (far.length + n)) c name w = _
    have hasked := ih chain.2.2 (fun c hc => hs c (.tail _ hc)) fun c hc => hv c (.tail _ hc)
    rw [readVariable_of_none hn (hs c (.head _)),
      Run.bind_of_error (findDefinition_of_unknown hd hasked (hv c (.head _)))]

/-! ## On the way back -/

theorem readVariable_relay (hc : (w.frameAt c).caller = some e)
    (hs : (w.slotsAt c).named.find? name = none) {n : Nat} (hv : v.isCallable = false)
    (h : readVariable (performWith n) e name w = .ok v w1) :
    readVariable (performWith (n + 1)) c name w =
      .ok v ((w1.withSlot c name .busy).withSlot c name (.known v)) := by
  have hread : performWith (n + 1) (.read e name) w = .ok v w1 := h
  rw [readVariable_of_none hn hs, Run.bind_of_ok (findDefinition_of_value hd hc hread),
    note_of_value hv]

section

variable (chain : w.CallChain (near ++ e :: far))
  (hs : ∀ c ∈ near, (w.slotsAt c).named.find? name = none)

include chain hs

/-- What an environment finds is noted by all that ask for it, one after the other. -/
theorem readVariable_through {n : Nat}
    (hv : v.isCallable = false) (h : readVariable (performWith n) e name w = .ok v w1)
    (he : (w1.slotsAt e).named.find? name = some (.known v))
    (ht : ∀ c ∈ near, (w1.frameAt c).table < w1.tables.size) :
    ∃ w', readVariable (performWith (near.length + n)) (near.headD e) name w = .ok v w' ∧
      (∀ c ∈ near ++ [e], (w'.slotsAt c).named.find? name = some (.known v)) ∧
      w1.Notes w1.tables.size name w' := by
  induction near with
  | nil =>
    refine ⟨w1, (Nat.zero_add n).symm ▸ h, ?_, .refl _ _ _⟩
    simpa using he
  | cons c near ih =>
    obtain ⟨hsc, hs⟩ := forall_mem_cons.1 hs
    obtain ⟨htc, ht⟩ := forall_mem_cons.1 ht
    obtain ⟨w2, hread, hknown, hnotes⟩ := ih chain.2.2 hs ht
    have hrelay := readVariable_relay hn hd chain.caller hsc hv hread
    have hc2 : (w2.frameAt c).table < w1.tables.size := hnotes.frameAt c ▸ htc
    have hc3 : ((w2.withSlot c name .busy).frameAt c).table < w1.tables.size := hc2
    refine ⟨_, ?_, ?_, hnotes.trans ((World.withSlot_notes hc2 name .busy).trans
      (World.withSlot_notes hc3 name (.known v)))⟩
    · rw [length_cons, Nat.add_right_comm]
      exact hrelay
    · refine forall_mem_cons.2 ⟨World.noted_known (.inr ⟨rfl, hnotes.size ▸ hc2⟩), ?_⟩
      exact fun d hdm => World.noted_known (.inl (hknown d hdm))

theorem readVariable_fails {n : Nat} {fault : Fault}
    (hf : fault.faultClass ≠ .key) (h : readVariable (performWith n) e name w = .error fault w1) :
    readVariable (performWith (near.length + n)) (near.headD e) name w = .error fault w1 := by
  induction near with
  | nil => exact (Nat.zero_add n).symm ▸ h
  | cons c near ih =>
    obtain ⟨hsc, hs⟩ := forall_mem_cons.1 hs
    have hread : performWith (near.length + n + 1) (.read (near.headD e) name) w =
        .error fault w1 := ih chain.2.2 hs
    rw [length_cons, Nat.add_right_comm, headD_cons, readVariable_of_none hn hsc,
      Run.bind_of_error (findDefinition_of_error hd chain.caller hf hread)]

end

/-! ## Names that are defined -/

theorem readVariable_defined (chain : w.CallChain (e :: far))
    (hs : ∀ c ∈ e :: far, (w.slotsAt c).named.find? name = none) {d : VarDef}
    (h : w.seek (w.frameAt e).scope (Scope.findVar? name) = some d)
    (hv : ∀ c ∈ far, w.seek (w.frameAt c).scope (Scope.findVar? name) = none) (n : Nat) :
    readVariable (performWith (far.length + n)) e name w =
      note (performWith (far.length + n)) e name d w := by
  obtain ⟨hse, hs⟩ := forall_mem_cons.1 hs
  have hfind := (findDefinition_eq_lookup hd (asked_unknown hn hd n chain hs hv)).trans
    (congrArg (Run.demand (.unknownName name) · w) h)
  rw [readVariable_of_none hn hse, Run.bind_of_ok hfind]

/-- All that ask for a value know it in the end, and know of no other but by names that begin
with `$`. -/
theorem resolves_through (hw : w.Sound) (chain : w.CallChain (near ++ e :: far))
    (hs : ∀ c ∈ near, (w.slotsAt c).named.find? name = none) {n : Nat}
    (hv : v.isCallable = false) (h : readVariable (performWith n) e name w = .ok v w1)
    (he : (w1.slotsAt e).named.find? name = some (.known v)) :
    ∃ w', readVariable (performWith (near.length + n)) (near.headD e) name w = .ok v w' ∧
      w.Resolves name v (near ++ [e]) (near ++ e :: far) w' := by
  have hlt := chain.lt
  have hback := readVariable_restored hw (hlt e (by simp)) h
  have ht : ∀ c ∈ near, (w1.frameAt c).table < w1.tables.size := by
    intro c hc
    have hcw := hlt c (mem_append_left _ hc)
    rw [(hback.frames c hcw).table]
    exact Nat.lt_of_lt_of_le (hw.frames c hcw).table hback.tableCount
  obtain ⟨w', hread, hknown, -⟩ := readVariable_through hn hd chain hs hv h he ht
  have hhead : near.headD e < w.frames.size := by
    cases near with
    | nil => exact hlt e (.head _)
    | cons c near => exact hlt c (.head _)
  have hrest := readVariable_restored hw hhead hread
  refine ⟨w', hread, hknown, fun hcalm c hc other ho => ?_⟩
  unfold World.slotsAt
  rw [(hrest.frames c (hlt c hc)).table]
  exact (readVariable_footprint hw hcalm hhead hn hd hread).plain
    (World.not_allows_base (hw.frames c (hlt c hc)).table other) ho

end

/-- A name that begins with `$`, read through a chain of callers in which it is not being
computed. -/
theorem dynamic_name_resolved (hw : w.Sound) {e₀ : FrameId} {es : List FrameId}
    (chain : w.CallChain (e₀ :: es)) (hn : name ≠ "$children") (hd : isDynamicName name = true)
    (n : Nat) :
    -- The nearest value that is known.
    (∀ near e far v, near ++ e :: far = e₀ :: es →
      (∀ c ∈ near, (w.slotsAt c).named.find? name = none) →
      (w.slotsAt e).named.find? name = some (.known v) → v.isCallable = false →
      ∃ w', readVariable (performWith (es.length + n)) e₀ name w = .ok v w' ∧
        w.Resolves name v (near ++ [e]) (e₀ :: es) w') ∧
    -- The definition that is furthest away.
    ((∀ c ∈ e₀ :: es, (w.slotsAt c).named.find? name = none) →
      ∀ near e far d, near ++ e :: far = e₀ :: es →
      w.seek (w.frameAt e).scope (Scope.findVar? name) = some d →
      (∀ c ∈ far, w.seek (w.frameAt c).scope (Scope.findVar? name) = none) →
      (∀ v w₁, define (performWith (far.length + n)) e d (w.withSlot e name .busy) = .ok v w₁ →
        v.isCallable = false →
        ∃ w', readVariable (performWith (es.length + n)) e₀ name w = .ok v w' ∧
          w.Resolves name v (near ++ [e]) (e₀ :: es) w') ∧
      ∀ fault w₁, define (performWith (far.length + n)) e d (w.withSlot e name .busy) =
          .error fault w₁ → fault.faultClass ≠ .key →
        ∃ w', readVariable (performWith (es.length + n)) e₀ name w = .error fault w') ∧
    -- Neither.
    ((∀ c ∈ e₀ :: es, (w.slotsAt c).named.find? name = none) →
      (∀ c ∈ e₀ :: es, w.seek (w.frameAt c).scope (Scope.findVar? name) = none) →
      readVariable (performWith (es.length + n)) e₀ name w = .error (.unknownName name) w) := by
  have start : ∀ {near e far}, near ++ e :: far = e₀ :: es →
      near.headD e = e₀ ∧ es.length + n = near.length + (far.length + n) := by
    intro near e far heq
    have hlength := congrArg List.length heq
    simp only [List.length_append, List.length_cons] at hlength
    refine ⟨?_, by omega⟩
    cases near <;> cases heq <;> rfl
  refine ⟨?_, ?_, ?_⟩
  · intro near e far v heq hs hk hv
    obtain ⟨rfl, hlength⟩ := start heq
    rw [hlength, ← heq]
    exact resolves_through hn hd hw (heq ▸ chain) hs hv (readVariable_known _ hn hk) hk
  · intro hs near e far d heq hdef hfar
    obtain ⟨rfl, hlength⟩ := start heq
    rw [← heq] at chain hs ⊢
    have hnear : ∀ c ∈ near, (w.slotsAt c).named.find? name = none :=
      fun c hc => hs c (List.mem_append_left _ hc)
    have hread := readVariable_defined hn hd chain.drop
      (fun c hc => hs c (List.mem_append_right _ hc)) hdef hfar n
    rw [hlength]
    refine ⟨fun v w₁ h hv => ?_, fun fault w₁ h hf => ?_⟩
    · rw [note_of_ok h] at hread
      have he := chain.lt e (by simp)
      have hback := readVariable_restored hw he hread
      refine resolves_through hn hd hw chain hnear hv hread (World.withSlot_known ?_ _ _)
      have htable : (w₁.frameAt e).table = (w.frameAt e).table := (hback.frames e he).table
      have hsize : w.tables.size ≤ w₁.tables.size :=
        Nat.le_trans hback.tableCount (Nat.le_of_eq Array.size_modify)
      rw [htable]
      exact Nat.lt_of_lt_of_le (hw.frames e he).table hsize
    · rw [note_of_error h rfl] at hread
      exact ⟨_, readVariable_fails hn hd chain hnear hf hread⟩
  · intro hs hv
    obtain ⟨hse, hs⟩ := List.forall_mem_cons.1 hs
    obtain ⟨hve, hv⟩ := List.forall_mem_cons.1 hv
    have hasked := asked_unknown hn hd n chain hs hv
    rw [readVariable_of_none hn hse,
      Run.bind_of_error (findDefinition_of_unknown hd hasked hve)]

theorem exists_of_result {m : Run Value} {w : World} (h : m.result w = .ok v) :
    ∃ w', m w = .ok v w' := by
  unfold Run.result at h
  cases hm : m w with
  | ok u w' =>
    rw [hm] at h
    cases h
    exact ⟨w', rfl⟩
  | error e w' =>
    rw [hm] at h
    cases h

/-- A module that defines the name for itself was called once. Read there, the name has the value
of the program's definition. -/
theorem dynamic_name_resolved_outermost :
    let w := (({} : Session).after [.load "$x=1; module m(){$x=2;} m();", .build]).world
    w.Calm ∧ ∃ w', readVariable (performWith (2 + 30)) 2 "$x" w = .ok (.int 1) w' ∧
      w.Resolves "$x" (.int 1) [2, 1, 0] [2, 1, 0] w' := by
  intro w
  have htest : (w.streams.isEmpty && w.frames.size == 3 && (w.frameAt 2).caller == some 1 &&
      (w.frameAt 1).caller == some 0 && (w.frameAt 0).caller == none &&
      [2, 1, 0].all (fun c => ((w.slotsAt c).named.find? "$x").isNone) &&
      (w.seek (w.frameAt 0).scope (Scope.findVar? "$x")).any fun d =>
        (define (performWith 30) 0 d).gives (.int 1) (w.withSlot 0 "$x" .busy)) = true := by
    decide +kernel
  simp only [Bool.and_eq_true, beq_iff_eq, List.all_eq_true, Option.isNone_iff_eq_none,
    Option.any_eq_true, Array.isEmpty_iff] at htest
  obtain ⟨⟨⟨⟨⟨⟨hstreams, hsize⟩, h₂⟩, h₁⟩, h₀⟩, hslots⟩, d, hseek, hdefine⟩ := htest
  have hw : w.Sound := (Session.after_sound Session.sound_empty (by decide)).world
  have hcalm : w.Calm := fun i => by
    rw [hstreams]
    rfl
  have hlt : ∀ c < 3, c < w.frames.size := fun c hc => hsize ▸ hc
  have chain : w.CallChain [2, 1, 0] :=
    ⟨hlt 2 (by decide), h₂, hlt 1 (by decide), h₁, hlt 0 (by decide), h₀, trivial⟩
  obtain ⟨w₁, hdefine⟩ := exists_of_result (Run.result_of_gives hdefine)
  have found := (dynamic_name_resolved hw chain (by decide) (by decide) 30).2.1 hslots
    [2, 1] 0 [] d rfl hseek (fun c hc => absurd hc List.not_mem_nil)
  exact ⟨hcalm, found.1 (.int 1) w₁ hdefine rfl⟩

/-- A run through children that has not begun yet is among the values. Where the name's definition
needs it, the children are built in the environment in which they were asked for, and a plain
name becomes known there. -/
theorem children_bind_plain_name :
    let w := (({} : Session).after
      [.load "p=1; $x=max($s); module m(){} m($s=children()){cube(p,center=true);}", .build]).world
    w.Sound ∧ w.CallChain [0] ∧ (w.slotsAt 0).named.find? "$x" = none ∧
      (∀ s ∈ (w.slotsAt 0).named, s.2.isHandedOn = true) ∧
      (w.slotsAt 0).named.find? "p" = none ∧
      ∃ v w', readVariable (performWith 60) 0 "$x" w = .ok v w' ∧ v.isCallable = false ∧
        ∃ u, (w'.slotsAt 0).named.find? "p" = some u := by
  intro w
  have htest : (decide (0 < w.frames.size) && (w.frameAt 0).caller == none &&
      ((w.slotsAt 0).named.find? "$x").isNone && (w.slotsAt 0).named.all (fun s =>
        s.2.isHandedOn) &&
      ((w.slotsAt 0).named.find? "p").isNone &&
      (readVariable (performWith 60) 0 "$x").passes (fun v w' => !v.isCallable &&
        ((w'.slotsAt 0).named.find? "p").isSome) w) = true := by
    decide +kernel
  simp only [Bool.and_eq_true, beq_iff_eq, List.all_eq_true, Option.isNone_iff_eq_none,
    decide_eq_true_eq] at htest
  obtain ⟨⟨⟨⟨⟨hsize, h₀⟩, hx⟩, hvalues⟩, hp⟩, hread⟩ := htest
  obtain ⟨v, w', hread, hknown⟩ := Run.passes_eq_true hread
  simp only [Bool.and_eq_true, Bool.not_eq_true', Option.isSome_iff_exists] at hknown
  refine ⟨(Session.after_sound Session.sound_empty (by decide)).world, ⟨hsize, h₀, trivial⟩, hx,
    hvalues, hp, v, w', hread, hknown⟩

end Eval
end Scad
