import Scad.Proofs.Correspondence.Laws
import Scad.Proofs.Environment.Fresh

/-!
Names that begin with `$` are asked of the caller. What an environment answers is settled
if the value is known there or further up, or if no scope on the way defines the name.
Asking then computes nothing: the value is only noted in the tables on the way.
-/

namespace Scad

open Run

variable {v : Value}

/-- The answer of an environment to a name, where that is settled. -/
inductive World.Answers (w : World) (name : String) : FrameId → Option Value → Prop
  | known {e : FrameId} {v : Value} (h : (w.slotsAt e).named.find? name = some (.known v)) :
      Answers w name e (some v)
  | asked {e c : FrameId} {v : Value} (hs : (w.slotsAt e).named.find? name = none)
      (hc : (w.frameAt e).caller = some c) (h : Answers w name c (some v))
      (hv : v.isCallable = false) : Answers w name e (some v)
  | unknown {e : FrameId} (hs : (w.slotsAt e).named.find? name = none)
      (hc : ∀ c, (w.frameAt e).caller = some c → Answers w name c none)
      (hd : w.seek (w.frameAt e).scope (Scope.findVar? name) = none) : Answers w name e none

/-- The first `n` environments are called by earlier ones only, and their values are in the
first `t` tables, which know names only. -/
structure World.Rooted (w : World) (n t : Nat) : Prop where
  table : ∀ e < n, (w.frameAt e).table < t
  caller : ∀ e < n, ∀ c, (w.frameAt e).caller = some c → c < e
  keyed : ∀ i < t, (w.tables.getD i {}).keyed = []

/-- Values were noted under a name in the first `t` tables. -/
structure World.Notes (t : Nat) (name : String) (w w' : World) : Prop where
  rest : w' = { w with tables := w'.tables }
  size : w'.tables.size = w.tables.size
  above : ∀ i, t ≤ i → w'.tables[i]? = w.tables[i]?
  keyed : ∀ i, (w'.tables.getD i {}).keyed = (w.tables.getD i {}).keyed
  others : ∀ i other, other ≠ name →
    (w'.tables.getD i {}).named.find? other = (w.tables.getD i {}).named.find? other

namespace World.Notes

variable {t : Nat} {name : String} {w w' w'' : World}

theorem refl (t : Nat) (name : String) (w : World) : w.Notes t name w where
  rest := rfl
  size := rfl
  above _ _ := rfl
  keyed _ := rfl
  others _ _ _ := rfl

section

variable (h : w.Notes t name w')

include h

theorem trans (h' : w'.Notes t name w'') : w.Notes t name w'' where
  rest := by
    rw [h'.rest, h.rest]
  size := h'.size.trans h.size
  above i hi := (h'.above i hi).trans (h.above i hi)
  keyed i := (h'.keyed i).trans (h.keyed i)
  others i other ho := (h'.others i other ho).trans (h.others i other ho)

theorem frameAt (e : FrameId) : w'.frameAt e = w.frameAt e := by
  rw [h.rest]
  rfl

theorem seek {α : Type} (id : ScopeId) (ask : Scope → Option α) :
    w'.seek id ask = w.seek id ask := by
  rw [h.rest]
  rfl

theorem slotsAt (e : FrameId) {other : String} (ho : other ≠ name) :
    (w'.slotsAt e).named.find? other = (w.slotsAt e).named.find? other := by
  unfold World.slotsAt
  rw [h.frameAt]
  exact h.others _ _ ho

theorem answers {other : String} (ho : other ≠ name) {e : FrameId}
    {o : Option Value} (ha : w.Answers other e o) : w'.Answers other e o := by
  induction ha with
  | known hs => exact .known ((h.slotsAt _ ho).trans hs)
  | asked hs hc _ hv ih => exact .asked ((h.slotsAt _ ho).trans hs) (h.frameAt _ ▸ hc) ih hv
  | unknown hs hc hd ih =>
    refine .unknown ((h.slotsAt _ ho).trans hs) (fun c hcaller => ih c (h.frameAt _ ▸ hcaller)) ?_
    rw [h.frameAt, h.seek]
    exact hd

theorem rooted {n : Nat} (hr : w.Rooted n t) : w'.Rooted n t where
  table e he := h.frameAt e ▸ hr.table e he
  caller e he := h.frameAt e ▸ hr.caller e he
  keyed i hi := (h.keyed i).trans (hr.keyed i hi)

end

end World.Notes

def World.withSlot (w : World) (e : FrameId) (name : String) (s : Slot) : World :=
  { w with tables := w.tables.modify (w.frameAt e).table fun t =>
      { t with named := t.named.put name s } }

section

variable {α : Type} {w' w : World} {e : Fault} {n t : Nat} {name : String}

theorem Run.setSlot_eq (w : World) (e : FrameId) (name : String) (s : Slot) :
    setSlot e name s w = .ok () (w.withSlot e name s) := rfl

theorem World.withSlot_notes {e : FrameId} (he : (w.frameAt e).table < t) (name : String)
    (s : Slot) : w.Notes t name (w.withSlot e name s) where
  rest := rfl
  size := Array.size_modify
  above i hi := by
    simp only [World.withSlot, Array.getElem?_modify]
    rw [if_neg (Nat.ne_of_lt (Nat.lt_of_lt_of_le he hi))]
  keyed i := by
    simp only [World.withSlot, getD_modify]
    split <;> rfl
  others i other ho := by
    simp only [World.withSlot, getD_modify]
    split
    · rw [Table.find?_put_ne ho]
    · rfl

theorem World.withSlot_known {e : FrameId} (he : (w.frameAt e).table < w.tables.size)
    (name : String) (s : Slot) : ((w.withSlot e name s).slotsAt e).named.find? name = some s := by
  simp only [World.withSlot, World.slotsAt, World.frameAt, getD_modify]
  rw [if_pos ⟨trivial, he⟩, Table.find?_put_self]

/-- How reading a name ends where the answer is settled, with at most `depth` more
environments that can be asked. -/
inductive Answered (t : Nat) (name : String) (depth : Nat) (e : FrameId) (w : World) :
    Option Value → EStateM.Result Fault World Value → Prop
  | deep (hd : depth ≤ e) {o : Option Value} (w' : World) :
      Answered t name depth e w o (.error .tooDeep w')
  | unknown : Answered t name depth e w none (.error (.unknownName name) w)
  | value {v : Value} {w' : World} (h : w.Notes t name w')
      (hs : (w'.slotsAt e).named.find? name = some (.known v)) :
      Answered t name depth e w (some v) (.ok v w')

theorem Run.map_of_ok {β : Type} {f : α → β} {m : Run α} {a : α}
    (h : m w = .ok a w') : (f <$> m) w = .ok (f a) w' := by
  change EStateM.map f m w = _
  unfold EStateM.map
  rw [h]

theorem Run.map_of_error {β : Type} {f : α → β} {m : Run α}
    (h : m w = .error e w') : (f <$> m) w = .error e w' := by
  change EStateM.map f m w = _
  unfold EStateM.map
  rw [h]

theorem Run.orIfUnknown_of_ok {m k : Run α} {a : α}
    (h : m w = .ok a w') : m.orIfUnknown k w = .ok a w' :=
  tryCatch_of_ok h

theorem Run.orIfUnknown_of_unknown {m k : Run α}
    (h : m w = .error e w') (he : e.faultClass = .key) : m.orIfUnknown k w = k w' :=
  (tryCatch_of_error h).trans (congrFun (if_pos he) w')

theorem Run.orIfUnknown_of_error {m k : Run α}
    (h : m w = .error e w') (he : e.faultClass ≠ .key) : m.orIfUnknown k w = .error e w' :=
  (tryCatch_of_error h).trans (congrFun (if_neg he) w')

namespace Eval

/-! ## Asking the caller -/

def askCaller (p : Perform) (e : FrameId) (name : String) (w : World) : Run VarDef :=
  match (w.frameAt e).caller with
  | some c => VarDef.value <$> p (.read c name)
  | none => throw (.unknownName name)

theorem findDefinition_dynamic (p : Perform) (e : FrameId) (hd : isDynamicName name = true)
    (w : World) : findDefinition p e name w =
      (askCaller p e name w).orIfUnknown (lookupVar (w.frameAt e).scope name) w := by
  obtain ⟨rest, hl⟩ : ∃ rest, name.toList = '$' :: rest := by
    unfold isDynamicName at hd
    cases hl : name.toList with
    | nil =>
      rw [hl] at hd
      cases hd
    | cons c rest =>
      rw [hl] at hd
      have hc : c = '$' := by simpa using hd
      exact ⟨rest, by rw [hc]⟩
  simp only [findDefinition, hl]
  rfl

section

variable {p : Perform} {e c : FrameId} (hd : isDynamicName name = true)

include hd

theorem findDefinition_of_value (hc : (w.frameAt e).caller = some c)
    (h : p (.read c name) w = .ok v w') : findDefinition p e name w = .ok (.value v) w' := by
  rw [findDefinition_dynamic p e hd, askCaller, hc]
  exact orIfUnknown_of_ok (map_of_ok h)

theorem findDefinition_of_error (hc : (w.frameAt e).caller = some c) {fault : Fault}
    (hf : fault.faultClass ≠ .key) (h : p (.read c name) w = .error fault w') :
    findDefinition p e name w = .error fault w' := by
  rw [findDefinition_dynamic p e hd, askCaller, hc]
  exact orIfUnknown_of_error (map_of_error h) hf

section

variable
  (hc : ∀ c, (w.frameAt e).caller = some c → p (.read c name) w = .error (.unknownName name) w)

include hc

/-- Where the caller, if there is one, does not know the name, the scope is asked. -/
theorem findDefinition_eq_lookup :
    findDefinition p e name w = lookupVar (w.frameAt e).scope name w := by
  have hasked : (askCaller p e name w) w = .error (.unknownName name) w := by
    unfold askCaller
    cases hcaller : (w.frameAt e).caller with
    | none => rfl
    | some c => exact map_of_error (hc c hcaller)
  rw [findDefinition_dynamic p e hd]
  exact orIfUnknown_of_unknown hasked rfl

theorem findDefinition_of_unknown (h : w.seek (w.frameAt e).scope (Scope.findVar? name) = none) :
    findDefinition p e name w = .error (.unknownName name) w :=
  (findDefinition_eq_lookup hd hc).trans (congrArg (demand (.unknownName name) · w) h)

end

end

theorem define_value (p : Perform) (e : FrameId) (hv : v.isCallable = false) :
    define p e (.value v) = pure v := by
  cases v with
  | host _ | invoke _ | pick _ _ | unbuilt | native _ | method _ _ => cases hv
  | _ => rfl

/-- What becomes of a definition once it is found. -/
def note (p : Perform) (e : FrameId) (name : String) (d : VarDef) : Run Value := do
  setSlot e name .busy
  let v ← (define p e d).orUndo (clearSlot e name)
  setValue e name v
  return v

theorem readVariable_of_none {e : FrameId} (hn : name ≠ "$children")
    (hs : (w.slotsAt e).named.find? name = none) (p : Perform) :
    readVariable p e name w = (findDefinition p e name >>= note p e name) w := by
  have hslot : slot e name w = .ok none w := congrArg (EStateM.Result.ok · w) hs
  rw [readVariable, if_neg hn]
  exact bind_of_ok hslot

theorem readVariable_known (p : Perform) {e : FrameId} (hn : name ≠ "$children")
    (h : (w.slotsAt e).named.find? name = some (.known v)) : readVariable p e name w = .ok v w := by
  have hslot : slot e name w = .ok (some (.known v)) w := congrArg (EStateM.Result.ok · w) h
  rw [readVariable, if_neg hn]
  exact bind_of_ok hslot

section

variable {p : Perform} {e : FrameId} {d : VarDef} {v : Value}

theorem note_of_ok (h : define p e d (w.withSlot e name .busy) = .ok v w') :
    note p e name d w = .ok v (w'.withSlot e name (.known v)) := by
  rw [note, bind_of_ok (setSlot_eq w e name .busy), bind_of_ok (orUndo_of_ok h)]
  exact bind_of_ok (setSlot_eq w' e name (.known v))

theorem note_of_error {fault : Fault} {u : World}
    (h : define p e d (w.withSlot e name .busy) = .error fault w')
    (hu : clearSlot e name w' = .ok () u) : note p e name d w = .error fault u := by
  rw [note, bind_of_ok (setSlot_eq w e name .busy)]
  exact bind_of_error (orUndo_of_error h hu)

theorem note_of_value (hv : v.isCallable = false) (w : World) : note p e name (.value v) w =
    .ok v ((w.withSlot e name .busy).withSlot e name (.known v)) :=
  note_of_ok (by rw [define_value p e hv]; rfl)

end

theorem note_value {p : Perform} {e : FrameId} {w w' : World}
    (hv : v.isCallable = false) (h : w.Notes t name w') (he : (w.frameAt e).table < t)
    (ht : t ≤ w.tables.size) (depth : Nat) :
    Answered t name depth e w (some v) (note p e name (.value v) w') := by
  have htable : (w'.frameAt e).table < t := h.frameAt e ▸ he
  have htable' : ((w'.withSlot e name .busy).frameAt e).table < t := htable
  rw [note_of_value hv]
  have hbusy := World.withSlot_notes htable name .busy
  have hsize : (w'.withSlot e name .busy).tables.size = w.tables.size := hbusy.size.trans h.size
  refine .value (h.trans (hbusy.trans (World.withSlot_notes htable' name (.known v)))) ?_
  exact World.withSlot_known (hsize ▸ Nat.lt_of_lt_of_le htable' ht) name (.known v)

theorem readVariable_answers (hr : w.Rooted n t) (ht : t ≤ w.tables.size)
    (hd : isDynamicName name = true) (hn : name ≠ "$children") {e : FrameId} {o : Option Value}
    (h : w.Answers name e o) (he : e < n) (depth : Nat) :
    Answered t name depth e w o (readVariable (performWith depth) e name w) := by
  -- The caller is asked with one task less.
  have ask : ∀ {c o} depth, (∀ d, Answered t name d c w o (readVariable (performWith d) c name w)) →
      Answered t name (depth - 1) c w o (performWith depth (.read c name) w) := by
    intro c o depth ih
    cases depth with
    | zero => exact .deep (Nat.zero_le c) w
    | succ depth => exact ih depth
  induction h generalizing depth with
  | @known e v hs =>
    rw [readVariable_known _ hn hs]
    exact .value (.refl t name w) hs
  | @asked e c v hs hc _ hv ih =>
    rw [readVariable_of_none hn hs]
    have hlt := hr.caller e he c hc
    have hread := ask depth (ih (Nat.lt_trans hlt he))
    generalize hres : performWith depth (.read c name) w = res at hread
    cases hread with
    | deep hd' w' =>
      rw [bind_of_error (findDefinition_of_error hd hc (by decide) hres)]
      exact .deep (Nat.le_of_pred_lt (Nat.lt_of_le_of_lt hd' hlt)) w'
    | value hnotes _ =>
      rw [bind_of_ok (findDefinition_of_value hd hc hres)]
      exact note_value hv hnotes (hr.table e he) ht depth
  | @unknown e hs hc hv ih =>
    rw [readVariable_of_none hn hs]
    by_cases hdeep : depth ≤ e ∧ ∃ c w', (w.frameAt e).caller = some c ∧
        performWith depth (.read c name) w = .error .tooDeep w'
    · obtain ⟨hle, c, w', hcaller, hres⟩ := hdeep
      rw [bind_of_error (findDefinition_of_error hd hcaller (by decide) hres)]
      exact .deep hle w'
    · rw [bind_of_error (findDefinition_of_unknown hd (fun c hcaller => ?_) hv)]
      · exact .unknown
      · have hlt := hr.caller e he c hcaller
        have hread := ask depth (ih c hcaller (Nat.lt_trans hlt he))
        generalize hres : performWith depth (.read c name) w = res at hread ⊢
        cases hread with
        | deep hd' w' =>
          have hle := Nat.le_of_pred_lt (Nat.lt_of_le_of_lt hd' hlt)
          exact absurd ⟨hle, c, w', hcaller, hres⟩ hdeep
        | unknown => rfl

/-! ## Keys -/

/-- A value that can be a key is equal to a text only if it is that text. -/
theorem equal_str_of_isKey (hk : v.isKey = true) (s : Text) :
    ∃ b, v.equal (.str s) = pure b ∧ (v ≠ .str s → b = false) := by
  cases v with
  | list _ | node _ | code _ | dict _ => cases hk
  | str r =>
    refine ⟨r == s, rfl, fun h => ?_⟩
    exact beq_eq_false_iff_ne.2 fun hr => h (by rw [hr])
  | _ => exact ⟨false, rfl, fun _ => rfl⟩

theorem areKeys_of_mem {vs : List Value} (h : Value.isKey.areKeys vs = true)
    (hv : v ∈ vs) : v.isKey = true := by
  induction vs with
  | nil => cases hv
  | cons x xs ih =>
    have h : x.isKey = true ∧ Value.isKey.areKeys xs = true := by
      simpa [Value.isKey.areKeys] using h
    rcases List.mem_cons.1 hv with rfl | hv
    · exact h.1
    · exact ih h.2 hv

theorem itemAt_zero {vs : List Value} (h : ∀ v ∈ vs, v.isKey = true) (kind : SequenceKind) :
    ∃ x : Except Fault Value, Value.itemAt kind vs (.int 0) = lift x ∧
      ∀ y, x = .ok y → y.isKey = true := by
  cases vs with
  | nil => exact ⟨.error (.outOfRange kind), rfl, fun y hy => by cases hy⟩
  | cons v vs =>
    refine ⟨.ok v, ?_, fun y hy => ?_⟩
    · simp [Value.itemAt, Value.int?, Value.place?]
      rfl
    · cases hy
      exact h v (List.mem_cons_self ..)

theorem startsDynamic_of_isKey (hk : v.isKey = true) :
    ∃ x, startsDynamic v = lift x := by
  have hitem : ∃ x : Except Fault Value, v.item (.int 0) = lift x ∧
      ∀ y, x = .ok y → y.isKey = true := by
    cases v with
    | list _ | node _ | code _ | dict _ => cases hk
    | tuple vs => exact itemAt_zero (fun v hv => areKeys_of_mem hk hv) .tuple
    | str s =>
      have hchars : ∀ v ∈ Value.charValues s, v.isKey = true := by
        intro v hv
        obtain ⟨c, -, rfl⟩ := List.mem_map.1 hv
        rfl
      exact itemAt_zero hchars .string
    | _ => exact ⟨.error .typeMismatch, rfl, fun y hy => by cases hy⟩
  obtain ⟨x, hx, hkey⟩ := hitem
  unfold startsDynamic
  rw [hx]
  cases x with
  | error f => exact ⟨.error f, rfl⟩
  | ok y =>
    obtain ⟨b, hb, -⟩ := equal_str_of_isKey (hkey y rfl) "$"
    exact ⟨.ok b, hb⟩

def askKey (p : Perform) (e : FrameId) (key : Value) (w : World) : Run Value :=
  match (w.frameAt e).caller with
  | none => throw (unknownKey key)
  | some caller => do
    let v ← define p e (.value (← p (.readKey caller key)))
    setKey e key v
    return v

/-- A key that is not in the table is asked of the caller if it begins with `$`. -/
theorem readKey_eq (hr : w.Rooted n t) (p : Perform) {e : FrameId} (he : e < n) {key : Value}
    (hk : key.isKey = true) (hc : key ≠ .str "$children") {x : Except Fault Bool}
    (hx : startsDynamic key = lift x) : readKey p e key w =
      (lift x >>= fun b => if b then askKey p e key w else throw (unknownKey key)) w := by
  obtain ⟨b, hb, hne⟩ := equal_str_of_isKey hk "$children"
  obtain rfl := hne hc
  have hslots : slots e w = .ok (w.slotsAt e) w := rfl
  have hfind : findKey key (w.slotsAt e).keyed = pure none := by
    rw [show (w.slotsAt e).keyed = [] from hr.keyed _ (hr.table e he)]
    rfl
  unfold readKey
  simp only [hb, hk, pure_bind, Bool.false_eq_true, if_false, Bool.not_true]
  rw [bind_of_ok hslots, hfind, pure_bind, hx]
  cases x with
  | error f => rfl
  | ok b => cases b <;> rfl

theorem readKey_rooted {key : Value} (hk : key.isKey = true) (hc : key ≠ .str "$children") :
    ∃ f, ∀ {w : World} {n t : Nat}, w.Rooted n t → ∀ (depth : Nat) {e : FrameId}, e < n →
      (∃ w', readKey (performWith depth) e key w = .error .tooDeep w') ∨
        readKey (performWith depth) e key w = .error f w := by
  obtain ⟨x, hx⟩ := startsDynamic_of_isKey hk
  cases x with
  | error f => exact ⟨f, fun hr depth e he => .inr (readKey_eq hr _ he hk hc hx)⟩
  | ok b =>
    refine ⟨unknownKey key, fun {w n t} hr depth => ?_⟩
    cases b with
    | false => exact fun he => .inr (readKey_eq hr _ he hk hc hx)
    | true =>
      induction depth with
      | zero =>
        intro e he
        rw [readKey_eq hr _ he hk hc hx]
        change (∃ w', askKey _ e key w w = _) ∨ askKey _ e key w w = _
        unfold askKey
        cases (w.frameAt e).caller with
        | none => exact .inr rfl
        | some c => exact .inl ⟨w, rfl⟩
      | succ depth ih =>
        intro e he
        rw [readKey_eq hr _ he hk hc hx]
        change (∃ w', askKey _ e key w w = _) ∨ askKey _ e key w w = _
        unfold askKey
        cases hcaller : (w.frameAt e).caller with
        | none => exact .inr rfl
        | some c =>
          rcases ih (Nat.lt_trans (hr.caller e he c hcaller) he) with ⟨w', hdeep⟩ | hunknown
          · have hstep : performWith (depth + 1) (.readKey c key) w = .error .tooDeep w' := hdeep
            exact .inl ⟨w', bind_of_error hstep⟩
          · have hstep : performWith (depth + 1) (.readKey c key) w =
                .error (unknownKey key) w := hunknown
            exact .inr (bind_of_error hstep)

end Eval
end

end Scad
