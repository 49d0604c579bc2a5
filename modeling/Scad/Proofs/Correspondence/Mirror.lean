import Scad.Proofs.Correspondence.Growth
import Scad.Proofs.Correspondence.Sound
import Scad.Proofs.Correspondence.Still

/-!
A run beside itself. Everything corresponds to itself, so all that is left of the laws is
what they say about one world: it stays sound, and whatever a run changes for a while is as
before when the run ends, well or not. Of the environments that were there before the run
only names that begin with `$` are asked, so all that can happen there is that such a name
becomes known.
-/

namespace Scad

open Run Eval Link Array

/-! ## Everything corresponds to itself -/

theorem Link.mirror_mono {o : FrameId → Prop} {n m : Nat} (h : n ≤ m) : mirror o n ≤ mirror o m :=
  { (le_refl (mirror o n) : Link.Le _ _) with
    same := fun k a b hab => by
      cases k with
      | frame | own | builder | loop | extruder =>
        exact ⟨hab.1, hab.2.1, Nat.lt_of_lt_of_le hab.2.2 h⟩
      | current => exact ⟨hab.1, Nat.lt_of_lt_of_le hab.2 h⟩
      | _ => exact hab }

/-- A run that begins in one world ends in another, well or not. -/
def Run.EndsIn {α : Type} (m : Run α) (w w' : World) : Prop :=
  (∃ a, m w = .ok a w') ∨ ∃ e, m w = .error e w'

/-- A run beside itself, in a sound world in which it is apart. -/
def mirror (B : Base) : Correspondence where
  agree κ l r := κ = .mirror B.own l.frames.size ∧ l = r ∧ l.SoundFrom B
  leftStops := False
  rightStops := False
  keeps w w' := w.Restored w' ∧ w.Footprint B w'
  keeps_refl w := ⟨.refl w, .of_eq rfl⟩
  keeps_trans h h' := ⟨h.1.trans h'.1, h.2.trans h'.2⟩

namespace Mirror

variable {name : String} {m m' : Run Value} {α : Type} {B : Base} {κ : Link} {l r : World}
  {o : FrameId → Prop} {n j t : Nat} {a b : FrameId} {f g : Frame} {h : Holding}
  {vs ws : List Value} {p q : Perform} {id : ScopeId} {v : Value}

theorem args_self (args : Args) : args.Alike (.mirror o n) args where
  positional := values_self _
  named := Entries.alike_self (mirror_exact o n) _ (.inl fun _ => trivial)
  allowed _ _ := trivial

theorem frame_self (h : f.Sound n t) (hA : f.Apart B a) (ha : B.own a) :
    f.Alike (.mirror B.own n) f where
  place := rfl
  child := option_rel_self fun x _ => value_self x
  childFrame := option_rel_self fun c hc => ⟨rfl, hA.children ha c hc, h.childFrame c hc⟩
  childResults := value_self _
  token := by
    refine option_rel_self fun t ht => option_rel_self fun c hc => ?_
    exact ⟨rfl, h.token t ht c hc⟩
  entries := rfl
  debug := rfl
  level _ := rfl

theorem slot_self (s : Slot) : s.Alike (.mirror o n) s := by
  cases s with
  | known v => exact .known (value_self v)
  | busy => exact .busy

theorem keys_self {ks : List (Value × Slot)} (h : ∀ e ∈ ks, e.2 ≠ .busy) :
    List.Forall₂ (KeyRel (.mirror o n)) ks ks :=
  List.forall₂_same.2 fun e he => ⟨value_self _, slot_self _, h e he⟩

theorem cell_self (c : NodeCell) : c.Alike (.mirror o n) c := by
  cases c with
  | leaf rule text pos => exact .leaf trivial text pos
  | inner rule vs => exact .inner trivial (values_self vs)

theorem stream_self {s : Stream} (h : ∀ e ∈ s.env?, o e ∧ e < n) : s.Alike (.mirror o n) s := by
  cases s with
  | waiting e =>
    have he : (Link.mirror o n).same .frame e e := ⟨rfl, h e rfl⟩
    exact .waiting he
  | walking e block next =>
    have he : (Link.mirror o n).same .frame e e := ⟨rfl, h e rfl⟩
    exact .walking he rfl next
  | busy => exact .busy
  | ended => exact .ended

theorem var_self (d : VarDef) : d.Alike (.mirror o n) d := by
  cases d with
  | expr s body => exact .expr rfl (value_self body) (.loose trivial)
  | value v => exact .value (value_self v)

theorem callee_self (c : Callee) : c.Alike (.mirror o n) c := by
  cases c with
  | builtin f => exact .builtin f
  | deferred s body => exact .deferred rfl (value_self body) (.loose trivial)
  | value v => exact .value (value_self v)

theorem mod_self (d : ModDef) : d.Alike (.mirror o n) d := by
  cases d with
  | builtin m => exact .builtin m
  | module name params body =>
    exact .module name (Params.alike_self (mirror_exact o n) _ (.inl fun _ => trivial)) rfl rfl
  | value v => exact .value (value_self v)

/-! ## What is alike is equal -/

theorem keys_eq {ks ks' : List (Value × Slot)} (h : List.Forall₂ (KeyRel (.mirror o n)) ks ks') :
    ks = ks' ∧ ∀ e ∈ ks, e.2 ≠ .busy := by
  induction h with
  | nil => exact ⟨rfl, by simp⟩
  | @cons k k' _ _ hk _ ih =>
    have hkey := hk.key.eq (mirror_exact o n)
    have hslot : k.2 = k'.2 := by
      obtain ⟨_, s⟩ := k
      obtain ⟨_, s'⟩ := k'
      cases hk.slot with
      | known hv => exact congrArg Slot.known (hv.eq (mirror_exact o n))
      | busy => rfl
    refine ⟨by rw [Prod.ext hkey hslot, ih.1], fun e he => ?_⟩
    rcases List.mem_cons.1 he with rfl | he
    · exact hk.idle
    · exact ih.2 e he

theorem stream_eq {s t : Stream} (h : s.Alike (.mirror o n) t) :
    s = t ∧ ∀ e ∈ s.env?, o e ∧ e < n := by
  cases h with
  | waiting h =>
    refine ⟨congrArg _ h.1, fun e he => ?_⟩
    cases he
    exact h.2
  | walking h hs next =>
    obtain ⟨rfl, he⟩ := h
    cases hs
    refine ⟨rfl, fun e he' => ?_⟩
    cases he'
    exact he
  | busy | ended =>
    refine ⟨rfl, fun e he => ?_⟩
    cases he

/-- Environments with the same caller, table, level and trace that are alike are equal. -/
theorem frame_eq (h : f.Alike (.mirror o n) g) (hc : f.caller = g.caller) (ht : f.table = g.table)
    (hl : f.level = g.level) (htr : f.traced = g.traced) (hn : f.nextTrace = g.nextTrace) :
    f = g := by
  have place : f.scope = g.scope := h.place
  have child := option_eq h.child fun _ _ h => h.eq (mirror_exact o n)
  have childFrame := option_eq h.childFrame fun _ _ h => h.1
  have results := h.childResults.eq (mirror_exact o n)
  have token := option_eq h.token fun _ _ h => option_eq h fun _ _ h => h.1
  have entries := h.entries
  have debug := h.debug
  cases f
  cases g
  simp only at place child childFrame results token entries debug hc ht hl htr hn
  simp only [Frame.mk.injEq]
  exact ⟨place, hc, ht, child, childFrame, results, token, entries, hl, debug, htr, hn⟩

/-! ## What is written -/

theorem ok_outcome {A : Link → α → α → Prop} {w : World} {x y : α} (hs : w.SoundFrom B)
    (hr : l.Restored w) (hp : l.Footprint B w) (h : A (.mirror B.own w.frames.size) x y) :
    (mirror B).Outcome (.mirror B.own l.frames.size) l A (.ok x w) (.ok y w) := by
  have hw : (mirror B).agree (.mirror B.own w.frames.size) w w := ⟨rfl, rfl, hs⟩
  have hk : (mirror B).keeps l w := ⟨hr, hp⟩
  exact .ok (mirror_mono hr.count) hk hw h

/-- What is neither an environment nor a value known in one may change. -/
theorem aside_outcome {A : Link → α → α → Prop} {w : World} {x y : α} (hs : l.SoundFrom B)
    (hf : w.frames = l.frames) (ht : w.tables = l.tables) (hr : w.streams = l.streams)
    (hc : w.current = l.current) (hp : w.passes = l.passes)
    (h : A (.mirror B.own w.frames.size) x y) :
    (mirror B).Outcome (.mirror B.own l.frames.size) l A (.ok x w) (.ok y w) :=
  ok_outcome (hs.of_eq hf ht hr hc) (.of_eq hf ht hc hp) (.of_eq ht) h

theorem sim_aside {A : Link → α → α → Prop} {f : World → α × World}
    (hf : ∀ w, (f w).2.frames = w.frames ∧ (f w).2.tables = w.tables ∧
      (f w).2.streams = w.streams ∧ (f w).2.current = w.current ∧ (f w).2.passes = w.passes)
    (h : ∀ n w, A (.mirror B.own n) (f w).1 (f w).1) :
      (mirror B).Sim κ A (modifyGet f) (modifyGet f) := by
  rintro l _ ⟨rfl, rfl, hs⟩
  obtain ⟨hframes, htables, hstreams, hcurrent, hpasses⟩ := hf l
  exact aside_outcome hs hframes htables hstreams hcurrent hpasses (h _ l)

theorem sim_newList (h : Values.Alike κ vs ws) : (mirror B).Alike κ (newList vs) (newList ws) := by
  rintro l _ ⟨rfl, rfl, hs⟩
  cases Values.Alike.eq (mirror_exact _ _) h
  exact aside_outcome hs rfl rfl rfl rfl rfl (.list rfl)

theorem sim_setList {a b : Nat} (hab : κ.same .list a b) (h : Values.Alike κ vs ws) :
    (mirror B).Same κ (setList a vs) (setList b ws) := by
  rintro l _ ⟨rfl, rfl, hs⟩
  cases Values.Alike.eq (mirror_exact _ _) h
  obtain rfl := hab
  exact aside_outcome hs rfl rfl rfl rfl rfl rfl

theorem sim_setNodeChildren {a b : Nat} (hab : κ.same .node a b) (h : Values.Alike κ vs ws) :
    (mirror B).Same κ (setNodeChildren a vs) (setNodeChildren b ws) := by
  rintro l _ ⟨rfl, rfl, hs⟩
  cases Values.Alike.eq (mirror_exact _ _) h
  obtain rfl := hab
  unfold setNodeChildren
  rw [bind_of_ok (rfl : nodeCell a l = .ok (l.nodes.getD a default) l)]
  cases l.nodes.getD a default with
  | leaf => exact .pure ⟨rfl, rfl, hs⟩ rfl
  | inner => exact aside_outcome hs rfl rfl rfl rfl rfl rfl

theorem sim_newStream (h : κ.same .frame a b) : (mirror B).Alike κ (newStream a) (newStream b) := by
  rintro l _ ⟨rfl, rfl, hs⟩
  obtain ⟨rfl, ha⟩ := h
  have hnew : ∀ i, ∀ e ∈ ((l.streams.push (.waiting a)).getD i .ended).env?,
      B.own e ∧ e < l.frames.size := by
    intro i e he
    rw [getD_push_eq] at he
    split at he
    · cases he
      exact ha
    · exact ⟨hs.runs i e he, hs.streams i e he⟩
  exact ok_outcome { hs with
    streams := fun i e he => (hnew i e he).2
    runs := fun i e he => (hnew i e he).1 } (.of_eq rfl rfl rfl rfl) (.of_eq rfl) (.pending rfl)

theorem sim_setStream {i j : Nat} {s t : Stream} (hij : κ.same .stream i j) (h : s.Alike κ t) :
    (mirror B).Same κ (setStream i s) (setStream j t) := by
  rintro l _ ⟨rfl, rfl, hs⟩
  obtain ⟨rfl, he⟩ := stream_eq h
  obtain rfl := hij
  have hset : ∀ k, ∀ e ∈ ((l.streams.setIfInBounds i s).getD k .ended).env?,
      B.own e ∧ e < l.frames.size := by
    intro k e hk
    rw [getD_eq_getD_getElem?, getElem?_setIfInBounds] at hk
    split at hk
    · split at hk
      · exact he e hk
      · cases hk
    · rw [← getD_eq_getD_getElem?] at hk
      exact ⟨hs.runs k e hk, hs.streams k e hk⟩
  exact ok_outcome { hs with
    streams := fun k e hk => (hset k e hk).2
    runs := fun k e hk => (hset k e hk).1 } (.of_eq rfl rfl rfl rfl) (.of_eq rfl) rfl

theorem apart_new (hf : f.childFrame = none)
    (ht : B.ownTable f.table) : f.Apart B l.frames.size where
  children _ c hc := by
    rw [hf] at hc
    cases hc
  own _ := ht

theorem new_self (hs : l.SoundFrom B) :
    l.frames.size = l.frames.size ∧ B.own l.frames.size ∧ l.frames.size < l.frames.size + 1 :=
  ⟨rfl, B.later hs.count, Nat.lt_succ_self _⟩

theorem sim_newFrame {s t : ScopeId} (hst : κ.same .place s t)
    (h : κ.same .frame a b ∨ κ.same .origin a b) :
    (mirror B).Sim κ (fun κ' e f => κ'.same .frame e f ∧ κ'.same .own e f ∧
      (κ.same .work s t → κ'.same .builder e f)) (newFrame s a) (newFrame t b) := by
  rintro l _ ⟨rfl, rfl, hs⟩
  obtain ⟨rfl, ha⟩ : a = b ∧ a < l.frames.size :=
    h.elim (fun h => ⟨h.1, h.2.2⟩) fun h => ⟨h.1, hs.lt_size h.2⟩
  obtain rfl := hst
  have htables : ∀ i, (l.tables.push {}).getD i {} = l.tables.getD i {} := by
    intro i
    rw [getD_push_eq]
    split
    · rename_i hi
      rw [hi, getD_eq_getD_getElem?, getElem?_eq_none (Nat.le_refl _)]
      rfl
    · rfl
  have hsize : l.tables.size < (l.tables.push {}).size := by
    rw [size_push]
    exact Nat.lt_succ_self _
  refine ok_outcome (hs.pushFrame (Nat.le_of_lt hsize) (fun i => htables i ▸ hs.tables i) ?_ ?_)
    (.pushFrame l (Nat.le_of_lt hsize) rfl fun i _ h => htables i ▸ h)
    (.of_entries fun i name _ => congrArg (·.named.find? name) (htables i)) ?_
  · refine Frame.sound_new (fun c hc => ?_) hsize rfl rfl rfl
    cases hc
    exact ha
  · exact apart_new rfl (B.laterTable hs.tableCount)
  · have hself := new_self hs
    dsimp only
    rw [size_push]
    exact ⟨hself, hself, fun _ => hself⟩

theorem sim_sharedFrame {x y : Option ScopeId} (h : κ.same .frame a b)
    (hxy : Option.Rel (κ.same .scope) x y) : (mirror B).Sim κ (fun κ' e f => κ'.same .frame e f ∧
      ((∀ a b, x = some a → y = some b → κ.same .cycle a b) → κ'.same .loop e f))
      (sharedFrame a (x.map Value.scope)) (sharedFrame b (y.map Value.scope)) := by
  rintro l _ ⟨rfl, rfl, hs⟩
  obtain ⟨rfl, ha⟩ := h
  cases option_eq hxy fun _ _ h => h
  refine ok_outcome (hs.pushFrame (Nat.le_refl _) hs.tables ?_ ?_)
    (.pushFrame l (Nat.le_refl _) rfl fun _ _ h => h) (.of_eq rfl) ?_
  · refine Frame.sound_new (fun c hc => ?_) (hs.frames a ha.2).table rfl rfl rfl
    cases hc
    exact ha.2
  · exact apart_new rfl ((hs.apart a ha.2).own ha.1)
  · have hself := new_self hs
    dsimp only
    rw [size_push]
    exact ⟨hself, fun _ => hself⟩

theorem child_self (hg : g.Alike (.mirror o n) g) (c : FrameId) (hc : c ∈ g.childFrame) :
    o c ∧ c < n := by
  have hrel := hg.childFrame
  rw [hc] at hrel
  cases hrel with
  | some hrel => exact hrel.2

theorem frame_sound (h : f.Sound n t) (hg : g.Alike (.mirror o n) g) (hr : f.Restored g)
    (hc : g.caller = f.caller) : g.Sound n t where
  caller c h' := h.caller c (hc ▸ h')
  childFrame c h' := (child_self hg c h').2
  token := hr.token ▸ h.token
  table := hr.table ▸ h.table
  entries := by
    rw [hr.token, hr.entries]
    exact h.entries

theorem sim_modifyFrame {F G : Frame → Frame} (hF : Frame.Rests F) (hG : Frame.Rests G)
    (h : κ.same .frame a b) (hFG : ∀ f g, f.Alike κ g → (F f).Alike κ (G g)) :
    (mirror B).Same κ (modifyFrame a F) (modifyFrame b G) := by
  rintro l _ ⟨rfl, rfl, hs⟩
  obtain ⟨rfl, hge, ha⟩ := h
  have hf := hs.frames a ha
  have hA := hs.apart a ha
  have halike := hFG _ _ (frame_self hf hA hge)
  have heq : F (l.frameAt a) = G (l.frameAt a) := by
    refine frame_eq halike ?_ ?_ ?_ ?_ ?_
    · rw [hF.caller, hG.caller]
    · rw [hF.table, hG.table]
    · rw [hF.level, hG.level]
    · rw [hF.traced, hG.traced]
    · rw [hF.nextTrace, hG.nextTrace]
  have hw : l.frames.modify a G = l.frames.modify a F := modify_congr (d := default) heq.symm
  have hself : (F (l.frameAt a)).Alike _ (F (l.frameAt a)) := heq.symm ▸ halike
  have hsound := frame_sound hf hself (hF.restored _) (hF.caller _)
  change (mirror B).Outcome _ l _ (.ok () { l with frames := l.frames.modify a F })
    (.ok () { l with frames := l.frames.modify a G })
  rw [hw]
  refine ok_outcome (hs.modifyFrame (fun _ => hsound) fun _ => ?_)
    (.modifyFrame l (hF.restored _)) (.of_eq rfl) rfl
  exact
    { children := fun _ c hc => (child_self hself c hc).1
      own := fun h => (hF.table _).symm ▸ hA.own h }

theorem sim_number {i j : Nat} (t : FrameId) (h : κ.same .ident i j) :
    (mirror B).Same κ (Trace.number t i) (Trace.number t j) := by
  rintro l _ ⟨rfl, rfl, hs⟩
  obtain rfl := h
  unfold Trace.number
  rw [bind_of_ok (rfl : frame t l = .ok (l.frames.getD t default) l)]
  cases (l.frames.getD t default).traced.lookup i with
  | some n => exact .pure ⟨rfl, rfl, hs⟩ rfl
  | none =>
    exact ok_outcome (A := fun _ => Eq) (hs.modifyFrame (fun ht => { hs.frames t ht with })
      fun ht => { hs.apart t ht with }) (.modifyFrame l ⟨rfl, rfl, rfl, rfl⟩) (.of_eq rfl) rfl

theorem sim_modifySlots {f : Slots → Slots} (h : κ.same .current a b)
    (hA : ∀ l, (mirror B).agree κ l l → ∀ (t : Slots) name,
      ¬B.Allows (l.frameAt a).table name → (f t).named.find? name = t.named.find? name)
    (hf : ∀ t : Slots, t.Sound → (f t).Sound)
    (hb : ∀ (t : Slots) name, t.Sound → (name, .busy) ∈ (f t).named → (name, .busy) ∈ t.named) :
    (mirror B).Same κ (modifySlots a f) (modifySlots b f) := by
  rintro l _ ⟨rfl, rfl, hs⟩
  obtain ⟨rfl, -⟩ := h
  exact ok_outcome (hs.modifyTable (hf _ (hs.tables _)))
    (.modifyTable l fun name => hb _ name (hs.tables _))
    (.modifyTable l fun name hn => hA l ⟨rfl, rfl, hs⟩ _ name hn) rfl

theorem mem_busy_put {t : Slots} {other : String} (ht : t.Sound)
    (h : (other, Slot.busy) ∈ t.named.put name (.known v)) :
    other ≠ name ∧ (other, Slot.busy) ∈ t.named := by
  rcases Table.mem_put_nodup ht.named h with ⟨_, h⟩ | h
  · cases h
  · exact h

theorem current_of_frame (hw : (mirror B).agree κ l r) (h : κ.same .frame a b) :
    κ.same .current a b := by
  obtain ⟨rfl, -⟩ := hw
  exact ⟨h.1, h.2.2⟩

theorem allows_of_frame (hw : (mirror B).agree κ l l) (h : κ.same .frame a b) (name : String) :
    B.Allows (l.frameAt a).table name := by
  obtain ⟨rfl, -, hs⟩ := hw
  exact hs.allows h.2.2 h.2.1 name

theorem sim_setValue {w : Value} (h : κ.same .frame a b) (hv : v.Alike κ w) :
    (mirror B).Same κ (setValue a name v) (setValue b name w) := by
  intro l r hw
  have hvw : v = w := by
    obtain ⟨rfl, -⟩ := hw
    exact hv.eq (mirror_exact _ _)
  subst hvw
  exact sim_modifySlots (current_of_frame hw h)
    (fun _ hw _ _ hn => absurd (allows_of_frame hw h _) hn) (fun _ ht => ht.put _ _)
    (fun _ _ ht hb => (mem_busy_put ht hb).2) l r hw

theorem sim_setKeyed {ks ks' : List (Value × Slot)} (h : κ.same .current a b)
    (hk : List.Forall₂ (KeyRel κ) ks ks') :
    (mirror B).Same κ (modifySlots a fun t => { t with keyed := ks })
      (modifySlots b fun t => { t with keyed := ks' }) := by
  intro l r hw
  have hks : ks = ks' ∧ ∀ e ∈ ks, e.2 ≠ .busy := by
    obtain ⟨rfl, -⟩ := hw
    exact keys_eq hk
  obtain ⟨rfl, hidle⟩ := hks
  have hsound : ∀ t : Slots, t.Sound → ({ t with keyed := ks } : Slots).Sound :=
    fun _ ht => ⟨ht.named, hidle⟩
  exact sim_modifySlots (f := fun t => { t with keyed := ks }) h (fun _ _ _ _ _ => rfl) hsound
    (fun _ _ _ hb => hb) l r hw

theorem sim_setVariable {m m' : Eval.Loop} {w : Value}
    (h : κ.same .cycle m.body m'.body) (hv : v.Alike κ w) :
    (mirror B).Same κ (m.setVariable name v) (m'.setVariable name w) := by
  rintro l _ ⟨rfl, rfl, hs⟩
  cases hv.eq (mirror_exact _ _)
  replace h : m.body = m'.body := h
  cases hx : Scope.setLoopVariable? l.scopes m.body name v with
  | none =>
    rw [Eval.Loop.setVariable_of_none hx, Eval.Loop.setVariable_of_none (h ▸ hx)]
    exact .throw ⟨rfl, rfl, hs⟩ (.plain rfl)
  | some xs =>
    rw [Eval.Loop.setVariable_of_some hx, Eval.Loop.setVariable_of_some (h ▸ hx)]
    exact aside_outcome hs rfl rfl rfl rfl rfl rfl

/-! ## What is undone -/

/-- A run in the middle of a change that its last step undoes. -/
theorem ensuring_outcome {w1 : World} {last : Run Unit} (hs : w1.SoundFrom B)
    (hn : w1.frames.size = l.frames.size) (ht1 : w1.tables = l.tables)
    (hm : (mirror B).Alike (.mirror B.own l.frames.size) m m') (ht : last.Total)
    (hback : ∀ w2 w3, w2.SoundFrom B → w1.Restored w2 → last w2 = .ok () w3 →
      w3.frames.size = w2.frames.size ∧ w3.tables = w2.tables ∧ w3.SoundFrom B ∧ l.Restored w3) :
    (mirror B).Outcome (.mirror B.own l.frames.size) l Value.Alike (ensuring m last w1)
      (ensuring m' last w1) := by
  have hw1 : (mirror B).agree (.mirror B.own l.frames.size) w1 w1 := ⟨by rw [hn], rfl, hs⟩
  have ho := hm w1 w1 hw1
  have hend {w2 : World} (hs2 : w2.SoundFrom B) (hk : (mirror B).keeps w1 w2) : ∃ w3,
      last w2 = .ok () w3 ∧ (mirror B).keeps l w3 ∧
        (mirror B).agree (.mirror B.own w2.frames.size) w3 w3 := by
    obtain ⟨w3, hlast⟩ := ht w2
    obtain ⟨hsize, ht3, hs3, hr⟩ := hback w2 w3 hs2 hk.1 hlast
    have hk3 : (mirror B).keeps l w3 := ⟨hr, .trans (.of_eq ht1) (hk.2.trans (.of_eq ht3))⟩
    exact ⟨w3, hlast, hk3, by rw [hsize], rfl, hs3⟩
  unfold ensuring
  generalize m w1 = x at ho ⊢
  generalize m' w1 = y at ho ⊢
  cases ho with
  | left h => exact h.elim
  | right h => exact h.elim
  | @ok _ le w2 _ hk hw _ _ h =>
    obtain ⟨rfl, rfl, hs2⟩ := hw
    obtain ⟨w3, hlast, hk3, hw3⟩ := hend hs2 hk
    dsimp only
    rw [bind_of_ok hlast, bind_of_ok hlast]
    exact .ok le hk3 hw3 h
  | @error _ le w2 _ hk hw _ _ h =>
    obtain ⟨rfl, rfl, hs2⟩ := hw
    obtain ⟨w3, hlast, hk3, hw3⟩ := hend hs2 hk
    dsimp only
    rw [bind_of_ok hlast, bind_of_ok hlast]
    exact .error le hk3 hw3 h

theorem sim_raised (h : κ.same .current a b) (hm : ∀ {κ'} [κ.Next κ'], (mirror B).Alike κ' m m') :
    (mirror B).Alike κ (raised a m) (raised b m') := by
  rintro l _ ⟨rfl, rfl, hs⟩
  obtain ⟨rfl, ha⟩ := h
  refine ensuring_outcome (hs.modifyFrame (fun _ => { hs.frames a ha with })
    fun _ => { hs.apart a ha with }) size_modify rfl (@hm _ ⟨le_rfl⟩)
    (Correspondence.total_modifyFrame _ _) ?_
  intro w2 w3 hs2 hr hlast
  cases hlast
  refine ⟨size_modify, rfl, hs2.modifyFrame (fun ha2 => { hs2.frames a ha2 with })
    fun ha2 => { hs2.apart a ha2 with }, ?_⟩
  refine .around (F := fun f => { f with level := f.level + 1 })
    (G := fun f => { f with level := f.level - 1 }) ha hr rfl rfl rfl rfl ?_ hr.current hr.passes
  intro h
  exact ⟨congrArg (· - 1) h.level, h.token, h.entries, h.table⟩

section

variable (hs : l.SoundFrom B) (ha : a < l.frames.size)

include hs ha

theorem sound_entered :
    (l.entered a).SoundFrom B := by
  have hF : a < l.frames.size → Frame.Sound l.frames.size l.tables.size
      { l.frameAt a with token := some l.current } := fun _ =>
    { hs.frames a ha with
      token := fun t ht c hc => by
        cases ht
        exact hs.current c hc
      entries := fun h => by cases h }
  refine { hs.modifyFrame hF fun _ => { hs.apart a ha with } with current := fun c hc => ?_ }
  cases hc
  exact size_modify.symm ▸ ha

/-- Entered for the first time, an environment remembers which one was current. -/
theorem entered_outcome
    (ht : (l.frameAt a).token = none) (hm : (mirror B).Alike (.mirror B.own l.frames.size) m m') :
    (mirror B).Outcome (.mirror B.own l.frames.size) l Value.Alike
      (ensuring m (depart a) (l.entered a)) (ensuring m' (depart a) (l.entered a)) := by
  refine ensuring_outcome (sound_entered hs ha) size_modify rfl hm
    (Correspondence.total_depart a) ?_
  intro w2 w3 hs2 hr hlast
  have hat : (l.entered a).frameAt a = { l.frameAt a with token := some l.current } :=
    (l.frameAt_modify a a _).trans (if_pos ⟨rfl, ha⟩)
  have h2 := hr.frames a (size_modify.symm ▸ ha)
  rw [hat] at h2
  have hcount : l.frames.size ≤ w2.frames.size := size_modify ▸ hr.count
  have hentries : (w2.frameAt a).entries = 0 := h2.entries.trans ((hs.frames a ha).entries ht)
  rw [depart_of_token h2.token hentries] at hlast
  cases hlast
  refine ⟨size_modify, rfl, ?_, ?_⟩
  · have hF : a < w2.frames.size → Frame.Sound w2.frames.size w2.tables.size
        { w2.frameAt a with token := none } := fun ha2 =>
      { hs2.frames a ha2 with
        token := fun t ht => by cases ht
        entries := fun _ => hentries }
    refine { hs2.modifyFrame hF fun ha2 => { hs2.apart a ha2 with } with
      current := fun c hc => ?_ }
    exact size_modify.symm ▸ Nat.lt_of_lt_of_le (hs.current c hc) hcount
  · refine .around (F := fun f => { f with token := some l.current })
      (G := fun f => { f with token := none }) ha hr rfl rfl rfl rfl ?_ rfl hr.passes
    intro h
    exact ⟨h.level, ht.symm, h.entries, h.table⟩

/-- Entered again, an environment counts how often. -/
theorem entered_again_outcome {t : Option FrameId} (ht : (l.frameAt a).token = some t)
    (hm : (mirror B).Alike (.mirror B.own l.frames.size) m m') :
    (mirror B).Outcome (.mirror B.own l.frames.size) l Value.Alike (ensuring m (depart a) { l with
        frames := l.frames.modify a fun f => { f with entries := f.entries + 1 } })
      (ensuring m' (depart a) { l with
        frames := l.frames.modify a fun f => { f with entries := f.entries + 1 } }) := by
  have hF : a < l.frames.size → Frame.Sound l.frames.size l.tables.size
      { l.frameAt a with entries := (l.frameAt a).entries + 1 } := fun _ =>
    { hs.frames a ha with entries := fun h => by cases ht.symm.trans h }
  refine ensuring_outcome (hs.modifyFrame hF fun _ => { hs.apart a ha with }) size_modify rfl
    hm (Correspondence.total_depart a) ?_
  intro w2 w3 hs2 hr hlast
  have h2 := hr.frames a (size_modify.symm ▸ ha)
  rw [World.frameAt_modify, if_pos ⟨rfl, ha⟩] at h2
  have hentries : (w2.frameAt a).entries = (l.frameAt a).entries + 1 := h2.entries
  have htoken : (w2.frameAt a).token = some t := h2.token.trans ht
  rw [depart_of_entries (hentries ▸ Nat.succ_ne_zero _)] at hlast
  cases hlast
  refine ⟨size_modify, rfl, hs2.modifyFrame (fun ha2 => ?_) fun ha2 => ?_, ?_⟩
  · exact { hs2.frames a ha2 with entries := fun h => by cases htoken.symm.trans h }
  · exact { hs2.apart a ha2 with }
  · refine .around (F := fun f => { f with entries := f.entries + 1 })
      (G := fun f => { f with entries := f.entries - 1 }) ha hr rfl rfl rfl rfl ?_
        hr.current hr.passes
    intro h
    exact ⟨h.level, h.token, congrArg (· - 1) h.entries, h.table⟩

end

theorem sim_within (h : κ.same .current a b) (hm : ∀ {κ'} [κ.Next κ'], (mirror B).Alike κ' m m') :
    (mirror B).Alike κ (within a m) (within b m') := by
  rintro l _ ⟨rfl, rfl, hs⟩
  obtain ⟨rfl, ha⟩ := h
  unfold within
  cases ht : (l.frameAt a).token with
  | none =>
    have henter := enter_of_none ht
    rw [bind_of_ok henter, bind_of_ok henter]
    exact entered_outcome hs ha ht (@hm _ ⟨le_rfl⟩)
  | some t =>
    by_cases hc : l.current = some a
    · have henter := enter_of_current ht hc
      rw [bind_of_ok henter, bind_of_ok henter]
      exact entered_again_outcome hs ha ht (@hm _ ⟨le_rfl⟩)
    · obtain ⟨e, he, henter⟩ := enter_of_other ht hc
      rw [bind_of_error henter, bind_of_error henter]
      exact .throw ⟨rfl, rfl, hs⟩ (.plain he)

section

variable (hs : l.SoundFrom B) (ha : a < l.frames.size) (hn : B.Allows (l.frameAt a).table name)

include hs ha hn

/-- The mark is gone when something else stands in its place, or nothing. -/
theorem settled {w2 w3 : World} {g : Slots → Slots}
    (hr : (mirror B).keeps (l.computing a name) w2) (hs2 : w2.SoundFrom B)
    (hg : ∀ t : Slots, t.Sound → (g t).Sound)
    (hother : ∀ (t : Slots) other, other ≠ name → (g t).named.find? other = t.named.find? other)
    (hb : ∀ (t : Slots) other, t.Sound → (other, .busy) ∈ (g t).named →
      other ≠ name ∧ (other, .busy) ∈ t.named) (hlast : modifySlots a g w2 = .ok () w3) :
    (mirror B).agree (.mirror B.own w2.frames.size) w3 w3 ∧ (mirror B).keeps l w3 := by
  have htable : (w2.frameAt a).table = (l.frameAt a).table := (hr.1.frames a ha).table
  have heq : modifySlots a g w2 = .ok () { w2 with
      tables := w2.tables.modify (l.frameAt a).table g } := htable ▸ rfl
  cases heq.symm.trans hlast
  refine ⟨⟨rfl, rfl, hs2.modifyTable (hg _ (hs2.tables _))⟩, ?_, ?_⟩
  · refine .aroundTable (hs.frames a ha).table hr.1 fun other hmem hback => ?_
    obtain ⟨hne, hmem⟩ := hb _ other (hs2.tables _) hmem
    rcases Table.mem_put_nodup (hs.tables _).named (hback hmem) with h | h
    · exact absurd h.1 hne
    · exact h.2
  · have hne : ∀ other, ¬B.Allows (l.frameAt a).table other → other ≠ name := by
      rintro other ho rfl
      exact ho hn
    refine .trans (.modifyTable l fun other ho => ?_)
      (hr.2.trans (.modifyTable w2 fun other ho => ?_))
    · exact Table.find?_put_ne (hne other ho) _ _
    · exact hother _ other (hne other ho)

theorem computed_outcome
    (hm : (mirror B).Alike (.mirror B.own l.frames.size) m m') :
    (mirror B).Outcome (.mirror B.own l.frames.size) l Value.Alike (computed a name m l)
      (computed a name m' l) := by
  have hs1 : (l.computing a name).SoundFrom B := hs.modifyTable ((hs.tables _).put name .busy)
  have hagree : (mirror B).agree (.mirror B.own l.frames.size) (l.computing a name)
    (l.computing a name) :=
    ⟨rfl, rfl, hs1⟩
  have ho := hm _ _ hagree
  have hbusy : setSlot a name .busy l = .ok () (l.computing a name) := rfl
  unfold computed
  rw [bind_of_ok hbusy, bind_of_ok hbusy]
  generalize hx : m (l.computing a name) = x at ho
  generalize hy : m' (l.computing a name) = y at ho
  cases ho with
  | left h => exact h.elim
  | right h => exact h.elim
  | @ok _ le w2 _ hk hw v _ h =>
    obtain ⟨rfl, rfl, hs2⟩ := hw
    cases h.eq (mirror_exact _ _)
    rw [bind_of_ok (orUndo_of_ok hx), bind_of_ok (orUndo_of_ok hy)]
    obtain ⟨hw3, hr⟩ := settled hs ha hn hk hs2 (fun t ht => ht.put name (.known v))
      (fun _ _ ho => Table.find?_put_ne ho _ _) (fun t _ ht => mem_busy_put ht) rfl
    exact .ok le hr hw3 h
  | @error _ le w2 _ hk hw _ _ h =>
    obtain ⟨rfl, rfl, hs2⟩ := hw
    have hundo : clearSlot a name w2 = .ok () _ := rfl
    rw [bind_of_error (orUndo_of_error hx hundo),
      bind_of_error (orUndo_of_error hy hundo)]
    obtain ⟨hw3, hr⟩ := settled hs ha hn hk hs2 (fun t ht => ht.remove name)
      (fun _ _ ho => Table.find?_remove_ne ho _) (fun t _ ht => Table.mem_remove ht.named) rfl
    exact .error le hr hw3 h

end

/-! ## Whole runs -/

theorem asked_self (h : a < n) : (Link.mirror o n).same .frame a a ∨
    (Link.mirror o n).same .origin a a := by
  by_cases ho : o a
  · exact .inl ⟨rfl, ho, h⟩
  · exact .inr ⟨rfl, ho⟩

theorem lawful : (mirror B).Lawful where
  unique := by
    rintro κ l _ k a b a' b' ⟨rfl, rfl, -⟩ hk h h'
    cases k with
    | frame => rw [h.1, h'.1]
    | list | node | ident | stream | scope => rw [show a = b from h, show a' = b' from h']
    | _ => cases hk
  link := by
    rintro κ l _ ⟨rfl, rfl, -⟩
    exact (mirror_exact _ _).lawful fun _ h => h
  own_or_origin := by
    rintro κ l _ a b ⟨rfl, rfl, -⟩ h
    exact .inl h
  asked_of_current := by
    rintro κ l _ a b ⟨rfl, rfl, -⟩ ⟨rfl, ha⟩
    exact asked_self ha
  loop_of_tree := by
    rintro κ l _ _ _ _ ⟨rfl, rfl, -⟩ _ _ _ h
    exact h
  loop_of_rule := by
    rintro κ l _ _ _ _ ⟨rfl, rfl, -⟩ _ _ _ h
    exact h
  fit_work := by
    rintro κ l _ _ _ _ ⟨rfl, rfl, -⟩ _ _
    exact .loose trivial
  lists := by
    rintro κ l _ a _ ⟨rfl, rfl, -⟩ rfl
    exact values_self _
  nodes := by
    rintro κ l _ a _ ⟨rfl, rfl, -⟩ rfl
    exact cell_self _
  streams := by
    rintro κ l _ a _ ⟨rfl, rfl, hs⟩ rfl
    exact stream_self fun e he => ⟨hs.runs a e he, hs.streams a e he⟩
  kinds := by
    rintro κ l _ a _ ⟨rfl, rfl, -⟩ rfl
    rfl
  works := by
    rintro κ l _ a _ ⟨rfl, rfl, -⟩ rfl
    exact values_self _
  branches := by
    rintro κ l _ a _ ⟨rfl, rfl, -⟩ _ rfl
    exact option_rel_self fun _ _ => ⟨rfl, option_rel_self fun _ _ => rfl⟩
  vars := by
    rintro κ l _ a _ ⟨rfl, rfl, -⟩ rfl name
    exact option_rel_self fun x _ => var_self x
  funcs := by
    rintro κ l _ a _ ⟨rfl, rfl, -⟩ rfl name
    exact option_rel_self fun x _ => callee_self x
  mods := by
    rintro κ l _ a _ ⟨rfl, rfl, -⟩ _ rfl name
    exact option_rel_self fun x _ => mod_self x
  frames := by
    rintro κ l _ a b ⟨rfl, rfl, hs⟩ ⟨rfl, hge, ha⟩
    exact frame_self (hs.frames a ha) (hs.apart a ha) hge
  callers := by
    rintro κ l _ a b ⟨rfl, rfl, hs⟩ ⟨rfl, -, ha⟩ _
    exact option_rel_self fun c hc => asked_self ((hs.frames a ha).caller c hc)
  named := by
    rintro κ l _ a b name ⟨rfl, rfl, -⟩ h
    obtain ⟨rfl, -⟩ := h.resolve_right fun h => h.1
    exact option_rel_self fun x _ => slot_self x
  keyed := by
    rintro κ l _ a b ⟨rfl, rfl, hs⟩ ⟨rfl, -⟩
    exact keys_self (hs.tables _).keyed
  extruded := by
    rintro κ l _ a b ⟨rfl, rfl, -⟩ ⟨rfl, -⟩
    exact option_rel_self fun x _ => slot_self x
  builders := by
    rintro κ l _ a b ⟨rfl, rfl, -⟩ ⟨rfl, -⟩ _
    rfl
  loops := by
    rintro κ l _ a b x y ⟨rfl, rfl, -⟩ ⟨rfl, -⟩ _ hx hy
    cases hx.symm.trans hy
    rfl
  current := by
    rintro κ l _ ⟨rfl, rfl, hs⟩
    exact option_rel_self fun c hc => ⟨rfl, hs.current c hc⟩
  tracer := by
    rintro κ l _ ⟨rfl, rfl, -⟩
    exact option_rel_self fun t _ _ _ _ _ h l r hw => sim_number t h l r hw
  newIdent := sim_aside (fun _ => ⟨rfl, rfl, rfl, rfl, rfl⟩) fun _ _ => rfl
  print _ := sim_aside (fun _ => ⟨rfl, rfl, rfl, rfl, rfl⟩) fun _ _ => rfl
  warn _ := sim_aside (fun _ => ⟨rfl, rfl, rfl, rfl, rfl⟩) fun _ _ => rfl
  newList := sim_newList
  setList := sim_setList
  setNodeChildren := sim_setNodeChildren
  newStream := sim_newStream
  setStream := sim_setStream
  newFrame := sim_newFrame
  sharedFrame := sim_sharedFrame
  modifyFrame := sim_modifyFrame
  setValue h _ hv := sim_setValue h hv
  setKeyed h _ hk l r hw := sim_setKeyed (current_of_frame hw h) hk l r hw
  assign h _ hv := sim_setValue h hv
  setVariable h _ hv := sim_setVariable h hv
  raised h hm l r hw := sim_raised (current_of_frame hw h) hm l r hw
  within h hm l r hw := sim_within (current_of_frame hw h) hm l r hw
  computed := by
    rintro κ a b name m m' h _ hm l _ ⟨rfl, rfl, hs⟩
    obtain ⟨rfl, hge, ha⟩ := h
    exact computed_outcome hs ha (hs.allows ha hge name) (@hm _ ⟨le_rfl⟩)

theorem isOpen : (mirror B).Open where
  frame := by
    rintro κ l _ k a b ⟨rfl, rfl, -⟩ hk h
    simp only [List.mem_cons, List.not_mem_nil, or_false] at hk
    rcases hk with rfl | rfl | rfl | rfl <;> exact h
  word := by
    rintro κ l _ ⟨rfl, rfl, -⟩ _
    trivial
  loose := by
    rintro κ l _ ⟨rfl, rfl, -⟩
    trivial

/-! ## Asking what was there before -/

theorem lt_of_origin (hw : (mirror B).agree κ l r) (h : κ.same .origin a b) :
    κ.same .current a b := by
  obtain ⟨rfl, rfl, hs⟩ := hw
  exact ⟨h.1, hs.lt_size h.2⟩

theorem sim_frame_origin (h : κ.same .origin a b) :
    (mirror B).Sim κ (fun κ' f g => κ'.same .place f.scope g.scope ∧
      Option.Rel (fun c d => κ'.same .frame c d ∨ κ'.same .origin c d) f.caller g.caller)
      (frame a) (frame b) := by
  rintro l _ ⟨rfl, rfl, hs⟩
  obtain ⟨rfl, ha⟩ := h
  refine .pure ⟨rfl, rfl, hs⟩ ⟨rfl, option_rel_self fun c hc => asked_self ?_⟩
  exact (hs.frames a (hs.lt_size ha)).caller c hc

theorem childCount_outcome (a : FrameId) (l : World) :
    (∃ v, childCount a l = .ok v l) ∨ ∃ e, childCount a l = .error e l := by
  unfold childCount
  rw [frame_bind]
  cases (l.frameAt a).child with
  | none => exact .inl ⟨_, rfl⟩
  | some v =>
    cases v with
    | scope id => exact .inl ⟨_, rfl⟩
    | _ => exact .inr ⟨_, rfl⟩

theorem asked_origin (h : κ.same .origin a b) : (mirror B).Asked κ a b where
  seen := .inr h.up
  count {κ'} _ := by
    have ho : κ'.same .origin a b := h.up
    rintro l _ ⟨rfl, rfl, hs⟩
    obtain ⟨rfl, -⟩ := ho
    rcases childCount_outcome a l with ⟨v, hv⟩ | ⟨e, he⟩
    · rw [hv]
      exact .pure ⟨rfl, rfl, hs⟩ (value_self v)
    · rw [he]
      exact .throw ⟨rfl, rfl, hs⟩ (fault_self e)
  keyed {κ'} _ := by
    have ho : κ'.same .origin a b := h.up
    rintro l _ ⟨rfl, rfl, hs⟩
    obtain ⟨rfl, -⟩ := ho
    exact .pure ⟨rfl, rfl, hs⟩ (keys_self (hs.tables _).keyed)
  callers := (sim_frame_origin h.up).weaken fun h => h.2
  setKeyed hk l r hw := sim_setKeyed (lt_of_origin hw h.up) hk l r hw
  within hm l r hw := sim_within (lt_of_origin hw h.up) hm l r hw

/-- One more entry may change. -/
def freeing (B : Base) (i : TableId) {name : String} (h : isDynamicName name = true) : Base :=
  { B with
    free := fun j other => B.free j other ∨ j = i ∧ other = name
    dynamic := fun hf => hf.elim B.dynamic fun hf => hf.2 ▸ h }

section

variable {i : TableId} {hd : isDynamicName name = true}

theorem allows_freeing {j : TableId} {other : String} (h : ¬B.Allows j other)
    (hne : ¬(j = i ∧ other = name)) : ¬(freeing B i hd).Allows j other := by
  rintro (hj | hj | hj)
  · exact h (.inl hj)
  · exact h (.inr hj)
  · exact hne hj

theorem agree_freeing {r : World} : (mirror (freeing B i hd)).agree κ l r ↔
    (mirror B).agree κ l r :=
  ⟨fun h => ⟨h.1, h.2.1, { h.2.2 with apart := fun e he => { h.2.2.apart e he with } }⟩,
    fun h => ⟨h.1, h.2.1, { h.2.2 with apart := fun e he => { h.2.2.apart e he with } }⟩⟩

theorem footprint_freeing {w : World} (h : l.Footprint B w) : l.Footprint (freeing B i hd) w where
  kept hn := h.kept fun ha => hn (ha.imp_right .inl)
  plain hn := h.plain fun ha => hn (ha.imp_right .inl)

/-- A name that begins with `$` and was not known before may have become known. -/
theorem footprint_of_freeing {w : World} (h : l.Footprint (freeing B i hd) w)
    (hnew : l.entry i name = none) : l.Footprint B w where
  kept {j other v} hn hv := by
    refine h.kept (allows_freeing hn ?_) hv
    rintro ⟨rfl, rfl⟩
    cases hnew.symm.trans hv
  plain {j other} hn ho := by
    refine h.plain (allows_freeing hn ?_) ho
    rintro ⟨-, rfl⟩
    cases ho.symm.trans hd

end

/-- A name that begins with `$` is asked of what was there before. -/
theorem readVariable_origin (P : (mirror B).Performs p q) (hs : l.SoundFrom B) (ha : ¬B.own a)
    (hn : name ≠ "$children") (hd : isDynamicName name = true) :
    (mirror B).Outcome (.mirror B.own l.frames.size) l Value.Alike
      (readVariable p a name l) (readVariable q a name l) := by
  have hw : (mirror B).agree (.mirror B.own l.frames.size) l l := ⟨rfl, rfl, hs⟩
  have hslot : slot a name l = .ok (l.entry (l.frameAt a).table name) l := rfl
  unfold readVariable
  rw [if_neg hn, if_neg hn, bind_of_ok hslot, bind_of_ok hslot]
  cases hentry : l.entry (l.frameAt a).table name with
  | some s =>
    cases s with
    | known v => exact .pure ⟨rfl, rfl, hs⟩ (value_self v)
    | busy => exact .throw hw (.plain rfl)
  | none =>
    -- The name may be known by the time its definition is found, so its entry is set free.
    let B' := freeing B (l.frameAt a).table hd
    have P' : (mirror B').Performs p q := fun _ _ _ ht l r hw =>
      (P ht l r (agree_freeing.1 hw)).imp id id le_rfl
        (fun _ hk => ⟨hk.1, footprint_freeing hk.2⟩) agree_freeing.2 fun _ => id
    have horigin : (Link.mirror B.own l.frames.size).same .origin a a := ⟨rfl, ha⟩
    have hfind := lawful.sim_findDefinition P' hn
      ((sim_frame_origin (B := B') horigin).weaken fun h => ⟨h.1, fun _ => h.2⟩) l l
      (agree_freeing.2 hw)
    have ho : (mirror B').Outcome (.mirror B.own l.frames.size) l Value.Alike
        ((findDefinition p a name >>= fun d => computed a name (define p a d)) l)
        ((findDefinition q a name >>= fun d => computed a name (define q a d)) l) := by
      refine hfind.bindKept fun {κ' d d' w _} le hk hw' hdef => ?_
      obtain ⟨rfl, rfl, hs'⟩ := hw'
      have hlt := hs.lt_size ha
      have htable : (w.frameAt a).table = (l.frameAt a).table := (hk.1.frames a hlt).table
      refine computed_outcome hs' (Nat.lt_of_lt_of_le hlt hk.1.count)
        (htable ▸ .inr (.inr ⟨rfl, rfl⟩)) ?_
      exact lawful.sim_define_of_within P' (.inr horigin.up) (asked_origin horigin).within hdef
    exact ho.imp id id le_rfl (fun _ hk => ⟨hk.1, footprint_of_freeing hk.2 hentry⟩)
      agree_freeing.1 fun _ => id

theorem reads (P : (mirror B).Performs p q) : (mirror B).Reads p q where
  name := by
    rintro κ e f name h hn hd l _ ⟨rfl, rfl, hs⟩
    obtain ⟨rfl, he⟩ := h
    refine readVariable_origin P hs he hn ?_
    exact hd.resolve_right fun hf => he hf.1.2.1
  key h hv _ l r hw := lawful.sim_readKey P (asked_origin h) hv l r hw

theorem performs (n : Nat) : (mirror B).Performs (performWith n) (performWith n) := by
  have h := (lawful (B := B)).performs_watched isOpen.watches (fun _ _ P => reads P) n n
    (fun h => absurd h (Nat.lt_irrefl n)) fun h => absurd h (Nat.lt_irrefl n)
  rwa [watched_true] at h

/-- Whichever way a run ends, it leaves a sound world and its footprint in it. -/
theorem keeps_of_outcome {A : Link → α → α → Prop} {m : Run α} {w : World}
    {y : EStateM.Result Fault World α} (h : (mirror B).Outcome κ l A (m l) y) (hm : m.EndsIn l w) :
    w.SoundFrom B ∧ (mirror B).keeps l w := by
  rcases hm with ⟨a, hm⟩ | ⟨e, hm⟩
  · rw [hm] at h
    cases h with
    | right h => exact h.elim
    | ok _ hk hw _ => exact ⟨hw.2.2, hk⟩
  · rw [hm] at h
    cases h with
    | left h | right h => exact h.elim
    | error _ hk hw _ => exact ⟨hw.2.2, hk⟩

/-! ## Runs that leave nothing behind -/

/-- A run that leaves nothing behind, whether it ends well or not. -/
def Restores (κ : Link) (m : Run α) : Prop := (mirror .all).Same κ m m

namespace Restores

variable {β : Type}

theorem pure {x : α} : Restores κ (Pure.pure x) := Correspondence.Sim.pure rfl

theorem throw {e : Fault} : Restores κ (MonadExcept.throw e : Run α) := by
  rintro l _ ⟨rfl, rfl, hs⟩
  exact Correspondence.Sim.throw (fault_self e) l l ⟨rfl, rfl, hs⟩

theorem bind {m : Run α} {f : α → Run β} (h : Restores κ m)
    (hf : ∀ {κ'} [κ.Next κ'] x, Restores κ' (f x)) : Restores κ (m >>= f) :=
  Correspondence.Sim.bindEq h hf

theorem ite {c : Prop} [Decidable c] {m m' : Run α} (h : Restores κ m) (h' : Restores κ m') :
    Restores κ (if c then m else m') := by
  split
  · exact h
  · exact h'

theorem when {c : Prop} [Decidable c] {m : Run Unit} {f : Unit → Run α} (h : Restores κ m)
    (hf : ∀ {κ'} [κ.Next κ'], Restores κ' (f ())) : Restores κ (if c then m >>= f else f ()) :=
  ite (bind h fun _ => hf) (@hf _ ⟨le_rfl⟩)

theorem get {f : World → Run α} (hf : ∀ w, Restores κ (f w)) :
    Restores κ ((MonadState.get : Run World) >>= f) :=
  fun l r hw => by
    obtain rfl : l = r := hw.2.1
    exact hf l l l hw

theorem modify {f : World → World}
    (hf : ∀ w, (f w).frames = w.frames ∧ (f w).tables = w.tables ∧ (f w).streams = w.streams ∧
      (f w).current = w.current ∧ (f w).passes = w.passes) : Restores κ (modify f) :=
  sim_aside hf fun _ _ => rfl

theorem of_sim {A : Link → α → α → Prop} {m : Run α} (h : (mirror .all).Sim κ A m m)
    (hA : ∀ n x y, A (.mirror (0 ≤ ·) n) x y → x = y) : Restores κ m := by
  refine fun l r hw => (h l r hw).imp id id le_rfl (fun _ => id) id fun hw h => ?_
  obtain ⟨rfl, -⟩ := hw
  exact hA _ _ _ h

theorem of_alike {m : Run Value} (h : (mirror .all).Alike κ m m) : Restores κ m :=
  of_sim h fun _ _ _ h => h.eq (mirror_exact _ _)

theorem of_mirror {m : Run α} (h : ∀ n, Restores (.mirror (0 ≤ ·) n) m) : Restores κ m := by
  rintro l _ ⟨rfl, rfl, hs⟩
  exact h _ l l ⟨rfl, rfl, hs⟩

theorem of_frame {m : Run α} (h : κ.same .frame a a)
    (hm : ∀ n, (Link.mirror (0 ≤ ·) n).same .frame a a → Restores (.mirror (0 ≤ ·) n) m) :
      Restores κ m := by
  rintro l _ ⟨rfl, rfl, hs⟩
  exact hm _ h l l ⟨rfl, rfl, hs⟩

variable {m : Run α} {w w' : World}

theorem restored (h : Restores (.mirror (0 ≤ ·) w.frames.size) m) (hs : w.Sound)
    (hm : m.EndsIn w w') : w'.Sound ∧ w.Restored w' := by
  obtain ⟨hs', hk⟩ := keeps_of_outcome (h w w ⟨rfl, rfl, hs.from_all⟩) hm
  exact ⟨hs'.toSound, hk.1⟩

end Restores

variable {κ : Link}

/-! ## Declarations -/

theorem scope_restores : Restores κ (scope id) := .get fun _ => .pure

theorem modifyScope_restores {f : Scope → Scope} : Restores κ (modifyScope id f) :=
  .modify fun _ => ⟨rfl, rfl, rfl, rfl, rfl⟩

theorem warn_restores {text : String} : Restores κ (warn text) :=
  .modify fun _ => ⟨rfl, rfl, rfl, rfl, rfl⟩

theorem add_restores {warning : String} : Restores κ (add id name warning h) := by
  refine .bind (scope_restores.bind fun s => ?_) fun _ =>
    scope_restores.bind fun _ => .ite warn_restores modifyScope_restores
  split <;> exact .pure

theorem adopts : (mirror .all).Adopts where
  full := by
    rintro κ l _ ⟨rfl, rfl, -⟩
    exact mirror_full _
  newNode h := by
    rintro l _ ⟨rfl, rfl, hs⟩
    cases cell_eq h
    exact aside_outcome hs rfl rfl rfl rfl rfl (.node rfl)

theorem declare_still (scope : ScopeId) (t : Tree) (w : World) :
    (worldOf (declare scope t w)).dynamic = w.dynamic :=
  (Declare.declareWith_twins _ scope t w []).2

theorem declare_restores {scope : ScopeId} {t : Tree} : Restores κ (declare scope t) := by
  rintro l _ ⟨rfl, rfl, hs⟩
  have hk := declare_still scope t l
  generalize declare scope t l = x at hk
  simp only [World.dynamic, Prod.mk.injEq] at hk
  obtain ⟨hf, ht, hr, hc, -, -, hp⟩ := hk
  cases x with
  | ok v w => exact aside_outcome hs hf ht hr hc hp rfl
  | error e w =>
    exact .error (C := mirror .all) (mirror_mono (Nat.le_of_eq (congrArg Array.size hf).symm))
      ⟨.of_eq hf ht hc hp, .of_eq ht⟩ ⟨rfl, rfl, hs.of_eq hf ht hr hc⟩ (fault_self e)

end Mirror

end Scad
