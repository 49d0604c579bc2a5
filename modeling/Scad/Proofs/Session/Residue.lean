import Scad.Proofs.Correspondence.Mirror
import Scad.Session.Step

/-!
What a step of a session leaves behind. Evaluation marks names that are being computed,
counts how deep it is, and makes environments current. Whatever a step does, and however it
ends, none of this is left when the next step begins.
-/

namespace Scad

open Environment

open Mirror (Restores)

namespace Mirror

variable {κ : Link} {α : Type}

/-! ## Values of the host -/

theorem itemAt_restores {kind : SequenceKind} {items : List α} {index : Value} :
    Restores κ (Value.itemAt kind items index) := by
  unfold Value.itemAt
  split
  · exact .throw
  · split
    · exact .pure
    · exact .throw

theorem parseText_restores {text : String} : Restores κ (parseText text) := by
  unfold parseText
  split
  · exact .pure
  · exact .throw
  · exact .throw

theorem findNode_restores {text rule : String} {nth : Int} : Restores κ (findNode text rule nth) :=
  adopts.sim_findNode

theorem freeze_restores {v : Value} : Restores κ v.freeze :=
  .of_mirror fun _ => lawful.sim_freeze (value_self v)

theorem enter_restores (d : Datum) {κ : Link} : Restores κ d.enter :=
  .of_alike (adopts.sim_enter lawful d)

theorem enterAll_restores (ds : List Datum) {κ : Link} : Restores κ (Datum.enterAll ds) :=
  .of_sim (adopts.sim_enterAll lawful ds) fun _ _ _ h => Values.Alike.eq (Link.mirror_exact _ _) h

theorem enterNamed_restores (ds : List (String × Datum)) {κ : Link} :
    Restores κ (Datum.enterNamed ds) :=
  .of_sim (adopts.sim_enterNamed lawful ds) fun _ _ _ h =>
    Entries.Alike.eq (Link.mirror_exact _ _) h

/-! ## Evaluation -/

section

variable {env : FrameId}

theorem perform_restores {t : Task} (h : κ.same .frame env env)
    (ht : ∀ n, (Link.mirror (0 ≤ ·) n).same .frame env env → t.Alike (.mirror (0 ≤ ·) n) t) :
    Restores κ (Eval.perform t) :=
  .of_frame h fun n hn => .of_alike (performs _ (ht n hn))

theorem frame_restores : Restores κ (Run.frame env) := .get fun _ => .pure

theorem scopeOf_restores : Restores κ (scopeOf env) :=
  frame_restores.bind fun _ => .pure

theorem workItem_restores {i : Int} : Restores κ (workItem env i) :=
  scopeOf_restores.bind fun _ => scope_restores.bind fun _ => itemAt_restores

theorem evalInside_restores {v : Value} {t : Tree} (h : κ.same .frame env env) :
    Restores κ (evalInside env v t) := by
  unfold evalInside
  split
  · refine .of_frame h fun n hn => .of_alike ?_
    have hplace : ∀ s : ScopeId, (Link.mirror (0 ≤ ·) n).same .place s s := fun _ => rfl
    exact (lawful.newFrame (hplace _) (.inl hn)).bind fun hf =>
      performs _ (.eval hf.1 (Value.Alike.up (κ := .mirror (0 ≤ ·) n) (value_self _))
        (.loose (Link.loose.up (κ := .mirror (0 ≤ ·) n) trivial)))
  · exact .throw

theorem setValue_restores {name : String} {v : Value} (h : κ.same .frame env env) :
    Restores κ (Run.setValue env name v) :=
  .of_frame h fun _ hn => sim_setValue hn (value_self v)

theorem modifyFrame_restores {F : Frame → Frame} (hF : ∀ f : Frame, f.Restored (F f))
    (hs : ∀ {f : Frame} {n t}, f.Sound n t → (F f).Sound n t) :
    Restores κ (Run.modifyFrame env F) := by
  rintro l _ ⟨rfl, rfl, hl⟩
  have hsound := hl.toSound.modifyFrame fun he => hs (hl.frames env he)
  exact ok_outcome hsound.from_all (.modifyFrame l (hF _)) (.of_eq rfl) rfl

/-! ## Settings -/

theorem firstChar_restores {name : String} : Restores κ (firstChar name) := by
  unfold firstChar
  split
  · exact .pure
  · exact .throw

variable {space : NameSpace} {name : String} {v : Value}

theorem setOwn_restores {f : Scope → Scope} : Restores κ (do
    Run.modifyScope (← scopeOf env) f) :=
  scopeOf_restores.bind fun _ => modifyScope_restores

theorem setIn_restores (h : κ.same .frame env env) :
    Restores κ (Session.setIn env name v space) := by
  cases space with
  | var =>
    refine firstChar_restores.bind fun _ => .ite ?_ setOwn_restores
    exact setValue_restores h.up
  | func => exact setOwn_restores
  | mod => exact .throw

theorem addIn_restores : Restores κ (Session.addIn env name v space) := by
  cases space with
  | var =>
    refine firstChar_restores.bind fun _ => .when .throw ?_
    exact scopeOf_restores.bind fun _ => Run.addVar_eq .. ▸ add_restores
  | func => exact scopeOf_restores.bind fun _ => Run.addFunc_eq .. ▸ add_restores
  | mod => exact scopeOf_restores.bind fun _ => Run.addMod_eq .. ▸ add_restores

theorem setOwnIn_restores : Restores κ (Session.setOwnIn env name v space) := by
  cases space <;> exact setOwn_restores

/-! ## Looking at an environment -/

theorem typeName_restores : Restores κ (typeName v) := by
  unfold typeName
  cases v with
  | node cell =>
    refine .bind (.get fun _ => .pure) fun c => ?_
    cases c <;> exact .pure
  | code t => cases t <;> exact .pure
  | scope id =>
    refine scope_restores.bind fun s => ?_
    split <;> exact .pure
  | _ => exact .pure

theorem mapM_restores {β : Type} {f : α → Run β} {xs : List α}
    (hf : ∀ {κ x}, Restores κ (f x)) : Restores κ (xs.mapM f) :=
  Correspondence.Sim.mapM_eq (R := fun _ => Eq) (List.forall₂_same.2 fun _ _ => rfl) fun h => h ▸ hf

theorem values_restores : Restores κ (values env) := by
  refine .bind (frame_restores.bind fun _ => .get fun _ => .pure) fun t => ?_
  refine .when .throw (mapM_restores fun {_ e} => ?_)
  obtain ⟨name, s⟩ := e
  cases s with
  | known v => exact freeze_restores.bind fun _ => .pure
  | busy => exact .pure

theorem describe_restores : Restores κ (describe env) := by
  refine scopeOf_restores.bind fun _ => scope_restores.bind fun own => ?_
  refine .bind ?_ fun _ => (mapM_restores typeName_restores).bind fun _ =>
    values_restores.bind fun _ => .pure
  unfold declaredScope
  split
  · exact scope_restores
  · exact .pure

end

end Mirror

/-! ## Steps -/

/-- Steps that write no trace. -/
def Step.isUntraced : Step → Bool
  | .traceOn | .traceOff | .traceLine _ _ => false
  | _ => true

/-- Steps that do not themselves enter or leave an environment, and that write no trace. -/
def Step.isBalanced : Step → Bool
  | .enter | .leave => false
  | st => st.isUntraced

namespace Session

open Mirror

variable {κ : Link} {env : FrameId}

theorem quiet_restores {m : Run Unit} (h : Restores κ m) : Restores κ (quiet m) :=
  h.bind fun _ => .pure

theorem frozen_restores {m : Run Value} (h : Restores κ m) : Restores κ (do (← m).freeze) :=
  h.bind fun _ => freeze_restores

theorem body_restores {st : Step} (hst : st.isBalanced = true) (h : κ.same .frame env env) :
    Restores κ (body env st) := by
  cases st with
  | use | traceOn | traceOff | current => exact .pure
  | load text =>
    refine quiet_restores (parseText_restores.bind fun _ => ?_)
    exact scopeOf_restores.bind fun _ => declare_restores.bind fun _ => .pure
  | read name => exact frozen_restores (perform_restores h fun _ hn => .read hn name)
  | apply name args named =>
    refine (enterAll_restores args).bind fun _ => ?_
    refine (enterNamed_restores named).bind fun _ => ?_
    exact frozen_restores (perform_restores h.up fun _ hn => .apply hn trivial (args_self _))
  | instantiate name args named =>
    refine (enterAll_restores args).bind fun _ => ?_
    refine (enterNamed_restores named).bind fun _ => ?_
    exact frozen_restores (perform_restores h.up fun _ hn =>
      .instantiate hn (.inl trivial) trivial (fun _ => hn) (args_self _))
  | build => exact frozen_restores (perform_restores h fun _ hn => .build hn hn)
  | buildWork i =>
    refine workItem_restores.bind fun _ => ?_
    exact frozen_restores (perform_restores h.up fun _ hn => .buildOne hn (value_self _))
  | buildOne item =>
    refine (enter_restores item).bind fun _ => ?_
    exact frozen_restores (perform_restores h.up fun _ hn => .buildOne hn (value_self _))
  | addWork item =>
    refine quiet_restores (scopeOf_restores.bind fun _ => ?_)
    exact (enter_restores item).bind fun _ => modifyScope_restores
  | evalNode text rule nth =>
    refine findNode_restores.bind fun t => ?_
    exact frozen_restores (perform_restores h.up fun _ hn =>
      .eval hn (value_self _) (.loose trivial))
  | declareNode text rule nth =>
    refine scopeOf_restores.bind fun _ => findNode_restores.bind fun t => ?_
    exact frozen_restores declare_restores
  | evalTree t =>
    exact frozen_restores (perform_restores h fun _ hn =>
      .eval hn (value_self _) (.loose trivial))
  | declareTree t => exact scopeOf_restores.bind fun _ => frozen_restores declare_restores
  | evalInWork i text rule nth =>
    refine findNode_restores.bind fun t => workItem_restores.bind fun _ => ?_
    exact frozen_restores (evalInside_restores h.up)
  | set space name v =>
    refine quiet_restores ((enter_restores v).bind fun _ => ?_)
    exact setIn_restores h.up
  | add space name v => exact quiet_restores ((enter_restores v).bind fun _ => addIn_restores)
  | setOwn space name v =>
    exact quiet_restores ((enter_restores v).bind fun _ => setOwnIn_restores)
  | setDynamic name v =>
    refine quiet_restores ((enter_restores v).bind fun x => ?_)
    exact .of_frame h.up fun n hn =>
      lawful.sim_setDynamic (performs _) hn isOpen (value_self _) (value_self x)
  | setItem name v =>
    refine quiet_restores ((enter_restores v).bind fun _ => ?_)
    exact setValue_restores h.up
  | debug on =>
    refine quiet_restores (modifyFrame_restores ?_ fun h => { h with })
    exact fun _ => ⟨rfl, rfl, rfl, rfl⟩
  | setChild i =>
    cases i with
    | none =>
      refine quiet_restores (modifyFrame_restores ?_ fun h => { h with })
      exact fun _ => ⟨rfl, rfl, rfl, rfl⟩
    | some i =>
      refine quiet_restores (workItem_restores.bind fun _ => ?_)
      exact modifyFrame_restores (fun _ => ⟨rfl, rfl, rfl, rfl⟩) fun h => { h with }
  | oneChild i =>
    refine (enter_restores i).bind fun x => frozen_restores ?_
    exact .of_frame h.up fun _ hn => .of_alike (lawful.sim_oneChild (performs _) hn (value_self x))
  | childUnion =>
    exact frozen_restores (.of_frame h fun _ hn =>
      .of_alike (lawful.sim_childUnion (performs _) hn))
  | resetChild => exact quiet_restores (.of_frame h fun _ hn => lawful.sim_resetChild hn)
  | children =>
    refine .bind (.of_frame h fun _ hn => ?_) fun _ =>
      (mapM_restores freeze_restores).bind fun _ => .pure
    exact .of_sim (lawful.sim_children (performs _) hn) fun _ _ _ h =>
      Values.Alike.eq (Link.mirror_exact _ _) h
  | lookupNowhere | run => exact .throw
  | state => exact describe_restores
  | enter | leave | traceLine => cases hst

end Session

/-! ## Entering and leaving -/

/-- Another environment may be current, but the tables are the same. -/
structure World.Switched (w w' : World) : Prop where
  sound : w'.Sound
  tables : w'.tables = w.tables
  count : w'.frames.size = w.frames.size

namespace Run

variable {w : World} {a : FrameId}

section

variable (hs : w.Sound) (ha : a < w.frames.size)

include hs ha

theorem enter_outcome :
    (∃ w', enter a w = .ok () w' ∧ w.Switched w') ∨ ∃ e, enter a w = .error e w := by
  cases ht : (w.frameAt a).token with
  | none =>
    exact .inl ⟨_, enter_of_none ht, (Mirror.sound_entered hs.from_all ha).toSound, rfl,
      Array.size_modify⟩
  | some t =>
    by_cases hc : w.current = some a
    · refine .inl ⟨_, enter_of_current ht hc, hs.modifyFrame fun _ => ?_, rfl, Array.size_modify⟩
      exact { hs.frames a ha with entries := fun h => by cases ht.symm.trans h }
    · obtain ⟨e, -, he⟩ := enter_of_other ht hc
      exact .inr ⟨e, he⟩

theorem depart_outcome :
    ∃ w', depart a w = .ok () w' ∧ w.Switched w' := by
  have hf := hs.frames a ha
  by_cases hn : (w.frameAt a).entries = 0
  · cases ht : (w.frameAt a).token with
    | none => exact ⟨w, depart_of_none ht hn, hs, rfl, rfl⟩
    | some t =>
      refine ⟨_, depart_of_token ht hn, ?_, rfl, Array.size_modify⟩
      refine { hs.modifyFrame fun _ => ?_ with current := fun c hc => ?_ }
      · exact { hf with
          token := fun _ ht => by cases ht
          entries := fun _ => hn }
      · exact Array.size_modify.symm ▸ hf.token t ht c hc
  · refine ⟨_, depart_of_entries hn, hs.modifyFrame fun _ => ?_, rfl, Array.size_modify⟩
    exact { hf with entries := fun ht => absurd (hf.entries ht) hn }

theorem leave_outcome :
    (∃ w', leave a w = .ok () w' ∧ w.Switched w') ∨ ∃ e, leave a w = .error e w := by
  obtain ⟨w', hw', hsw⟩ := depart_outcome hs ha
  unfold leave
  rw [frame_bind]
  split
  · exact .inr ⟨.typeMismatch, rfl⟩
  · exact .inl ⟨w', hw', hsw⟩

end

end Run

structure Slots.Unmarked (t : Slots) : Prop where
  named : ∀ e ∈ t.named, e.2 ≠ .busy
  keyed : ∀ e ∈ t.keyed, e.2 ≠ .busy

def World.Unmarked (w : World) : Prop := ∀ t ∈ w.tables, t.Unmarked

theorem World.Unmarked.restored {w w' : World} (hi : w.Unmarked) (hs : w'.Sound)
    (hr : w.Restored w') : w'.Unmarked := by
  intro t ht
  obtain ⟨i, hi', rfl⟩ := Array.mem_iff_getElem.1 ht
  have hget : w'.tables.getD i {} = w'.tables[i] := by
    rw [Array.getD_eq_getD_getElem?, Array.getElem?_eq_getElem hi']
    rfl
  refine ⟨fun e he hbusy => ?_, hget ▸ (hs.tables i).keyed⟩
  obtain ⟨name, s⟩ := e
  cases hbusy
  have hmem := hr.busy i name (hget.symm ▸ he)
  rw [Array.getD_eq_getD_getElem?] at hmem
  cases hold : w.tables[i]? with
  | none =>
    rw [hold] at hmem
    cases hmem
  | some t =>
    rw [hold] at hmem
    exact (hi t (Array.mem_of_getElem? hold)).named _ hmem rfl

namespace Session

/-- A session whose environments are there, with nothing being computed. -/
structure Sound (s : Session) : Prop where
  world : s.world.Sound
  idle : s.world.Unmarked
  envs : ∀ e ∈ s.envs, e.2 < s.world.frames.size

def cleared (s : Session) : World :=
  { s.world with out := #[], warnings := #[], notices := #[] }

variable {s : Session} {st : Step} {w : World}

theorem perform_world {P : World → Prop} {m : Run Record}
    (hok : ∀ r w, m s.cleared = .ok r w → P w) (herror : ∀ e w, m s.cleared = .error e w → P w) :
    P (s.perform m).2 := by
  unfold perform
  cases hm : m s.cleared with
  | ok r w =>
    have hm' : m { s.world with out := #[], warnings := #[], notices := #[] } = .ok r w := hm
    rw [hm']
    exact hok r w hm
  | error e w =>
    have hm' : m { s.world with out := #[], warnings := #[], notices := #[] } = .error e w := hm
    rw [hm']
    exact herror e w hm

theorem cleared_sound (hs : s.Sound) : s.cleared.Sound := hs.world.of_eq rfl rfl rfl rfl

theorem perform_restored {m : Run Record} (h : Restores (.mirror (0 ≤ ·) s.world.frames.size) m)
    (hs : s.Sound) : (s.perform m).2.Sound ∧ s.world.Restored (s.perform m).2 := by
  have hr : s.world.Restored s.cleared := .of_eq rfl rfl rfl rfl
  refine perform_world (P := fun w => w.Sound ∧ s.world.Restored w) ?_ ?_
  · intro r w hm
    have := Mirror.Restores.restored (w := s.cleared) h (cleared_sound hs) (.inl ⟨_, hm⟩)
    exact ⟨this.1, hr.trans this.2⟩
  · intro e w hm
    have := Mirror.Restores.restored (w := s.cleared) h (cleared_sound hs) (.inr ⟨_, hm⟩)
    exact ⟨this.1, hr.trans this.2⟩

/-- A new environment knows the special variables, none of which is being computed. -/
theorem opened_sound (hw : w.Sound) : (opened w).Sound ∧ w.Restored (opened w) := by
  have hsize : w.tables.size < (w.tables.push { named := initialValues }).size := by
    rw [Array.size_push]
    exact Nat.lt_succ_self _
  have hnew : Slots.Sound { named := initialValues } :=
    ⟨by simp [initialValues, Table.names], by simp⟩
  have hidle : ∀ name, (name, Slot.busy) ∉ initialValues := by
    simp [initialValues]
  constructor
  · refine (hw.pushFrame (Nat.le_of_lt hsize) (fun i => ?_) ?_).of_eq rfl rfl rfl rfl
    · rw [getD_push_eq]
      split
      · exact hnew
      · exact hw.tables i
    · refine Frame.sound_new (fun c hc => ?_) hsize rfl rfl rfl
      cases hc
  · refine (World.Restored.pushFrame w (Nat.le_of_lt hsize) rfl fun i name h => ?_).trans
      (.of_eq rfl rfl rfl rfl)
    rw [getD_push_eq] at h
    split at h
    · exact absurd h (hidle name)
    · exact h

section

variable (hs : s.Sound)

include hs

theorem ensureEnv_sound :
    s.ensureEnv.1.Sound ∧ s.ensureEnv.2 < s.ensureEnv.1.world.frames.size ∧
      s.world.Restored s.ensureEnv.1.world := by
  unfold ensureEnv
  split
  · rename_i env h
    obtain ⟨before, rest, henvs, -⟩ := List.lookup_eq_some_iff.1 h
    exact ⟨hs, hs.envs (s.active, env) (by simp [henvs]), .refl _⟩
  · rename_i h
    rw [create_eq]
    obtain ⟨hw, hr⟩ := opened_sound hs.world
    have hlt : s.world.frames.size < (opened s.world).frames.size := by
      unfold opened
      dsimp only
      rw [Array.size_push]
      exact Nat.lt_succ_self _
    refine ⟨⟨hw, hs.idle.restored hw hr, fun e he => ?_⟩, hlt, hr⟩
    rcases List.mem_append.1 he with he | he
    · exact Nat.lt_trans (hs.envs e he) hlt
    · cases List.mem_singleton.1 he
      exact hlt

/-! ## Whole sessions -/

def after (s : Session) : List Step → Session
  | [] => s
  | st :: rest => after (s.step st).2 rest

/-- The session after a step that only works in the active environment. -/
def worked (s : Session) (st : Step) : Session :=
  { s.ensureEnv.1 with world := (s.ensureEnv.1.perform (body s.ensureEnv.2 st)).2 }

theorem Sound.restored (hw : w.Sound) (hr : s.world.Restored w) :
    ({ s with world := w } : Session).Sound where
  world := hw
  idle := hs.idle.restored hw hr
  envs e he := Nat.lt_of_lt_of_le (hs.envs e he) hr.count

theorem worked_restored (hst : st.isBalanced = true) :
    (s.worked st).Sound ∧ s.world.Restored (s.worked st).world := by
  obtain ⟨hs', henv, hr⟩ := ensureEnv_sound hs
  have hbody := body_restores (κ := .mirror (0 ≤ ·) s.ensureEnv.1.world.frames.size) hst
    ⟨rfl, Nat.zero_le _, henv⟩
  obtain ⟨hw, hr'⟩ := perform_restored hbody hs'
  exact ⟨hs'.restored hw hr', hr.trans hr'⟩

/-- However a step ends, what it has to undo is undone. -/
theorem step_restored (hst : st.isBalanced = true) :
    (s.step st).2.Sound ∧ s.world.Restored (s.step st).2.world := by
  cases st with
  | use k =>
    have hk : ({ s with active := k } : Session).Sound := ⟨hs.world, hs.idle, hs.envs⟩
    obtain ⟨hs', -, hr⟩ := ensureEnv_sound hk
    exact ⟨hs', hr⟩
  | current =>
    obtain ⟨hs', -, hr⟩ := ensureEnv_sound hs
    exact ⟨hs', hr⟩
  | enter | leave | traceOn | traceOff | traceLine => cases hst
  | _ => exact worked_restored hs hst

theorem Sound.switched (h : s.world.Switched w) :
    ({ s with world := w } : Session).Sound where
  world := h.sound
  idle t ht := hs.idle t (h.tables ▸ ht)
  envs e he := h.count ▸ hs.envs e he

/-- Entering or leaving an environment is not undone, but nothing is being computed. -/
theorem perform_switched {m : Run Unit}
    (hm : (∃ w', m s.cleared = .ok () w' ∧ s.cleared.Switched w') ∨
      ∃ e, m s.cleared = .error e s.cleared) : s.world.Switched (s.perform (quiet m)).2 := by
  have hclear : s.world.Switched s.cleared := ⟨cleared_sound hs, rfl, rfl⟩
  rcases hm with ⟨w', hm, hsw⟩ | ⟨e, hm⟩
  · have hq : quiet m s.cleared = .ok .undef w' := Run.bind_of_ok hm
    refine perform_world (fun r w h => ?_) fun e w h => ?_
    · cases hq.symm.trans h
      exact ⟨hsw.sound, hsw.tables, hsw.count⟩
    · cases hq.symm.trans h
  · have hq : quiet m s.cleared = .error e s.cleared := Run.bind_of_error hm
    refine perform_world (fun r w h => ?_) fun e w h => ?_
    · cases hq.symm.trans h
    · cases hq.symm.trans h
      exact hclear

theorem step_sound (hst : st.isUntraced = true) : (s.step st).2.Sound := by
  obtain ⟨hs', henv, -⟩ := ensureEnv_sound hs
  cases hb : st.isBalanced with
  | true => exact (step_restored hs hb).1
  | false =>
    cases st with
    | enter =>
      exact hs'.switched (perform_switched hs' (Run.enter_outcome (cleared_sound hs') henv))
    | leave =>
      exact hs'.switched (perform_switched hs' (Run.leave_outcome (cleared_sound hs') henv))
    | traceOn | traceOff | traceLine => cases hst
    | _ => cases hb

theorem after_sound {steps : List Step}
    (h : ∀ st ∈ steps, st.isUntraced = true) : (s.after steps).Sound := by
  induction steps generalizing s with
  | nil => exact hs
  | cons st rest ih =>
    exact ih (step_sound hs (h st (List.mem_cons_self ..))) fun st' h' =>
      h st' (List.mem_cons_of_mem _ h')

end

theorem sound_empty : ({} : Session).Sound where
  world :=
    { frames := fun e he => absurd he (Nat.not_lt_zero e)
      streams := fun i e he => by simp [Stream.env?] at he
      tables := fun i => by simpa using Slots.sound_empty
      current := fun c hc => by cases hc }
  idle := fun t ht => by simp at ht
  envs := fun e he => by simp at he

end Session

end Scad
