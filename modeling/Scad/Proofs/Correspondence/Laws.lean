import Scad.Proofs.Correspondence.Simulation

/-!
What a correspondence must satisfy for the whole evaluator to respect it. Every
access of the evaluator to the world is covered here once: what it reads through
linked numbers corresponds, and what it writes keeps the worlds corresponding.
Nothing is asked about environments that are linked as origins only; what
happens there is for each correspondence to say.

Changes that are undone later (a deeper level, another current environment, a name
that is being computed) are covered together with what happens in between.
-/

namespace Scad

open ExprForm Run

variable (w : World) (id : FrameId) (name : String) (C : Correspondence)

/-- Changes of an environment that leave its scope, its caller, its table, its child and
its trace as they are. -/
structure Frame.Keeps (F : Frame → Frame) : Prop where
  scope : ∀ f, (F f).scope = f.scope := by intro; rfl
  caller : ∀ f, (F f).caller = f.caller := by intro; rfl
  table : ∀ f, (F f).table = f.table := by intro; rfl
  child : ∀ f, (F f).child = f.child := by intro; rfl
  debug : ∀ f, (F f).debug = f.debug := by intro; rfl
  traced : ∀ f, (F f).traced = f.traced := by intro; rfl
  nextTrace : ∀ f, (F f).nextTrace = f.nextTrace := by intro; rfl

/-- Changes of an environment that also leave its level, its token and its entries as they
are. -/
structure Frame.Rests (F : Frame → Frame) : Prop extends Frame.Keeps F where
  level : ∀ f, (F f).level = f.level := by intro; rfl
  token : ∀ f, (F f).token = f.token := by intro; rfl
  entries : ∀ f, (F f).entries = f.entries := by intro; rfl

namespace Run

def raised (body : Run Value) : Run Value := do
  modifyFrame id fun f => { f with level := f.level + 1 }
  ensuring body (modifyFrame id fun f => { f with level := f.level - 1 })

/-- Compute the value of a name, which is busy meanwhile. -/
def computed (body : Run Value) : Run Value := do
  setSlot id name .busy
  let v ← body.orUndo (clearSlot id name)
  setValue id name v
  return v

end Run

/-- The roles whose numbers are compared. -/
def Role.isIdentity : Role → Bool
  | list | node | ident | stream | scope | frame => true
  | _ => false

namespace World

def scopeAt (id : ScopeId) : Scope := w.scopes.getD id default

def frameAt : Frame := w.frames.getD id default

def slotsAt : Slots := w.tables.getD (w.frameAt id).table {}

def seek {α : Type} (id : ScopeId) (ask : Scope → Option α) : Option α :=
  Scope.search w.scopes ask (id :: (w.scopeAt id).parents)

end World

theorem Run.frame_bind {α : Type} (e : FrameId) (f : Frame → Run α) (w : World) :
    (frame e >>= f) w = f (w.frameAt e) w := rfl

namespace ExprForm

/-- The numbers of children that the evaluation of a form does not complain about. -/
@[simp]
def allows : ExprForm → Nat → Bool
  | expr, n | primary, n | vectorElement, n | addon, n => n == 1
  | unary, n | arguments, n => n == 1 || n == 2
  | exponent, n | argument, n => n == 1 || n == 3
  | exprCase, n => n == 1 || n == 5
  | addArgs, n => n == 2 || n == 3
  | addIndex, n => decide (2 ≤ n) && decide (n ≤ 999)
  | exprFn, n => n == 4 || n == 5
  | _, _ => true

/-- Is the child at place `i` of `n` children evaluated, or kept to be evaluated later? -/
@[simp]
def evaluates : ExprForm → (n i : Nat) → Bool
  | sequence, _, _ | call, _, _ => true
  | expr, _, i | primary, _, i | vectorElement, _, i | addon, _, i | arguments, _, i => i == 0
  | logicOr, _, i | logicAnd, _, i | equality, _, i | comparison, _, i | addition, _, i
  | multiplication, _, i | exponent, _, i | exprCase, _, i | argumentList, _, i
  | vectorElements, _, i => i % 2 == 0
  | unary, n, i => i + 1 == n
  | paren, n, i => i == 1 || n == 1
  | vecElems, _, i | addIndex, _, i => i == 1
  | addArgs, n, i => i == 1 && n != 2
  | argument, n, i => i == (if n = 1 then 0 else 2)
  | exprFn, n, i => i + 1 == n || (i == 2 && n == 5)
  | for2, _, i => i == 1 || i == 3
  | for3, _, i => i == 1 || i == 3 || i == 5
  | ifStatement, _, i => i == 2
  | modCall, n, i => i == 2 && n != 3
  | _, _, _ => false

end ExprForm

/-- What a link says by itself. -/
structure Link.Lawful (κ : Link) : Prop where
  place_of_scope : ∀ {a b}, κ.same .scope a b → κ.same .place a b
  work_of_scope : ∀ {a b}, κ.same .scope a b → κ.same .work a b
  tree_child : ∀ {rule ts t}, κ.tree (.node rule ts) → t ∈ ts → κ.tree t
  word_of_tree : ∀ {t}, κ.tree t →
    (ofRule? t.rule = some .call → t.isNamedCall = true → κ.word t.applied) ∧
    (κ.Handles .modCall → ofRule? t.rule = some .modCall → κ.word t.callee)
  word_of_rule : ∀ {rule}, κ.loose → κ.rule rule →
    ofRule? rule = some .call ∨ ofRule? rule = some .modCall →
    ∀ name, κ.word name
  entry_of_plain : ∀ {name}, Eval.isDynamicName name = false → κ.entry name
  -- What the shapes of nodes allow.
  misfit_of_loose : κ.loose → ∀ e : Fault, e.isAssertion = false → κ.misfit e
  misfit_of_fit : ∀ {t}, κ.fit t → ofRule? t.rule = none →
    κ.misfit (if t.rule = "" then .bareTerminal else .noMeaning t.rule)
  fit_allows : ∀ {rule form ts}, κ.fit (.node rule ts) → ofRule? rule = some form →
    form.allows ts.length = true
  fit_part : ∀ {rule form ts} {i : Nat} {t}, κ.fit (.node rule ts) →
    ofRule? rule = some form → form.evaluates ts.length i = true → ts[i]? = some t →
    κ.fit t

namespace Correspondence

/-- From a link on, two traces give linked objects the same numbers. -/
def Numbers (κ : Link) (t u : FrameId) : Prop := ∀ ⦃κ' i j⦄ [κ.Before κ'], κ'.same .ident i j →
    C.Same κ' (Trace.number t i) (Trace.number u j)

theorem Numbers.up {C : Correspondence} {κ κ' : Link} {t u : FrameId} [h' : κ.Before κ']
    (h : C.Numbers κ t u) : C.Numbers κ' t u :=
  fun _ _ _ i => @h _ _ _ ⟨h'.le.trans i.le⟩

structure Lawful (C : Correspondence) : Prop where
  link : ∀ {κ l r}, C.agree κ l r → κ.Lawful
  unique : ∀ {κ l r k a b a' b'}, C.agree κ l r → k.isIdentity = true → κ.same k a b →
    κ.same k a' b' → (a = a' ↔ b = b')
  own_or_origin : ∀ {κ l r a b}, C.agree κ l r → κ.same .frame a b →
    κ.same .own a b ∨ κ.same .origin a b
  asked_of_current : ∀ {κ l r a b}, C.agree κ l r → κ.same .current a b →
    κ.same .frame a b ∨ κ.same .origin a b
  loop_of_tree : ∀ {κ l r t a b}, C.agree κ l r → κ.Handles .modCall → κ.tree t →
    ofRule? t.rule = some .modCall → κ.same .frame a b → κ.same .loop a b
  loop_of_rule : ∀ {κ l r rule a b}, C.agree κ l r → κ.loose → κ.rule rule →
    ofRule? rule = some .modCall → κ.same .frame a b → κ.same .loop a b
  fit_work : ∀ {κ l r a b v}, C.agree κ l r → κ.same .work a b → v ∈ (l.scopeAt a).work → κ.Fit v
  -- What is read.
  lists : ∀ {κ l r a b}, C.agree κ l r → κ.same .list a b →
    Values.Alike κ (l.lists.getD a []) (r.lists.getD b [])
  nodes : ∀ {κ l r a b}, C.agree κ l r → κ.same .node a b →
    NodeCell.Alike κ (l.nodes.getD a default) (r.nodes.getD b default)
  streams : ∀ {κ l r a b}, C.agree κ l r → κ.same .stream a b →
    Stream.Alike κ (l.streams.getD a .ended) (r.streams.getD b .ended)
  kinds : ∀ {κ l r a b}, C.agree κ l r → κ.same .scope a b →
    (l.scopeAt a).kind = (r.scopeAt b).kind
  works : ∀ {κ l r a b}, C.agree κ l r → κ.same .work a b →
    Values.Alike κ (l.scopeAt a).work (r.scopeAt b).work
  branches : ∀ {κ l r a b}, C.agree κ l r → κ.Handles .ifStatement → κ.same .place a b →
    Option.Rel (Branch.Alike κ) (l.scopeAt a).branch (r.scopeAt b).branch
  vars : ∀ {κ l r a b}, C.agree κ l r → κ.same .place a b → ∀ name,
    Option.Rel (VarDef.Alike κ) (l.seek a (Scope.findVar? name)) (r.seek b (Scope.findVar? name))
  funcs : ∀ {κ l r a b}, C.agree κ l r → κ.same .place a b → ∀ name,
    Option.Rel (Callee.Alike κ) (l.seek a (Scope.findFunction? name))
      (r.seek b (Scope.findFunction? name))
  mods : ∀ {κ l r a b}, C.agree κ l r → κ.Handles .modCall → κ.same .place a b → ∀ name,
    Option.Rel (ModDef.Alike κ) (l.seek a (Scope.findModule? name))
      (r.seek b (Scope.findModule? name))
  frames : ∀ {κ l r a b}, C.agree κ l r → κ.same .frame a b →
    Frame.Alike κ (l.frameAt a) (r.frameAt b)
  callers : ∀ {κ l r a b}, C.agree κ l r → κ.same .frame a b → κ.same .own a b →
    Option.Rel (fun c d => κ.same .frame c d ∨ κ.same .origin c d) (l.frameAt a).caller
      (r.frameAt b).caller
  named : ∀ {κ l r a b name}, C.agree κ l r → κ.Knows a b name →
    Option.Rel (Slot.Alike κ) ((l.slotsAt a).named.find? name) ((r.slotsAt b).named.find? name)
  keyed : ∀ {κ l r a b}, C.agree κ l r → κ.same .own a b →
    List.Forall₂ (KeyRel κ) (l.slotsAt a).keyed (r.slotsAt b).keyed
  extruded : ∀ {κ l r a b}, C.agree κ l r → κ.same .extruder a b →
    Option.Rel (Slot.Alike κ) ((l.slotsAt a).named.find? "_e_children")
      ((r.slotsAt b).named.find? "_e_children")
  builders : ∀ {κ l r a b}, C.agree κ l r → κ.same .frame a b → κ.same .builder a b →
    κ.same .work (l.frameAt a).scope (r.frameAt b).scope
  loops : ∀ {κ l r a b x y}, C.agree κ l r → κ.same .frame a b → κ.same .loop a b →
    (l.frameAt a).child = some (.scope x) → (r.frameAt b).child = some (.scope y) →
    κ.same .cycle x y
  current : ∀ {κ l r}, C.agree κ l r → Option.Rel (κ.same .current) l.current r.current
  tracer : ∀ {κ l r}, C.agree κ l r → Option.Rel (C.Numbers κ) l.tracer r.tracer
  -- What is written.
  newIdent : ∀ {κ}, C.Sim κ (fun κ' => κ'.same .ident) newIdent newIdent
  print : ∀ {κ} text, C.Same κ (print text) (print text)
  warn : ∀ {κ} text, C.Same κ (warn text) (warn text)
  newList : ∀ {κ vs ws}, Values.Alike κ vs ws →
    C.Alike κ (newList vs) (newList ws)
  setList : ∀ {κ a b vs ws}, κ.same .list a b → Values.Alike κ vs ws →
    C.Same κ (setList a vs) (setList b ws)
  setNodeChildren : ∀ {κ a b vs ws}, κ.same .node a b → Values.Alike κ vs ws →
    C.Same κ (setNodeChildren a vs) (setNodeChildren b ws)
  newStream : ∀ {κ a b}, κ.same .frame a b →
    C.Alike κ (newStream a) (newStream b)
  setStream : ∀ {κ a b s t}, κ.same .stream a b → Stream.Alike κ s t →
    C.Same κ (setStream a s) (setStream b t)
  newFrame : ∀ {κ s t c d}, κ.same .place s t → κ.same .frame c d ∨ κ.same .origin c d →
    C.Sim κ (fun κ' e f => κ'.same .frame e f ∧ κ'.same .own e f ∧
      (κ.same .work s t → κ'.same .builder e f)) (newFrame s c) (newFrame t d)
  sharedFrame : ∀ {κ c d x y}, κ.same .frame c d → Option.Rel (κ.same .scope) x y →
    C.Sim κ (fun κ' e f => κ'.same .frame e f ∧
      ((∀ a b, x = some a → y = some b → κ.same .cycle a b) → κ'.same .loop e f))
      (sharedFrame c (x.map Value.scope)) (sharedFrame d (y.map Value.scope))
  modifyFrame : ∀ {κ a b F G}, Frame.Rests F → Frame.Rests G → κ.same .frame a b →
    (∀ f g, f.Alike κ g → (F f).Alike κ (G g)) →
    C.Same κ (modifyFrame a F) (modifyFrame b G)
  setValue : ∀ {κ a b name v w}, κ.same .frame a b → κ.Knows a b name → v.Alike κ w →
    C.Same κ (setValue a name v) (setValue b name w)
  setKeyed : ∀ {κ a b ks ks'}, κ.same .frame a b → κ.same .own a b →
    List.Forall₂ (KeyRel κ) ks ks' →
    C.Same κ (modifySlots a fun t => { t with keyed := ks })
      (modifySlots b fun t => { t with keyed := ks' })
  assign : ∀ {κ a b name v w}, κ.same .frame a b → Eval.isDynamicName name = true →
    v.Alike κ w → C.Same κ (Run.setValue a name v) (Run.setValue b name w)
  setVariable : ∀ {κ} {m n : Eval.Loop} {name v w}, κ.same .cycle m.body n.body →
    κ.entry name → v.Alike κ w → C.Same κ (m.setVariable name v) (n.setVariable name w)
  -- What is undone.
  raised : ∀ {κ : Link} {a b} {m m' : Run Value}, κ.same .frame a b →
    (∀ {κ'} [κ.Next κ'], C.Alike κ' m m') →
    C.Alike κ (raised a m) (raised b m')
  within : ∀ {κ : Link} {a b} {m m' : Run Value}, κ.same .frame a b →
    (∀ {κ'} [κ.Next κ'], C.Alike κ' m m') →
    C.Alike κ (within a m) (within b m')
  computed : ∀ {κ : Link} {a b name} {m m' : Run Value}, κ.same .frame a b → κ.Knows a b name →
    (∀ {κ'} [κ.Next κ'], C.Alike κ' m m') →
    C.Alike κ (computed a name m) (computed b name m')

/-- In all linked environments everything corresponds and every name may be called, so
that even operations on the environment itself do the same on both sides. -/
structure Open (C : Correspondence) : Prop where
  frame : ∀ {κ l r k a b}, C.agree κ l r → k ∈ [.own, .builder, .loop, .extruder] →
    κ.same .frame a b → κ.same k a b
  word : ∀ {κ l r}, C.agree κ l r → ∀ name, κ.word name
  loose : ∀ {κ l r}, C.agree κ l r → κ.loose

/-- What has to correspond where a built-in function is called. -/
def ServesFunction : BuiltinFunction → Prop
  | .env _ => C.Open
  | _ => True

/-- What has to correspond where a built-in module is called. -/
def ServesModule (κ : Link) (e f : FrameId) : BuiltinModule → Prop
  | .env _ => C.Open
  | .for => κ.same .loop e f
  | .linearExtrude => κ.same .extruder e f ∧ κ.loose
  | _ => True

theorem ServesModule.up {C : Correspondence} {κ κ' : Link} [κ.Before κ'] {e f : FrameId}
    {m : BuiltinModule} (h : C.ServesModule κ e f m) : C.ServesModule κ' e f m := by
  cases m with
  | env _ => exact h
  | «for» => exact Link.same.up h
  | linearExtrude => exact ⟨Link.same.up h.1, Link.loose.up h.2⟩
  | _ => trivial

namespace Lawful

variable {C : Correspondence} (L : C.Lawful) {κ : Link} {a b : Nat}

include L

/-! ## Reading -/

theorem sim_listItems (h : κ.same .list a b) : C.Sim κ Values.Alike (listItems a) (listItems b) :=
  Sim.get.bind fun hw => .pure (L.lists hw h.up)

theorem sim_nodeCell (h : κ.same .node a b) : C.Sim κ NodeCell.Alike (nodeCell a) (nodeCell b) :=
  Sim.get.bind fun hw => .pure (L.nodes hw h.up)

theorem sim_stream (h : κ.same .stream a b) : C.Sim κ Stream.Alike (stream a) (stream b) :=
  Sim.get.bind fun hw => .pure (L.streams hw h.up)

theorem sim_scope_kind (h : κ.same .scope a b) :
    C.Sim κ (fun _ s t => s.kind = t.kind) (scope a) (scope b) :=
  Sim.get.bind fun hw => .pure (L.kinds hw h.up)

theorem sim_scope_work (h : κ.same .work a b) :
    C.Sim κ (fun κ' s t => Values.Alike κ' s.work t.work) (scope a) (scope b) :=
  Sim.get.bind fun hw => .pure (L.works hw h.up)

theorem sim_scope_items (h : κ.same .work a b) :
    C.Sim κ (fun κ' s t => List.Forall₂ (fun v w => κ'.Fit v ∧ v.Alike κ' w) s.work t.work)
      (scope a) (scope b) := by
  refine Sim.get.bind fun hw => .pure ?_
  exact (List.forall₂_and_left _ _).2 ⟨fun v hv => L.fit_work hw h.up hv, L.works hw h.up⟩

theorem sim_scope_branch (hi : κ.Handles .ifStatement) (h : κ.same .place a b) :
    C.Sim κ (fun κ' s t => Option.Rel (Branch.Alike κ') s.branch t.branch) (scope a) (scope b) :=
  Sim.get.bind fun hw => .pure (L.branches hw hi.up h.up)

theorem sim_frame (h : κ.same .frame a b) : C.Sim κ Frame.Alike (frame a) (frame b) :=
  Sim.get.bind fun hw => .pure (L.frames hw h.up)

/-- The caller of an environment that is linked with its table. -/
theorem sim_frame_own (h : κ.same .frame a b) (ho : κ.same .own a b) :
    C.Sim κ (fun κ' f g => f.Alike κ' g ∧
      Option.Rel (fun c d => κ'.same .frame c d ∨ κ'.same .origin c d) f.caller g.caller)
      (frame a) (frame b) :=
  Sim.get.bind fun hw => .pure ⟨L.frames hw h.up, L.callers hw h.up ho.up⟩

omit L in
theorem searchFrom_outcome {α : Type} {R : α → α → Prop} {ask : Scope → Option α}
    {l r : World} (hw : C.agree κ l r) (h : Option.Rel R (l.seek a ask) (r.seek b ask)) :
    C.Outcome κ l (fun _ x y => R x y ∧ l.seek a ask = some x) (searchFrom a name ask l)
      (searchFrom b name ask r) := by
  change C.Outcome κ l _ (demand (.unknownName name) (l.seek a ask) l)
    (demand (.unknownName name) (r.seek b ask) r)
  generalize l.seek a ask = x at h ⊢
  generalize r.seek b ask = y at h ⊢
  cases h with
  | some h => exact .pure hw ⟨h, rfl⟩
  | none => exact .throw hw (.plain rfl)

theorem sim_lookupVar (h : κ.same .place a b) (name : String) :
    C.Sim κ VarDef.Alike (lookupVar a name) (lookupVar b name) :=
  fun _ _ hw => (searchFrom_outcome name hw (L.vars hw h name)).weaken fun h => h.1.up

theorem sim_slot {name : String} (h : κ.Knows a b name) :
    C.Sim κ (fun κ' => Option.Rel (Slot.Alike κ')) (slot a name) (slot b name) :=
  fun _ _ hw => .pure hw (L.named hw h)

theorem sim_slot_extruded (h : κ.same .extruder a b) :
    C.Sim κ (fun κ' => Option.Rel (Slot.Alike κ')) (slot a "_e_children") (slot b "_e_children") :=
  fun _ _ hw => .pure hw (L.extruded hw h)

theorem sim_keyed (h : κ.same .own a b) :
    C.Sim κ (fun κ' s t => List.Forall₂ (KeyRel κ') s.keyed t.keyed) (slots a) (slots b) :=
  fun _ _ hw => .pure hw (L.keyed hw h)

end Lawful

/-! ## Changes one by one -/

/-- Every single change of linked environments is made on both sides. Then so is everything
that is undone later. -/
structure Changes (C : Correspondence) : Prop where
  unique : ∀ {κ l r a b a' b'}, C.agree κ l r → κ.same .current a b → κ.same .current a' b' →
    (a = a' ↔ b = b')
  current_of_frame : ∀ {κ l r a b}, C.agree κ l r → κ.same .frame a b → κ.same .current a b
  frames : ∀ {κ l r a b}, C.agree κ l r → κ.same .frame a b →
    Frame.Alike κ (l.frameAt a) (r.frameAt b)
  current : ∀ {κ l r}, C.agree κ l r → Option.Rel (κ.same .current) l.current r.current
  modifyFrame : ∀ {κ a b F G}, Frame.Keeps F → Frame.Keeps G → κ.same .frame a b →
    (∀ f g, f.Alike κ g → (F f).Alike κ (G g)) →
    C.Same κ (modifyFrame a F) (modifyFrame b G)
  setCurrent : ∀ {κ c d}, Option.Rel (κ.same .current) c d →
    C.Same κ (modify fun w : World => { w with current := c })
      (modify fun w : World => { w with current := d })
  setSlot : ∀ {κ a b name s t}, κ.same .frame a b → κ.Knows a b name → Slot.Alike κ s t →
    C.Same κ (setSlot a name s) (setSlot b name t)
  clearSlot : ∀ {κ a b name}, κ.same .frame a b → κ.Knows a b name →
    C.Same κ (clearSlot a name) (clearSlot b name)

theorem total_modifyFrame (F : Frame → Frame) : (modifyFrame id F).Total :=
  fun _ => ⟨_, rfl⟩

theorem total_clearSlot : (clearSlot id name).Total :=
  fun _ => ⟨_, rfl⟩

theorem total_depart : (depart id).Total := by
  intro w
  change ∃ w', (ite _ _ _ : Run Unit) w = .ok () w'
  split
  · cases (w.frames.getD id default).token <;> exact ⟨_, rfl⟩
  · exact ⟨_, rfl⟩

namespace Changes

variable {C : Correspondence} (L : C.Changes) {κ : Link} {a b : FrameId} {m m' : Run Value}

include L

section

variable (h : κ.same .frame a b)

include h

theorem sim_frame : C.Sim κ Frame.Alike (frame a) (frame b) :=
  Sim.get.bind fun hw => .pure (L.frames hw h.up)

theorem sim_enter : C.Same κ (enter a) (enter b) := by
  refine (L.sim_frame h).bind @fun _ f g _ hf => Sim.get.bind @fun κ' l r _ hw => ?_
  have ht := (hf.up : f.Alike κ' g).token
  have hc := L.current hw
  have hcur := L.current_of_frame hw h.up
  generalize f.token = t at ht ⊢
  generalize g.token = t' at ht ⊢
  generalize l.current = c at hc ⊢
  generalize r.current = c' at hc ⊢
  cases ht with
  | none =>
    refine (L.modifyFrame {} {} h.up fun f g hf => ?_).bind fun _ => ?_
    · exact { hf with token := .some hc }
    · exact L.setCurrent (.some hcur.up)
  | some _ =>
    cases hc with
    | none => exact .fail rfl
    | some hc =>
      refine .ite (L.unique hw hc hcur) (fun _ => ?_) fun _ => .fail rfl
      exact L.modifyFrame {} {} h.up fun f g hf => { hf with entries := by rw [hf.entries] }

theorem sim_depart : C.Same κ (depart a) (depart b) := by
  refine (L.sim_frame h).bind @fun _ f g _ hf => ?_
  have ht := hf.token
  refine .ite (by rw [hf.entries]) (fun _ => ?_) fun _ => ?_
  · generalize f.token = t at ht ⊢
    generalize g.token = t' at ht ⊢
    cases ht with
    | none => exact .pure rfl
    | some hc =>
      refine (L.setCurrent hc).bind fun _ => ?_
      exact L.modifyFrame {} {} h.up fun f g hf => { hf with token := .none }
  · exact L.modifyFrame {} {} h.up fun f g hf => { hf with entries := by rw [hf.entries] }

theorem within (hm : ∀ {κ'} [κ.Next κ'], C.Alike κ' m m') : C.Alike κ (within a m) (within b m') :=
  (L.sim_enter h).bind fun _ => .ensuring hm (L.sim_depart h.up) (total_depart a) (total_depart b)

theorem raised (hm : ∀ {κ'} [κ.Next κ'], C.Alike κ' m m') : C.Alike κ (raised a m)
    (raised b m') := by
  refine (L.modifyFrame {} {} h fun f g hf => ?_).bind fun _ => .ensuring hm
    (L.modifyFrame {} {} h.up fun f g hf => ?_) (total_modifyFrame _ _) (total_modifyFrame _ _)
  · exact { hf with level := fun hd => by rw [hf.level hd] }
  · exact { hf with level := fun hd => by rw [hf.level hd] }

end

theorem computed {name : String} (h : κ.same .frame a b) (hk : κ.Knows a b name)
    (hm : ∀ {κ'} [κ.Next κ'], C.Alike κ' m m') : C.Alike κ (computed a name m)
      (computed b name m') := by
  refine (L.setSlot h hk .busy).bind fun _ => (Sim.orUndo hm (L.clearSlot h.up hk.up)
    (total_clearSlot a name) (total_clearSlot b name)).bind fun hv => ?_
  exact (L.setSlot h.up hk.up (.known hv)).bind fun _ => .pure hv.up

end Changes
end Correspondence
end Scad
