import Scad.Proofs.Scoping.Block
import Scad.Proofs.Scoping.Footprint

/-!
Arguments and parameters. Where a parameter takes its value from is said name by name: from the
last position that has one, from a named argument, from its default, or, for a name that begins
with `$`, from what the environment of the call can read. Reading happens before anything is bound,
and in an environment that nobody else uses it leaves all plain names alone.
-/

namespace Scad

open Table

/-! ## Tables -/

namespace Table

variable {α : Type} {name : String} {t : Table α}

/-- The last entry under a name. -/
def last? (name : String) (t : Table α) : Option α := find? name t.reverse

theorem find?_append (s t : Table α) : find? name (s ++ t) = (find? name s).or (find? name t) := by
  induction s with
  | nil => rfl
  | cons e s ih =>
    obtain ⟨key, a⟩ := e
    by_cases h : key = name <;> simp [find?, h, ih]

theorem last?_cons (key : String) (a : α) :
    last? name ((key, a) :: t) = (last? name t).or (if key = name then some a else none) := by
  simp [last?, find?_append, find?]

theorem find?_merge (t es : Table α) :
    find? name (merge t es) = (last? name es).or (find? name t) := by
  induction es generalizing t with
  | nil => rfl
  | cons e es ih =>
    obtain ⟨key, a⟩ := e
    rw [merge, ih, last?_cons, Option.or_assoc]
    by_cases h : key = name
    · subst h
      simp
    · simp [h, find?_put_ne (Ne.symm h)]

theorem nodup_merge (h : t.names.Nodup) (es : Table α) : (merge t es).names.Nodup := by
  induction es generalizing t with
  | nil => exact h
  | cons e es ih => exact ih (nodup_put h)

theorem last?_of_nodup (h : t.names.Nodup) : last? name t = find? name t := by
  induction t with
  | nil => rfl
  | cons e t ih =>
    obtain ⟨key, a⟩ := e
    obtain ⟨hk, ht⟩ := List.nodup_cons.1 h
    rw [last?_cons, ih ht, find?]
    by_cases he : key = name
    · simp [he, find?_eq_none.2 (he ▸ hk)]
    · simp [he]

end Table

/-! ## Environments that nobody else uses -/

/-- A run to which all but one environment and one table belong. -/
def Base.beside (e : FrameId) (t : TableId) : Base :=
  { Base.all with
    own := (· ≠ e)
    ownTable := (· ≠ t)
    frames := e + 1
    tables := t + 1
    later := fun h => Nat.ne_of_gt h
    laterTable := fun h => Nat.ne_of_gt h }

/-- An environment whose values only it can reach. -/
structure World.Private (w : World) (e : FrameId) : Prop extends w.Sound where
  here : e < w.frames.size
  alone : ∀ f < w.frames.size, f ≠ e →
    (w.frameAt f).table ≠ (w.frameAt e).table ∧ (w.frameAt f).childFrame ≠ some e
  idle : ∀ i, (w.streams.getD i .ended).env? ≠ some e

/-- All that runs is apart from an environment with a table of its own. -/
structure World.Shelters (w : World) (e : FrameId) (t : TableId) : Prop extends
    w.SoundFrom (.beside e t) where
  table : (w.frameAt e).table = t

namespace World

variable {w w' : World} {e : FrameId} {t : TableId} {x : String} {n : Nat}

theorem Private.shelters (h : w.Private e) : w.Shelters e (w.frameAt e).table where
  toSound := h.toSound
  count := h.here
  tableCount := (h.frames e h.here).table
  apart f hf := ⟨fun hne _ hc hce => (h.alone f hf hne).2 (hce ▸ hc),
    fun hne => (h.alone f hf hne).1⟩
  runs i _ hf hfe := h.idle i (hfe ▸ hf)
  table := rfl

theorem Sound.entered_private (h : w.Sound) (scope : ScopeId) {c : FrameId}
    (hc : c < w.frames.size) :
    (Eval.entered w scope c).Private w.frames.size := by
  have hplace : (Link.mirror Base.all.own w.frames.size).same .place scope scope := rfl
  have ho := Mirror.sim_newFrame hplace (.inl ⟨rfl, Nat.zero_le c, hc⟩) w w ⟨rfl, rfl, h.from_all⟩
  obtain ⟨hs, -⟩ := Mirror.keeps_of_outcome ho (.inl ⟨_, Eval.newFrame_entered w scope c⟩)
  have hnew : ((Eval.entered w scope c).frameAt w.frames.size).table = w.tables.size :=
    congrArg Frame.table (Eval.frameAt_entered w scope c)
  refine ⟨hs.toSound, ?_, fun f hf hne => ?_, fun i hi => ?_⟩
  · simp [Eval.entered]
  · have hf : f < w.frames.size := by
      simp only [Eval.entered, Array.size_push] at hf
      omega
    have hold : (Eval.entered w scope c).frameAt f = w.frameAt f :=
      getD_push hf _ _
    rw [hnew, hold]
    exact ⟨Nat.ne_of_lt (h.frames f hf).table,
      fun hce => Nat.lt_irrefl _ ((h.frames f hf).childFrame _ hce)⟩
  · exact Nat.lt_irrefl _ (h.streams i _ hi)

theorem EntersOnly.trans {allowed : String → Prop} {w'' : World} (h : w.EntersOnly allowed e w')
    (h' : w'.EntersOnly allowed e w'') : w.EntersOnly allowed e w'' :=
  ⟨fun hs => h'.kept (h.kept hs), fun hs hn => h'.new (h.new hs hn) hn⟩

theorem EntersOnly.same {allowed : String → Prop} (h : w.EntersOnly allowed e w')
    (hx : ¬allowed x) :
    (w'.slotsAt e).named.find? x = (w.slotsAt e).named.find? x := by
  cases hs : (w.slotsAt e).named.find? x with
  | none => exact h.new hs hx
  | some s => exact h.kept hs

theorem Shelters.read (h : w.Shelters e t) (hd : Eval.isDynamicName x = true)
    (hr : (Eval.performWith n (.read e x)).EndsIn w w') :
    w'.Shelters e t ∧ w.EntersOnly (Eval.isDynamicName · = true) e w' := by
  have hself : w' = w → w'.Shelters e t ∧ w.EntersOnly (Eval.isDynamicName · = true) e w' := by
    rintro rfl
    exact ⟨h, .refl w'⟩
  cases n with
  | zero => rcases hr with ⟨v, hr⟩ | ⟨f, hr⟩ <;> cases hr; exact hself rfl
  | succ n =>
    by_cases hx : x = "$children"
    · subst hx
      change (Eval.childCount e).EndsIn w w' at hr
      rcases Mirror.childCount_outcome e w with ⟨v, hv⟩ | ⟨f, hf⟩
      · rcases hr with ⟨u, hr⟩ | ⟨f, hr⟩ <;> cases hv.symm.trans hr
        exact hself rfl
      · rcases hr with ⟨u, hr⟩ | ⟨g, hr⟩ <;> cases hf.symm.trans hr
        exact hself rfl
    have hown : ¬(Base.beside e t).own e := fun hne => hne rfl
    have ho := Mirror.readVariable_origin (Mirror.performs n) h.toSoundFrom hown hx hd
    obtain ⟨hs, hrest, hfoot⟩ := Mirror.keeps_of_outcome ho hr
    have htable := (hrest.frames e (h.lt_size hown)).table
    refine ⟨⟨hs, htable.trans h.table⟩, entersOnly_of_footprint (fun name hallow => ?_)
      htable hfoot⟩
    exact hallow.elim (fun hne => hne h.table) id

end World

namespace Eval

/-! ## What is given and what is missing -/

/-- The value that a call gives to a name: the last one by position, or else a named one, or else
the default. -/
def given (required : List String) (optional : Table Value) (args : Args) (name : String) :
    Option Value :=
  (last? name ((required ++ names optional).zip args.positional)).or
    ((last? name args.named).or (find? name optional))

/-- The names that are not known, each once. -/
def unknownNames (known : String → Bool) : List String → List String
  | [] => []
  | x :: xs =>
    if known x then unknownNames known xs
    else x :: unknownNames (fun y => known y || y == x) xs

theorem mem_unknownNames {x : String} {xs : List String} {known : String → Bool} :
    x ∈ unknownNames known xs ↔ x ∈ xs ∧ known x = false := by
  induction xs generalizing known with
  | nil => simp [unknownNames]
  | cons y ys ih =>
    by_cases hy : known y = true
    · simp only [unknownNames, if_pos hy, ih, List.mem_cons]
      constructor
      · exact fun h => ⟨.inr h.1, h.2⟩
      · rintro ⟨rfl | h, hx⟩
        · cases hy.symm.trans hx
        · exact ⟨h, hx⟩
    · simp only [unknownNames, if_neg hy, List.mem_cons, ih, Bool.or_eq_false_iff,
        beq_eq_false_iff_ne]
      grind

theorem nodup_unknownNames (known : String → Bool) (xs : List String) :
    (unknownNames known xs).Nodup := by
  induction xs generalizing known with
  | nil => exact List.nodup_nil
  | cons x xs ih =>
    unfold unknownNames
    split
    · exact ih known
    · refine List.nodup_cons.2 ⟨fun hm => ?_, ih _⟩
      simpa using (mem_unknownNames.1 hm).2

/-- The parameters that a call gives no value. -/
def missing (required : List String) (optional : Table Value) (args : Args) : List String :=
  unknownNames (fun x => (given required optional args x).isSome)
    (required ++ names optional)

/-- Names that begin with `$` are read one after the other. -/
inductive Reads (p : Perform) (e : FrameId) : List String → World → Table Value → World → Prop
  | nil {w} : Reads p e [] w [] w
  | cons {x xs v vs w w1 w'} (hd : isDynamicName x = true) (h : p (.read e x) w = .ok v w1)
      (more : Reads p e xs w1 vs w') : Reads p e (x :: xs) w ((x, v) :: vs) w'

/-- A name that gets no value, and how that ends a call. -/
inductive Blocks (p : Perform) (e : FrameId) (x : String) (w : World) : Fault → World → Prop
  | plain (h : isDynamicName x = false) : Blocks p e x w .unboundName w
  | unknown {f w'} (hd : isDynamicName x = true) (h : p (.read e x) w = .error f w')
      (hf : f.faultClass = .key) : Blocks p e x w .unboundName w'
  | fails {f w'} (hd : isDynamicName x = true) (h : p (.read e x) w = .error f w')
      (hf : f.faultClass ≠ .key) : Blocks p e x w f w'

/-- How binding the arguments of a call ends. -/
inductive Binds (p : Perform) (e : FrameId) (required : List String) (optional : Table Value)
    (args : Args) (w : World) : EStateM.Result Fault World Unit → Prop
  | surplus (h : required.length + optional.length < args.positional.length) :
      Binds p e required optional args w (.error .unboundName w)
  | blocked {xs y ys vs w1 f w'}
      (h : args.positional.length ≤ required.length + optional.length)
      (hs : missing required optional args = xs ++ y :: ys) (hr : Reads p e xs w vs w1)
      (hb : Blocks p e y w1 f w') (only : w.EntersOnly (isDynamicName · = true) e w') :
      Binds p e required optional args w (.error f w')
  | bound {vs w1 w'} (h : args.positional.length ≤ required.length + optional.length)
      (hr : Reads p e (missing required optional args) w vs w1)
      (values : ∀ x v, given required optional args x = some v ∨
        given required optional args x = none ∧ vs.find? x = some v →
        (w'.slotsAt e).named.find? x = some (.known v))
      (others : ∀ x, isDynamicName x = false → given required optional args x = none →
        (w'.slotsAt e).named.find? x = (w.slotsAt e).named.find? x) :
      Binds p e required optional args w (.ok () w')

variable {required : List String} {optional : Table Value} {args : Args} {p : Perform}
  {e : FrameId} {w w1 w' : World} {x : String} {xs : List String} {vs : Table Value}

theorem mem_missing : x ∈ missing required optional args ↔
    x ∈ required ∧ given required optional args x = none := by
  rw [missing, mem_unknownNames, Option.isSome_eq_false_iff, Option.isNone_iff_eq_none,
    List.mem_append]
  refine ⟨fun h => ⟨h.1.resolve_right fun hx => ?_, h.2⟩, fun h => ⟨.inl h.1, h.2⟩⟩
  have hnone := h.2
  simp only [given, Option.or_eq_none_iff] at hnone
  exact find?_eq_none.1 hnone.2.2 hx

theorem bindPositional_ok {t : Table Value} {names : List String} {vs : List Value}
    (h : vs.length ≤ names.length) (w : World) :
    bindPositional t names vs w = .ok (t.merge (names.zip vs)) w := by
  induction names generalizing t vs with
  | nil =>
    obtain rfl := List.length_eq_zero_iff.1 (Nat.le_zero.1 h)
    rfl
  | cons name names ih =>
    cases vs with
    | nil => rfl
    | cons v vs => exact ih (Nat.le_of_succ_le_succ h)

theorem bindPositional_surplus {t : Table Value} {names : List String} {vs : List Value}
    (h : names.length < vs.length) (w : World) :
    bindPositional t names vs w = .error .unboundName w := by
  induction names generalizing t vs with
  | nil =>
    cases vs with
    | nil => cases h
    | cons v vs => rfl
  | cons name names ih =>
    cases vs with
    | nil => cases h
    | cons v vs => exact ih (Nat.lt_of_succ_lt_succ h)

theorem bindMissing_cases {t : Table Value} {known : String → Bool}
    (hk : ∀ x, has x t = known x) (names : List String) (w : World) :
    (∃ vs w1, Reads p e (unknownNames known names) w vs w1 ∧
      bindMissing p e t names w = .ok (t.merge vs) w1) ∨
    ∃ xs y ys vs w1 f w2, unknownNames known names = xs ++ y :: ys ∧ Reads p e xs w vs w1 ∧
      Blocks p e y w1 f w2 ∧ bindMissing p e t names w = .error f w2 := by
  induction names generalizing t known w with
  | nil => exact .inl ⟨[], w, .nil, rfl⟩
  | cons x names ih =>
    unfold bindMissing unknownNames
    rw [hk x]
    by_cases hx : known x = true
    · rw [if_pos hx, if_pos hx]
      exact ih hk w
    rw [if_neg hx, if_neg hx]
    cases hd : isDynamicName x with
    | false => exact .inr ⟨[], x, _, [], w, _, w, rfl, .nil, .plain hd, rfl⟩
    | true =>
      rw [if_pos rfl]
      cases hr : p (.read e x) w with
      | error f w1 =>
        by_cases hf : f.faultClass = .key
        · exact .inr ⟨[], x, _, [], w, _, w1, rfl, .nil, .unknown hd hr hf,
            Run.bind_of_error (Run.orIfUnknown_of_unknown hr hf)⟩
        · exact .inr ⟨[], x, _, [], w, _, w1, rfl, .nil, .fails hd hr hf,
            Run.bind_of_error (Run.orIfUnknown_of_error hr hf)⟩
      | ok v w1 =>
        rw [Run.bind_of_ok (Run.orIfUnknown_of_ok hr)]
        have hk' : ∀ y, has y (t.put x v) = (known y || y == x) := by
          intro y
          rw [← hk y]
          by_cases hy : y = x
          · simp [has, hy]
          · simp [has, hy, find?_put_ne hy]
        rcases ih hk' w1 with ⟨vs, w2, hreads, hrun⟩ |
          ⟨xs, y, ys, vs, w2, f, w3, hs, hreads, hb, hrun⟩
        · exact .inl ⟨(x, v) :: vs, w2, .cons hd hr hreads, hrun⟩
        · exact .inr ⟨x :: xs, y, ys, (x, v) :: vs, w2, f, w3, by rw [hs]; rfl,
            .cons hd hr hreads, hb, hrun⟩

theorem setAll_ok (t : Table Value) (he : (w.frameAt e).table < w.tables.size) :
    ∃ w', setAll e t w = .ok () w' ∧ ∀ x, (w'.slotsAt e).named.find? x =
      ((t.last? x).map Slot.known).or ((w.slotsAt e).named.find? x) := by
  induction t generalizing w with
  | nil => exact ⟨w, rfl, fun _ => rfl⟩
  | cons entry t ih =>
    obtain ⟨name, v⟩ := entry
    have hsize : ((w.withSlot e name (.known v)).frameAt e).table <
        (w.withSlot e name (.known v)).tables.size := by
      simpa [World.withSlot, World.frameAt] using he
    obtain ⟨w', hrun, hfind⟩ := ih hsize
    refine ⟨w', hrun, fun x => ?_⟩
    rw [hfind, last?_cons, Option.map_or, Option.or_assoc]
    by_cases hx : name = x
    · subst hx
      rw [World.withSlot_known he]
      simp
    · rw [World.withSlot_other (Ne.symm hx)]
      simp [hx]

/-! ## Calls -/

theorem Reads.enters {n t : Nat} (h : Reads (performWith n) e xs w vs w1) (hw : w.Shelters e t) :
    w1.Shelters e t ∧ w.EntersOnly (isDynamicName · = true) e w1 := by
  induction h with
  | nil => exact ⟨hw, .refl _⟩
  | cons hd hr _ ih =>
    obtain ⟨hw1, only⟩ := hw.read hd (.inl ⟨_, hr⟩)
    obtain ⟨hw', only'⟩ := ih hw1
    exact ⟨hw', only.trans only'⟩

theorem Blocks.enters {n t : Nat} {f : Fault} (h : Blocks (performWith n) e x w f w')
    (hw : w.Shelters e t) : w.EntersOnly (isDynamicName · = true) e w' := by
  cases h with
  | plain => exact .refl w
  | unknown hd hr | fails hd hr => exact (hw.read hd (.inr ⟨_, hr⟩)).2

theorem Reads.names (h : Reads p e xs w vs w') : names vs = xs := by
  induction h with
  | nil => rfl
  | cons _ _ _ ih => exact congrArg _ ih

theorem Reads.dynamic (h : Reads p e xs w vs w') (hx : x ∈ xs) : isDynamicName x = true := by
  induction h with
  | nil => cases hx
  | cons hd _ _ ih =>
    rcases List.mem_cons.1 hx with rfl | hx
    · exact hd
    · exact ih hx

theorem arguments_bind (hw : w.Private e) (required : List String)
    (ho : (names optional).Nodup) (args : Args) (n : Nat) :
    Binds (performWith n) e required optional args w
      (bindParams (performWith n) e (.named required optional) args w) := by
  have hlength : (required ++ names optional).length = required.length + optional.length := by
    simp [names]
  change Binds _ e required optional args w ((bindPositional (merge optional args.named)
    (required ++ names optional) args.positional >>= fun t =>
      bindMissing (performWith n) e t (required ++ names optional) >>= setAll e) w)
  by_cases hsurplus : required.length + optional.length < args.positional.length
  · rw [Run.bind_of_error (bindPositional_surplus (hlength ▸ hsurplus) w)]
    exact .surplus hsurplus
  have hle := Nat.le_of_not_lt hsurplus
  rw [Run.bind_of_ok (bindPositional_ok (hlength ▸ hle) w)]
  generalize ht : (merge optional args.named).merge
    ((required ++ names optional).zip args.positional) = t
  have hfind (x : String) : find? x t = given required optional args x := by
    rw [← ht, find?_merge, find?_merge, given]
  have hnodup : t.names.Nodup := ht ▸ nodup_merge (nodup_merge ho _) _
  rcases bindMissing_cases (fun x => congrArg Option.isSome (hfind x))
    (required ++ names optional) w with
    ⟨vs, w1, hreads, hrun⟩ | ⟨xs, y, ys, vs, w1, f, w', hs, hreads, hb, hrun⟩
  · obtain ⟨hw1, only⟩ := hreads.enters hw.shelters
    have hlt := (hw1.frames e (hw1.lt_size fun hne => hne rfl)).table
    obtain ⟨w', hset, hslots⟩ := setAll_ok (t.merge vs) hlt
    have hnames : names vs = missing required optional args := hreads.names
    have hvs : (names vs).Nodup := hnames ▸ nodup_unknownNames _ _
    have hread {x v} (h : vs.find? x = some v) : x ∈ missing required optional args :=
      hnames ▸ List.mem_map_of_mem (mem_of_find? h)
    have hvalue (x : String) : (w'.slotsAt e).named.find? x =
        (((vs.find? x).or (given required optional args x)).map Slot.known).or
          ((w1.slotsAt e).named.find? x) := by
      rw [hslots, last?_of_nodup (nodup_merge hnodup vs), find?_merge,
        last?_of_nodup hvs, hfind]
    rw [Run.bind_of_ok hrun, hset]
    refine .bound hle hreads (fun x v h => ?_) fun x hx h => ?_
    · rw [hvalue]
      rcases h with h | ⟨h, hv⟩
      · cases hf : vs.find? x with
        | none =>
          rw [h]
          rfl
        | some u => cases h.symm.trans (mem_missing.1 (hread hf)).2
      · rw [h, hv]
        rfl
    · rw [hvalue, h]
      cases hf : vs.find? x with
      | none => exact only.same fun hd => by cases hd.symm.trans hx
      | some u => cases (hreads.dynamic (hread hf)).symm.trans hx
  · rw [Run.bind_of_error hrun]
    obtain ⟨hw1, only⟩ := hreads.enters hw.shelters
    exact .blocked hle hs hreads hb (only.trans (hb.enters hw1))

theorem Reads.not_blocks {y : String} {ys : List String} {us : Table Value} {f : Fault} {w2 : World}
    (h : Reads p e (xs ++ y :: ys) w vs w') (h1 : Reads p e xs w us w1) :
    ¬Blocks p e y w1 f w2 := by
  induction h1 generalizing vs with
  | nil =>
    obtain - | ⟨hd, hr, -⟩ := h
    rintro (hp | ⟨-, he, -⟩ | ⟨-, he, -⟩)
    · cases hd.symm.trans hp
    · cases hr.symm.trans he
    · cases hr.symm.trans he
  | cons _ hr _ ih =>
    obtain - | ⟨-, hr', more⟩ := h
    cases hr.symm.trans hr'
    exact ih more

/-- A call gives its arguments to the parameters, and it succeeds if there are no more of them than
parameters and if all names that are given no value can be read. -/
theorem call_binds_arguments {w : World} {e : FrameId} (hw : w.Private e) (required : List String)
    {optional : Table Value} (ho : (Table.names optional).Nodup) (args : Args) (n : Nat) :
    Binds (performWith n) e required optional args w
      (bindParams (performWith n) e (.named required optional) args w) ∧
    ((∃ w', bindParams (performWith n) e (.named required optional) args w = .ok () w') ↔
      args.positional.length ≤ required.length + optional.length ∧
      ∃ vs w₁, Reads (performWith n) e (missing required optional args) w vs w₁) ∧
    ∀ x, x ∈ missing required optional args ↔
      x ∈ required ∧ given required optional args x = none := by
  have hb := arguments_bind hw required ho args n
  refine ⟨hb, ⟨?_, ?_⟩, fun x => mem_missing⟩
  · rintro ⟨w', h⟩
    rw [h] at hb
    cases hb with
    | bound hle hr => exact ⟨hle, _, _, hr⟩
  · rintro ⟨hle, vs, w₁, hr⟩
    generalize bindParams (performWith n) e (.named required optional) args w = r at hb ⊢
    cases hb with
    | surplus h => exact absurd hle (Nat.not_le_of_lt h)
    | blocked _ hs hxs hy => exact absurd hy ((hs ▸ hr).not_blocks hxs)
    | bound => exact ⟨_, rfl⟩

/-- A call with an argument by position, one by a name that is no parameter, a default, and a name
that the caller has to know. -/
theorem call_binds_arguments_mixed :
    let w := entered (({} : Session).after [.load "$c=7;", .build]).world 2 0
    ∃ w', bindParams (performWith 30) 1 (.named ["a", "$c"] [("b", .int 2)])
        ⟨[.int 1], [("z", .int 3)]⟩ w = .ok () w' ∧
      Binds (performWith 30) 1 ["a", "$c"] [("b", .int 2)] ⟨[.int 1], [("z", .int 3)]⟩ w
        (.ok () w') := by
  intro w
  have htest : ((({} : Session).after [.load "$c=7;", .build]).world.frames.size == 1 &&
      (bindParams (performWith 30) 1 (.named ["a", "$c"] [("b", .int 2)])
        ⟨[.int 1], [("z", .int 3)]⟩).succeeds w) = true := by
    decide +kernel
  obtain ⟨hsize, hrun⟩ := Bool.and_eq_true_iff.1 htest
  have hsize := beq_iff_eq.1 hsize
  have hsound : (({} : Session).after [.load "$c=7;", .build]).world.Sound :=
    (Session.after_sound Session.sound_empty (by decide)).world
  have hprivate := hsound.entered_private 2 (c := 0) (hsize ▸ Nat.one_pos)
  rw [hsize] at hprivate
  obtain ⟨⟨⟩, w', hrun⟩ := Run.succeeds_eq_true hrun
  have hnames : (Table.names [("b", Value.int 2)]).Nodup := by decide
  have hb := (call_binds_arguments hprivate ["a", "$c"] hnames ⟨[.int 1], [("z", .int 3)]⟩ 30).1
  exact ⟨w', hrun, hrun ▸ hb⟩

end Eval

/-- A parameter is not missing if a later one of the same name has a default. -/
theorem Eval.default_covers_required : ∃ v w, (do
      let env ← Environment.ofText "function f(a,a=1)=a; x=f();"
      perform (.read env "x") : Run Value) {} = .ok v w := by
  obtain ⟨v, w, hrun, -⟩ := Run.passes_eq_true (w := {})
    (m := do
      let env ← Environment.ofText "function f(a,a=1)=a; x=f();"
      perform (.read env "x"))
    (t := fun v _ => v.isNode) (by decide +kernel)
  exact ⟨v, w, hrun⟩

end Scad
