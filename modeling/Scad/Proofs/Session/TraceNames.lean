import Mathlib
import Scad.Proofs.Correspondence.Sound
import Scad.Proofs.Loading.Meaning
import Scad.Proofs.Scoping.Lexical
import Scad.Session.Environment

/-!
The names of shapes in traces. A shape is shown under its number, and numbers are given in
the order in which shapes are shown first. The end of a session forgets which shape has which
number, but not how many numbers were given.
-/

namespace Scad

open List

/-! ## Numbers -/

/-- An environment with a number for an object: the one it has, or else the next one. -/
def Frame.numbered (f : Frame) (ident : Nat) : Frame :=
  match f.traced.lookup ident with
  | some _ => f
  | none => { f with traced := (ident, f.nextTrace) :: f.traced, nextTrace := f.nextTrace + 1 }

def Frame.numberOf (f : Frame) (ident : Nat) : Nat := (f.traced.lookup ident).getD f.nextTrace

theorem Frame.lookup_numbered (f : Frame) (ident : Nat) :
    (f.numbered ident).traced.lookup ident = some (f.numberOf ident) := by
  unfold numbered numberOf
  cases h : f.traced.lookup ident with
  | none => simp
  | some n => simp [h]

def World.numbered (w : World) (tracer : FrameId) (ident : Nat) : World :=
  { w with frames := w.frames.modify tracer (·.numbered ident) }

section

variable {w : World} {tracer : FrameId}

theorem Trace.number_eq (ident : Nat) : number tracer ident w =
    .ok ((w.frameAt tracer).numberOf ident, ((w.frameAt tracer).traced.lookup ident).isNone)
      (w.numbered tracer ident) := by
  rw [number, Run.frame_bind]
  unfold Frame.numberOf
  cases h : (w.frameAt tracer).traced.lookup ident with
  | none =>
    refine congrArg (fun frames => EStateM.Result.ok _ { w with frames := frames })
      (modify_congr (d := default) ?_)
    change _ = (w.frameAt tracer).numbered ident
    rw [Frame.numbered, h]
    rfl
  | some n =>
    have hsame : w.frames.modify tracer (fun f => f) = w.frames := by
      refine Array.ext_getElem? fun j => ?_
      rw [Array.getElem?_modify]
      split
      · exact Option.map_id'
      · rfl
    refine congrArg (fun frames => EStateM.Result.ok _ { w with frames := frames })
      (hsame.symm.trans (modify_congr (d := default) ?_))
    change w.frameAt tracer = (w.frameAt tracer).numbered ident
    rw [Frame.numbered, h]

theorem World.frameAt_numbered (ht : tracer < w.frames.size) (ident : Nat) :
    (w.numbered tracer ident).frameAt tracer = (w.frameAt tracer).numbered ident := by
  simp only [World.frameAt, World.numbered, getD_modify]
  rw [if_pos ⟨trivial, ht⟩]

end

/-! ## Numbers in the order of first occurrence -/

/-- The number of an object among those that occur, if the first of them has the number `n`. -/
def Trace.rank (n : Nat) (ids : List Nat) (i : Nat) : Nat := n + ids.eraseDups.idxOf i

/-- The objects that have numbers in an environment are `ids`. -/
structure Frame.Numbers (f : Frame) (n : Nat) (ids : List Nat) : Prop where
  lookup : ∀ i, f.traced.lookup i = if i ∈ ids then some (Trace.rank n ids i) else none
  next : f.nextTrace = n + ids.eraseDups.length

namespace Trace

variable {n i : Nat} {ids all : List Nat}

theorem rank_extend (hp : ids <+: all) (hi : i ∈ ids) : rank n all i = rank n ids i := by
  obtain ⟨more, rfl⟩ := hp
  rw [rank, eraseDups_append, idxOf_append_of_mem (mem_eraseDups.2 hi), rank]

theorem eraseDups_concat (ids : List Nat) (i : Nat) :
    (ids ++ [i]).eraseDups = if i ∈ ids then ids.eraseDups else ids.eraseDups ++ [i] := by
  have hone : [i].eraseDups = [i] := rfl
  by_cases hi : i ∈ ids <;> simp [eraseDups_append, hi, removeAll, hone]

theorem rank_inj (hi : i ∈ ids) {j : Nat} : rank n ids i = rank n ids j ↔ i = j :=
  Nat.add_left_cancel_iff.trans (idxOf_inj (mem_eraseDups.2 hi))

theorem label_inj {m n : Nat} : label m = label n ↔ m = n :=
  (String.append_right_inj _).trans Nat.repr_inj

theorem nodup_eraseDups (ids : List Nat) : ids.eraseDups.Nodup := by
  induction ids using reverseRecOn with
  | nil => exact nodup_nil
  | append_singleton ids i ih =>
    by_cases hi : i ∈ ids <;> simp [eraseDups_concat, hi, ih, nodup_append]
    exact fun j hj he => hi (he ▸ hj)

theorem map_rank (n : Nat) (ids : List Nat) :
    ids.eraseDups.map (rank n ids) = range' n ids.eraseDups.length := by
  refine ext_getElem (by simp) fun k hk _ => ?_
  simp [rank, (nodup_eraseDups ids).idxOf_getElem]

end Trace

theorem Frame.Numbers.numbered {f : Frame} {n : Nat} {ids : List Nat} (h : f.Numbers n ids)
    (i : Nat) : (f.numbered i).Numbers n (ids ++ [i]) := by
  by_cases hi : i ∈ ids
  · have hf : f.numbered i = f := by rw [Frame.numbered, h.lookup, if_pos hi]
    have hd : (ids ++ [i]).eraseDups = ids.eraseDups := by rw [Trace.eraseDups_concat, if_pos hi]
    refine ⟨fun j => ?_, by rw [hf, hd, h.next]⟩
    have hj : j ∈ ids ++ [i] ↔ j ∈ ids := by simpa using fun h => h ▸ hi
    simp only [hf, h.lookup, hj, Trace.rank, hd]
  · have hf : f.numbered i =
        { f with traced := (i, f.nextTrace) :: f.traced, nextTrace := f.nextTrace + 1 } := by
      rw [Frame.numbered, h.lookup, if_neg hi]
    have hd : (ids ++ [i]).eraseDups = ids.eraseDups ++ [i] := by
      rw [Trace.eraseDups_concat, if_neg hi]
    refine ⟨fun j => ?_, by rw [hf, hd, length_append, h.next]; rfl⟩
    by_cases hj : j = i
    · simp [hf, hj, Trace.rank, hd, hi, h.next, idxOf_append]
    · simp only [hf, lookup_cons, beq_false_of_ne hj, h.lookup, mem_append, mem_singleton, hj,
        or_false]
      split
      · next hm => rw [Trace.rank_extend (prefix_append _ _) hm]
      · rfl

theorem Table.remove_map {α β : Type} (f : α → β) (key : String) (t : Table α) :
    remove key (t.map fun e => (e.1, f e.2)) = (remove key t).map fun e => (e.1, f e.2) := by
  induction t with
  | nil => rfl
  | cons e rest ih =>
    simp only [map_cons, remove]
    split
    · rfl
    · rw [ih, map_cons]

/-! ## Lines -/

namespace Trace

/-- A value in a line: a shape, or a value that is shown as it is. -/
inductive Part where
  | shape (ident : Nat) (record : Record)
  | plain (v : Value) (text : String) (h : ∀ tracer, name tracer v = pure text)

namespace Part

def value : Part → Value
  | shape ident record => .shape ident record
  | plain v .. => v

def idents : Part → List Nat
  | shape ident _ => [ident]
  | plain .. => []

def shown (number : Nat → Nat) : Part → String
  | shape ident _ => label (number ident)
  | plain _ text _ => text

end Part

/-- A line of a trace without axes. -/
structure Call where
  result : Part
  op : Text
  parts : List Part
  named : Table Part

namespace Call

variable (c : Call) (number : Nat → Nat) (env : FrameId)

/-- What has the method that was called. -/
def object : Option Part :=
  match Table.find? "_obj" c.named with
  | some (.plain .undef ..) => none
  | p => p

def others : Table Part := Table.remove "_obj" c.named

/-- What stands between the parts of a shape. -/
def sign? : Option String :=
  if c.op == Text.ofString "_add" then some " + "
  else if c.op == Text.ofString "_inter" || c.op == Text.ofString "_diff" then some " & "
  else none

/-- The objects in the order in which the line shows them. -/
def idents : List Nat :=
  c.result.idents ++ if c.sign?.isSome then c.parts.flatMap Part.idents
    else c.object.elim [] Part.idents ++
      (c.parts.flatMap Part.idents ++ c.others.flatMap (·.2.idents))

def ending (args more : List String) (start : String) : Text :=
  Text.ofString start ++ c.op ++ Text.ofString
    ("(" ++ String.intercalate ", " (args ++ more) ++ ")\n")

/-- The line if objects have the given numbers. -/
def text : Text :=
  let start := c.result.shown number ++ " = "
  let args := c.parts.map (Part.shown number)
  match c.sign? with
  | some sign => (start ++ String.intercalate sign args ++ "\n" : String)
  | none => c.ending args (c.others.map fun e => e.1 ++ "=" ++ e.2.shown number)
      (c.object.elim start fun p => start ++ p.shown number ++ ".")

def line : Run Unit :=
  Trace.line env (c.result.value :: .str c.op :: c.parts.map Part.value)
    (c.named.map fun e => (e.1, e.2.value))

end Call

/-- Wherever it begins in a session in which `all` occur, the run gives a value, shows the
objects `more` and writes lines. -/
def Runs {α : Type} (env : FrameId) (n : Nat) (all : List Nat) (m : Run α) (a : α)
    (more : List Nat) (lines : List Text) : Prop :=
  ∀ ids w, ids ++ more <+: all → env < w.frames.size → (w.frameAt env).Numbers n ids →
    ∃ w', m w = .ok a w' ∧ env < w'.frames.size ∧ (w'.frameAt env).Numbers n (ids ++ more) ∧
      w'.out.toList = w.out.toList ++ lines

namespace Runs

variable {α β : Type} {env : FrameId} {n : Nat} {all more : List Nat} {m : Run α} {a : α}
  {lines lines' : List Text} {f : α → Run β} {b : β}

theorem pure (a : α) : Runs env n all (Pure.pure a) a [] [] :=
  fun ids w _ he hn => ⟨w, rfl, he, (append_nil ids).symm ▸ hn, (append_nil _).symm⟩

theorem print (text : Text) : Runs env n all (Run.print text) () [] [text] :=
  fun ids _ _ he hn => ⟨_, rfl, he, (append_nil ids).symm ▸ hn, Array.toList_push⟩

theorem bind {more' : List Nat} (h : Runs env n all m a more lines)
    (hf : Runs env n all (f a) b more' lines') :
    Runs env n all (m >>= f) b (more ++ more') (lines ++ lines') := by
  intro ids w hp he hn
  rw [← append_assoc] at hp ⊢
  obtain ⟨w1, hm, he1, hn1, ho1⟩ := h ids w ((prefix_append _ _).trans hp) he hn
  obtain ⟨w2, hf, he2, hn2, ho2⟩ := hf _ w1 hp he1 hn1
  exact ⟨w2, (Run.bind_of_ok hm).trans hf, he2, hn2, by rw [ho2, ho1, append_assoc]⟩

theorem finish (h : Runs env n all m a more lines) (hf : Runs env n all (f a) b [] lines') :
    Runs env n all (m >>= f) b more (lines ++ lines') :=
  append_nil more ▸ h.bind hf

theorem name : (p : Part) →
    Runs env n all (Trace.name env p.value) (p.shown (rank n all)) p.idents []
  | .plain v text h => (h env).symm ▸ .pure text
  | .shape i record => by
    intro ids w hp he hn
    have hs := hn.numbered i
    have hi : i ∈ ids ++ [i] := by simp
    have hnumber : (w.frameAt env).numberOf i = rank n all i := by
      have hlookup := (w.frameAt env).lookup_numbered i
      rw [hs.lookup, if_pos hi] at hlookup
      exact (Option.some.inj hlookup).symm.trans (rank_extend hp hi).symm
    refine ⟨w.numbered env i, (Run.bind_of_ok (number_eq i)).trans ?_,
      by simpa [World.numbered] using he, ?_, (append_nil _).symm⟩
    · rw [hnumber]
      rfl
    · rw [World.frameAt_numbered he]
      exact hs

theorem names : (ps : List Part) → Runs env n all (Trace.names env (ps.map Part.value))
    (ps.map (Part.shown (rank n all))) (ps.flatMap Part.idents) []
  | [] => .pure []
  | p :: ps => (name p).bind ((names ps).finish (.pure _))

theorem namedParts : (es : Table Part) →
    Runs env n all (Trace.namedParts env (es.map fun e => (e.1, e.2.value)))
      (es.map fun e => e.1 ++ "=" ++ e.2.shown (rank n all)) (es.flatMap (·.2.idents)) []
  | [] => .pure []
  | e :: es => (name e.2).bind ((namedParts es).finish (.pure _))

theorem line (c : Call) :
    Runs env n all (c.line env) () c.idents [c.text (rank n all)] := by
  have hword : ∀ word : String, isWord (.str c.op) word = Pure.pure (c.op == Text.ofString word) :=
    fun _ => rfl
  have hobj : Table.find? "_obj" (c.named.map fun e => (e.1, e.2.value)) =
      (Table.find? "_obj" c.named).map Part.value := Table.find?_map Part.value "_obj" c.named
  have hmore : Table.remove "_obj" (c.named.map fun e => (e.1, e.2.value)) =
      c.others.map fun e => (e.1, e.2.value) := Table.remove_map ..
  have hend (start : String) := (names c.parts : Runs env n all _ _ _ _).bind
    (f := fun args => Trace.namedParts env (c.others.map fun e => (e.1, e.2.value)) >>= fun more =>
      Run.print (c.ending args more start)) ((namedParts c.others).finish (print _))
  unfold Call.line Trace.line Call.idents Call.text Call.sign?
  simp only [hword, pure_bind, hobj, hmore]
  refine (name c.result).bind ?_
  split
  · exact (names c.parts).finish (print _)
  split
  · exact (names c.parts).finish (print _)
  unfold Call.object
  cases Table.find? "_obj" c.named with
  | none => exact hend _
  | some p =>
    cases p with
    | shape i record => exact (name (.shape i record)).bind (hend _)
    | plain v text h =>
      cases v with
      | undef => exact hend _
      | _ => exact (name (.plain _ text h)).bind (hend _)

theorem calls : (cs : List Call) → Runs env n all (cs.forM (Call.line · env)) ()
    (cs.flatMap Call.idents) (cs.map (Call.text · (rank n all)))
  | [] => .pure ()
  | c :: cs => (line c).bind (calls cs)

end Runs

/-! ## Sessions -/

/-- Lines that are written between the begin and the end of a trace. -/
def session (env : FrameId) (cs : List Call) : Run Unit := do
  let before ← Environment.startTrace env
  cs.forM (Call.line · env)
  Environment.stopTrace env before

/-- The objects of a session in the order of their first occurrence. -/
def firsts (cs : List Call) : List Nat := (cs.flatMap Call.idents).eraseDups

theorem session_spec {w : World} {env : FrameId} (he : env < w.frames.size)
    (ht : (w.frameAt env).traced = []) (cs : List Call) :
    ∃ w', session env cs w = .ok () w' ∧ env < w'.frames.size ∧ (w'.frameAt env).traced = [] ∧
      (w'.frameAt env).nextTrace = (w.frameAt env).nextTrace + (firsts cs).length ∧
      w'.out.toList = w.out.toList ++
        cs.map (Call.text · (rank (w.frameAt env).nextTrace (cs.flatMap Call.idents))) := by
  have hstart : ∃ w1, Environment.startTrace env w = .ok w.tracer w1 ∧ w1.frames = w.frames ∧
    w1.out = w.out :=
    ⟨_, rfl, rfl, rfl⟩
  obtain ⟨w1, h1, hf, ho⟩ := hstart
  have hn : (w1.frameAt env).Numbers (w.frameAt env).nextTrace [] := by
    rw [World.frameAt, hf]
    exact ⟨fun i => by rw [← World.frameAt, ht]; rfl, rfl⟩
  obtain ⟨w2, h2, he2, hn2, ho2⟩ := Runs.calls cs [] w1 prefix_rfl (hf ▸ he) hn
  have hstop : ∃ w3, Environment.stopTrace env w.tracer w2 = .ok () w3 ∧ w3.out = w2.out ∧
      w3.frames = w2.frames.modify env fun f => { f with traced := [] } := ⟨_, rfl, rfl, rfl⟩
  obtain ⟨w3, h3, ho3, hf3⟩ := hstop
  have hframe : w3.frameAt env = { w2.frameAt env with traced := [] } := by
    rw [World.frameAt, hf3, getD_modify, if_pos ⟨rfl, he2⟩]
    rfl
  refine ⟨w3, (Run.bind_of_ok h1).trans ((Run.bind_of_ok h2).trans h3), ?_, ?_, ?_, ?_⟩
  · rwa [hf3, Array.size_modify]
  · rw [hframe]
  · rw [hframe, hn2.next, nil_append, firsts]
  · rw [ho3, ho2, ho]
    rfl

end Trace

/-- The difference of two solids is shown as what they have in common. -/
theorem Eval.difference_shown_as_common : ∃ u w,
    (do
      let env ← Environment.ofText "difference(){cube(1,center=true);sphere(2);}"
      let _ ← Environment.startTrace env
      perform (.build env) : Run Value) {} = .ok u w ∧
    w.out.toList = ["o_1 = Box(1, 1, 1)\n", "o_2 = Sphere(2)\n", "o_3 = o_1 & o_2\n"] := by
  obtain ⟨u, w, hrun, htest⟩ := Run.passes_eq_true (w := {})
    (m := do
      let env ← Environment.ofText "difference(){cube(1,center=true);sphere(2);}"
      let _ ← Environment.startTrace env
      Eval.perform (.build env))
    (t := fun _ w => w.out.toList ==
      ["o_1 = Box(1, 1, 1)\n", "o_2 = Sphere(2)\n", "o_3 = o_1 & o_2\n"]) (by decide +kernel)
  exact ⟨u, w, hrun, beq_iff_eq.1 htest⟩

end Scad
