import Scad.Eval.Trace
import Scad.Eval.Variable

/-!
Building what blocks contain, and the block after a call.

A call with a block after it is evaluated in an environment that knows the
block as its child. The children are built at most once for each such
environment, in the environment of the call.
-/

namespace Scad
namespace Eval

open Run

variable (perform : Perform) (env : FrameId)

/-- A module call is evaluated in an environment that shares the values of the
one that builds it. -/
def buildStatement (call : Tree) (child : Option ScopeId) : Run Value := do
  let e ← sharedFrame env (child.map Value.scope)
  perform (.eval e (.code call))

def buildScope (scope : ScopeId) : Run Value := do
  perform (.build (← newFrame scope env))

def buildItem (item : Value) : Run Value := do
  match item with
  | .shape .. => return item
  | .statement call child => buildStatement perform env call child
  | .scope id => buildScope perform env id
  | .host h =>
    if h.takesEnvironment then throw .unboundName
    else within env (callHost perform h none ⟨[], []⟩)
  | _ =>
    if item.isCallable then within env (callPlain perform item ⟨[], []⟩)
    else throw (.strangeWork (← item.shown))

/-- Join a new result to what there is so far; `undef` adds nothing. -/
def unite (soFar new : Value) : Run Value := do
  match soFar, new with
  | _, .undef => return soFar
  | .undef, _ => return new
  | _, _ =>
    let both ← soFar.plus new
    trace perform env [both, .str "_add", soFar, new] []
    return both

def buildAll (soFar : Value) : List Value → Run Value
  | [] => return soFar
  | item :: rest => do
    let new ← buildItem perform env item
    buildAll (← unite perform env soFar new) rest

def build : Run Value := do
  let f ← frame env
  buildAll perform env .undef (← scope f.scope).work

/-! ## The block after a call -/

/-- The environment of the children; with it comes a list with places for their
results. -/
def childFrame : Run FrameId := do
  let f ← frame env
  match f.childFrame with
  | some c => return c
  | none =>
    match f.child with
    | some (.scope id) =>
      let c ← newFrame id env
      let results ← newList ((← scope id).work.map fun _ => .unbuilt)
      modifyFrame env fun f => { f with childFrame := some c, childResults := results }
      return c
    | _ => throw .malformed

def resetChild : Run Unit :=
  modifyFrame env fun f => { f with childFrame := none, childResults := .unbuilt }

/-- What the child at a place has built, if it was built before. -/
def childResult? (index : Value) : Run (Option Value) := do
  match ← (← frame env).childResults.item index with
  | .unbuilt => return none
  | v => return some v

def setChildResult (index v : Value) : Run Unit := do
  match (← frame env).childResults, index.int? with
  | .list cell, some n =>
    let results ← listItems cell
    match Value.place? results.length n with
    | some p => setList cell (results.set p v)
    | none => throw (.outOfRange .list)
  | _, _ => throw .typeMismatch

/-- A statement is no block: it cannot be built as a child. If there are
results of an earlier block, they stand for its result. -/
def buildLoneChild : Run Value := do
  match (← frame env).childResults with
  | .unbuilt => throw .notImplemented
  | results => return results

/-- One child by its number. The items of a block are no parse nodes as a rule,
so evaluating one that has not been built fails. -/
def oneChild (index : Value) : Run Value := do
  match (← frame env).child with
  | none => return .undef
  | some (.statement ..) =>
    if ← index.equal (.int 0) then buildLoneChild env else return .undef
  | some child =>
    let c ← childFrame env
    let n ← (← frame env).childResults.size
    if ← Value.related .lessEq (.int n) index then return .undef
    match ← childResult? env index with
    | some v => return v
    | none =>
      match child with
      | .scope id =>
        let item ← Value.itemAt .list (← scope id).work index
        let v ← perform (.eval c item)
        setChildResult env index v
        return v
      | _ => throw .noAttribute

/-- Should a run through the children go on? -/
inductive Visit (σ : Type) where
  | more (s : σ)
  | stop (s : σ)

def Visit.state {σ : Type} : Visit σ → σ
  | more s | stop s => s

/-- Build a child that has not been built yet. -/
def buildChild (i : Nat) (item : Value) : Run Value := do
  match ← childResult? env (.int i) with
  | some v => return v
  | none =>
    let v ← match item with
      | .statement call child => buildStatement perform env call child
      | .scope id => buildScope perform env id
      | _ => throw .noAttribute
    setChildResult env (.int i) v
    return v

def visitItems {σ : Type} (f : σ → Value → Run (Visit σ)) : Nat → σ → List Value → Run σ
  | _, s, [] => return s
  | i, s, item :: rest => do
    match ← f s (← buildChild perform env i item) with
    | .more s => visitItems f (i + 1) s rest
    | .stop s => return s

/-- Run through the children in order, each built when its turn comes. Without
a block there is one child, which is `undef`. -/
def visitChildren {σ : Type} (f : σ → Value → Run (Visit σ)) (s : σ) : Run σ := do
  let once (v : Value) : Run σ := Visit.state <$> f s v
  match (← frame env).child with
  | none => once .undef
  | some (.statement ..) => once (← buildLoneChild env)
  | some (.scope id) =>
    let _ ← childFrame env
    visitItems perform env f 0 s (← scope id).work
  | some _ => throw .malformed

def childUnion : Run Value :=
  visitChildren perform env (fun soFar v => Visit.more <$> unite perform env soFar v) Value.undef

def children : Run (List Value) := do
  let vs ← visitChildren perform env (fun vs v => return .more (v :: vs)) []
  return vs.reverse

end Eval
end Scad
