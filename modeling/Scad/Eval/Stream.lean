import Scad.Eval.Build

/-!
Running through the items of a value. The children of an environment are built
one at a time, each when it is asked for, so whoever stops early leaves the rest
unbuilt, and whoever goes on later finds the next one.
-/

namespace Scad
namespace Eval

variable (perform : Perform)

/-- Build the next child in a run through a block. While it is being built the
run cannot be gone on with; if it fails the run is over. -/
def stepChild (id : Nat) (env : FrameId) (block : ScopeId) (i : Nat) : Run (Option Value) := do
  match (← Run.scope block).work[i]? with
  | none =>
    Run.setStream id .ended
    return none
  | some item =>
    Run.setStream id .busy
    let v ← (buildChild perform env i item).orUndo (Run.setStream id .ended)
    Run.setStream id (.walking env block (i + 1))
    return some v

def nextChild (id : Nat) : Run (Option Value) := do
  match ← Run.stream id with
  | .ended => return none
  | .busy => throw .alreadyRunning
  | .walking env block i => stepChild perform id env block i
  | .waiting env =>
    Run.setStream id .ended
    match (← Run.frame env).child with
    | none => return some .undef
    | some (.statement ..) => some <$> buildLoneChild env
    | some (.scope block) =>
      let _ ← childFrame env
      stepChild perform id env block 0
    | some _ => throw .malformed

def eachChild {σ : Type} (f : σ → Value → Run σ) (id : Nat) : (fuel : Nat) → σ → Run σ
  | 0, _ => throw .tooDeep
  | fuel + 1, s => do
    match ← nextChild perform id with
    | none => return s
    | some v => eachChild f id fuel (← f s v)

/-- Run through the items of a value, with what `f` makes of each. -/
def eachItem {σ : Type} (f : σ → Value → Run σ) (s : σ) (v : Value) : Run σ := do
  match v with
  | .pending id => eachChild perform f id Node.growthLimit s
  | _ => (← v.items).foldlM f s

def mapItems {α : Type} (f : Value → Run α) (v : Value) : Run (List α) := do
  let made ← eachItem perform (fun done w => do return (← f w) :: done) [] v
  return made.reverse

def itemsOf (v : Value) : Run (List Value) := mapItems perform pure v

/-- At most `n` more children, after those in `done`, which are in reverse. -/
def takeChildren (id : Nat) (done : List Value) : (n : Nat) → Run (List Value)
  | 0 => return done.reverse
  | n + 1 => do
    match ← nextChild perform id with
    | none => return done.reverse
    | some v => takeChildren id (v :: done) n

/-- Exactly `n` items. One more is asked for to be sure, and no further. -/
def unpack (n : Nat) (v : Value) : Run (List Value) := do
  match v with
  | .pending id =>
    let items ← takeChildren perform id [] n
    if items.length < n then throw (.tooFewToUnpack n items.length)
    match ← nextChild perform id with
    | none => return items
    | some _ => throw (.tooManyToUnpack n)
  | _ => v.unpack n

/-- The arguments that a pair of a sequence and a table stands for. -/
def argsOf (v : Value) : Run Args := do
  match ← unpack perform 2 v with
  | [positional, named] =>
    let items ← itemsOf perform positional
    match named with
    | .dict entries => return ⟨items, entries⟩
    | _ => throw .typeMismatch
  | _ => throw .typeMismatch

/-- `a += b`: a list takes up the items of whatever has items, one by one. -/
def addTo (a b : Value) : Run Value := do
  match b with
  | .pending _ =>
    if (← a.listItems?).isNone then throw .typeMismatch
    eachItem perform (fun soFar v => soFar.addTo (.tuple [v])) a b
  | _ => a.addTo b

end Eval
end Scad
