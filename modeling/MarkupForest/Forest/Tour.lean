import MarkupForest.Forest.Edit
import MarkupForest.Forest.Walk

namespace MarkupForest

abbrev Guided (σ : Type) := EStateM TreeError (Forest × σ)

def Edit.guided {σ α : Type} (e : Edit α) : Guided σ α := fun (f, s) =>
  match e f with
  | .ok a f => .ok a (f, s)
  | .error x f => .error x (f, s)

abbrev Guide (σ : Type) := Event → Guided σ Unit

inductive Stage where
  | entering (id : NodeId) (depth : Nat)
  | leaving (id : NodeId) (depth : Nat)
  | finished
  deriving DecidableEq, Repr

structure Tour where
  root : NodeId
  stage : Stage
  deriving DecidableEq, Repr

namespace Tour

variable {σ : Type}

open Edit

def start (root : NodeId) : Tour := ⟨root, .entering root 0⟩

def below (root id : NodeId) (depth : Nat) : Edit Tour := do
  match ← ask (·.firstChild id) with
  | some c => return ⟨root, .entering c (depth + 1)⟩
  | none => return ⟨root, .leaving id depth⟩

structure Note where
  parent : Option NodeId
  siblings : Nat
  next : Option NodeId
  deriving DecidableEq, Repr

def note (id : NodeId) : Edit Note := do
  let parent ← ask (·.parent id)
  let siblings ← match parent with
    | some p => ask (·.childCount p)
    | none => pure 0
  return ⟨parent, siblings, ← nextSibling id⟩

/-- A node that lost its parent was replaced if the parent has as many children as before. -/
def afterEntering (root id : NodeId) (depth : Nat) (n : Note) : Edit Tour := do
  match n.parent with
  | none => below root id depth
  | some p =>
    if (← ask (·.parent id)) = some p then below root id depth
    else if (← ask (·.childCount p)) = n.siblings then
      let i := (← ask (·.find id)).index
      let replacement ← ask (·.child p i)
      below (if id = root then replacement else root) replacement depth
    else if id = root then return ⟨root, .finished⟩
    else match n.next, depth with
      | some next, _ => return ⟨root, .entering next depth⟩
      | none, d + 1 => return ⟨root, .leaving p d⟩
      | none, 0 => throw (.unmet (.strayed id))

def afterLeaving (root id : NodeId) (depth : Nat) : Edit Tour := do
  if id = root then return ⟨root, .finished⟩
  match ← nextSibling id with
  | some next => return ⟨root, .entering next depth⟩
  | none => match ← ask (·.parent id), depth with
    | some p, d + 1 => return ⟨root, .leaving p d⟩
    | _, _ => return ⟨root, .finished⟩

def step (guide : Guide σ) (t : Tour) : Guided σ Tour := do
  match t.stage with
  | .entering id depth =>
    let n ← (note id).guided
    guide (.enter id depth)
    (afterEntering t.root id depth n).guided
  | .leaving id depth =>
    guide (.leave id depth)
    (afterLeaving t.root id depth).guided
  | .finished => return t

def run (guide : Guide σ) : Nat → Tour → Guided σ Tour
  | 0, t => return t
  | n + 1, t => match t.stage with
    | .finished => return t
    | _ => do
      let next ← step guide t
      run guide n next

end Tour

def tour {σ : Type} (limit : Nat) (guide : Guide σ) (root : NodeId) : Guided σ Tour :=
  Tour.run guide limit (Tour.start root)

end MarkupForest
