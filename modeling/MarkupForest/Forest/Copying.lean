import MarkupForest.Forest.Sibling

namespace MarkupForest

namespace Forest

def copyUnder (f : Forest) (parent source : NodeId) : Forest :=
  match f.get? source with
  | some n => (f.push n.copy).attach parent f.size
  | none => f

def copyChildren (f : Forest) (target : NodeId) :
    List NodeId → Forest × List (NodeId × NodeId)
  | [] => (f, [])
  | c :: cs =>
    let rest := copyChildren (f.copyUnder target c) target cs
    (rest.1, (c, f.size) :: rest.2)

def copyBelow : Nat → List (NodeId × NodeId) → Forest → Forest
  | 0, _, f => f
  | _ + 1, [], f => f
  | n + 1, (source, target) :: queue, f =>
    let step := f.copyChildren target (f.childIds source)
    copyBelow n (queue ++ step.2) step.1

/-- The copy of a node that a document owns hangs under a copy of that document. -/
def copySubtree (f : Forest) (id : NodeId) (n : Node) : Forest :=
  let g := f.push n.copy
  let h := match if n.isDocument then none else (f.ownerDocument? id).bind f.get? with
    | some d => (g.push d.copy).attach g.size f.size
    | none => g
  copyBelow f.size [(id, f.size)] h

end Forest

open Edit

def shallowClone (id : NodeId) : Edit NodeId := do
  create (← ask (·.find id)).copy

def deepClone (id : NodeId) : Edit NodeId := do
  let n ← ask (·.find id)
  let copy := (← get).size
  modify (·.copySubtree id n)
  return copy

def cloneChildren (id : NodeId) : Edit (List NodeId) := do
  (← ask (·.children id)).mapM deepClone

end MarkupForest
