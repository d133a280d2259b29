import MarkupForest.Forest.Lineage

namespace MarkupForest

inductive Event where
  | enter (id : NodeId) (depth : Nat)
  | leave (id : NodeId) (depth : Nat)
  deriving DecidableEq, Repr

namespace Event

def id : Event → NodeId
  | .enter id _ | .leave id _ => id

def depth : Event → Nat
  | .enter _ d | .leave _ d => d

end Event

abbrev Visitor (σ : Type) := Event → EStateM TreeError σ Unit

variable {σ : Type}

def Visitor.noting (note : NodeId → Nat → σ → σ) : Visitor σ
  | .enter id depth => modify (note id depth)
  | .leave _ _ => return ()

namespace Forest

def walkFrom (f : Forest) (visit : Visitor σ) : Nat → List Event → EStateM TreeError σ Unit
  | _, [] => return ()
  | 0, _ :: _ => return ()
  | n + 1, .leave id depth :: stack => do
    visit (.leave id depth)
    walkFrom f visit n stack
  | n + 1, .enter id depth :: stack => do
    visit (.enter id depth)
    match f.get? id with
    | some node =>
      walkFrom f visit n (node.childIds.map (.enter · (depth + 1)) ++ .leave id depth :: stack)
    | none => throw (.noSuchNode id)

/-- Every node is entered and left once, so twice the size of the forest bounds the walk. -/
def walk (f : Forest) (visit : Visitor σ) (root : NodeId) : EStateM TreeError σ Unit :=
  f.walkFrom visit (2 * f.size + 1) [.enter root 0]

def forEachNode (f : Forest) (note : NodeId → Nat → σ → σ) (root : NodeId) :
    EStateM TreeError σ Unit :=
  f.walk (.noting note) root

def unfoldFrom (f : Forest) : Nat → List NodeId → List NodeId
  | _, [] => []
  | 0, _ :: _ => []
  | n + 1, id :: stack => id :: unfoldFrom f n (f.childIds id ++ stack)

def descendants (f : Forest) (root : NodeId) : Except TreeError (List NodeId) := do
  let _ ← f.find root
  return f.unfoldFrom f.size [root]

def textContent (f : Forest) (root : NodeId) : Except TreeError String := do
  let texts := (← f.descendants root).map fun id =>
    match f.get? id with
    | some ⟨.text s, _, _, _⟩ => s
    | _ => ""
  return Text.trim (String.join texts)

end Forest

end MarkupForest
