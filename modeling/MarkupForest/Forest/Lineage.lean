import MarkupForest.Forest.Basic

namespace MarkupForest.Forest

def climb (f : Forest) : Nat → NodeId → List NodeId
  | 0, _ => []
  | n + 1, id => id :: match f.parent? id with
    | some p => climb f n p
    | none => []

def lineage (f : Forest) (id : NodeId) : List NodeId := f.climb (f.size + 1) id

def parent (f : Forest) (id : NodeId) : Except TreeError (Option NodeId) := do
  return (← f.find id).parent

def hasParent (f : Forest) (id : NodeId) : Bool := (f.parent? id).isSome

def parentElement (f : Forest) (id : NodeId) : Except TreeError (Option NodeId) := do
  return (← f.parent id).filter f.isElement

def root (f : Forest) (id : NodeId) : Except TreeError NodeId := do
  let _ ← f.find id
  return (f.lineage id).getLastD id

def isDocument (f : Forest) (id : NodeId) : Bool :=
  match f.get? id with
  | some n => n.isDocument
  | none => false

def ownerDocument? (f : Forest) (id : NodeId) : Option NodeId := (f.lineage id).find? f.isDocument

def ownerDocument (f : Forest) (id : NodeId) : Except TreeError (Option NodeId) := do
  let _ ← f.find id
  return f.ownerDocument? id

def rules (f : Forest) (id : NodeId) : CasePolicy × OutputRules :=
  match (f.ownerDocument? id).bind f.get? with
  | some ⟨.document cases output _, _, _, _⟩ => (cases, output)
  | _ => default

def casePolicy (f : Forest) (id : NodeId) : CasePolicy := (f.rules id).1

def outputRules (f : Forest) (id : NodeId) : OutputRules := (f.rules id).2

def isAbove (f : Forest) (above id : NodeId) : Bool := (f.lineage id).contains above

end MarkupForest.Forest
