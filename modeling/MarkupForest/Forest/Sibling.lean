import MarkupForest.Forest.Lineage

namespace MarkupForest

namespace Forest

def childCount (f : Forest) (id : NodeId) : Except TreeError Nat := do
  return (← f.find id).childIds.length

def children (f : Forest) (id : NodeId) : Except TreeError (List NodeId) := do
  return (← f.find id).childIds

def child (f : Forest) (id : NodeId) (index : Nat) : Except TreeError NodeId := do
  let ids ← f.children id
  match ids[index]? with
  | some c => return c
  | none => throw (.indexOutOfRange index ids.length)

def firstChild (f : Forest) (id : NodeId) : Except TreeError (Option NodeId) := do
  return (← f.children id).head?

def lastChild (f : Forest) (id : NodeId) : Except TreeError (Option NodeId) := do
  return (← f.children id).getLast?

def siblings (f : Forest) (id : NodeId) : Except TreeError (List NodeId) := do
  match ← f.parent id with
  | some p => return (f.childIds p).filter (· != id)
  | none => return []

def firstSibling (f : Forest) (id : NodeId) : Except TreeError NodeId := do
  match ← f.parent id with
  | some p => return (f.childIds p).head?.getD id
  | none => return id

def lastSibling (f : Forest) (id : NodeId) : Except TreeError NodeId := do
  match ← f.parent id with
  | some p => return (f.childIds p).getLast?.getD id
  | none => return id

def firstElementChild (f : Forest) (id : NodeId) : Except TreeError (Option NodeId) := do
  return (← f.children id).find? f.isElement

def descend (f : Forest) : Nat → NodeId → NodeId
  | 0, id => id
  | n + 1, id => match (f.childIds id).find? f.isElement with
    | some c => descend f n c
    | none => id

def deepChild (f : Forest) (id : NodeId) : Except TreeError NodeId := do
  let _ ← f.find id
  return f.descend f.size id

def stamp (f : Forest) (i : Nat) : List NodeId → Forest
  | [] => f
  | c :: cs => stamp (f.setIndex c i) (i + 1) cs

def settle (f : Forest) (id : NodeId) : Forest :=
  match f.madeList? id with
  | some l =>
    if l.indexed then f
    else (f.stamp 0 l.ids).changeChildren id fun l => { l with indexed := true }
  | none => f

def index? (f : Forest) (id : NodeId) : Option Nat := (f.get? id).map Node.index

def indexIn (f : Forest) (parent child : NodeId) : Except TreeError Nat := do
  match f.madeList? parent with
  | none => throw (.unmet (.noChildren parent))
  | some l =>
    let n ← f.find child
    if l.indexed && l.ids[n.index]? == some child then return n.index
    match l.ids.idxOf? child with
    | some i => return i
    | none => throw (.unmet (.notAmongChildren child parent))

end Forest

open Edit

/-- A node without a parent keeps the place noted last. -/
def siblingIndex (id : NodeId) : Edit Nat := do
  match ← ask (·.parent id) with
  | some p => modify (·.settle p)
  | none => pure ()
  return (← ask (·.find id)).index

def nextSibling (id : NodeId) : Edit (Option NodeId) := do
  match ← ask (·.parent id) with
  | some p =>
    let i ← siblingIndex id
    let f ← get
    return (f.childIds p)[i + 1]?
  | none => return none

def previousSibling (id : NodeId) : Edit (Option NodeId) := do
  match ← ask (·.parent id) with
  | some p =>
    let i ← siblingIndex id
    let f ← get
    return if i = 0 then none else (f.childIds p)[i - 1]?
  | none => return none

def nextElementSibling (id : NodeId) : Edit (Option NodeId) := do
  match ← ask (·.parent id) with
  | some p =>
    let i ← siblingIndex id
    let f ← get
    return ((f.childIds p).drop (i + 1)).find? f.isElement
  | none => return none

def previousElementSibling (id : NodeId) : Edit (Option NodeId) := do
  match ← ask (·.parent id) with
  | some p =>
    let i ← siblingIndex id
    let f ← get
    return ((f.childIds p).take i).reverse.find? f.isElement
  | none => return none

end MarkupForest
