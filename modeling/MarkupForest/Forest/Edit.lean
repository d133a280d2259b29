import MarkupForest.Forest.Sibling

namespace MarkupForest

namespace Forest

def wholeListOwner? (f : Forest) (ids : List NodeId) : Option NodeId :=
  match ids.head?.bind f.parent? with
  | some p => if f.childIds p = ids then some p else none
  | none => none

def checkParent (f : Forest) (operation : String) (id : NodeId) : Except TreeError NodeId := do
  match ← f.parent id with
  | some p => return p
  | none => throw (.unmet (.needsParent operation id))

def checkInserted (f : Forest) (parent : NodeId) (above seen : List NodeId) :
    List NodeId → Except TreeError Unit
  | [] => return ()
  | c :: cs => do
    let _ ← f.find c
    if seen.contains c then throw (.badArgument (.repeatedNode c))
    if above.contains c then throw (.unmet (.ownSubtree c parent))
    f.checkInserted parent above (c :: seen) cs

end Forest

open Edit

def removeChild (parent child : NodeId) : Edit Unit := do
  if (← ask (·.parent child)) ≠ some parent then throw (.unmet (.notChildOf child parent))
  let i ← ask (·.indexIn parent child)
  changeChildren parent (·.eraseIdx i)
  setParent child none

def remove (id : NodeId) : Edit Unit := do
  match ← ask (·.parent id) with
  | some p => removeChild p id
  | none => return

def reparent (parent child : NodeId) : Edit Unit := do
  if (← get).isAbove child parent then throw (.unmet (.ownSubtree child parent))
  remove child
  setParent child (some parent)

def appendChild (parent child : NodeId) : Edit Unit := do
  requireContainer parent
  reparent parent child
  changeChildren parent (·.push child)
  modify fun f => f.setIndex child ((f.childIds parent).length - 1)

def moveAll (source target : NodeId) (index : Nat) : Edit Unit := do
  let ids := (← get).childIds source
  changeChildren source fun _ => ⟨[], false⟩
  changeChildren target (·.insertAt index ids)
  ids.forM (setParent · (some target))

/-- `index` counts before the nodes leave their old places. A list of all children of one node moves
as a whole, or stays with its owner. -/
def insertAll (parent : NodeId) (index : Nat) (ids : List NodeId) : Edit Unit := do
  requireContainer parent
  if ids = [] then return
  ask fun f => f.checkInserted parent (f.lineage parent) [] ids
  match (← get).wholeListOwner? ids with
  | some source => if source = parent then return else moveAll source parent index
  | none =>
    ids.forM (reparent parent)
    changeChildren parent (·.insertAt index ids)

def appendChildren (parent : NodeId) (ids : List NodeId) : Edit Unit := do
  insertAll parent (← ask (·.childCount parent)) ids

def prependChild (parent child : NodeId) : Edit Unit := insertAll parent 0 [child]

def insertChildren (parent : NodeId) (index : Nat) (ids : List NodeId) : Edit Unit := do
  let count ← ask (·.childCount parent)
  if count < index then throw (.indexOutOfRange index count)
  insertAll parent index ids

def replaceChild (parent old incoming : NodeId) : Edit Unit := do
  if old = incoming then return
  if (← ask (·.parent old)) ≠ some parent then throw (.unmet (.notChildOf old parent))
  if (← get).isAbove incoming parent then throw (.unmet (.replacesAncestor incoming))
  remove incoming
  let i ← ask (·.indexIn parent old)
  changeChildren parent (·.replaceAt i incoming)
  setParent incoming (some parent)
  modify (·.setIndex incoming i)
  setParent old none

def replaceWith (id replacement : NodeId) : Edit Unit := do
  replaceChild (← ask (·.checkParent "replace_with" id)) id replacement

inductive Side where
  | before
  | after
  deriving DecidableEq, Repr

def Side.offset : Side → Nat
  | .before => 0
  | .after => 1

def insertBeside (side : Side) (id sibling : NodeId) : Edit Unit := do
  let parent ← ask (·.checkParent "before/after" id)
  if sibling = id then return
  if (← ask (·.parent sibling)) = some parent then removeChild parent sibling
  insertAll parent ((← siblingIndex id) + side.offset) [sibling]

def unwrap (id : NodeId) : Edit (Option NodeId) := do
  let parent ← ask (·.checkParent "unwrap" id)
  let ids ← ask (·.children id)
  insertAll parent (← siblingIndex id) ids
  removeChild parent id
  return ids.head?

def removeChildren (id : NodeId) : Edit Unit := do
  let n ← ask (·.find id)
  match n.body.container?.bind Container.children with
  | some l =>
    modify (·.changeChildren id fun _ => ⟨[], false⟩)
    l.ids.forM (setParent · none)
  | none => return

def setOutputRules (id : NodeId) (output : OutputRules) : Edit Unit := do
  let n ← ask (·.find id)
  match n.body with
  | .document cases _ inner =>
    modify (·.modify id fun n => { n with body := .document cases output inner })
  | b => throw (.notDocument b.kind)

end MarkupForest
