import MarkupForest.Node

namespace MarkupForest

structure Forest where
  nodes : Array Node
  deriving Repr

namespace Forest

def empty : Forest := ⟨#[]⟩

def size (f : Forest) : Nat := f.nodes.size

def ids (f : Forest) : List NodeId := List.range f.size

def get? (f : Forest) (id : NodeId) : Option Node := f.nodes[id]?

def find (f : Forest) (id : NodeId) : Except TreeError Node :=
  match f.get? id with
  | some n => .ok n
  | none => .error (.noSuchNode id)

def push (f : Forest) (n : Node) : Forest := ⟨f.nodes.push n⟩

def modify (f : Forest) (id : NodeId) (g : Node → Node) : Forest := ⟨f.nodes.modify id g⟩

@[simp] theorem size_empty : empty.size = 0 := rfl

@[simp] theorem size_push (f : Forest) (n : Node) : (f.push n).size = f.size + 1 :=
  Array.size_push n

@[simp] theorem size_modify (f : Forest) (id : NodeId) (g : Node → Node) :
    (f.modify id g).size = f.size :=
  Array.size_modify

theorem get?_push (f : Forest) (n : Node) (id : NodeId) :
    (f.push n).get? id = if id = f.size then some n else f.get? id :=
  Array.getElem?_push

theorem get?_modify (f : Forest) (id other : NodeId) (g : Node → Node) :
    (f.modify id g).get? other = if id = other then (f.get? other).map g else f.get? other :=
  Array.getElem?_modify

def parent? (f : Forest) (id : NodeId) : Option NodeId := (f.get? id).bind Node.parent

def childIds (f : Forest) (id : NodeId) : List NodeId :=
  match f.get? id with
  | some n => n.childIds
  | none => []

def childList? (f : Forest) (id : NodeId) : Option ChildList :=
  (f.get? id).bind fun n => n.body.container?.map Container.childList

/-- The list of a node that has had a child. -/
def madeList? (f : Forest) (id : NodeId) : Option ChildList :=
  (f.get? id).bind fun n => n.body.container?.bind Container.children

def isElement (f : Forest) (id : NodeId) : Bool :=
  match f.get? id with
  | some n => n.isElement
  | none => false

def checkContainer (f : Forest) (id : NodeId) : Except TreeError Unit := do
  let n ← f.find id
  if n.kind.isContainer then return () else throw (.notContainer n.kind)

def setParent (f : Forest) (id : NodeId) (parent : Option NodeId) : Forest :=
  f.modify id fun n => { n with parent }

def setIndex (f : Forest) (id : NodeId) (index : Nat) : Forest :=
  f.modify id fun n => { n with index }

def changeChildren (f : Forest) (id : NodeId) (g : ChildList → ChildList) : Forest :=
  f.modify id (Node.mapChildren g)

def attach (f : Forest) (parent child : NodeId) : Forest :=
  let index := (f.childIds parent).length
  ((f.changeChildren parent (·.push child)).setIndex child index).setParent child (some parent)

end Forest

abbrev Edit := EStateM TreeError Forest

namespace Edit

variable {α : Type}

def ask (q : Forest → Except TreeError α) : Edit α := fun f =>
  match q f with
  | .ok a => .ok a f
  | .error e => .error e f

def requireContainer (id : NodeId) : Edit Unit := ask (·.checkContainer id)

def create (n : Node) : Edit NodeId := fun f => .ok f.size (f.push n)

def setParent (id : NodeId) (parent : Option NodeId) : Edit Unit := do
  let _ ← ask (·.find id)
  modify (·.setParent id parent)

def changeChildren (id : NodeId) (g : ChildList → ChildList) : Edit Unit := do
  requireContainer id
  modify (·.changeChildren id g)

end Edit

end MarkupForest
