import MarkupForest.Attribute.Store
import MarkupForest.Error
import MarkupForest.Settings
import MarkupForest.Token.Basic

namespace MarkupForest

structure ChildList where
  ids : List NodeId
  /-- Does every child know its own place in the list? -/
  indexed : Bool
  deriving DecidableEq, Repr

namespace ChildList

def empty : ChildList := ⟨[], true⟩

def push (l : ChildList) (id : NodeId) : ChildList := { l with ids := l.ids ++ [id] }

def eraseIdx (l : ChildList) (i : Nat) : ChildList :=
  let rest := l.ids.eraseIdx i
  ⟨rest, l.indexed && rest.length ≤ i⟩

def insertAt (l : ChildList) (i : Nat) (ids : List NodeId) : ChildList :=
  ⟨l.ids.take i ++ ids ++ l.ids.drop i, false⟩

def replaceAt (l : ChildList) (i : Nat) (id : NodeId) : ChildList :=
  { l with ids := l.ids.set i id }

end ChildList

structure Container where
  /-- Nothing until the first child comes. -/
  children : Option ChildList
  attributes : Option Attributes
  deriving Repr

namespace Container

def empty : Container := ⟨none, none⟩

def copy (c : Container) : Container := ⟨none, c.attributes.map Attributes.copy⟩

def childList (c : Container) : ChildList := c.children.getD .empty

end Container

inductive Body where
  | document (cases : CasePolicy) (output : OutputRules) (inner : Container)
  | element (tag : String) (inner : Container)
  | text (s : String)
  | comment (s : String)
  | data (s : String)
  | doctype (d : Doctype)
  deriving Repr

namespace Body

def kind : Body → Kind
  | .document _ _ _ => .document
  | .element _ _ => .element
  | .text _ => .text
  | .comment _ => .comment
  | .data _ => .data
  | .doctype _ => .doctype

def container? : Body → Option Container
  | .document _ _ c | .element _ c => some c
  | _ => none

def mapContainer (g : Container → Container) : Body → Body
  | .document cases output c => .document cases output (g c)
  | .element tag c => .element tag (g c)
  | b => b

@[simp] theorem kind_mapContainer (g : Container → Container) (b : Body) :
    (b.mapContainer g).kind = b.kind := by
  cases b <;> rfl

@[simp] theorem container?_mapContainer (g : Container → Container) (b : Body) :
    (b.mapContainer g).container? = b.container?.map g := by
  cases b <;> rfl

end Body

structure NodeRanges where
  start : SourceRange
  stop : SourceRange
  deriving DecidableEq, Repr

structure Node where
  body : Body
  parent : Option NodeId
  index : Nat
  ranges : Option NodeRanges
  deriving Repr

namespace Node

def ofBody (body : Body) : Node := ⟨body, none, 0, none⟩

def kind (n : Node) : Kind := n.body.kind

def isElement (n : Node) : Bool := n.kind == .element

def isDocument (n : Node) : Bool := n.kind == .document

def tag? (n : Node) : Option String :=
  match n.body with
  | .element tag _ => some tag
  | _ => none

def name (n : Node) : String :=
  match n.body with
  | .document _ _ _ => "#document"
  | .element tag _ => tag
  | .text _ => "#text"
  | .comment _ => "#comment"
  | .data _ => "#data"
  | .doctype _ => "#doctype"

def normalName (n : Node) : String := Text.lower n.name

def value (n : Node) : String :=
  match n.body with
  | .text s | .comment s | .data s => s
  | _ => ""

def childIds (n : Node) : List NodeId :=
  match n.body.container? with
  | some c => c.childList.ids
  | none => []

def attributes? (n : Node) : Option Attributes := n.body.container?.bind Container.attributes

def mapChildren (g : ChildList → ChildList) (n : Node) : Node :=
  { n with body := n.body.mapContainer fun c => { c with children := some (g c.childList) } }

def mapAttributes (g : Option Attributes → Option Attributes) (n : Node) : Node :=
  { n with body := n.body.mapContainer fun c => { c with attributes := g c.attributes } }

def copy (n : Node) : Node := ⟨n.body.mapContainer Container.copy, none, 0, n.ranges⟩

end Node

end MarkupForest
