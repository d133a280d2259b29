namespace MarkupForest

abbrev NodeId := Nat

inductive Kind where
  | document
  | element
  | text
  | comment
  | data
  | doctype
  deriving DecidableEq, Repr

namespace Kind

def label : Kind → String
  | .document => "document"
  | .element => "element"
  | .text => "text"
  | .comment => "comment"
  | .data => "data"
  | .doctype => "doctype"

def code : Kind → Nat
  | .document => 1
  | .element => 2
  | .text => 3
  | .comment => 4
  | .data => 5
  | .doctype => 6

def isContainer : Kind → Bool
  | .document | .element => true
  | _ => false

end Kind

inductive ArgumentFault where
  | emptyKey
  | reservedKey (key : String)
  | repeatedNode (id : NodeId)
  | emptyWrapper
  | refused (reason : String)
  deriving DecidableEq, Repr

namespace ArgumentFault

def message : ArgumentFault → String
  | .emptyKey => "attribute key must not be empty"
  | .reservedKey key => s!"attribute key '{key}' is reserved"
  | .repeatedNode id => s!"node {id} appears more than once in the inserted nodes"
  | .emptyWrapper => "wrap markup must not be empty"
  | .refused reason => reason

end ArgumentFault

inductive UnmetCondition where
  | ownSubtree (node target : NodeId)
  | replacesAncestor (node : NodeId)
  | needsParent (operation : String) (node : NodeId)
  | notChildOf (node parent : NodeId)
  | noChildren (node : NodeId)
  | notAmongChildren (node parent : NodeId)
  | nothingVisited
  /-- The tour stands at its top level, yet not at its root. -/
  | strayed (node : NodeId)
  | stated (reason : String)
  deriving DecidableEq, Repr

namespace UnmetCondition

def message : UnmetCondition → String
  | .ownSubtree node target =>
    s!"node {node} can't be moved into itself or its own descendant {target}"
  | .replacesAncestor node => s!"node {node} can't replace a node inside its own subtree"
  | .needsParent operation node => s!"{operation} requires node {node} to have a parent"
  | .notChildOf node parent => s!"node {node} is not a child of {parent}"
  | .noChildren node => s!"node {node} has no children"
  | .notAmongChildren node parent => s!"node {node} is not in the children of {parent}"
  | .nothingVisited => "remove() requires a preceding next()"
  | .strayed node => s!"the walk has left its root at node {node}"
  | .stated reason => reason

end UnmetCondition

inductive TreeError where
  | noSuchNode (id : NodeId)
  | notContainer (actual : Kind)
  | notDocument (actual : Kind)
  | badArgument (fault : ArgumentFault)
  | indexOutOfRange (index length : Nat)
  | unmet (condition : UnmetCondition)
  | concurrentChange
  deriving DecidableEq, Repr

namespace TreeError

def message : TreeError → String
  | .noSuchNode id => s!"Node not found: {id}"
  | .notContainer actual => s!"Invalid node type: expected container, got {actual.label}"
  | .notDocument actual => s!"Invalid node type: expected document, got {actual.label}"
  | .badArgument fault => s!"Invalid argument: {fault.message}"
  | .indexOutOfRange index length => s!"Index {index} out of range for length {length}"
  | .unmet condition => s!"Precondition failed: {condition.message}"
  | .concurrentChange =>
    "Attributes modified outside the iterator; use the cursor's remove() while iterating"

end TreeError

end MarkupForest
