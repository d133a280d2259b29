import MarkupForest.Forest.Sibling
import MarkupForest.Forest.Walk
import MarkupForest.Tag

namespace MarkupForest.Forest

def doctypeMarkup (dialect : Dialect) (d : Doctype) : String :=
  let opening := match dialect with
    | .html => "<!doctype"
    | .xml => "<!DOCTYPE"
  let name := if d.name = "" then "" else " " ++ d.name
  let publicId := if d.publicId = "" then "" else " PUBLIC \"" ++ d.publicId ++ "\""
  let keyword := if d.publicId = "" then " SYSTEM" else ""
  let systemId := if d.systemId = "" then "" else keyword ++ " \"" ++ d.systemId ++ "\""
  opening ++ name ++ publicId ++ systemId ++ ">"

def standsAlone (dialect : Dialect) (tag : String) (children : List NodeId) : Bool :=
  children.isEmpty && match dialect with
    | .html => Tag.isVoid tag
    | .xml => true

def opening (dialect : Dialect) (n : Node) : String :=
  match n.body with
  | .document _ _ _ => ""
  | .element tag inner =>
    let attributes := match inner.attributes with
      | some as => as.markup dialect
      | none => ""
    let close := if dialect = .xml ∧ inner.childList.ids = [] then " />" else ">"
    "<" ++ tag ++ attributes ++ close
  | .text s => Reference.escape .content dialect s
  | .comment s => "<!--" ++ s ++ "-->"
  | .data s => s
  | .doctype d => doctypeMarkup dialect d

def closing (dialect : Dialect) (n : Node) : String :=
  match n.body with
  | .element tag inner =>
    if standsAlone dialect tag inner.childList.ids then "" else "</" ++ tag ++ ">"
  | _ => ""

def eventMarkup (f : Forest) (dialect : Dialect) : Event → String
  | .enter id _ => match f.get? id with
    | some n => opening dialect n
    | none => ""
  | .leave id _ => match f.get? id with
    | some n => closing dialect n
    | none => ""

def writer (f : Forest) (dialect : Dialect) : Visitor String := fun e out =>
  .ok () (out ++ f.eventMarkup dialect e)

def writeTo (f : Forest) (dialect : Dialect) (id : NodeId) (out : String) :
    Except TreeError String :=
  match f.walk (f.writer dialect) id out with
  | .ok _ out => .ok out
  | .error e _ => .error e

def write (f : Forest) (dialect : Dialect) (id : NodeId) : Except TreeError String :=
  f.writeTo dialect id ""

def outerMarkup (f : Forest) (id : NodeId) : Except TreeError String :=
  f.write (f.outputRules id).dialect id

def innerMarkup (f : Forest) (id : NodeId) : Except TreeError String := do
  (← f.children id).foldlM (fun out c => f.writeTo (f.outputRules id).dialect c out) ""

def hasSameValue (f : Forest) (a b : NodeId) : Except TreeError Bool := do
  if a = b then return true
  let m ← f.find a
  let n ← f.find b
  if m.kind = n.kind then return (← f.outerMarkup a) == (← f.outerMarkup b) else return false

end MarkupForest.Forest
