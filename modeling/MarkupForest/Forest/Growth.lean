import MarkupForest.Forest.NodeAttributes
import MarkupForest.Forest.Sibling
import MarkupForest.Source.LineIndex
import MarkupForest.Token.Scan

namespace MarkupForest

structure Manner where
  cases : CasePolicy
  dialect : Dialect
  lines : Option LineIndex

structure Growth where
  forest : Forest
  root : NodeId
  opened : List (NodeId × String)

namespace Growth

def start (forest : Forest) (root : NodeId) : Growth := ⟨forest, root, []⟩

def current (g : Growth) : NodeId :=
  match g.opened with
  | (id, _) :: _ => id
  | [] => g.root

def grow (m : Manner) (g : Growth) (body : Body) (span : Span) : Growth :=
  let id := g.forest.size
  let f := (g.forest.push (.ofBody body)).attach g.current id
  { g with forest := match m.lines with
    | some lines => f.setRanges id (lines.spanRange span) .untracked
    | none => f }

def endAt (m : Manner) (offset : Nat) (ids : List (NodeId × String)) (f : Forest) : Forest :=
  match m.lines with
  | some lines => ids.foldl (fun f e => f.setEndRange e.1 (lines.range offset offset)) f
  | none => f

def attributesOf (m : Manner) (as : List TokenAttribute) : Attributes :=
  let keyed := as.map fun a => (m.cases.attributeName a.name, a)
  let all := keyed.foldl (fun s e => s.add e.1 e.2.value) Attributes.empty
  let kept := (all.deduplicate (if m.cases.keepsAttributes then .exact else .anyCase)).1
  match m.lines with
  | some lines => keyed.foldl (fun s e =>
      if s.has .exact e.1 && !(s.sourceRange e.1).isTracked then
        s.setSourceRange e.1 ⟨lines.spanRange e.2.nameSpan, lines.spanRange e.2.valueSpan⟩
      else s) kept
  | none => kept

def startTag (m : Manner) (g : Growth) (name : String) (as : List TokenAttribute)
    (selfClosing : Bool) (span : Span) : Growth :=
  let tag := m.cases.tagName name
  let id := g.forest.size
  let attributes := if as = [] then none else some (attributesOf m as)
  let g := g.grow m (.element tag ⟨none, attributes⟩) span
  if selfClosing || (m.dialect == .html && Tag.isVoid tag) then
    { g with forest := endAt m span.stop [(id, tag)] g.forest }
  else { g with opened := (id, tag) :: g.opened }

def endTag (m : Manner) (g : Growth) (name : String) (span : Span) : Growth :=
  let tag := m.cases.tagName name
  match g.opened.dropWhile (·.2 != tag) with
  | [] => g
  | (id, _) :: outer =>
    let f := endAt m span.start (g.opened.takeWhile (·.2 != tag)) g.forest
    ⟨match m.lines with
      | some lines => f.setEndRange id (lines.spanRange span)
      | none => f, g.root, outer⟩

def step (m : Manner) (g : Growth) : Token → Growth
  | .startTag name as selfClosing span => g.startTag m name as selfClosing span
  | .endTag name span => g.endTag m name span
  | .text s span => g.grow m (.text s) span
  | .rawText s span => g.grow m (.data s) span
  | .comment s span => g.grow m (.comment s) span
  | .doctype d span => g.grow m (.doctype { d with name := m.cases.tagName d.name }) span

def finish (m : Manner) (stop : Nat) (g : Growth) : Forest := endAt m stop g.opened g.forest

end Growth

namespace Forest

def grow (f : Forest) (cases : CasePolicy) (dialect : Dialect) (tracks : Bool) (root : NodeId)
    (markup : String) : Forest :=
  let m : Manner := ⟨cases, dialect, if tracks then some (.ofText markup) else none⟩
  ((Token.tokens dialect markup).foldl (Growth.step m) (.start f root)).finish m markup.utf8ByteSize

def documentNode (cases : CasePolicy) (output : OutputRules) (base : String) : Node :=
  .ofBody (.document cases output ⟨none,
    if base = "" then none else some (Attributes.empty.put Attributes.baseUriKey (some base))⟩)

def plant (f : Forest) (config : ReaderConfig) (markup base : String) : Forest :=
  (f.push (documentNode config.cases ⟨config.dialect⟩ base)).grow config.cases config.dialect
    config.tracksPlaces f.size markup

end Forest

open Edit

def createDocument (cases : CasePolicy) (output : OutputRules) (base : String) : Edit NodeId :=
  create (Forest.documentNode cases output base)

def createElement (tag : String) : Edit NodeId := create (.ofBody (.element tag .empty))

def createText (s : String) : Edit NodeId := create (.ofBody (.text s))

def createComment (s : String) : Edit NodeId := create (.ofBody (.comment s))

def createData (s : String) : Edit NodeId := create (.ofBody (.data s))

def createDoctype (d : Doctype) : Edit NodeId := create (.ofBody (.doctype d))

def readDocument (config : ReaderConfig) (markup base : String) : Edit NodeId := fun f =>
  .ok f.size (f.plant config markup base)

/-- The answered nodes are all the children of one node. -/
abbrev FragmentReader := String → Option NodeId → String → Edit (List NodeId)

def fragmentTag : String := "html"

def readFragment (config : ReaderConfig) : FragmentReader := fun markup context base => do
  let owner ← match context with
    | some c => ask (·.ownerDocument c)
    | none => pure none
  let (cases, output) ← match owner with
    | some d => ask fun f => .ok (f.rules d)
    | none => pure (config.cases, ⟨config.dialect⟩)
  let root ← createElement fragmentTag
  if base != "" then setBaseUri root base
  modify (·.grow cases output.dialect config.tracksPlaces root markup)
  ask (·.children root)

end MarkupForest
