import MarkupForest.Forest.Operation
import MarkupForest.Proofs.Forest.Extension
import MarkupForest.Proofs.Outline.Markup

namespace MarkupForest

def Container.bare (c : Container) : Container :=
  { c with children := c.children.map fun l => ⟨l.ids, false⟩ }

def Node.bare (n : Node) : Node := { n with body := n.body.mapContainer Container.bare, index := 0 }

def Forest.bare (f : Forest) : Forest := ⟨f.nodes.map Node.bare⟩

namespace Node

variable {n m : Node}

@[simp] theorem kind_bare : n.bare.kind = n.kind := Body.kind_mapContainer ..

@[simp] theorem isElement_bare : n.bare.isElement = n.isElement := by simp [isElement]

@[simp] theorem isDocument_bare : n.bare.isDocument = n.isDocument := by simp [isDocument]

@[simp] theorem Container.bare_bare (c : Container) : c.bare.bare = c.bare := by
  simp [Container.bare, Function.comp_def]

@[simp] theorem Container.ids_bare (c : Container) : c.bare.childList.ids = c.childList.ids := by
  cases hc : c.children <;> simp [Container.bare, Container.childList, hc]

theorem container?_bare : n.bare.body.container? = n.body.container?.map Container.bare :=
  Body.container?_mapContainer ..

@[simp] theorem childIds_bare : n.bare.childIds = n.childIds := by
  unfold childIds
  rw [container?_bare]
  cases n.body.container? <;> simp

@[simp] theorem label_bare : n.bare.body.label = n.body.label := by
  cases n with
  | mk body => cases body <;> rfl

@[simp] theorem attributes?_bare : n.bare.attributes? = n.attributes? := by
  unfold attributes?
  rw [container?_bare]
  cases n.body.container? <;> rfl

@[simp] theorem name_bare : n.bare.name = n.name := by
  cases n with
  | mk body => cases body <;> rfl

@[simp] theorem normalName_bare : n.bare.normalName = n.normalName := by simp [normalName]

@[simp] theorem value_bare : n.bare.value = n.value := by
  cases n with
  | mk body => cases body <;> rfl

@[simp] theorem doctype?_bare : n.bare.doctype? = n.doctype? := by
  cases n with
  | mk body => cases body <;> rfl

theorem body_of_isDocument (h : n.isDocument = true) :
    ∃ cases output inner, n.body = .document cases output inner := by
  cases n with
  | mk body =>
    cases body with
    | document cases output inner => exact ⟨cases, output, inner, rfl⟩
    | _ => simp [isDocument, kind, Body.kind] at h

@[simp] theorem bare_bare : n.bare.bare = n.bare := by
  cases n with
  | mk body => cases body <;> simp [bare, Body.mapContainer]

@[simp] theorem copy_bare : n.bare.copy = n.copy := by
  cases n with
  | mk body => cases body <;> rfl

end Node

namespace Forest

variable {f g : Forest} {id x p c : NodeId}

@[simp] theorem size_bare : f.bare.size = f.size := by simp [bare, size]

theorem get?_bare : f.bare.get? x = (f.get? x).map Node.bare := by simp [bare, get?]

@[simp] theorem bare_bare : f.bare.bare = f.bare := by
  refine ext fun x => ?_
  rw [get?_bare, get?_bare, Option.map_map]
  congr 1
  exact funext fun n => Node.bare_bare

theorem find_bare : f.bare.find x = (f.find x).map Node.bare := by
  unfold find
  rw [get?_bare]
  cases f.get? x <;> rfl

@[simp] theorem parent?_bare : f.bare.parent? x = f.parent? x := by
  unfold parent?
  rw [get?_bare]
  cases f.get? x <;> rfl

@[simp] theorem childIds_bare : f.bare.childIds x = f.childIds x := by
  unfold childIds
  rw [get?_bare]
  cases f.get? x <;> simp

@[simp] theorem madeList?_bare :
    f.bare.madeList? x = (f.madeList? x).map fun l => ⟨l.ids, false⟩ := by
  unfold madeList?
  rw [get?_bare]
  cases f.get? x with
  | none => rfl
  | some n =>
    simp only [Option.map_some, Option.bind_some, Node.container?_bare]
    cases n.body.container? <;> rfl

theorem ids_of_childList?_bare {l : ChildList} (h : f.bare.childList? x = some l)
    (hl : l.indexed = true) : l.ids = [] := by
  rw [childList?, get?_bare] at h
  obtain ⟨_, hn, hc⟩ := Option.bind_eq_some_iff.mp h
  obtain ⟨n, _, rfl⟩ := Option.map_eq_some_iff.mp hn
  rw [Node.container?_bare, Option.map_map] at hc
  obtain ⟨c, _, rfl⟩ := Option.map_eq_some_iff.mp hc
  cases hmade : c.children with
  | none => simp [Container.bare, Container.childList, hmade, ChildList.empty]
  | some k => simp [Container.bare, Container.childList, hmade] at hl

@[simp] theorem isElement_bare : f.bare.isElement x = f.isElement x := by
  unfold isElement
  rw [get?_bare]
  cases f.get? x <;> simp

@[simp] theorem isElement_bare_fun : f.bare.isElement = f.isElement :=
  funext fun _ => isElement_bare

@[simp] theorem isDocument_bare : f.bare.isDocument = f.isDocument := by
  funext x
  unfold isDocument
  rw [get?_bare]
  cases f.get? x <;> simp

@[simp] theorem checkContainer_bare : f.bare.checkContainer x = f.checkContainer x := by
  unfold checkContainer
  rw [find_bare]
  cases f.find x <;> simp [Except.map, bind, Except.bind]

@[simp] theorem parent_bare : f.bare.parent x = f.parent x := by
  unfold parent
  rw [find_bare]
  cases f.find x <;> rfl

@[simp] theorem hasParent_bare : f.bare.hasParent x = f.hasParent x := by simp [hasParent]

@[simp] theorem parentElement_bare : f.bare.parentElement x = f.parentElement x := by
  simp [parentElement]

@[simp] theorem climb_bare {n : Nat} : f.bare.climb n x = f.climb n x :=
  climb_congr fun _ _ => parent?_bare

@[simp] theorem lineage_bare : f.bare.lineage x = f.lineage x := by simp [lineage]

@[simp] theorem root_bare : f.bare.root x = f.root x := by
  unfold root
  rw [find_bare, lineage_bare]
  cases f.find x <;> rfl

@[simp] theorem isAbove_bare : f.bare.isAbove p x = f.isAbove p x := by simp [isAbove]

@[simp] theorem ownerDocument?_bare : f.bare.ownerDocument? x = f.ownerDocument? x := by
  simp [ownerDocument?]

@[simp] theorem ownerDocument_bare : f.bare.ownerDocument x = f.ownerDocument x := by
  unfold ownerDocument
  rw [find_bare, ownerDocument?_bare]
  cases f.find x <;> rfl

theorem leaf?_bare (f : Forest) (x : NodeId) : f.bare.leaf? x = f.leaf? x := by
  rw [leaf?, leaf?, get?_bare, Option.map_map]
  exact congrArg (fun v => Option.map v _) (funext fun n => by simp)

@[simp] theorem rules_bare : f.bare.rules x = f.rules x :=
  rules_congr (leaf?_bare f) fun _ => parent?_bare

@[simp] theorem casePolicy_bare : f.bare.casePolicy x = f.casePolicy x := by simp [casePolicy]

@[simp] theorem outputRules_bare : f.bare.outputRules x = f.outputRules x := by simp [outputRules]

@[simp] theorem childCount_bare : f.bare.childCount x = f.childCount x := by
  unfold childCount
  rw [find_bare]
  cases f.find x <;> simp [Except.map, bind, Except.bind]

@[simp] theorem children_bare : f.bare.children x = f.children x := by
  unfold children
  rw [find_bare]
  cases f.find x <;> simp [Except.map, bind, Except.bind]

@[simp] theorem child_bare {i : Nat} : f.bare.child x i = f.child x i := by simp [child]

@[simp] theorem firstChild_bare : f.bare.firstChild x = f.firstChild x := by simp [firstChild]

@[simp] theorem lastChild_bare : f.bare.lastChild x = f.lastChild x := by simp [lastChild]

@[simp] theorem siblings_bare : f.bare.siblings x = f.siblings x := by simp [siblings]

@[simp] theorem firstSibling_bare : f.bare.firstSibling x = f.firstSibling x := by
  simp [firstSibling]

@[simp] theorem lastSibling_bare : f.bare.lastSibling x = f.lastSibling x := by simp [lastSibling]

@[simp] theorem firstElementChild_bare : f.bare.firstElementChild x = f.firstElementChild x := by
  simp [firstElementChild]

@[simp] theorem descend_bare {n : Nat} : f.bare.descend n x = f.descend n x := by
  induction n generalizing x with
  | zero => rfl
  | succ n ih => simp [descend, ih]

@[simp] theorem deepChild_bare : f.bare.deepChild x = f.deepChild x := by
  unfold deepChild
  rw [find_bare, size_bare, descend_bare]
  cases f.find x <;> rfl

@[simp] theorem unfoldFrom_bare {n : Nat} {stack : List NodeId} :
    f.bare.unfoldFrom n stack = f.unfoldFrom n stack := by
  induction n generalizing stack with
  | zero => cases stack <;> rfl
  | succ n ih => cases stack <;> simp [unfoldFrom, ih]

@[simp] theorem descendants_bare : f.bare.descendants x = f.descendants x := by
  unfold descendants
  rw [find_bare, size_bare, unfoldFrom_bare]
  cases f.find x <;> rfl

@[simp] theorem textContent_bare : f.bare.textContent x = f.textContent x := by
  unfold textContent
  rw [descendants_bare]
  cases f.descendants x with
  | error _ => rfl
  | ok ids =>
    refine congrArg (fun texts => Except.ok (Text.trim (String.join texts)))
      (List.map_congr_left fun id _ => ?_)
    rw [get?_bare]
    cases f.get? id with
    | none => rfl
    | some n =>
      cases n with
      | mk body => cases body <;> rfl

@[simp] theorem writeTo_bare {dialect : Dialect} {out : String} :
    f.bare.writeTo dialect x out = f.writeTo dialect x out :=
  writeTo_congr (leaf?_bare f)

@[simp] theorem outerMarkup_bare : f.bare.outerMarkup x = f.outerMarkup x := by
  simp [outerMarkup, write]

@[simp] theorem innerMarkup_bare : f.bare.innerMarkup x = f.innerMarkup x := by
  simp [innerMarkup]

@[simp] theorem hasSameValue_bare : f.bare.hasSameValue x p = f.hasSameValue x p := by
  unfold hasSameValue
  rw [find_bare, find_bare, outerMarkup_bare, outerMarkup_bare]
  cases f.find x with
  | error _ => rfl
  | ok m =>
    cases f.find p with
    | error _ => rfl
    | ok n => simp only [Except.map, bind, Except.bind, Node.kind_bare]

@[simp] theorem attributes_bare : f.bare.attributes x = f.attributes x := by
  unfold attributes
  rw [find_bare]
  cases f.find x <;> simp [Except.map, bind, Except.bind]

theorem attributesOf_bare :
    (f.bare.get? x).bind Node.attributes? = (f.get? x).bind Node.attributes? := by
  rw [get?_bare]
  cases f.get? x <;> simp

@[simp] theorem attributeCount_bare : f.bare.attributeCount x = f.attributeCount x := by
  simp [attributeCount, attributesOf_bare]

@[simp] theorem ownBase?_bare : f.bare.ownBase? = f.ownBase? := by
  funext x
  simp [ownBase?, attributesOf_bare]

@[simp] theorem baseUri_bare : f.bare.baseUri x = f.baseUri x := by
  unfold baseUri
  rw [find_bare, lineage_bare, ownBase?_bare]
  cases f.find x <;> rfl

@[simp] theorem absoluteUrl_bare {resolve : Resolver} {key : String} :
    f.bare.absoluteUrl resolve x key = f.absoluteUrl resolve x key := by
  simp [absoluteUrl]

@[simp] theorem attributeValue_bare {resolve : Resolver} {key : String} :
    f.bare.attributeValue resolve x key = f.attributeValue resolve x key := by
  simp [attributeValue]

@[simp] theorem hasAttribute_bare {resolve : Resolver} {key : String} :
    f.bare.hasAttribute resolve x key = f.hasAttribute resolve x key := by
  simp [hasAttribute, attributesOf_bare]

@[simp] theorem writingKey_bare {key : String} : f.bare.writingKey x key = f.writingKey x key := by
  simp [writingKey]

@[simp] theorem userData?_bare {key : String} : f.bare.userData? x key = f.userData? x key := by
  simp [userData?]

@[simp] theorem attributeRange_bare {key : String} :
    f.bare.attributeRange x key = f.attributeRange x key := by
  simp [attributeRange]

@[simp] theorem sourceRange_bare : f.bare.sourceRange x = f.sourceRange x := by
  unfold sourceRange
  rw [find_bare]
  cases f.find x <;> rfl

@[simp] theorem endSourceRange_bare : f.bare.endSourceRange x = f.endSourceRange x := by
  unfold endSourceRange
  rw [find_bare]
  cases f.find x <;> rfl

@[simp] theorem wholeListOwner?_bare {ids : List NodeId} :
    f.bare.wholeListOwner? ids = f.wholeListOwner? ids := by
  simp [wholeListOwner?]

@[simp] theorem checkParent_bare {operation : String} :
    f.bare.checkParent operation x = f.checkParent operation x := by
  simp [checkParent]

@[simp] theorem checkAppend_bare : f.bare.checkAppend p c = f.checkAppend p c := by
  unfold checkAppend
  rw [checkContainer_bare, isAbove_bare, find_bare]
  cases f.find c <;> rfl

@[simp] theorem checkInserted_bare {above seen ids : List NodeId} :
    f.bare.checkInserted p above seen ids = f.checkInserted p above seen ids := by
  induction ids generalizing seen with
  | nil => rfl
  | cons c cs ih =>
    unfold checkInserted
    rw [find_bare]
    cases f.find c <;> simp [Except.map, bind, Except.bind, ih]

@[simp] theorem checkInsert_bare {ids : List NodeId} :
    f.bare.checkInsert p ids = f.checkInsert p ids := by
  simp [checkInsert]

@[simp] theorem checkReplace_bare {old new : NodeId} :
    f.bare.checkReplace p old new = f.checkReplace p old new := by
  unfold checkReplace
  rw [parent_bare, isAbove_bare, find_bare]
  cases f.find new <;> rfl

end Forest

end MarkupForest
