import MarkupForest.Proofs.Reference.Escape
import MarkupForest.Proofs.Outline.Append
import MarkupForest.Token.Scan

namespace MarkupForest

variable {dialect : Dialect}

namespace Label

def attributes (dialect : Dialect) (as : List Attribute) : List Char :=
  as.flatMap fun a => (Attribute.writtenKey? dialect a.key).elim [] fun key =>
    ' ' :: (Attribute.written dialect key a.value).toList

def standsAlone (dialect : Dialect) (tag : String) (kids : List Label) : Bool :=
  kids.isEmpty && (dialect == .xml || Tag.isVoid tag)

def opening (dialect : Dialect) (kids : List Label) : Label → List Char
  | .document _ _ _ => []
  | .element tag as => '<' :: (tag.toList ++ (attributes dialect as ++
      if dialect = .xml ∧ kids = [] then [' ', '/', '>'] else ['>']))
  | .text s => Reference.encode .content dialect s.toList
  | .comment s => Token.commentStart ++ (s.toList ++ Token.commentEnd)
  | .data s => s.toList
  | .doctype d => (Forest.doctypeMarkup dialect d).toList

def closing (dialect : Dialect) (kids : List Label) : Label → List Char
  | .element tag _ =>
    if standsAlone dialect tag kids then [] else '<' :: '/' :: (tag.toList ++ ['>'])
  | _ => []

end Label

namespace Outline

def markup (dialect : Dialect) : Outline → List Char
  | nil => []
  | node label below after => label.opening dialect below.labels ++ (below.markup dialect ++
      (label.closing dialect below.labels ++ after.markup dialect))

theorem OutlineOf.labels_eq_nil_iff {look : NodeId → Option Node} {o : Outline} {ids : List NodeId}
    (h : o.OutlineOf look ids) : o.labels = [] ↔ ids = [] := by
  cases o with
  | nil => simp [labels, show ids = [] from h]
  | node label below after =>
    obtain ⟨id, rest, n, rfl, _⟩ := h
    simp [labels]

end Outline

theorem Attributes.toList_markup (as : Attributes) :
    (as.markup dialect).toList = Label.attributes dialect as.toList := by
  unfold Attributes.markup
  suffices h : ∀ (l : List Attribute) (out : String), (l.foldl _ out).toList =
      out.toList ++ Label.attributes dialect l by
    simpa using h as.toList ""
  intro l out
  induction l generalizing out with
  | nil => simp [Label.attributes]
  | cons a l ih =>
    rw [List.foldl_cons, ih]
    cases hk : Attribute.writtenKey? dialect a.key <;> simp [Label.attributes, hk]

namespace Forest

variable {f : Forest} {n : Node} {id : NodeId} {ids : List NodeId} {kids : List Label} {o : Outline}

theorem toList_opening (dialect : Dialect) (hk : kids = [] ↔ n.childIds = []) :
    (opening dialect n).toList = n.body.label.opening dialect kids := by
  unfold opening
  cases hb : n.body with
  | element tag inner =>
    have hids : n.childIds = inner.childList.ids := by simp [Node.childIds, hb, Body.container?]
    rw [hids] at hk
    simp only [Body.label, Label.opening, Container.seen, hk]
    by_cases he : dialect = .xml ∧ inner.childList.ids = []
    · cases inner.attributes <;> simp [he, Label.attributes, Attributes.toList_markup]
    · cases inner.attributes <;> simp [he, Label.attributes, Attributes.toList_markup]
  | text s => exact Reference.toList_escape _ _ _
  | comment s => simp [Body.label, Label.opening, Token.commentStart, Token.commentEnd]
  | document cases output inner => rfl
  | data s => rfl
  | doctype d => rfl

theorem toList_closing (dialect : Dialect) (hk : kids = [] ↔ n.childIds = []) :
    (closing dialect n).toList = n.body.label.closing dialect kids := by
  unfold closing
  cases hb : n.body with
  | element tag inner =>
    have hids : n.childIds = inner.childList.ids := by simp [Node.childIds, hb, Body.container?]
    rw [hids] at hk
    have halone :
        standsAlone dialect tag inner.childList.ids = Label.standsAlone dialect tag kids := by
      have hempty : inner.childList.ids.isEmpty = kids.isEmpty := by
        rw [Bool.eq_iff_iff, List.isEmpty_iff, List.isEmpty_iff, hk]
      unfold standsAlone Label.standsAlone
      rw [hempty]
      cases dialect <;> rfl
    simp only [Body.label, Label.closing, halone]
    split <;> simp
  | _ => rfl

theorem walkFrom_enter {k depth : Nat} {stack : List Event} {out : String}
    (hn : f.get? id = some n) :
    f.walkFrom (f.writer dialect) (k + 1) (.enter id depth :: stack) out =
      f.walkFrom (f.writer dialect) k (n.childIds.map (.enter · (depth + 1)) ++
        .leave id depth :: stack) (out ++ opening dialect n) := by
  rw [walkFrom]
  show EStateM.bind _ _ _ = _
  simp only [EStateM.bind, writer, eventMarkup, hn]

theorem walkFrom_leave {k depth : Nat} {stack : List Event} {out : String}
    (hn : f.get? id = some n) :
    f.walkFrom (f.writer dialect) (k + 1) (.leave id depth :: stack) out =
      f.walkFrom (f.writer dialect) k stack (out ++ closing dialect n) := by
  rw [walkFrom]
  show EStateM.bind _ _ _ = _
  simp only [EStateM.bind, writer, eventMarkup, hn]

theorem walkFrom_shown (ho : o.OutlineOf f.get? ids) {k : Nat} (depth : Nat) (stack : List Event)
    (out : String) :
    f.walkFrom (f.writer dialect) (2 * o.size + k) (ids.map (.enter · depth) ++ stack) out =
      f.walkFrom (f.writer dialect) k stack (out ++ String.ofList (o.markup dialect)) := by
  induction o generalizing ids k depth stack out with
  | nil =>
    rw [show ids = [] from ho]
    simp [Outline.size, Outline.markup]
  | node label below after ihb iha =>
    obtain ⟨id, rest, n, rfl, hn, rfl, hb, ha⟩ := ho
    have hfuel : 2 * (Outline.node n.body.label below after).size + k =
        2 * below.size + (2 * after.size + k + 1) + 1 := by
      simp only [Outline.size]
      omega
    have hopen := toList_opening dialect hb.labels_eq_nil_iff
    have hclose := toList_closing dialect hb.labels_eq_nil_iff
    rw [hfuel, List.map_cons, List.cons_append, walkFrom_enter hn, ihb hb,
      walkFrom_leave hn, iha ha]
    congr 1
    rw [← String.toList_inj]
    simp [Outline.markup, hopen, hclose]

theorem writeTo_eq (ho : o.OutlineOf f.get? [id]) (hsize : o.size ≤ f.size) (out : String) :
    f.writeTo dialect id out = .ok (out ++ String.ofList (o.markup dialect)) := by
  have hwalk : f.walk (f.writer dialect) id out =
      .ok () (out ++ String.ofList (o.markup dialect)) := by
    have hfuel : 2 * f.size + 1 = 2 * o.size + (2 * f.size + 1 - 2 * o.size) := by omega
    rw [walk, hfuel]
    refine (walkFrom_shown ho 0 [] out).trans ?_
    cases 2 * f.size + 1 - 2 * o.size <;> rfl
  rw [writeTo, hwalk]

theorem outerMarkup_eq (ho : o.OutlineOf f.get? [id]) (hsize : o.size ≤ f.size) :
    f.outerMarkup id = .ok (String.ofList (o.markup (f.outputRules id).dialect)) := by
  rw [outerMarkup, write, writeTo_eq ho hsize, String.empty_append]

section Congr

variable {g : Forest} {m : Node} {x : NodeId}

theorem opening_congr (hl : n.body.label = m.body.label) (hc : n.childIds = m.childIds) :
    opening dialect n = opening dialect m := by
  obtain ⟨kids, hkids⟩ : ∃ kids : List Label, kids = [] ↔ n.childIds = [] :=
    ⟨n.childIds.map fun _ => n.body.label, List.map_eq_nil_iff⟩
  rw [← String.toList_inj, toList_opening dialect hkids, toList_opening dialect (hc ▸ hkids), hl]

theorem closing_congr (hl : n.body.label = m.body.label) (hc : n.childIds = m.childIds) :
    closing dialect n = closing dialect m := by
  obtain ⟨kids, hkids⟩ : ∃ kids : List Label, kids = [] ↔ n.childIds = [] :=
    ⟨n.childIds.map fun _ => n.body.label, List.map_eq_nil_iff⟩
  rw [← String.toList_inj, toList_closing dialect hkids, toList_closing dialect (hc ▸ hkids), hl]

variable (h : ∀ x, f.leaf? x = g.leaf? x)
include h

theorem get?_cases_of_leaf? (x : NodeId) : (f.get? x = none ∧ g.get? x = none) ∨
    ∃ n m, f.get? x = some n ∧ g.get? x = some m ∧ n.body.label = m.body.label ∧
      n.childIds = m.childIds := by
  have hx := h x
  unfold leaf? at hx
  cases hn : f.get? x with
  | none =>
    rw [hn] at hx
    exact .inl ⟨rfl, Option.map_eq_none_iff.mp hx.symm⟩
  | some n =>
    rw [hn] at hx
    obtain ⟨m, hm, he⟩ := Option.map_eq_some_iff.mp hx.symm
    rw [Prod.mk.injEq] at he
    exact .inr ⟨n, m, rfl, hm, he.1.symm, he.2.symm⟩

theorem size_congr : f.size = g.size := by
  have hlt : ∀ x, x < f.size ↔ x < g.size := fun x => by
    have hx := congrArg Option.isSome (h x)
    rw [leaf?, leaf?, Option.isSome_map, Option.isSome_map, Bool.eq_iff_iff] at hx
    rwa [get?_eq_some_iff_lt, get?_eq_some_iff_lt] at hx
  exact Nat.le_antisymm (Nat.le_of_not_lt fun hg => Nat.lt_irrefl _ ((hlt _).mp hg))
    (Nat.le_of_not_lt fun hf => Nat.lt_irrefl _ ((hlt _).mpr hf))

theorem childIds_congr (x : NodeId) : f.childIds x = g.childIds x := by
  rw [childIds, childIds]
  obtain ⟨hf, hg⟩ | ⟨n, m, hf, hg, -, hc⟩ := get?_cases_of_leaf? h x
  · rw [hf, hg]
  · rw [hf, hg]
    exact hc

theorem walkFrom_congr {σ : Type} {visit : Visitor σ} {k : Nat} {stack : List Event} :
    f.walkFrom visit k stack = g.walkFrom visit k stack := by
  induction k generalizing stack with
  | zero => cases stack <;> rfl
  | succ k ih =>
    cases stack with
    | nil => rfl
    | cons e stack =>
      cases e with
      | enter id depth =>
        rw [walkFrom, walkFrom]
        obtain ⟨hf, hg⟩ | ⟨n, m, hf, hg, -, hc⟩ := get?_cases_of_leaf? h id
        · simp only [hf, hg]
        · simp only [hf, hg, hc, ih]
      | leave id depth => rw [walkFrom, walkFrom, ih]

theorem writer_congr : f.writer dialect = g.writer dialect := by
  funext e out
  have he : f.eventMarkup dialect e = g.eventMarkup dialect e := by
    cases e with
    | enter id depth =>
      rw [eventMarkup, eventMarkup]
      obtain ⟨hf, hg⟩ | ⟨n, m, hf, hg, hl, hc⟩ := get?_cases_of_leaf? h id
      · rw [hf, hg]
      · rw [hf, hg]
        exact opening_congr hl hc
    | leave id depth =>
      rw [eventMarkup, eventMarkup]
      obtain ⟨hf, hg⟩ | ⟨n, m, hf, hg, hl, hc⟩ := get?_cases_of_leaf? h id
      · rw [hf, hg]
      · rw [hf, hg]
        exact closing_congr hl hc
  rw [writer, writer, he]

theorem writeTo_congr {out : String} : f.writeTo dialect x out = g.writeTo dialect x out := by
  rw [writeTo, writeTo, walk, walk, writer_congr h, walkFrom_congr h, size_congr h]

theorem isDocument_congr : f.isDocument = g.isDocument := by
  funext x
  rw [isDocument, isDocument]
  obtain ⟨hf, hg⟩ | ⟨n, m, hf, hg, hl, -⟩ := get?_cases_of_leaf? h x
  · rw [hf, hg]
  · rw [hf, hg]
    show n.isDocument = m.isDocument
    unfold Node.isDocument Node.kind
    cases hn : n.body <;> cases hm : m.body <;> simp_all [Body.label, Body.kind]

variable (hparent : ∀ x, f.parent? x = g.parent? x)
include hparent

theorem rules_congr : f.rules x = g.rules x := by
  have howner : f.ownerDocument? x = g.ownerDocument? x := by
    have hlineage : f.lineage x = g.lineage x := by
      rw [lineage, lineage, size_congr h]
      exact climb_congr fun y _ => hparent y
    rw [ownerDocument?, ownerDocument?, hlineage, isDocument_congr h]
  rw [rules, rules, howner]
  cases g.ownerDocument? x with
  | none => rfl
  | some d =>
    simp only [Option.bind_some]
    obtain ⟨hf, hg⟩ | ⟨⟨body, _, _, _⟩, ⟨body', _, _, _⟩, hf, hg, hl, -⟩ := get?_cases_of_leaf? h d
    · rw [hf, hg]
    · rw [hf, hg]
      cases body <;> cases body' <;> simp_all [Body.label]

theorem outerMarkup_congr : f.outerMarkup x = g.outerMarkup x := by
  rw [outerMarkup, outerMarkup, write, write, writeTo_congr h, outputRules, outputRules,
    rules_congr h hparent]

end Congr

end Forest

end MarkupForest
