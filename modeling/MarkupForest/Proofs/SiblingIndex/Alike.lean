import MarkupForest.Proofs.SiblingIndex.Bare
import MarkupForest.Proofs.Copying.Queue

namespace MarkupForest

namespace Node

variable {n : Node}

theorem bare_mapChildren {u : ChildList → ChildList}
    (hu : ∀ l, (u l).ids = (u ⟨l.ids, false⟩).ids) :
    (n.mapChildren u).bare = (n.bare.mapChildren u).bare := by
  cases n with
  | mk body =>
    cases body with
    | document cases output c | element tag c =>
      cases hc : c.children with
      | none => simp [bare, mapChildren, Body.mapContainer, Container.bare, Container.childList, hc]
      | some l =>
        simp [bare, mapChildren, Body.mapContainer, Container.bare, Container.childList, hc, hu l]
    | _ => rfl

theorem bare_mapChildren_of_made {u : ChildList → ChildList} {l : ChildList}
    (hl : n.body.container?.bind Container.children = some l) (hu : (u l).ids = l.ids) :
    (n.mapChildren u).bare = n.bare := by
  cases n with
  | mk body =>
    cases body with
    | document cases output c | element tag c =>
      have hmade : c.children = some l := hl
      simp [bare, mapChildren, Body.mapContainer, Container.bare, Container.childList, hmade, hu]
    | _ => cases hl

theorem bare_mapAttributes {u : Option Attributes → Option Attributes} :
    (n.mapAttributes u).bare = (n.bare.mapAttributes u).bare := by
  cases n with
  | mk body =>
    cases body <;>
      simp [bare, mapAttributes, Body.mapContainer, Container.bare, Function.comp_def]

theorem bare_outside_body {parent : Option NodeId} {ranges : Option NodeRanges} :
    (⟨n.body, parent, n.index, ranges⟩ : Node).bare =
      (⟨n.bare.body, parent, n.bare.index, ranges⟩ : Node).bare := by
  cases n with
  | mk body => cases body <;> simp [bare, Body.mapContainer]

end Node

namespace Forest

variable {f g k : Forest} {x y p q c root : NodeId} {ids : List NodeId} {i j : Nat} {n m : Node}

def Alike (f g : Forest) : Prop := f.bare = g.bare

namespace Alike

theorem refl (f : Forest) : f.Alike f := rfl

theorem symm (h : f.Alike g) : g.Alike f := Eq.symm h

theorem trans (h : f.Alike g) (hg : g.Alike k) : f.Alike k := Eq.trans h hg

theorem of_bare : f.Alike f.bare := bare_bare.symm

variable (h : f.Alike g)
include h

theorem eq_of {α : Type} {q : Forest → α} (hq : ∀ f, q f.bare = q f) : q f = q g := by
  rw [← hq f, h, hq g]

theorem size_eq : f.size = g.size := h.eq_of (q := size) fun _ => size_bare

theorem parent?_eq : f.parent? x = g.parent? x := h.eq_of (q := (parent? · x)) fun _ => parent?_bare

theorem childIds_eq : f.childIds x = g.childIds x :=
  h.eq_of (q := (childIds · x)) fun _ => childIds_bare

theorem map_get? : (f.get? x).map Node.bare = (g.get? x).map Node.bare := by
  rw [← get?_bare, ← get?_bare, h]

theorem find_map : (f.find x).map Node.bare = (g.find x).map Node.bare := by
  rw [← find_bare, ← find_bare, h]

theorem modify {u : Node → Node} (hu : ∀ n, (u n).bare = (u n.bare).bare) :
    (f.modify x u).Alike (g.modify x u) := by
  have hb : ∀ f : Forest, (f.modify x u).bare = (f.bare.modify x u).bare := by
    intro f
    refine ext fun y => ?_
    rw [get?_bare, get?_bare, get?_modify, get?_modify, get?_bare]
    by_cases hy : x = y
    · simp only [hy, if_true, Option.map_map]
      cases f.get? y with
      | none => rfl
      | some n => simp [hu n]
    · simp only [hy, if_false]
      cases f.get? y <;> simp
  exact (hb f).trans ((congrArg (fun k => (k.modify x u).bare) h).trans (hb g).symm)

theorem setParent {q : Option NodeId} : (f.setParent x q).Alike (g.setParent x q) :=
  h.modify fun _ => Node.bare_outside_body

omit h in
theorem of_setIndex : (f.setIndex x i).Alike f := by
  refine ext fun y => ?_
  rw [get?_bare, get?_bare, setIndex, get?_modify]
  split
  · cases f.get? y <;> rfl
  · rfl

theorem setIndex : (f.setIndex x i).Alike (g.setIndex x j) :=
  of_setIndex.trans (h.trans of_setIndex.symm)

theorem changeChildren {u : ChildList → ChildList} (hu : ∀ l, (u l).ids = (u ⟨l.ids, false⟩).ids) :
    (f.changeChildren x u).Alike (g.changeChildren x u) :=
  h.modify fun _ => Node.bare_mapChildren hu

theorem mapAttributes {u : Option Attributes → Option Attributes} :
    (f.modify x (Node.mapAttributes u)).Alike (g.modify x (Node.mapAttributes u)) :=
  h.modify fun _ => Node.bare_mapAttributes

theorem push (hn : n.bare = m.bare) : (f.push n).Alike (g.push m) := by
  refine ext fun y => ?_
  rw [get?_bare, get?_bare, get?_push, get?_push, h.size_eq]
  split
  · simp [hn]
  · exact h.map_get?

theorem attach : (f.attach p c).Alike (g.attach p c) :=
  (h.changeChildren fun _ => rfl).setIndex.setParent

theorem detach : (f.detach c).Alike (g.detach c) := by
  unfold Forest.detach
  rw [← h.parent?_eq]
  cases f.parent? c with
  | none => exact h
  | some p => exact (h.changeChildren fun _ => rfl).setParent

theorem scatter : (f.scatter p ids).Alike (g.scatter p ids) := by
  induction ids generalizing f g with
  | nil => exact h
  | cons c cs ih => exact ih h.detach.setParent

theorem pointAll {q : Option NodeId} : (f.pointAll q ids).Alike (g.pointAll q ids) := by
  induction ids generalizing f g with
  | nil => exact h
  | cons c cs ih => exact ih h.setParent

theorem handOver : (f.handOver p q i).Alike (g.handOver p q i) := by
  unfold Forest.handOver
  rw [← h.childIds_eq]
  exact ((h.changeChildren fun _ => rfl).changeChildren fun _ => rfl).pointAll

theorem insertIds : (f.insertIds p i ids).Alike (g.insertIds p i ids) := by
  have howner : f.wholeListOwner? ids = g.wholeListOwner? ids :=
    h.eq_of (q := (wholeListOwner? · ids)) fun _ => wholeListOwner?_bare
  unfold Forest.insertIds
  rw [← howner]
  split
  · exact h
  · split
    · split
      · exact h
      · exact h.handOver
    · exact h.scatter.changeChildren fun _ => rfl

theorem exchange : (f.exchange p x y).Alike (g.exchange p x y) := by
  unfold Forest.exchange
  dsimp only
  rw [← h.detach.childIds_eq]
  exact (h.detach.changeChildren fun _ => rfl).setParent.setIndex.setParent

theorem clearChildren : (f.clearChildren p).Alike (g.clearChildren p) := by
  have hmade : (f.madeList? p).map ChildList.ids = (g.madeList? p).map ChildList.ids :=
    h.eq_of (q := fun f => (f.madeList? p).map ChildList.ids) fun f => by simp [Function.comp_def]
  unfold Forest.clearChildren
  cases hf : f.madeList? p <;> cases hg : g.madeList? p <;> simp only [hf, hg] at hmade ⊢
  · exact h
  · cases hmade
  · cases hmade
  · rw [Option.some_inj.mp hmade]
    exact (h.changeChildren fun _ => rfl).pointAll

omit h in
theorem of_stamp : (f.stamp i ids).Alike f := by
  induction ids generalizing f i with
  | nil => exact .refl f
  | cons c cs ih => exact ih.trans of_setIndex

omit h in
theorem of_settle : (f.settle p).Alike f := by
  unfold settle
  split
  · split
    · exact .refl f
    · next l hl _ =>
      have hmark : ((f.stamp 0 l.ids).changeChildren p fun l => { l with indexed := true }).Alike
          (f.stamp 0 l.ids) := by
        obtain ⟨n, hn, hlist⟩ := Option.bind_eq_some_iff.mp (madeList?_stamp.trans hl)
        refine ext fun y => ?_
        rw [get?_bare, get?_bare, Forest.changeChildren, get?_modify]
        split
        · next hy =>
          subst hy
          rw [hn]
          exact congrArg some (Node.bare_mapChildren_of_made hlist rfl)
        · rfl
      exact hmark.trans of_stamp
  · exact .refl f

theorem settle : (f.settle p).Alike (g.settle q) := of_settle.trans (h.trans of_settle.symm)

theorem setRanges {start stop : SourceRange} :
    (f.setRanges x start stop).Alike (g.setRanges x start stop) :=
  h.modify fun _ => Node.bare_outside_body

theorem setEndRange {stop : SourceRange} : (f.setEndRange x stop).Alike (g.setEndRange x stop) :=
  h.modify fun _ => Node.bare_outside_body

theorem copyUnder : (f.copyUnder p c).Alike (g.copyUnder p c) := by
  have hget := h.map_get? (x := c)
  unfold Forest.copyUnder
  rw [← h.size_eq]
  cases hf : f.get? c with
  | none =>
    cases hg : g.get? c with
    | none => exact h
    | some m => simp [hf, hg] at hget
  | some n =>
    cases hg : g.get? c with
    | none => simp [hf, hg] at hget
    | some m =>
      simp only [hf, hg, Option.map_some, Option.some.injEq] at hget
      have hcopy : n.copy = m.copy := by rw [← Node.copy_bare, hget, Node.copy_bare]
      exact (h.push (by rw [hcopy])).attach

theorem copyChildren (cs : List NodeId) :
    (f.copyChildren p cs).1.Alike (g.copyChildren p cs).1 ∧
      (f.copyChildren p cs).2 = (g.copyChildren p cs).2 := by
  induction cs generalizing f g with
  | nil => exact ⟨h, rfl⟩
  | cons c cs ih =>
    obtain ⟨h1, h2⟩ := ih h.copyUnder
    refine ⟨h1, ?_⟩
    show (c, f.size) :: _ = (c, g.size) :: _
    rw [h.size_eq]
    exact congrArg _ h2

theorem copyBelow {k : Nat} {queue : List (NodeId × NodeId)} :
    (copyBelow k queue f).Alike (copyBelow k queue g) := by
  induction k generalizing f g queue with
  | zero => exact h
  | succ k ih =>
    cases queue with
    | nil => exact h
    | cons e queue =>
      obtain ⟨source, target⟩ := e
      obtain ⟨h1, h2⟩ := h.copyChildren (p := target) (f.childIds source)
      unfold Forest.copyBelow
      dsimp only
      rw [← h.childIds_eq, ← h2]
      exact ih h1

theorem copySubtree (hnm : n.bare = m.bare) : (f.copySubtree x n).Alike (g.copySubtree x m) := by
  have hcopy : n.copy = m.copy := by rw [← Node.copy_bare, hnm, Node.copy_bare]
  have hdoc : n.isDocument = m.isDocument := by
    rw [← Node.isDocument_bare, hnm, Node.isDocument_bare]
  have howner : f.ownerDocument? x = g.ownerDocument? x :=
    h.eq_of (q := (ownerDocument? · x)) fun _ => ownerDocument?_bare
  have hpush : (f.push n.copy).Alike (g.push m.copy) := h.push (by rw [hcopy])
  unfold Forest.copySubtree
  dsimp only
  rw [← hdoc, ← howner, ← h.size_eq]
  refine Alike.copyBelow ?_
  cases n.isDocument with
  | true => exact hpush
  | false =>
    cases f.ownerDocument? x with
    | none => exact hpush
    | some d =>
      have hget := h.map_get? (x := d)
      simp only [Bool.false_eq_true, if_false, Option.bind_some]
      cases hf : f.get? d with
      | none =>
        cases hg : g.get? d with
        | none => exact hpush
        | some b => simp [hf, hg] at hget
      | some a =>
        cases hg : g.get? d with
        | none => simp [hf, hg] at hget
        | some b =>
          simp only [hf, hg, Option.map_some, Option.some.injEq] at hget
          have hab : a.copy = b.copy := by rw [← Node.copy_bare, hget, Node.copy_bare]
          dsimp only
          rw [hpush.size_eq]
          exact (hpush.push (by rw [hab])).attach

end Alike

end Forest

namespace Growth

open Forest

variable {g k : Growth} {m : Manner}

structure Alike (g k : Growth) : Prop where
  forest : g.forest.Alike k.forest
  root : g.root = k.root
  opened : g.opened = k.opened

theorem Alike.current (h : g.Alike k) : g.current = k.current := by
  unfold Growth.current
  rw [h.opened, h.root]

theorem Alike.grow (h : g.Alike k) {body : Body} {span : Span} :
    (g.grow m body span).Alike (k.grow m body span) := by
  refine ⟨?_, h.root, h.opened⟩
  have hhang : ((g.forest.push (.ofBody body)).attach g.current g.forest.size).Alike
      ((k.forest.push (.ofBody body)).attach k.current k.forest.size) := by
    rw [h.current, h.forest.size_eq]
    exact (h.forest.push rfl).attach
  unfold Growth.grow
  dsimp only
  cases m.lines with
  | none => exact hhang
  | some lines =>
    dsimp only
    rw [h.forest.size_eq]
    rw [h.forest.size_eq] at hhang
    exact hhang.setRanges

theorem alike_endAt {f f' : Forest} (h : f.Alike f') (offset : Nat) (ids : List (NodeId × String)) :
    (endAt m offset ids f).Alike (endAt m offset ids f') := by
  unfold endAt
  cases m.lines with
  | none => exact h
  | some lines =>
    induction ids generalizing f f' with
    | nil => exact h
    | cons e es ih => exact ih h.setEndRange

theorem Alike.step (h : g.Alike k) (t : Token) : (g.step m t).Alike (k.step m t) := by
  cases t with
  | startTag name as selfClosing span =>
    show (g.startTag m name as selfClosing span).Alike (k.startTag m name as selfClosing span)
    unfold Growth.startTag
    dsimp only
    rw [h.forest.size_eq]
    split
    · exact ⟨alike_endAt h.grow.forest _ _, h.root, h.opened⟩
    · refine ⟨h.grow.forest, h.root, ?_⟩
      show _ :: g.opened = _ :: k.opened
      rw [h.opened]
  | endTag name span =>
    show (g.endTag m name span).Alike (k.endTag m name span)
    unfold Growth.endTag
    dsimp only
    rw [h.opened]
    split
    · exact h
    · refine ⟨?_, h.root, rfl⟩
      have hend := alike_endAt (m := m) h.forest span.start
        (k.opened.takeWhile (·.2 != m.cases.tagName name))
      dsimp only
      cases m.lines with
      | none => exact hend
      | some lines => exact hend.setEndRange
  | text s span => exact h.grow
  | rawText s span => exact h.grow
  | comment s span => exact h.grow
  | doctype d span => exact h.grow

theorem Alike.run (h : g.Alike k) (ts : List Token) :
    (ts.foldl (Growth.step m) g).Alike (ts.foldl (Growth.step m) k) := by
  induction ts generalizing g k with
  | nil => exact h
  | cons t ts ih => exact ih (h.step t)

end Growth

namespace Forest.Alike

variable {f g : Forest} (h : f.Alike g)
include h

theorem grow {cases : CasePolicy} {dialect : Dialect} {tracks : Bool} {root : NodeId}
    {markup : String} :
    (f.grow cases dialect tracks root markup).Alike (g.grow cases dialect tracks root markup) := by
  have hrun :=
      Growth.Alike.run (m := ⟨cases, dialect, if tracks then some (.ofText markup) else none⟩)
    (g := .start f root) (k := .start g root) ⟨h, rfl, rfl⟩ (Token.tokens dialect markup)
  unfold Forest.grow Growth.finish
  dsimp only
  rw [hrun.opened]
  exact Growth.alike_endAt hrun.forest _ _

theorem plant {config : ReaderConfig} {markup base : String} :
    (f.plant config markup base).Alike (g.plant config markup base) := by
  unfold Forest.plant
  rw [h.size_eq]
  exact (h.push rfl).grow

theorem withFragment {config : ReaderConfig} {context : Option NodeId} {markup base : String} :
    (f.withFragment config context markup base).Alike
        (g.withFragment config context markup base) := by
  have hrules : f.fragmentRules config context = g.fragmentRules config context := by
    refine h.eq_of (q := (fragmentRules · config context)) fun k => ?_
    unfold fragmentRules
    cases context <;> simp
  have hground : (f.fragmentGround base).Alike (g.fragmentGround base) := by
    unfold Forest.fragmentGround
    dsimp only
    rw [h.size_eq]
    split
    · exact h.push rfl
    · exact (h.push rfl).mapAttributes
  unfold Forest.withFragment
  rw [hrules, h.size_eq]
  exact hground.grow

end Forest.Alike

end MarkupForest
