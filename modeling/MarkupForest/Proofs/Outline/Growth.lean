import MarkupForest.Proofs.Growth.StartTagStore
import MarkupForest.Proofs.Forest.Links
import MarkupForest.Proofs.Outline.Tokens

namespace MarkupForest

open Text Token

variable {config : ReaderConfig} {manner : Manner} {g g' h : Growth} {body : Body} {span : Span}
  {below after o : Outline} {tag : String} {as : List Attribute} {id : NodeId} {n : Node}

namespace Forest

variable {f : Forest} {p : NodeId} {k l : Nat}

def since (f : Forest) (k : Nat) (id : NodeId) : Option Node := if k ≤ id then f.get? id else none

theorem since_eq_some_iff : f.since k id = some n ↔ k ≤ id ∧ f.get? id = some n := by
  simp [since]

theorem get?_attach_push (hp : p < f.size) :
    ((f.push n).attach p f.size).get? id =
      if id = f.size then some { n with parent := some p, index := ((f.push n).childIds p).length }
      else if id = p then (f.get? p).map (Node.mapChildren (·.push f.size))
      else f.get? id := by
  have hne : p ≠ f.size := Nat.ne_of_lt hp
  simp only [attach, setParent, setIndex, changeChildren, get?_modify, get?_push]
  by_cases hid : id = f.size
  · subst hid
    simp [hne]
  · by_cases hidp : id = p
    · subst hidp
      simp [hne, hne.symm]
    · simp [hid, Ne.symm hid, hidp, Ne.symm hidp]

end Forest

namespace Growth

def Open (g : Growth) : Prop :=
  ∃ n, g.forest.get? g.current = some n ∧ n.body.container?.isSome = true

theorem Open.lt (hg : g.Open) : g.current < g.forest.size := by
  obtain ⟨n, hn, _⟩ := hg
  exact Forest.lt_of_get? hn

def enter (manner : Manner) (g : Growth) (tag : String) (attributes : Option Attributes)
    (span : Span) : Growth :=
  { g.grow manner (.element tag ⟨none, attributes⟩) span with
    opened := (g.forest.size, tag) :: g.opened }

def withChildren (ids : List NodeId) (n : Node) : Node :=
  ids.foldl (fun n id => n.mapChildren (·.push id)) n

structure GrownBy (g h : Growth) (o : Outline) : Prop where
  root : h.root = g.root
  opened : h.opened = g.opened
  size : h.forest.size = g.forest.size + o.size
  old : ∀ i < g.forest.size, i ≠ g.current → h.forest.get? i = g.forest.get? i
  shown : ∃ ids, o.OutlineOf (h.forest.since g.forest.size) ids ∧
    h.forest.get? g.current = (g.forest.get? g.current).map (withChildren ids)

theorem container?_withChildren (ids : List NodeId) (n : Node) :
    (withChildren ids n).body.container?.isSome = n.body.container?.isSome := by
  induction ids generalizing n with
  | nil => rfl
  | cons id ids ih => exact (ih _).trans (by simp [Node.mapChildren])

theorem label_withChildren (ids : List NodeId) (n : Node) :
    (withChildren ids n).body.label = n.body.label := by
  induction ids generalizing n with
  | nil => rfl
  | cons id ids ih =>
    refine (ih _).trans ?_
    cases n with
    | mk body => cases body <;> rfl

theorem childIds_withChildren (ids : List NodeId) {n : Node}
    (h : n.body.container?.isSome = true) : (withChildren ids n).childIds = n.childIds ++ ids := by
  induction ids generalizing n with
  | nil => exact (List.append_nil _).symm
  | cons id ids ih =>
    obtain ⟨c, hc⟩ := Option.isSome_iff_exists.mp h
    have hpush : (n.mapChildren (·.push id)).childIds = n.childIds ++ [id] := by
      simp [Node.childIds, Node.mapChildren, hc, Container.childList, ChildList.push]
    refine (ih (by simp [Node.mapChildren, hc])).trans ?_
    rw [hpush, List.append_assoc]
    rfl

theorem current_eq (hr : h.root = g.root) (ho : h.opened = g.opened) : h.current = g.current := by
  unfold current
  rw [hr, ho]

theorem GrownBy.current_eq (hg : GrownBy g h o) : h.current = g.current :=
  Growth.current_eq hg.root hg.opened

theorem GrownBy.isOpen (hg : GrownBy g h o) (hopen : g.Open) : h.Open := by
  obtain ⟨n, hn, hc⟩ := hopen
  obtain ⟨ids, _, hids⟩ := hg.shown
  refine ⟨withChildren ids n, by rw [hg.current_eq, hids, hn]; rfl, ?_⟩
  rw [container?_withChildren, hc]

theorem GrownBy.refl (g : Growth) : GrownBy g g .nil where
  root := rfl
  opened := rfl
  size := rfl
  old _ _ _ := rfl
  shown := ⟨[], rfl, (Option.map_id' ..).symm⟩

theorem GrownBy.trans {label : Label} (hg : GrownBy g g' (.node label below .nil))
    (hopen : g.Open) (hh : GrownBy g' h after) : GrownBy g h (.node label below after) := by
  obtain ⟨ids, ⟨id, rest, n, rfl, hn, hl, hb, rfl⟩, hids⟩ := hg.shown
  obtain ⟨more, hmore, hmids⟩ := hh.shown
  have hcur := hg.current_eq
  have hlt := hopen.lt
  have hle : g.forest.size ≤ g'.forest.size := by rw [hg.size]; exact Nat.le_add_right _ _
  have hkept : ∀ i n, g'.forest.since g.forest.size i = some n →
      h.forest.since g.forest.size i = some n := by
    intro i n hi
    obtain ⟨hge, hi⟩ := Forest.since_eq_some_iff.mp hi
    refine Forest.since_eq_some_iff.mpr ⟨hge, ?_⟩
    rw [hh.old i (Forest.lt_of_get? hi) ?_, hi]
    rw [hcur]
    exact (Nat.ne_of_lt (Nat.lt_of_lt_of_le hlt hge)).symm
  refine ⟨hh.root.trans hg.root, hh.opened.trans hg.opened, ?_, ?_, ?_⟩
  · have h1 := hg.size
    have h2 := hh.size
    simp only [Outline.size] at h1 h2 ⊢
    omega
  · intro i hi hne
    rw [hh.old i (Nat.lt_of_lt_of_le hi hle) (by rwa [hcur]), hg.old i hi hne]
  · refine ⟨id :: more, ⟨id, more, n, rfl, hkept id n hn, hl, hb.mono hkept, ?_⟩, ?_⟩
    · refine hmore.mono fun i n hi => ?_
      obtain ⟨hge, hi⟩ := Forest.since_eq_some_iff.mp hi
      exact Forest.since_eq_some_iff.mpr ⟨Nat.le_trans hle hge, hi⟩
    · rw [hcur] at hmids
      rw [hmids, hids, Option.map_map]
      rfl

variable (hm : manner.lines = none)
include hm

theorem forest_grow : (g.grow manner body span).forest =
    (g.forest.push (.ofBody body)).attach g.current g.forest.size := by
  unfold grow
  rw [hm]

theorem get?_grow (hopen : g.Open) :
    (g.grow manner body span).forest.get? id =
      if id = g.forest.size then some { Node.ofBody body with
        parent := some g.current,
        index := ((g.forest.push (.ofBody body)).childIds g.current).length }
      else if id = g.current then (g.forest.get? g.current).map (withChildren [g.forest.size])
      else g.forest.get? id := by
  rw [forest_grow hm, Forest.get?_attach_push hopen.lt]
  rfl

theorem get?_grow_new (body : Body) (span : Span) (hopen : g.Open) :
    (g.grow manner body span).forest.get? g.forest.size = some { Node.ofBody body with
      parent := some g.current,
      index := ((g.forest.push (.ofBody body)).childIds g.current).length } := by
  rw [get?_grow hm hopen, if_pos rfl]

theorem grownBy_leaf (body : Body) (hopen : g.Open) (hb : (Node.ofBody body).childIds = []) :
    GrownBy g (g.grow manner body span) (.node body.label .nil .nil) where
  root := rfl
  opened := rfl
  size := by
    rw [forest_grow hm]
    simp [Outline.size]
  old i hi hne := by rw [get?_grow hm hopen, if_neg (Nat.ne_of_lt hi), if_neg hne]
  shown := by
    have hnew := get?_grow_new hm body span hopen
    have hlook := Forest.since_eq_some_iff.mpr ⟨Nat.le_refl g.forest.size, hnew⟩
    refine ⟨[g.forest.size], ⟨_, [], _, rfl, hlook, rfl, hb, rfl⟩, ?_⟩
    rw [get?_grow hm hopen, if_neg (Nat.ne_of_lt hopen.lt), if_pos rfl]

theorem grownBy_element {attributes : Option Attributes} (hopen : g.Open)
    (hbelow : GrownBy (g.enter manner tag attributes span) h below) :
    GrownBy g ⟨h.forest, h.root, g.opened⟩
      (.node (Body.element tag ⟨none, attributes⟩).label below .nil) := by
  have hsize : (g.grow manner (.element tag ⟨none, attributes⟩) span).forest.size =
      g.forest.size + 1 := by
    rw [forest_grow hm]
    simp
  have hold := hbelow.old
  obtain ⟨kids, hkids, hself⟩ := hbelow.shown
  have htotal := hbelow.size
  simp only [enter, current, hsize] at hold hkids hself htotal
  rw [get?_grow_new hm _ _ hopen, Option.map_some] at hself
  have hlook := Forest.since_eq_some_iff.mpr ⟨Nat.le_refl g.forest.size, hself⟩
  refine ⟨hbelow.root, rfl, ?_, ?_, [g.forest.size],
    ⟨_, [], _, rfl, hlook, label_withChildren _ _, ?_, rfl⟩, ?_⟩
  · simp only [Outline.size]
    omega
  · intro i hi hne
    rw [hold i (Nat.lt_succ_of_lt hi) (Nat.ne_of_lt hi), get?_grow hm hopen,
      if_neg (Nat.ne_of_lt hi), if_neg hne]
  · rw [childIds_withChildren _ rfl]
    refine hkids.mono fun i n hi => ?_
    obtain ⟨hge, hi⟩ := Forest.since_eq_some_iff.mp hi
    exact Forest.since_eq_some_iff.mpr ⟨Nat.le_of_succ_le hge, hi⟩
  · rw [hold _ (Nat.lt_succ_of_lt hopen.lt) (Nat.ne_of_lt hopen.lt), get?_grow hm hopen,
      if_neg (Nat.ne_of_lt hopen.lt), if_pos rfl]

theorem open_enter (tag : String) (attributes : Option Attributes) (span : Span)
    (hopen : g.Open) : (g.enter manner tag attributes span).Open :=
  ⟨_, get?_grow_new hm (.element tag ⟨none, attributes⟩) span hopen, rfl⟩

theorem endAt_eq {offset : Nat} {ids : List (NodeId × String)} {f : Forest} :
    endAt manner offset ids f = f := by
  unfold endAt
  rw [hm]

theorem startTag_eq {name : String} {ts : List TokenAttribute} {alone : Bool}
    (hname : manner.cases.tagName name = tag) :
    g.startTag manner name ts alone span =
      if alone || (manner.dialect == .html && Tag.isVoid tag) then
        g.grow manner (.element tag ⟨none, if ts = [] then none else some (attributesOf manner ts)⟩)
          span
      else g.enter manner tag (if ts = [] then none else some (attributesOf manner ts)) span := by
  unfold startTag
  simp only [hname, endAt_eq hm]
  rfl

theorem endTag_eq (span : Span) {name : String} {outer : List (NodeId × String)}
    (ho : g.opened = (id, tag) :: outer) (hname : manner.cases.tagName name = tag) :
    g.endTag manner name span = ⟨g.forest, g.root, outer⟩ := by
  unfold endTag
  simp only [ho, hname, endAt_eq hm, hm]
  simp

theorem attributesOf_unplaced (ts : List TokenAttribute) :
    attributesOf manner (ts.map TokenAttribute.unplaced) = attributesOf manner ts := by
  have hfold : ∀ (l : List TokenAttribute) (as : Attributes),
      ((l.map TokenAttribute.unplaced).map fun a => (manner.cases.attributeName a.name, a)).foldl
        (fun s e => s.add e.1 e.2.value) as =
      (l.map fun a => (manner.cases.attributeName a.name, a)).foldl
        (fun s e => s.add e.1 e.2.value) as := by
    intro l as
    induction l generalizing as with
    | nil => rfl
    | cons a l ih => exact ih _
  unfold attributesOf
  simp only [hm, hfold]

theorem step_unplaced (t : Token) : g.step manner t.unplaced = g.step manner t := by
  cases t with
  | startTag name ts alone span =>
    show g.startTag manner name (ts.map TokenAttribute.unplaced) alone nowhere =
      g.startTag manner name ts alone span
    rw [startTag_eq hm rfl, startTag_eq hm rfl, attributesOf_unplaced hm]
    simp only [List.map_eq_nil_iff, enter, grow, hm]
  | endTag name span =>
    show g.endTag manner name nowhere = g.endTag manner name span
    unfold endTag
    simp only [hm, endAt_eq hm]
  | text s span =>
    show g.grow manner (.text s) nowhere = g.grow manner (.text s) span
    simp only [grow, hm]
  | rawText s span =>
    show g.grow manner (.data s) nowhere = g.grow manner (.data s) span
    simp only [grow, hm]
  | comment s span =>
    show g.grow manner (.comment s) nowhere = g.grow manner (.comment s) span
    simp only [grow, hm]
  | doctype d span =>
    show g.grow manner (.doctype { d with name := manner.cases.tagName d.name }) nowhere =
      g.grow manner (.doctype { d with name := manner.cases.tagName d.name }) span
    simp only [grow, hm]

theorem foldl_unplaced (ts : List Token) :
    (ts.map Token.unplaced).foldl (step manner) g = ts.foldl (step manner) g := by
  induction ts generalizing g with
  | nil => rfl
  | cons t ts ih => rw [List.map_cons, List.foldl_cons, List.foldl_cons, step_unplaced hm, ih]

end Growth

end MarkupForest
