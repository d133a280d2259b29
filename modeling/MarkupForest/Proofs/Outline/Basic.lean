import MarkupForest.Proofs.Forest.WellFormed
import MarkupForest.Forest.Writing
import Mathlib.Algebra.BigOperators.Group.Finset.Basic
import Mathlib.Algebra.GroupWithZero.Nat
import Mathlib.Algebra.Order.BigOperators.Group.Finset
import Mathlib.Data.Finset.Card

namespace MarkupForest

inductive Label where
  | document (cases : CasePolicy) (output : OutputRules) (attributes : List Attribute)
  | element (tag : String) (attributes : List Attribute)
  | text (s : String)
  | comment (s : String)
  | data (s : String)
  | doctype (d : Doctype)
  deriving DecidableEq, Repr

namespace Container

def seen (c : Container) : List Attribute := (c.attributes.map Attributes.toList).getD []

end Container

def Body.label : Body → Label
  | .document cases output c => .document cases output c.seen
  | .element tag c => .element tag c.seen
  | .text s => .text s
  | .comment s => .comment s
  | .data s => .data s
  | .doctype d => .doctype d

inductive Outline where
  | nil
  | node (label : Label) (below after : Outline)
  deriving DecidableEq, Repr

namespace Outline

def size : Outline → Nat
  | nil => 0
  | node _ below after => below.size + after.size + 1

def labels : Outline → List Label
  | nil => []
  | node label _ after => label :: after.labels

def OutlineOf (look : NodeId → Option Node) : Outline → List NodeId → Prop
  | nil, ids => ids = []
  | node label below after, ids => ∃ id rest n, ids = id :: rest ∧ look id = some n ∧
      n.body.label = label ∧ below.OutlineOf look n.childIds ∧ after.OutlineOf look rest

variable {look more : NodeId → Option Node} {o : Outline} {ids : List NodeId}

theorem OutlineOf.mono (h : ∀ id n, look id = some n → more id = some n)
    (ho : o.OutlineOf look ids) :
    o.OutlineOf more ids := by
  induction o generalizing ids with
  | nil => exact ho
  | node label below after ihb iha =>
    obtain ⟨id, rest, n, rfl, hn, hl, hb, ha⟩ := ho
    exact ⟨id, rest, n, rfl, h id n hn, hl, ihb hb, iha ha⟩

end Outline

namespace Forest

variable {f : Forest} {id : NodeId} {ids : List NodeId} {o : Outline}

def outlineFrom (f : Forest) : Nat → List NodeId → Outline
  | _, [] => .nil
  | 0, _ :: _ => .nil
  | n + 1, id :: rest => (f.get? id).elim .nil fun node =>
    .node node.body.label (f.outlineFrom n node.childIds) (f.outlineFrom n rest)

def outline (f : Forest) (id : NodeId) : Outline := f.outlineFrom f.size [id]

theorem outlineFrom_eq (ho : o.OutlineOf f.get? ids) {n : Nat} (hn : o.size ≤ n) :
    f.outlineFrom n ids = o := by
  induction o generalizing ids n with
  | nil =>
    rw [show ids = [] from ho]
    cases n <;> rfl
  | node label below after ihb iha =>
    obtain ⟨id, rest, node, rfl, hnode, rfl, hb, ha⟩ := ho
    cases n with
    | zero => simp [Outline.size] at hn
    | succ n =>
      simp only [Outline.size] at hn
      rw [outlineFrom, hnode, Option.elim_some, ihb hb (by omega), iha ha (by omega)]

def under (f : Forest) (id : NodeId) : Finset Nat :=
  (Finset.range f.size).filter fun x => f.isAbove id x

theorem card_under_le : (f.under id).card ≤ f.size := by
  have h :=
      Finset.card_le_card (Finset.filter_subset (fun x => f.isAbove id x) (Finset.range f.size))
  rwa [Finset.card_range] at h

theorem exists_row (hids : ∀ c ∈ ids, c < f.size)
    (hrows : ∀ c ∈ ids, ∃ o : Outline, o.OutlineOf f.get? (f.childIds c) ∧
      o.size + 1 ≤ (f.under c).card) :
    ∃ o : Outline, o.OutlineOf f.get? ids ∧ o.size ≤ (ids.map fun c => (f.under c).card).sum := by
  induction ids with
  | nil => exact ⟨.nil, rfl, Nat.le_refl _⟩
  | cons c rest ih =>
    obtain ⟨n, hn⟩ := exists_get? (hids c List.mem_cons_self)
    obtain ⟨below, hb, hsize⟩ := hrows c List.mem_cons_self
    obtain ⟨after, ha, hsum⟩ := ih (fun d hd => hids d (List.mem_cons_of_mem c hd))
      fun d hd => hrows d (List.mem_cons_of_mem c hd)
    have hchildren : f.childIds c = n.childIds := by simp [childIds, hn]
    refine ⟨.node n.body.label below after, ⟨c, rest, n, rfl, hn, rfl, hchildren ▸ hb, ha⟩, ?_⟩
    simp only [Outline.size, List.map_cons, List.sum_cons]
    omega

namespace WellFormed

variable (hf : f.WellFormed)
include hf

theorem mem_under {x : Nat} : x ∈ f.under id ↔ x < f.size ∧ f.Above id x := by
  simp [under, hf.isAbove_iff]

theorem eq_of_above_sibling {p c d : NodeId} (hc : f.parent? c = some p) (hd : f.parent? d = some p)
    (ha : f.Above c d) : c = d := by
  rcases above_iff.mp ha with he | ⟨q, hq, haq⟩
  · exact he
  · rw [hd] at hq
    cases hq
    exact absurd haq (hf.acyclic.not_above_parent hc)

theorem disjoint_under {p c d : NodeId} (hc : f.parent? c = some p) (hd : f.parent? d = some p)
    (hne : c ≠ d) : Disjoint (f.under c) (f.under d) := by
  rw [Finset.disjoint_left]
  intro x hxc hxd
  rcases (hf.mem_under.mp hxc).2.total (hf.mem_under.mp hxd).2 with h | h
  · exact hne (hf.eq_of_above_sibling hc hd h)
  · exact hne (hf.eq_of_above_sibling hd hc h).symm

theorem sum_card_under (hid : id < f.size) :
    ((f.childIds id).map fun c => (f.under c).card).sum + 1 ≤ (f.under id).card := by
  have hsum : ((f.childIds id).map fun c => (f.under c).card).sum =
      ((f.childIds id).toFinset.biUnion f.under).card := by
    rw [Finset.card_biUnion, ← List.sum_toFinset _ (hf.nodup id)]
    intro c hc d hd hne
    exact hf.disjoint_under (hf.mem_iff.mp (List.mem_toFinset.mp hc))
      (hf.mem_iff.mp (List.mem_toFinset.mp hd)) hne
  have hself : id ∉ (f.childIds id).toFinset.biUnion f.under := by
    simp only [Finset.mem_biUnion, List.mem_toFinset, not_exists, not_and]
    intro c hc hx
    exact hf.acyclic.not_above_parent (hf.mem_iff.mp hc) (hf.mem_under.mp hx).2
  have hsub : Insert.insert id ((f.childIds id).toFinset.biUnion f.under) ⊆ f.under id := by
    intro x hx
    rcases Finset.mem_insert.mp hx with rfl | hx
    · exact hf.mem_under.mpr ⟨hid, .refl x⟩
    · obtain ⟨c, hc, hx⟩ := Finset.mem_biUnion.mp hx
      have hp := hf.mem_iff.mp (List.mem_toFinset.mp hc)
      obtain ⟨hlt, ha⟩ := hf.mem_under.mp hx
      exact hf.mem_under.mpr ⟨hlt, ((Above.refl id).of_parent hp).trans ha⟩
  have hle := Finset.card_le_card hsub
  rwa [Finset.card_insert_of_notMem hself, ← hsum] at hle

theorem exists_outline (hid : id < f.size) :
    ∃ o : Outline, o.OutlineOf f.get? (f.childIds id) ∧ o.size + 1 ≤ (f.under id).card := by
  induction hk : (f.under id).card using Nat.strong_induction_on generalizing id with
  | _ k ih =>
    have hsum := hf.sum_card_under hid
    have hrows : ∀ c ∈ f.childIds id,
        ∃ o : Outline, o.OutlineOf f.get? (f.childIds c) ∧ o.size + 1 ≤ (f.under c).card := by
      intro c hc
      have hle : (f.under c).card ≤ ((f.childIds id).map fun c => (f.under c).card).sum :=
        List.single_le_sum (by simp) _ (List.mem_map.mpr ⟨c, hc, rfl⟩)
      exact ih _ (by omega) (hf.lt_of_mem hc) rfl
    obtain ⟨o, ho, hsize⟩ := exists_row (fun c hc => hf.lt_of_mem hc) hrows
    exact ⟨o, ho, by omega⟩

theorem shown_outline (hid : id < f.size) :
    (f.outline id).OutlineOf f.get? [id] ∧ (f.outline id).size ≤ f.size := by
  obtain ⟨n, hn⟩ := exists_get? hid
  obtain ⟨below, hb, hcard⟩ := hf.exists_outline hid
  have hchildren : f.childIds id = n.childIds := by simp [childIds, hn]
  have ho : (Outline.node n.body.label below .nil).OutlineOf f.get? [id] :=
    ⟨id, [], n, rfl, hn, rfl, hchildren ▸ hb, rfl⟩
  have hsize : (Outline.node n.body.label below .nil).size ≤ f.size := by
    have hle : (f.under id).card ≤ f.size := card_under_le
    simp only [Outline.size]
    omega
  rw [outline, outlineFrom_eq ho hsize]
  exact ⟨ho, hsize⟩

end WellFormed

end Forest

end MarkupForest
