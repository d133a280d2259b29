import MarkupForest.Proofs.Edit.InsertChildren
import MarkupForest.Proofs.Copying.DeepClone

namespace MarkupForest

open Edit

variable {f g k : Forest} {c p q x y root old new : NodeId} {home : Option NodeId}
  {ids moved more freed before after : List NodeId} {dialect : Dialect} {out : String}

theorem Node.matter_of_payload {n m : Node} (h : n.payload = m.payload) : n.matter = m.matter := by
  have hmatter : ∀ n : Node, n.matter = (n.payload.1.mapContainer fun _ => .empty,
      (n.payload.1.container?.bind Container.attributes).map Attributes.entries, n.payload.2) := by
    rintro ⟨body, _, _, _⟩
    cases body <;> rfl
  rw [hmatter n, hmatter m, h]

namespace Forest

/-- In `g` the nodes `moved` of `f` hang under `home` and the nodes `freed` hang nowhere. -/
structure Moved (f g : Forest) (home : Option NodeId) (moved freed : List NodeId) : Prop where
  parent : ∀ x, g.parent? x = if x ∈ freed then none else if x ∈ moved then home else f.parent? x
  lists : ∀ q, home ≠ some q → g.childIds q = (f.childIds q).filter (· ∉ moved)
  size : g.size = f.size
  payload : ∀ x, g.payload? x = f.payload? x

structure Spliced (f g : Forest) (p : NodeId) (before moved after freed : List NodeId) : Prop
    extends Moved f g (some p) moved freed where
  row : g.childIds p = before ++ moved ++ after

theorem Inserted.shifted {i : Nat} (h : f.Inserted g p i ids) : f.Moved g (some p) ids [] where
  parent x := by
    rw [if_neg List.not_mem_nil]
    split
    · next hx => exact h.moved x hx
    · next hx => exact h.kept x hx
  lists q hq := h.elsewhere q fun he => hq (congrArg some he.symm)
  size := h.size
  payload := h.payload

theorem WellFormed.moved_detach (hf : f.WellFormed) (c : NodeId) :
    f.Moved (f.detach c) none [c] [] where
  parent x := by simpa using parent?_detach
  lists q _ := by simpa using childIds_detach (hf.placed c)
  size := size_detach
  payload x := by simp

theorem WellFormed.moved_exchange (hf : f.WellFormed) (hold : f.parent? old = some p)
    (hne : old ≠ new) (hlt : new < f.size) : f.Moved (f.exchange p old new)
      (some p) [new] [old] where
  parent x := by simpa using parent?_exchange hold hlt
  lists q hq := by
    have hqp : q ≠ p := fun he => hq (congrArg some he.symm)
    have hlist := childIds_exchange (x := q) hf hold hne
    rw [if_neg hqp, childIds_detach (hf.placed new)] at hlist
    simpa using hlist
  size := size_exchange
  payload x := by simp

namespace Moved

theorem refl (f : Forest) (home : Option NodeId) : f.Moved f home [] [] where
  parent x := by simp
  lists q _ := by simp
  size := rfl
  payload _ := rfl

theorem of_settle (h : (f.settle q).Moved g home moved freed) : f.Moved g home moved freed where
  parent x := by simpa using h.parent x
  lists p hp := by simpa [childIds_settle] using h.lists p hp
  size := by simpa using h.size
  payload x := by simpa [payload?_settle] using h.payload x

theorem after_detach (h : (f.detach c).Moved g home [c] freed) (hf : f.WellFormed) :
    f.Moved g home [c] freed where
  parent x := by
    have hdetach := (hf.moved_detach c).parent x
    rw [h.parent]
    split
    · rfl
    · split
      · rfl
      · next hx => simpa [hx] using hdetach
  lists q hq := by
    rw [h.lists q hq, childIds_detach (hf.placed c), List.filter_filter]
    simp
  size := h.size.trans size_detach
  payload x := (h.payload x).trans payload?_detach

theorem free (h : f.Moved g home moved []) (hc : g.parent? c = none) :
    f.Moved g home moved [c] where
  parent x := by
    by_cases hx : x = c
    · simp [hx, hc]
    · simpa [hx] using h.parent x
  lists := h.lists
  size := h.size
  payload := h.payload

variable (h : f.Moved g home moved freed)
include h

theorem trans (hk : g.Moved k home more []) (hapart : ∀ c ∈ more, c ∉ freed) :
    f.Moved k home (moved ++ more) freed where
  parent x := by
    have hx := hk.parent x
    rw [if_neg List.not_mem_nil, h.parent] at hx
    by_cases hmore : x ∈ more
    · simp [hx, hmore, hapart x hmore]
    · simpa [hmore] using hx
  lists q hq := by
    rw [hk.lists q hq, h.lists q hq, List.filter_filter]
    exact List.filter_congr fun c _ => by simp [Bool.and_comm]
  size := hk.size.trans h.size
  payload x := (hk.payload x).trans (h.payload x)

theorem parent_eq (hm : x ∉ moved) (hx : x ∉ freed) : g.parent? x = f.parent? x := by
  rw [h.parent, if_neg hx, if_neg hm]

theorem childIds_eq (hq : home ≠ some q) (hm : ∀ c ∈ f.childIds q, c ∉ moved) :
    g.childIds q = f.childIds q := by
  rw [h.lists q hq]
  exact List.filter_eq_self.mpr fun c hc => by simpa using hm c hc

theorem matter?_eq (x : NodeId) : g.matter? x = f.matter? x := by
  have hx := h.payload x
  unfold payload? at hx
  unfold matter?
  cases hf : f.get? x with
  | none =>
    rw [hf, Option.map_none, Option.map_eq_none_iff] at hx
    rw [hx, Option.map_none]
  | some n =>
    rw [hf, Option.map_some, Option.map_eq_some_iff] at hx
    obtain ⟨m, hm, he⟩ := hx
    rw [hm, Option.map_some, Option.map_some, Node.matter_of_payload he]

theorem isDocument_eq : g.isDocument = f.isDocument := by
  funext x
  by_cases hx : x < f.size
  · exact isDocument_of_matter (h.matter?_eq x) hx
  · have hf := get?_of_size_le (Nat.le_of_not_lt hx)
    have hg := get?_of_size_le (f := g) (h.size ▸ Nat.le_of_not_lt hx)
    rw [isDocument, isDocument, hf, hg]

theorem rules_eq (hx : ∀ y, f.Above y x → y ∉ moved ∧ y ∉ freed) : g.rules x = f.rules x := by
  have hlineage : g.lineage x = f.lineage x := by
    rw [lineage, lineage, h.size]
    apply climb_congr
    intro y hy
    obtain ⟨hm, hfree⟩ := hx y (mem_climb hy)
    exact h.parent_eq hm hfree
  have howner : g.ownerDocument? x = f.ownerDocument? x := by
    rw [ownerDocument?, ownerDocument?, hlineage, h.isDocument_eq]
  cases ho : f.ownerDocument? x with
  | none => rw [rules_of_none ho, rules_of_none (howner.trans ho)]
  | some d => exact rules_of_matter ho (howner.trans ho) (h.matter?_eq d)

theorem writeTo_eq (hf : f.WellFormed) (hx : x < f.size)
    (hhome : ∀ p, home = some p → ¬ f.Above x p)
    (hmoved : ∀ c ∈ moved, f.Above x c → c = x) :
    g.writeTo dialect x out = f.writeTo dialect x out := by
  have hlists : ∀ y, f.Above x y → g.childIds y = (f.childIds y).map id := by
    intro y hy
    rw [List.map_id]
    apply h.childIds_eq (fun hp => hhome y hp hy)
    intro c hc hm
    have hparent := hf.mem_iff.mp hc
    obtain rfl := hmoved c hm (.of_parent hparent hy)
    exact hf.acyclic.not_above_parent hparent hy
  obtain ⟨ho, hsize⟩ := hf.shown_outline hx
  have hshown :=
      shown_of_matter (φ := id) (fun y _ => h.matter?_eq y) hlists (by simp [Above.refl]) hf ho
  rw [List.map_id] at hshown
  rw [Forest.writeTo_eq ho hsize, Forest.writeTo_eq hshown (h.size ▸ hsize)]

end Moved

theorem WellFormed.spliced_insertIds (hf : f.WellFormed) (hi : f.Insertable p ids)
    (hrow : f.childIds p = before ++ after) (hout : ∀ c ∈ ids, c ∉ f.childIds p) :
    f.Spliced (f.insertIds p before.length ids) p before ids after [] := by
  by_cases hn : ids = []
  · subst hn
    refine ⟨.refl f (some p), ?_⟩
    rw [List.append_nil]
    exact hrow
  · have hinserted := hf.inserted_insertIds (i := before.length) hi hn
    obtain ⟨rest, j, hrest, hj, hchildren⟩ := hinserted.here
    have hsame : rest = before ++ after := by
      rw [hrest, ← hrow]
      exact List.filter_eq_self.mpr fun c hc => by simpa using fun hm => hout c hm hc
    have hlength : j = before.length := by
      rw [hj, hsame, List.length_append]
      omega
    refine ⟨hinserted.shifted, ?_⟩
    rw [hchildren, hsame, hlength, List.take_left, List.drop_left]

theorem WellFormed.spliced_append (hf : f.WellFormed) (hc : f.checkAppend p c = .ok ()) :
    f.Spliced ((f.detach c).attach p c) p ((f.childIds p).filter (· ≠ c)) [c] [] [] := by
  obtain ⟨hlist, -, hlt⟩ := checkAppend_eq_ok_iff.mp hc
  obtain ⟨l, hl⟩ : ∃ l, (f.detach c).childList? p = some l :=
    Option.isSome_iff_exists.mp (by rw [isSome_childList?_detach, hlist])
  have hlists : ∀ q, ((f.detach c).attach p c).childIds q = _ := fun q => childIds_attach hl
  have hdetach : ∀ q, (f.detach c).childIds q = _ := fun q => childIds_detach (hf.placed c)
  constructor
  · constructor
    · intro x
      rw [parent?_attach (by simpa using hlt), parent?_detach]
      by_cases hx : x = c <;> simp [hx]
    · intro q hq
      have hqp : q ≠ p := fun he => hq (congrArg some he.symm)
      rw [hlists, if_neg hqp, hdetach]
      simp
    · simp
    · intro x
      simp [Forest.attach]
  · rw [hlists, if_pos rfl, hdetach, List.append_nil]

theorem Extends.payload?_eq (h : f.Extends g) (hx : x < f.size) : g.payload? x = f.payload? x := by
  rw [payload?, h.get?_eq hx, payload?]

theorem Extends.writeTo_eq (h : f.Extends g) (hf : f.WellFormed) (hx : x < f.size) :
    g.writeTo dialect x out = f.writeTo dialect x out := by
  obtain ⟨ho, hsize⟩ := hf.shown_outline hx
  rw [Forest.writeTo_eq ho hsize,
    Forest.writeTo_eq (ho.mono fun _ _ hn => h hn) (Nat.le_trans hsize h.size_le)]

namespace Fragment

variable (hg : Fragment f g root ids) (hf : f.WellFormed) (hk : g.Moved k home moved freed)
  (hm : ∀ c ∈ moved, c ∈ ids)
include hg hf hk hm

theorem childIds_kept (hx : x < f.size) (hhome : home ≠ some x) : k.childIds x = f.childIds x := by
  rw [← hg.old.childIds_eq hx]
  apply hk.childIds_eq hhome
  intro c hc hmoved
  rw [hg.old.childIds_eq hx] at hc
  exact absurd (hf.lt_of_mem hc) (Nat.not_lt.mpr (hg.fresh hf (hm c hmoved)))

theorem parent?_kept (hx : x < f.size) (hfree : x ∉ freed) : k.parent? x = f.parent? x := by
  rw [← hg.old.parent?_eq hx]
  apply hk.parent_eq _ hfree
  intro hmoved
  exact absurd hx (Nat.not_lt.mpr (hg.fresh hf (hm x hmoved)))

end Fragment

end Forest

end MarkupForest
