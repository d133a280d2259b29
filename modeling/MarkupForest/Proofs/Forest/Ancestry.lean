import MarkupForest.Proofs.Forest.Links
import Mathlib.Data.List.Nodup
import Mathlib.Data.Fintype.Card
import Mathlib.Logic.Relation

namespace MarkupForest.Forest

variable {f g : Forest} {a p x : NodeId} {way : List NodeId}

def Above (f : Forest) (a x : NodeId) : Prop :=
  Relation.ReflTransGen (fun c p => f.parent? c = some p) x a

def Acyclic (f : Forest) : Prop := WellFounded fun p c => f.parent? c = some p

inductive Ascent (f : Forest) : NodeId → List NodeId → Prop
  | root {x : NodeId} : f.parent? x = none → Ascent f x [x]
  | step {x p : NodeId} {way : List NodeId} :
      f.parent? x = some p → Ascent f p way → Ascent f x (x :: way)

theorem Above.refl (x : NodeId) : f.Above x x := Relation.ReflTransGen.refl

theorem Above.of_parent (h : f.parent? x = some p) (ha : f.Above a p) : f.Above a x :=
  Relation.ReflTransGen.head h ha

theorem above_iff : f.Above a x ↔ a = x ∨ ∃ p, f.parent? x = some p ∧ f.Above a p := by
  constructor
  · intro h
    rcases Relation.ReflTransGen.cases_head h with h | ⟨p, hp, h⟩
    · exact .inl h.symm
    · exact .inr ⟨p, hp, h⟩
  · rintro (rfl | ⟨p, hp, h⟩)
    · exact .refl a
    · exact h.of_parent hp

theorem Above.up {b : NodeId} (ha : f.Above a x) (hb : f.parent? a = some b) : f.Above b x :=
  Relation.ReflTransGen.tail ha hb

theorem Above.trans {b : NodeId} (h : f.Above a b) (hb : f.Above b x) : f.Above a x :=
  Relation.ReflTransGen.trans hb h

theorem Above.mono (hg : ∀ x q, g.parent? x = some q → f.parent? x = some q)
    (h : g.Above a x) : f.Above a x := by
  induction h with
  | refl => exact .refl x
  | tail _ hp ih => exact ih.up (hg _ _ hp)

theorem Acyclic.not_above_parent (h : f.Acyclic) (hp : f.parent? x = some p) : ¬ f.Above x p := by
  -- the least node, seen from the top, that would be above its own parent
  induction x using h.induction generalizing p with
  | _ x ih =>
    intro ha
    rcases above_iff.mp ha with rfl | ⟨q, hq, hxq⟩
    · exact ih x hp hp ha
    · exact ih p hp hq ((Above.refl p).of_parent hp |>.trans hxq)

theorem Above.total {b : NodeId} (ha : f.Above a x) (hb : f.Above b x) :
    f.Above a b ∨ f.Above b a := by
  induction hb with
  | refl => exact .inl ha
  | @tail y b _ hyb ih =>
    rcases ih with h | h
    · rcases above_iff.mp h with rfl | ⟨q, hq, haq⟩
      · exact .inr ((Above.refl b).of_parent hyb)
      · rw [hyb] at hq
        cases hq
        exact .inl haq
    · exact .inr (h.up hyb)

theorem Acyclic.move (h : f.Acyclic) (moved : NodeId → Prop) (hm : ∀ y, f.Above y p → ¬ moved y)
    (hg : ∀ x q, g.parent? x = some q → (moved x ∧ q = p) ∨ (¬ moved x ∧ f.parent? x = some q)) :
    g.Acyclic := by
  let up : NodeId → NodeId → Prop := fun q x => g.parent? x = some q
  -- first the way up from `p`, which is as it was
  have htop : ∀ y, f.Above y p → Acc up y := by
    intro y
    induction y using h.induction with
    | _ y ih =>
      intro hy
      refine ⟨y, fun q hq => ?_⟩
      rcases hg y q hq with ⟨hmy, _⟩ | ⟨_, hf⟩
      · exact absurd hmy (hm y hy)
      · exact ih q hf (hy.up hf)
  refine ⟨fun x => ?_⟩
  induction x using h.induction with
  | _ x ih =>
    refine ⟨x, fun q hq => ?_⟩
    rcases hg x q hq with ⟨_, rfl⟩ | ⟨_, hf⟩
    · exact htop q (.refl q)
    · exact ih q hf

theorem Acyclic.sub (h : f.Acyclic) (hg : ∀ x q, g.parent? x = some q → f.parent? x = some q) :
    g.Acyclic :=
  h.move (p := 0) (fun _ => False) (fun _ _ => id)
    fun x q hq => .inr ⟨id, hg x q hq⟩

theorem Acyclic.exists_ascent (h : f.Acyclic) (x : NodeId) : ∃ way, f.Ascent x way := by
  induction x using h.induction with
  | _ x ih =>
    cases hp : f.parent? x with
    | none => exact ⟨[x], .root hp⟩
    | some p =>
      obtain ⟨way, hw⟩ := ih p hp
      exact ⟨x :: way, .step hp hw⟩

namespace Ascent

theorem mem_iff (h : f.Ascent x way) : a ∈ way ↔ f.Above a x := by
  induction h with
  | root hp =>
    rw [above_iff]
    simp [hp]
  | step hp _ ih =>
    rw [above_iff, List.mem_cons, ih]
    simp [hp]

theorem nodup (h : f.Ascent x way) (hf : f.Acyclic) : way.Nodup := by
  induction h with
  | root _ => exact List.nodup_singleton _
  | step hp hw ih =>
    exact List.nodup_cons.mpr ⟨fun hx => hf.not_above_parent hp (hw.mem_iff.mp hx), ih⟩

theorem getLast?_eq (h : f.Ascent x way) :
    ∃ top, way.getLast? = some top ∧ f.parent? top = none := by
  induction h with
  | root hp => exact ⟨_, rfl, hp⟩
  | @step y p way _ hw ih =>
    obtain ⟨top, ht, hp⟩ := ih
    cases hw <;> exact ⟨top, by simpa using ht, hp⟩

theorem climb_eq (h : f.Ascent x way) {n : Nat} (hn : way.length ≤ n) : f.climb n x = way := by
  induction h generalizing n with
  | root hp =>
    cases n with
    | zero => simp at hn
    | succ n => simp [climb, hp]
  | step hp _ ih =>
    cases n with
    | zero => simp at hn
    | succ n => simp [climb, hp, ih (Nat.le_of_succ_le_succ hn)]

end Ascent

theorem mem_climb {n : Nat} (h : a ∈ f.climb n x) : f.Above a x := by
  induction n generalizing x with
  | zero => simp [climb] at h
  | succ n ih =>
    rw [climb, List.mem_cons] at h
    rcases h with rfl | h
    · exact .refl a
    · cases hp : f.parent? x with
      | none => simp [hp] at h
      | some p => exact (ih (by simpa [hp] using h)).of_parent hp

theorem climb_congr {n : Nat} (h : ∀ y ∈ f.climb n x, g.parent? y = f.parent? y) :
    g.climb n x = f.climb n x := by
  induction n generalizing x with
  | zero => rfl
  | succ n ih =>
    have hx : g.parent? x = f.parent? x := h x (by simp [climb])
    rw [climb, climb, hx]
    cases hp : f.parent? x with
    | none => rfl
    | some p =>
      have hup : g.climb n p = f.climb n p := ih fun y hy => h y (by
        rw [climb, hp]
        exact List.mem_cons_of_mem x hy)
      simp [hup]

theorem length_le_of_nodup_of_lt {l : List Nat} {n : Nat} (hl : l.Nodup) (hn : ∀ i ∈ l, i < n) :
    l.length ≤ n := by
  have hs : l ⊆ List.range n := fun i hi => List.mem_range.mpr (hn i hi)
  simpa using (hl.subperm hs).length_le

end MarkupForest.Forest
