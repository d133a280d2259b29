import MarkupForest.Proofs.Forest.Ancestry

namespace MarkupForest.Forest

variable {f g : Forest} {a c p x : NodeId} {l : ChildList}

def Noted (f : Forest) : Prop :=
  ∀ ⦃p l⦄, f.childList? p = some l → l.indexed = true →
    ∀ ⦃i c⦄, l.ids[i]? = some c → f.index? c = some i

structure WellFormed (f : Forest) : Prop where
  mem_iff : ∀ {c p}, c ∈ f.childIds p ↔ f.parent? c = some p
  nodup : ∀ p, (f.childIds p).Nodup
  acyclic : f.Acyclic
  noted : f.Noted

theorem parent?_empty : empty.parent? x = none := rfl

theorem childList?_empty : empty.childList? x = none := rfl

theorem childIds_empty : empty.childIds x = [] := rfl

theorem wellFormed_empty : empty.WellFormed where
  mem_iff := by simp [childIds_empty, parent?_empty]
  nodup p := by simp [childIds_empty]
  acyclic := ⟨fun x => ⟨x, fun p hp => by simp [parent?_empty] at hp⟩⟩
  noted p l hl := by simp [childList?_empty] at hl

namespace WellFormed

variable (hf : f.WellFormed)
include hf

theorem exists_childList? (h : f.parent? c = some p) :
    ∃ l, f.childList? p = some l ∧ c ∈ l.ids :=
  exists_childList?_of_mem (hf.mem_iff.mpr h)

theorem parent_lt (h : f.parent? c = some p) : p < f.size := by
  obtain ⟨l, hl, _⟩ := hf.exists_childList? h
  exact lt_of_childList? hl

theorem lt_of_mem (h : c ∈ f.childIds p) : c < f.size := lt_of_parent? (hf.mem_iff.mp h)

theorem lt_of_mem_ids (hl : f.childList? p = some l) (h : c ∈ l.ids) : c < f.size :=
  hf.lt_of_mem (childIds_of_childList? hl ▸ h)

theorem lt_of_above (h : f.Above a x) (hx : x < f.size) : a < f.size := by
  induction h with
  | refl => exact hx
  | tail _ hp _ => exact hf.parent_lt hp

theorem length_ascent_le {way : List NodeId} (h : f.Ascent x way) : way.length ≤ f.size + 1 := by
  cases h with
  | root _ => simp
  | @step _ p way hp hw =>
    have hlt : ∀ y ∈ way, y < f.size := fun y hy =>
      hf.lt_of_above (hw.mem_iff.mp hy) (hf.parent_lt hp)
    simpa using length_le_of_nodup_of_lt (hw.nodup hf.acyclic) hlt

theorem lineage_eq {way : List NodeId} (h : f.Ascent x way) : f.lineage x = way :=
  h.climb_eq (hf.length_ascent_le h)

theorem ascent_lineage (x : NodeId) : f.Ascent x (f.lineage x) := by
  obtain ⟨way, hw⟩ := hf.acyclic.exists_ascent x
  rwa [hf.lineage_eq hw]

theorem mem_lineage_iff : a ∈ f.lineage x ↔ f.Above a x := (hf.ascent_lineage x).mem_iff

theorem isAbove_iff : f.isAbove a x = true ↔ f.Above a x := by
  rw [isAbove, List.contains_iff_mem, hf.mem_lineage_iff]

theorem of_views (hp : ∀ x, g.parent? x = f.parent? x)
    (hl : ∀ x, g.childList? x = f.childList? x) (hi : ∀ x, g.index? x = f.index? x) :
    g.WellFormed := by
  have hc : ∀ x, g.childIds x = f.childIds x := fun x => by
    simp only [childIds_eq_childList?, hl]
  refine ⟨?_, fun p => hc p ▸ hf.nodup p, hf.acyclic.sub fun x q h => hp x ▸ h, ?_⟩
  · intro c p
    rw [hc, hp]
    exact hf.mem_iff
  · intro p l h hx i c hic
    rw [hi]
    exact hf.noted (hl p ▸ h) hx hic

theorem push {n : Node} (hn : n.parent = none) (hc : n.childIds = []) :
    (f.push n).WellFormed := by
  have hids : ∀ x, (f.push n).childIds x = if x = f.size then [] else f.childIds x := by
    intro x
    unfold childIds
    rw [get?_push]
    by_cases hx : x = f.size
    · simp [hx, hc]
    · simp [hx]
  have hnew : f.childIds f.size = [] := by
    simp [childIds, get?_of_size_le (Nat.le_refl f.size)]
  have hroot : f.parent? f.size = none := by
    simp [parent?, get?_of_size_le (Nat.le_refl f.size)]
  have hpar : ∀ x, (f.push n).parent? x = f.parent? x := by
    intro x
    rw [parent?_push]
    by_cases hx : x = f.size
    · simp [hx, hn, hroot]
    · simp [hx]
  have hsame : ∀ x, (f.push n).childIds x = f.childIds x := by
    intro x
    rw [hids]
    by_cases hx : x = f.size
    · simp [hx, hnew]
    · simp [hx]
  refine ⟨?_, fun p => hsame p ▸ hf.nodup p, hf.acyclic.sub fun x q h => hpar x ▸ h, ?_⟩
  · intro c p
    rw [hsame, hpar]
    exact hf.mem_iff
  · intro p l hl hx i c hic
    rw [childList?_push] at hl
    by_cases hp : p = f.size
    · -- the new node's own list has nobody in it
      have he : l.ids = [] := by
        simp only [hp, if_true] at hl
        obtain ⟨k, hk, rfl⟩ := Option.map_eq_some_iff.mp hl
        simpa [Node.childIds, hk] using hc
      simp [he] at hic
    · rw [if_neg hp] at hl
      have hlt : c < f.size := hf.lt_of_mem_ids hl (List.mem_of_getElem? hic)
      rw [index?_push, if_neg (Nat.ne_of_lt hlt)]
      exact hf.noted hl hx hic

theorem attach (hl : f.childList? p = some l) (hc : c < f.size) (hr : f.parent? c = none)
    (ha : ¬ f.Above c p) : (f.attach p c).WellFormed := by
  have hids :
      ∀ x, (f.attach p c).childIds x = if x = p then f.childIds p ++ [c] else f.childIds x :=
    fun x => childIds_attach hl
  have hnot : ∀ q, c ∉ f.childIds q := fun q h => by
    rw [hf.mem_iff, hr] at h
    cases h
  refine ⟨?_, ?_, ?_, ?_⟩
  · intro y q
    rw [hids, parent?_attach hc]
    by_cases hy : y = c
    · subst hy
      by_cases hq : q = p
      · simp [hq]
      · simp [hq, hnot, Ne.symm hq]
    · by_cases hq : q = p
      · subst hq
        simpa [hy] using hf.mem_iff
      · simpa [hy, hq] using hf.mem_iff
  · intro q
    rw [hids]
    split
    · exact List.nodup_append.mpr ⟨hf.nodup p, List.nodup_singleton c, fun a ha b hb hab => by
        rw [List.mem_singleton.mp hb] at hab
        exact hnot p (hab ▸ ha)⟩
    · exact hf.nodup q
  · refine hf.acyclic.move (p := p) (· = c) ?_ ?_
    · rintro y hy rfl
      exact ha hy
    · intro y q hq
      rw [parent?_attach hc] at hq
      by_cases hy : y = c
      · exact .inl ⟨hy, by simpa [hy, eq_comm] using hq⟩
      · exact .inr ⟨hy, by simpa [hy] using hq⟩
  · intro q k hk hx i y hy
    rw [index?_attach hc]
    rw [childList?_attach] at hk
    by_cases hq : q = p
    · subst hq
      simp only [if_true, hl, Option.map_some, Option.some.injEq] at hk
      subst hk
      simp only [ChildList.push, List.getElem?_append] at hy
      rw [childIds_of_childList? hl]
      split at hy
      · have hne : y ≠ c := by
          rintro rfl
          exact hnot q (childIds_of_childList? hl ▸ List.mem_of_getElem? hy)
        rw [if_neg hne]
        exact hf.noted hl hx hy
      · rw [List.getElem?_singleton] at hy
        split at hy
        · cases hy
          rw [if_pos rfl]
          congr 1
          omega
        · cases hy
    · rw [if_neg hq] at hk
      have hne : y ≠ c := by
        rintro rfl
        exact hnot q (childIds_of_childList? hk ▸ List.mem_of_getElem? hy)
      rw [if_neg hne]
      exact hf.noted hk hx hy

end WellFormed

end MarkupForest.Forest
