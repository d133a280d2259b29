import MarkupForest.Proofs.Forest.WellFormed

namespace MarkupForest

theorem ChildList.indexed_eraseIdx {l : ChildList} {i : Nat}
    (h : (l.eraseIdx i).indexed = true) :
    l.indexed = true ∧ ∀ ⦃j : Nat⦄ ⦃c : NodeId⦄,
      (l.eraseIdx i).ids[j]? = some c → l.ids[j]? = some c := by
  simp only [eraseIdx, Bool.and_eq_true, decide_eq_true_eq] at h ⊢
  refine ⟨h.1, fun j c hj => ?_⟩
  have hlt : j < (l.ids.eraseIdx i).length := (List.getElem?_eq_some_iff.mp hj).1
  rwa [List.getElem?_eraseIdx_of_lt (Nat.lt_of_lt_of_le hlt h.2)] at hj

theorem ChildList.ids_eraseIdx_idxOf {l : ChildList} {c : NodeId} (h : l.ids.Nodup) :
    (l.eraseIdx (l.ids.idxOf c)).ids = l.ids.filter (· ≠ c) := by
  rw [eraseIdx, ← List.erase_eq_eraseIdx_of_idxOf rfl, h.erase_eq_filter]
  exact List.filter_congr fun y _ => by by_cases hy : y = c <;> simp [hy]

namespace Forest

variable {f g : Forest} {c p q x : NodeId} {l : ChildList} {ids done : List NodeId}

def detach (f : Forest) (id : NodeId) : Forest :=
  match f.parent? id with
  | some p => (f.changeChildren p fun l => l.eraseIdx (l.ids.idxOf id)).setParent id none
  | none => f

def scatter (f : Forest) (parent : NodeId) (ids : List NodeId) : Forest :=
  ids.foldl (fun f c => (f.detach c).setParent c (some parent)) f

def gather (f : Forest) (parent : NodeId) (index : Nat) (ids : List NodeId) : Forest :=
  (f.scatter parent ids).changeChildren parent (·.insertAt index ids)

def pointAll (f : Forest) (parent : Option NodeId) (ids : List NodeId) : Forest :=
  ids.foldl (fun f c => f.setParent c parent) f

def handOver (f : Forest) (source target : NodeId) (index : Nat) : Forest :=
  let ids := f.childIds source
  ((f.changeChildren source fun _ => ⟨[], false⟩).changeChildren target
    (·.insertAt index ids)).pointAll (some target) ids

def insertIds (f : Forest) (parent : NodeId) (index : Nat) (ids : List NodeId) : Forest :=
  if ids = [] then f
  else match f.wholeListOwner? ids with
    | some source => if source = parent then f else f.handOver source parent index
    | none => f.gather parent index ids

def exchange (f : Forest) (parent old incoming : NodeId) : Forest :=
  let g := f.detach incoming
  let i := (g.childIds parent).idxOf old
  (((g.changeChildren parent (·.replaceAt i incoming)).setParent incoming (some parent)).setIndex
    incoming i).setParent old none

def clearChildren (f : Forest) (id : NodeId) : Forest :=
  match f.madeList? id with
  | some l => (f.changeChildren id fun _ => ⟨[], false⟩).pointAll none l.ids
  | none => f

structure Placed (f : Forest) (c : NodeId) : Prop where
  mem_iff : ∀ {p}, c ∈ f.childIds p ↔ f.parent? c = some p
  nodup : ∀ p, (f.childIds p).Nodup

theorem WellFormed.placed (hf : f.WellFormed) (c : NodeId) : f.Placed c := ⟨hf.mem_iff, hf.nodup⟩

@[simp] theorem size_detach : (f.detach c).size = f.size := by
  unfold detach
  split <;> simp

theorem parent?_detach : (f.detach c).parent? x = if x = c then none else f.parent? x := by
  unfold detach
  split
  · next p hp =>
    rw [parent?_setParent (by simpa using lt_of_parent? hp)]
    simp
  · next hp =>
    by_cases hx : x = c
    · simp [hx, hp]
    · simp [hx]

theorem parent?_of_detach (h : (f.detach c).parent? x = some q) : f.parent? x = some q := by
  rw [parent?_detach] at h
  split at h
  · cases h
  · exact h

theorem Above.of_detach {a : NodeId} (h : (f.detach c).Above a x) : f.Above a x :=
  h.mono fun _ _ => parent?_of_detach

theorem childList?_detach :
    (f.detach c).childList? x =
      if f.parent? c = some x then (f.childList? x).map fun l => l.eraseIdx (l.ids.idxOf c)
      else f.childList? x := by
  unfold detach
  split
  · next p hp =>
    rw [childList?_setParent, childList?_changeChildren, hp]
    simp only [Option.some.injEq, eq_comm]
  · next hp => simp [hp]

theorem isSome_childList?_detach :
    ((f.detach c).childList? x).isSome = (f.childList? x).isSome := by
  rw [childList?_detach]
  split <;> simp

@[simp] theorem index?_detach : (f.detach c).index? x = f.index? x := by
  unfold detach
  split <;> simp

theorem filter_ne_of_not_mem {ids : List NodeId} (h : c ∉ ids) : ids.filter (· ≠ c) = ids :=
  List.filter_eq_self.mpr fun d hd => by simpa using fun he : d = c => h (he ▸ hd)

theorem childIds_detach (h : f.Placed c) :
    (f.detach c).childIds x = (f.childIds x).filter (· ≠ c) := by
  rw [childIds_eq_childList?, childList?_detach]
  split
  · next hp =>
    obtain ⟨l, hl, _⟩ := exists_childList?_of_mem (h.mem_iff.mpr hp)
    have hn : l.ids.Nodup := childIds_of_childList? hl ▸ h.nodup x
    rw [hl, Option.map_some, Option.map_some, Option.getD_some, ChildList.ids_eraseIdx_idxOf hn,
      childIds_of_childList? hl]
  · next hp =>
    rw [← childIds_eq_childList?, filter_ne_of_not_mem fun hc => hp (h.mem_iff.mp hc)]

theorem Noted.detach (h : f.Noted) : (f.detach c).Noted := by
  intro p l hl hx i y hy
  rw [index?_detach]
  rw [childList?_detach] at hl
  split at hl
  · obtain ⟨k, hk, rfl⟩ := Option.map_eq_some_iff.mp hl
    obtain ⟨hkx, hids⟩ := ChildList.indexed_eraseIdx hx
    exact h hk hkx (hids hy)
  · exact h hl hx hy

theorem Noted.setParent {q : Option NodeId} (h : f.Noted) : (f.setParent c q).Noted := by
  intro p l hl hx i y hy
  rw [index?_setParent]
  exact h (by simpa using hl) hx hy

theorem Noted.changeChildren {u : ChildList → ChildList} (h : f.Noted)
    (hu : ∀ l, (u l).indexed = false) : (f.changeChildren p u).Noted := by
  intro q l hl hx i y hy
  rw [index?_changeChildren]
  rw [childList?_changeChildren] at hl
  split at hl
  · obtain ⟨k, _, rfl⟩ := Option.map_eq_some_iff.mp hl
    rw [hu] at hx
    cases hx
  · exact h hl hx hy

theorem WellFormed.detach (hf : f.WellFormed) (c : NodeId) : (f.detach c).WellFormed := by
  have hids : ∀ x, (f.detach c).childIds x = (f.childIds x).filter (· ≠ c) := fun x =>
    childIds_detach (hf.placed c)
  refine ⟨?_, ?_, ?_, hf.noted.detach⟩
  · intro y q
    rw [hids, parent?_detach]
    by_cases hy : y = c
    · simp [hy]
    · simpa [hy] using hf.mem_iff
  · intro q
    rw [hids]
    exact (hf.nodup q).filter _
  · exact hf.acyclic.sub fun _ _ => parent?_of_detach

@[simp] theorem size_pointAll {q : Option NodeId} : (f.pointAll q ids).size = f.size := by
  induction ids generalizing f with
  | nil => rfl
  | cons c cs ih => simpa [pointAll] using ih (f := f.setParent c q)

theorem parent?_pointAll {q : Option NodeId} (h : ∀ c ∈ ids, c < f.size) :
    (f.pointAll q ids).parent? x = if x ∈ ids then q else f.parent? x := by
  induction ids generalizing f with
  | nil => simp [pointAll]
  | cons c cs ih =>
    have hcs : ∀ y ∈ cs, y < (f.setParent c q).size := fun y hy => by
      simpa using h y (List.mem_cons_of_mem c hy)
    have hstep : (f.pointAll q (c :: cs)).parent? x = _ := ih hcs
    rw [hstep, parent?_setParent (h c List.mem_cons_self)]
    by_cases hx : x = c
    · simp [hx]
    · simp [hx]

@[simp] theorem childList?_pointAll {q : Option NodeId} :
    (f.pointAll q ids).childList? x = f.childList? x := by
  induction ids generalizing f with
  | nil => rfl
  | cons c cs ih => simpa [pointAll] using ih (f := f.setParent c q)

@[simp] theorem childIds_pointAll {q : Option NodeId} :
    (f.pointAll q ids).childIds x = f.childIds x := by
  simp [childIds_eq_childList?]

@[simp] theorem index?_pointAll {q : Option NodeId} :
    (f.pointAll q ids).index? x = f.index? x := by
  induction ids generalizing f with
  | nil => rfl
  | cons c cs ih => simpa [pointAll] using ih (f := f.setParent c q)

theorem Noted.pointAll {q : Option NodeId} (h : f.Noted) : (f.pointAll q ids).Noted := by
  intro p l hl hx i y hy
  rw [index?_pointAll]
  exact h (by simpa using hl) hx hy

structure Scattered (f : Forest) (p : NodeId) (done : List NodeId) (g : Forest) : Prop where
  size : g.size = f.size
  parent : ∀ x, g.parent? x = if x ∈ done then some p else f.parent? x
  children : ∀ q, g.childIds q = (f.childIds q).filter (· ∉ done)
  lists : ∀ q, (g.childList? q).isSome = (f.childList? q).isSome
  index : ∀ x, g.index? x = f.index? x
  noted : g.Noted

namespace Scattered

theorem refl (h : f.Noted) (p : NodeId) : f.Scattered p [] f where
  size := rfl
  parent := by simp
  children := by simp
  lists _ := rfl
  index _ := rfl
  noted := h

theorem congr {ids : List NodeId} (h : f.Scattered p done g) (hm : ∀ x, x ∈ ids ↔ x ∈ done) :
    f.Scattered p ids g :=
  { h with
    parent := fun x => by simpa [hm] using h.parent x
    children := fun q => by simpa [hm] using h.children q }

theorem placed (hf : f.WellFormed) (h : f.Scattered p done g) (hc : c ∉ done) : g.Placed c where
  mem_iff := by
    intro q
    rw [h.children, h.parent, if_neg hc, ← hf.mem_iff]
    simp [hc]
  nodup q := by
    rw [h.children]
    exact (hf.nodup q).filter _

theorem step (hf : f.WellFormed) (h : f.Scattered p done g) (hc : c ∉ done) (hlt : c < f.size) :
    f.Scattered p (c :: done) ((g.detach c).setParent c (some p)) where
  size := by simp [h.size]
  parent x := by
    rw [parent?_setParent (by simpa [h.size] using hlt), parent?_detach, h.parent]
    by_cases hx : x = c
    · simp [hx]
    · simp [hx]
  children q := by
    rw [childIds_setParent, childIds_detach (h.placed hf hc), h.children, List.filter_filter]
    exact List.filter_congr fun y _ => by simp
  lists q := by rw [childList?_setParent, isSome_childList?_detach, h.lists]
  index x := by rw [index?_setParent, index?_detach, h.index]
  noted := h.noted.detach.setParent

theorem scatter (hf : f.WellFormed) (h : f.Scattered p done g) (hn : ids.Nodup)
    (hd : ∀ c ∈ ids, c ∉ done) (hlt : ∀ c ∈ ids, c < f.size) :
    f.Scattered p (ids.reverse ++ done) (g.scatter p ids) := by
  induction ids generalizing g done with
  | nil => simpa [Forest.scatter] using h
  | cons c cs ih =>
    obtain ⟨hc, hcs⟩ := List.nodup_cons.mp hn
    have hstep := h.step hf (hd c List.mem_cons_self) (hlt c List.mem_cons_self)
    have hrest := ih hstep hcs
      (fun y hy => by
        rw [List.mem_cons, not_or]
        exact ⟨fun he => hc (he ▸ hy), hd y (List.mem_cons_of_mem c hy)⟩)
      fun y hy => hlt y (List.mem_cons_of_mem c hy)
    simpa [Forest.scatter] using hrest

end Scattered

theorem WellFormed.scattered (hf : f.WellFormed) (hn : ids.Nodup) (hlt : ∀ c ∈ ids, c < f.size) :
    f.Scattered p ids (f.scatter p ids) :=
  ((Scattered.refl hf.noted p).scatter hf hn (by simp) hlt).congr (by simp)

end Forest

end MarkupForest
