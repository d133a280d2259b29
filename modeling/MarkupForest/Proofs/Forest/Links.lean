import MarkupForest.Forest.Edit

namespace MarkupForest

theorem Node.body_mapChildren (g : ChildList → ChildList) (n : Node) :
    (n.mapChildren g).body.container?.map Container.childList =
      (n.body.container?.map Container.childList).map g := by
  rw [mapChildren, Body.container?_mapContainer, Option.map_map, Option.map_map]
  rfl

theorem Node.isContainer_iff {n : Node} :
    n.kind.isContainer = true ↔ (n.body.container?.map Container.childList).isSome := by
  cases n with
  | mk body => cases body <;> simp [kind, Body.kind, Kind.isContainer, Body.container?]

theorem Body.mapContainer_congr {b : Body} {g h : Container → Container}
    (hgh : ∀ c, b.container? = some c → g c = h c) : b.mapContainer g = b.mapContainer h := by
  cases b with
  | document cases output c => simp [mapContainer, hgh c rfl]
  | element tag c => simp [mapContainer, hgh c rfl]
  | text s => rfl
  | comment s => rfl
  | data s => rfl
  | doctype d => rfl

namespace Forest

variable {f : Forest} {id x p c : NodeId}

theorem ext {f g : Forest} (h : ∀ id, f.get? id = g.get? id) : f = g := by
  cases f
  cases g
  exact congrArg Forest.mk (Array.ext_getElem? h)

theorem get?_eq_some_iff_lt : (f.get? id).isSome ↔ id < f.size := by
  simp [get?, size]

theorem exists_get? (h : id < f.size) : ∃ n, f.get? id = some n :=
  Option.isSome_iff_exists.mp (get?_eq_some_iff_lt.mpr h)

theorem lt_of_get? {n : Node} (h : f.get? id = some n) : id < f.size :=
  get?_eq_some_iff_lt.mp (by rw [h]; rfl)

theorem get?_of_size_le (h : f.size ≤ id) : f.get? id = none := by
  cases hn : f.get? id with
  | none => rfl
  | some n => exact absurd (lt_of_get? hn) (Nat.not_lt.mpr h)

theorem find_of_lt (h : id < f.size) : ∃ n, f.get? id = some n ∧ f.find id = .ok n := by
  obtain ⟨n, hn⟩ := exists_get? h
  exact ⟨n, hn, by simp [find, hn]⟩

theorem find_of_size_le (h : f.size ≤ id) : f.find id = .error (.noSuchNode id) := by
  simp [find, get?_of_size_le h]

theorem find_eq_ok_iff {n : Node} : f.find id = .ok n ↔ f.get? id = some n := by
  unfold find
  cases f.get? id <;> simp

theorem lt_of_parent? (h : f.parent? c = some p) : c < f.size := by
  obtain ⟨n, hn, _⟩ := Option.bind_eq_some_iff.mp h
  exact lt_of_get? hn

theorem childIds_eq_childList? :
    f.childIds id = ((f.childList? id).map ChildList.ids).getD [] := by
  unfold childIds childList?
  cases hn : f.get? id with
  | none => rfl
  | some n =>
    simp only [Option.bind_some, Node.childIds]
    cases n.body.container? <;> rfl

theorem childIds_of_childList? {l : ChildList} (h : f.childList? id = some l) :
    f.childIds id = l.ids := by
  simp [childIds_eq_childList?, h]

theorem childList?_of_madeList? {l : ChildList} (h : f.madeList? id = some l) :
    f.childList? id = some l := by
  obtain ⟨n, hn, hc⟩ := Option.bind_eq_some_iff.mp h
  obtain ⟨c, hc, hl⟩ := Option.bind_eq_some_iff.mp hc
  simp [childList?, hn, hc, Container.childList, hl]

theorem madeList?_of_childList? {l : ChildList} (h : f.childList? id = some l) (hl : l ≠ .empty) :
    f.madeList? id = some l := by
  obtain ⟨n, hn, hlist⟩ := Option.bind_eq_some_iff.mp h
  obtain ⟨c, hc, rfl⟩ := Option.map_eq_some_iff.mp hlist
  cases hmade : c.children with
  | none => exact absurd (by simp [Container.childList, hmade]) hl
  | some k => simp [madeList?, hn, hc, hmade, Container.childList]

theorem childIds_of_madeList?_eq_none (h : f.madeList? id = none) : f.childIds id = [] := by
  cases hl : f.childList? id with
  | none => simp [childIds_eq_childList?, hl]
  | some l =>
    rw [childIds_of_childList? hl]
    by_cases hempty : l = .empty
    · rw [hempty]
      rfl
    · cases h.symm.trans (madeList?_of_childList? hl hempty)

theorem lt_of_childList? {l : ChildList} (h : f.childList? id = some l) : id < f.size := by
  obtain ⟨n, hn, _⟩ := Option.bind_eq_some_iff.mp h
  exact lt_of_get? hn

theorem exists_childList?_of_mem (h : c ∈ f.childIds p) :
    ∃ l, f.childList? p = some l ∧ c ∈ l.ids := by
  rw [childIds_eq_childList?] at h
  cases hl : f.childList? p with
  | none => simp [hl] at h
  | some l => exact ⟨l, rfl, by simpa [hl] using h⟩

theorem checkContainer_eq_ok_iff :
    f.checkContainer id = .ok () ↔ (f.childList? id).isSome := by
  unfold checkContainer find childList?
  cases hn : f.get? id with
  | none => simp [bind, Except.bind]
  | some n =>
    simp only [bind, Except.bind, Option.bind_some]
    rw [← Node.isContainer_iff]
    cases n.kind.isContainer <;> simp [pure, Except.pure, throw, throwThe, MonadExceptOf.throw]

section Modify

variable {g : Node → Node}

theorem parent?_modify (h : ∀ n, (g n).parent = n.parent) :
    (f.modify id g).parent? x = f.parent? x := by
  unfold parent?
  rw [get?_modify]
  split
  · cases f.get? x <;> simp [h]
  · rfl

theorem childList?_modify
    (h : ∀ n, (g n).body.container?.map Container.childList =
      n.body.container?.map Container.childList) :
    (f.modify id g).childList? x = f.childList? x := by
  unfold childList?
  rw [get?_modify]
  split
  · cases f.get? x with
    | none => rfl
    | some n => exact h n
  · rfl

theorem madeList?_modify (h : ∀ n, (g n).body = n.body) :
    (f.modify id g).madeList? x = f.madeList? x := by
  unfold madeList?
  rw [get?_modify]
  split
  · cases f.get? x <;> simp [h]
  · rfl

theorem index?_modify (h : ∀ n, (g n).index = n.index) :
    (f.modify id g).index? x = f.index? x := by
  unfold index?
  rw [get?_modify]
  split
  · cases f.get? x <;> simp [h]
  · rfl

end Modify

theorem modify_comm {y : NodeId} {g h : Node → Node} (hgh : ∀ n, g (h n) = h (g n)) :
    (f.modify x g).modify y h = (f.modify y h).modify x g := by
  refine ext fun z => ?_
  simp only [get?_modify]
  by_cases hx : x = z
  · by_cases hy : y = z
    · cases f.get? z <;> simp [hx, hy, hgh]
    · simp [hx, hy]
  · simp [hx]

@[simp] theorem size_setParent {q : Option NodeId} : (f.setParent id q).size = f.size :=
  size_modify ..

@[simp] theorem size_setIndex {i : Nat} : (f.setIndex id i).size = f.size := size_modify ..

@[simp] theorem size_changeChildren {g : ChildList → ChildList} :
    (f.changeChildren id g).size = f.size :=
  size_modify ..

@[simp] theorem size_attach : (f.attach p c).size = f.size := by simp [attach]

theorem parent?_setParent {q : Option NodeId} (h : id < f.size) :
    (f.setParent id q).parent? x = if x = id then q else f.parent? x := by
  unfold parent? setParent
  rw [get?_modify]
  obtain ⟨n, hn⟩ := exists_get? h
  by_cases hx : x = id
  · simp [hx, hn]
  · simp [hx, Ne.symm hx]

@[simp] theorem parent?_setIndex {i : Nat} : (f.setIndex id i).parent? x = f.parent? x :=
  parent?_modify fun _ => rfl

@[simp] theorem parent?_changeChildren {g : ChildList → ChildList} :
    (f.changeChildren id g).parent? x = f.parent? x :=
  parent?_modify fun _ => rfl

@[simp] theorem childList?_setParent {q : Option NodeId} :
    (f.setParent id q).childList? x = f.childList? x :=
  childList?_modify fun _ => rfl

@[simp] theorem childList?_setIndex {i : Nat} : (f.setIndex id i).childList? x = f.childList? x :=
  childList?_modify fun _ => rfl

theorem childList?_changeChildren {g : ChildList → ChildList} :
    (f.changeChildren id g).childList? x =
      if x = id then (f.childList? x).map g else f.childList? x := by
  unfold childList? changeChildren
  rw [get?_modify]
  by_cases hx : x = id
  · subst hx
    cases hn : f.get? x with
    | none => simp
    | some n => simpa using n.body_mapChildren g
  · simp [hx, Ne.symm hx]

theorem changeChildren_congr {g h : ChildList → ChildList}
    (hgh : ∀ l, f.childList? id = some l → g l = h l) :
    f.changeChildren id g = f.changeChildren id h := by
  refine ext fun x => ?_
  unfold changeChildren
  rw [get?_modify, get?_modify]
  by_cases hx : id = x
  · subst hx
    cases hn : f.get? id with
    | none => rfl
    | some n =>
      have hb : ∀ c, n.body.container? = some c → g c.childList = h c.childList := fun c hc =>
        hgh c.childList (by simp [childList?, hn, hc])
      rw [if_pos rfl, if_pos rfl, Option.map_some, Option.map_some, Node.mapChildren,
        Node.mapChildren, Body.mapContainer_congr fun c hc => by rw [hb c hc]]
  · rw [if_neg hx, if_neg hx]

@[simp] theorem childIds_setParent {q : Option NodeId} :
    (f.setParent id q).childIds x = f.childIds x := by
  simp [childIds_eq_childList?]

@[simp] theorem childIds_setIndex {i : Nat} : (f.setIndex id i).childIds x = f.childIds x := by
  simp [childIds_eq_childList?]

theorem childIds_changeChildren_ne {g : ChildList → ChildList} (h : x ≠ id) :
    (f.changeChildren id g).childIds x = f.childIds x := by
  simp [childIds_eq_childList?, childList?_changeChildren, h]

theorem childIds_changeChildren_self {g : ChildList → ChildList} {l : ChildList}
    (h : f.childList? id = some l) : (f.changeChildren id g).childIds id = (g l).ids := by
  simp [childIds_eq_childList?, childList?_changeChildren, h]

theorem index?_modify_ne {g : Node → Node} (h : x ≠ id) :
    (f.modify id g).index? x = f.index? x := by
  unfold index?
  rw [get?_modify, if_neg (Ne.symm h)]

theorem index?_setIndex {i : Nat} (h : id < f.size) :
    (f.setIndex id i).index? x = if x = id then some i else f.index? x := by
  unfold index? setIndex
  rw [get?_modify]
  obtain ⟨n, hn⟩ := exists_get? h
  by_cases hx : x = id
  · simp [hx, hn]
  · simp [hx, Ne.symm hx]

@[simp] theorem index?_setParent {q : Option NodeId} :
    (f.setParent id q).index? x = f.index? x :=
  index?_modify fun _ => rfl

@[simp] theorem index?_changeChildren {g : ChildList → ChildList} :
    (f.changeChildren id g).index? x = f.index? x :=
  index?_modify fun _ => rfl

theorem parent?_push {n : Node} :
    (f.push n).parent? x = if x = f.size then n.parent else f.parent? x := by
  unfold parent?
  rw [get?_push]
  split <;> rfl

theorem childList?_push {n : Node} :
    (f.push n).childList? x =
      if x = f.size then n.body.container?.map Container.childList else f.childList? x := by
  unfold childList?
  rw [get?_push]
  split <;> rfl

theorem index?_push {n : Node} :
    (f.push n).index? x = if x = f.size then some n.index else f.index? x := by
  unfold index?
  rw [get?_push]
  split <;> rfl

theorem parent?_attach (h : c < f.size) :
    (f.attach p c).parent? x = if x = c then some p else f.parent? x := by
  rw [attach, parent?_setParent (by simpa using h)]
  simp

theorem childList?_attach :
    (f.attach p c).childList? x =
      if x = p then (f.childList? x).map (·.push c) else f.childList? x := by
  simp [attach, childList?_changeChildren]

theorem childIds_attach {l : ChildList} (hl : f.childList? p = some l) :
    (f.attach p c).childIds x = if x = p then f.childIds p ++ [c] else f.childIds x := by
  rw [childIds_eq_childList?, childList?_attach]
  by_cases hx : x = p
  · subst hx
    simp [hl, childIds_of_childList? hl, ChildList.push]
  · simp [hx, childIds_eq_childList?]

theorem index?_attach (h : c < f.size) :
    (f.attach p c).index? x = if x = c then some (f.childIds p).length else f.index? x := by
  rw [attach, index?_setParent, index?_setIndex (by simpa using h)]
  simp

end Forest

end MarkupForest
