import MarkupForest.Proofs.SiblingIndex.Alike
import MarkupForest.Proofs.Operation.Reachable

namespace MarkupForest

open Edit Forest

variable {f g : Forest} {c p q x : NodeId} {ids : List NodeId} {i : Nat}

def Body.hollow (b : Body) : Body := b.mapContainer fun c => { c with children := none }

theorem Body.hollow_mapChildren (u : Container → Option ChildList) (b : Body) :
    (b.mapContainer fun c => { c with children := u c }).hollow = b.hollow := by
  cases b <;> rfl

def Node.payload (n : Node) : Body × Option NodeRanges := (n.body.hollow, n.ranges)

namespace Forest

def payload? (f : Forest) (id : NodeId) : Option (Body × Option NodeRanges) :=
  (f.get? id).map Node.payload

theorem payload?_modify {u : Node → Node} (hu : ∀ n, (u n).payload = n.payload) :
    (f.modify p u).payload? x = f.payload? x := by
  unfold payload?
  rw [get?_modify]
  split
  · cases f.get? x <;> simp [hu]
  · rfl

@[simp] theorem payload?_setParent {q : Option NodeId} :
    (f.setParent c q).payload? x = f.payload? x :=
  payload?_modify fun _ => rfl

@[simp] theorem payload?_setIndex {i : Nat} : (f.setIndex c i).payload? x = f.payload? x :=
  payload?_modify fun _ => rfl

@[simp] theorem payload?_changeChildren {u : ChildList → ChildList} :
    (f.changeChildren p u).payload? x = f.payload? x :=
  payload?_modify fun n => by rw [Node.payload, Node.mapChildren, Body.hollow_mapChildren]; rfl

@[simp] theorem payload?_detach : (f.detach c).payload? x = f.payload? x := by
  unfold detach
  split <;> simp

@[simp] theorem payload?_exchange {old new : NodeId} :
    (f.exchange p old new).payload? x = f.payload? x := by
  simp [exchange]

@[simp] theorem payload?_scatter : (f.scatter p ids).payload? x = f.payload? x := by
  induction ids generalizing f with
  | nil => rfl
  | cons c cs ih => simpa [scatter] using ih (f := (f.detach c).setParent c (some p))

@[simp] theorem payload?_pointAll {q : Option NodeId} :
    (f.pointAll q ids).payload? x = f.payload? x := by
  induction ids generalizing f with
  | nil => rfl
  | cons c cs ih => simpa [pointAll] using ih (f := f.setParent c q)

theorem payload?_settle : (f.settle p).payload? x = f.payload? x :=
  Alike.of_settle.eq_of (q := (payload? · x)) fun k => by
    show (k.bare.get? x).map Node.payload = (k.get? x).map Node.payload
    rw [get?_bare, Option.map_map]
    congr 1
    funext n
    exact congrArg (·, n.ranges) (Body.hollow_mapChildren (fun c => c.bare.children) n.body)

/-- The nodes `ids` hang in `g` at place `i` of `p`, counted among the other children of `p`. -/
structure Inserted (f g : Forest) (p : NodeId) (i : Nat) (ids : List NodeId) : Prop where
  here : ∃ rest j, rest = (f.childIds p).filter (· ∉ ids) ∧ j = min i rest.length ∧
    g.childIds p = rest.take j ++ ids ++ rest.drop j
  elsewhere : ∀ q, q ≠ p → g.childIds q = (f.childIds q).filter (· ∉ ids)
  moved : ∀ c ∈ ids, g.parent? c = some p
  kept : ∀ x, x ∉ ids → g.parent? x = f.parent? x
  size : g.size = f.size
  payload : ∀ x, g.payload? x = f.payload? x

theorem Inserted.of_lists (hsize : g.size = f.size) (hload : ∀ x, g.payload? x = f.payload? x)
    (hpar : ∀ x, g.parent? x = if x ∈ ids then some p else f.parent? x)
    (hids : ∀ x, g.childIds x =
      if x = p then ((f.childIds p).filter (· ∉ ids)).take i ++ ids ++
        ((f.childIds p).filter (· ∉ ids)).drop i
      else (f.childIds x).filter (· ∉ ids)) : f.Inserted g p i ids where
  here := by
    refine ⟨_, _, rfl, rfl, ?_⟩
    rw [hids, if_pos rfl, ← List.take_eq_take_min, ← List.drop_eq_drop_min]
  elsewhere q hq := by rw [hids, if_neg hq]
  moved c hc := by rw [hpar, if_pos hc]
  kept x hx := by rw [hpar, if_neg hx]
  size := hsize
  payload := hload

theorem WellFormed.filter_childIds (hf : f.WellFormed) (hq : f.childIds q = ids) (hx : x ≠ q) :
    (f.childIds x).filter (· ∉ ids) = f.childIds x := by
  rw [List.filter_eq_self]
  intro y hy
  have hne : y ∉ ids := by
    intro hm
    rw [← hq, hf.mem_iff] at hm
    rw [hf.mem_iff, hm] at hy
    exact hx (Option.some.inj hy).symm
  simpa using hne

theorem filter_childIds_self (hq : f.childIds q = ids) :
    (f.childIds q).filter (· ∉ ids) = [] := by
  rw [List.filter_eq_nil_iff, hq]
  simp

theorem WellFormed.inserted_self (hf : f.WellFormed) (hp : f.childIds p = ids) :
    f.Inserted f p i ids := by
  have hpar : ∀ x ∈ ids, f.parent? x = some p := fun x hx => hf.mem_iff.mp (hp ▸ hx)
  refine .of_lists rfl (fun _ => rfl) (fun x => ?_) fun x => ?_
  · split
    · next hx => exact hpar x hx
    · rfl
  · split
    · next hx =>
      rw [filter_childIds_self hp, List.take_nil, List.drop_nil, List.nil_append,
        List.append_nil, hx,
        hp]
    · next hx => rw [hf.filter_childIds hp hx]

theorem WellFormed.inserted_handOver (hf : f.WellFormed) (hi : f.Insertable p ids)
    (hq : f.childIds q = ids) (hql : (f.childList? q).isSome) (hqp : q ≠ p) :
    f.Inserted (f.handOver q p i) p i ids := by
  refine .of_lists (by simp [Forest.handOver]) (fun x => by simp [Forest.handOver])
    (fun x => ?_) fun x => ?_
  · rw [parent?_handOver hf, hq]
  · rw [childIds_handOver hqp hql hi.container, hq, hf.filter_childIds hq (Ne.symm hqp)]
    by_cases hx : x = q
    · rw [if_neg (hx ▸ hqp), if_pos hx, if_neg (hx ▸ hqp), hx, filter_childIds_self hq]
    · rw [if_neg hx, hf.filter_childIds hq hx]

theorem WellFormed.inserted_gather (hf : f.WellFormed) (hi : f.Insertable p ids) :
    f.Inserted (f.gather p i ids) p i ids :=
  .of_lists (by rw [Forest.gather, size_changeChildren, (hf.scattered hi.nodup hi.lt).size])
    (fun x => by simp [Forest.gather]) (fun _ => parent?_gather hf hi.nodup hi.lt)
    fun _ => childIds_gather hf hi.nodup hi.lt hi.container

theorem WellFormed.inserted_insertIds (hf : f.WellFormed) (hi : f.Insertable p ids)
    (hn : ids ≠ []) : f.Inserted (f.insertIds p i ids) p i ids := by
  unfold insertIds
  rw [if_neg hn]
  cases how : f.wholeListOwner? ids with
  | none => exact hf.inserted_gather hi
  | some q =>
    obtain ⟨hq, hql⟩ := wholeListOwner?_eq_some how hn
    by_cases hqp : q = p
    · subst hqp
      simpa using hf.inserted_self hq
    · simpa [hqp] using hf.inserted_handOver hi hq hql hqp

end Forest

theorem insertChildren_eq (hf : f.WellFormed) (hp : p < f.size) (hi : i ≤ (f.childIds p).length) :
    insertChildren p i ids f = checked (f.checkInsert p ids) () f (f.insertIds p i ids) := by
  rw [insertChildren, bind_ok (ask_ok (childCount_of_lt hp)), if_neg (Nat.not_lt.mpr hi)]
  exact insertAll_eq hf

theorem insertChildren_missing (hp : f.size ≤ p) :
    insertChildren p i ids f = .error (.noSuchNode p) f := by
  rw [insertChildren, bind_error (ask_error (childCount_of_size_le hp))]

theorem isSome_childList?_iff :
    (f.childList? p).isSome ↔ ∃ n, f.get? p = some n ∧ n.kind.isContainer = true := by
  constructor
  · intro h
    obtain ⟨n, hn, hk⟩ := kind_of_childList? h
    exact ⟨n, hn, by rcases hk with hk | hk <;> rw [hk] <;> rfl⟩
  · rintro ⟨n, hn, hk⟩
    simpa [childList?, hn] using Node.isContainer_iff.mp hk

theorem checkInsert_ok_iff (hf : f.WellFormed) :
    f.checkInsert p ids = .ok () ↔ (∃ n, f.get? p = some n ∧ n.kind.isContainer = true) ∧
      (ids = [] ∨ (∀ c ∈ ids, c < f.size) ∧ ids.Nodup ∧ ∀ c ∈ ids, ¬ f.Above c p) := by
  rw [checkInsert_eq_ok_iff hf, ← isSome_childList?_iff]
  constructor
  · rintro ⟨hp, hlt, hn, ha⟩
    exact ⟨hp, .inr ⟨hlt, hn, ha⟩⟩
  · rintro ⟨hp, rfl | ⟨hlt, hn, ha⟩⟩
    · exact ⟨hp, by simp, List.nodup_nil, by simp⟩
    · exact ⟨hp, hlt, hn, ha⟩

theorem insertChildren_ok_iff (hf : f.WellFormed) (hi : i ≤ (f.childIds p).length) :
    insertChildren p i ids f = .ok () g ↔
      f.checkInsert p ids = .ok () ∧ g = f.insertIds p i ids := by
  by_cases hp : p < f.size
  · rw [insertChildren_eq hf hp hi]
    cases hc : f.checkInsert p ids with
    | ok _ => simp [checked, eq_comm]
    | error x => simp [checked]
  · have hcheck : f.checkInsert p ids ≠ .ok () := by
      intro hc
      obtain ⟨⟨n, hn, _⟩, _⟩ := (checkInsert_ok_iff hf).mp hc
      exact hp (lt_of_get? hn)
    rw [insertChildren_missing (Nat.le_of_not_lt hp)]
    simp [hcheck]

theorem children_insert_by_detaching (h : Reachable f) (hi : i ≤ (f.childIds p).length) :
    ((∃ g, insertChildren p i ids f = .ok () g) ↔
      (∃ n, f.get? p = some n ∧ n.kind.isContainer = true) ∧
        (ids = [] ∨ (∀ c ∈ ids, c < f.size) ∧ ids.Nodup ∧ ∀ c ∈ ids, ¬ f.Above c p)) ∧
    ∀ g, insertChildren p i ids f = .ok () g →
      (ids = [] → g = f) ∧ (ids ≠ [] → f.Inserted g p i ids) := by
  have hf := h.wellFormed
  refine ⟨?_, fun g hg => ?_⟩
  · simp only [insertChildren_ok_iff hf hi, ← checkInsert_ok_iff hf, exists_and_left,
      exists_eq, and_true]
  · obtain ⟨hc, rfl⟩ := (insertChildren_ok_iff hf hi).mp hg
    refine ⟨?_, fun hn => hf.inserted_insertIds ((checkInsert_eq_ok_iff hf).mp hc) hn⟩
    rintro rfl
    rfl

def twoLists : Forest :=
  runAll Url.resolve (readFragment .html)
    [.createElement "ul", .createElement "li", .createText "a", .createText "b",
      .createElement "ol", .createText "c", .restructure (.appendChildren 0 [1, 2, 3]),
      .restructure (.appendChild 4 5)] .empty

theorem children_insert_by_detaching_twoLists :
    Reachable twoLists ∧ 2 ≤ (twoLists.childIds 0).length ∧
      (∃ g, insertChildren 0 2 [5, 1] twoLists = .ok () g ∧ twoLists.Inserted g 0 2 [5, 1]) ∧
      ∃ g, insertChildren 0 2 [5] twoLists = .ok () g ∧ twoLists.Inserted g 0 2 [5] := by
  have h : Reachable twoLists := reaches_runAll _
  have hi : 2 ≤ (twoLists.childIds 0).length := by decide
  refine ⟨h, hi, ⟨_, rfl, ?_⟩, _, rfl, ?_⟩
  · exact ((children_insert_by_detaching h hi).2 _ rfl).2 (by decide)
  · exact ((children_insert_by_detaching h hi).2 _ rfl).2 (by decide)

end MarkupForest
