import MarkupForest.Proofs.Forest.MovesWellFormed
import MarkupForest.Proofs.Edit.Runs

namespace MarkupForest

open Edit Forest

variable {f g : Forest} {c p q x : NodeId} {l : ChildList} {ids done : List NodeId} {i : Nat}

namespace Forest

theorem parent_of_lt (h : c < f.size) : f.parent c = .ok (f.parent? c) := by
  obtain ⟨n, hn, hfind⟩ := find_of_lt h
  simp [parent, hfind, parent?, hn, bind, Except.bind, pure, Except.pure]

theorem parent_of_size_le (h : f.size ≤ c) : f.parent c = .error (.noSuchNode c) := by
  simp [parent, find_of_size_le h, bind, Except.bind]

theorem children_of_lt (h : c < f.size) : f.children c = .ok (f.childIds c) := by
  obtain ⟨n, hn, hfind⟩ := find_of_lt h
  simp [children, hfind, childIds, hn, bind, Except.bind, pure, Except.pure]

theorem childCount_of_lt (h : c < f.size) : f.childCount c = .ok (f.childIds c).length := by
  obtain ⟨n, hn, hfind⟩ := find_of_lt h
  simp [childCount, hfind, childIds, hn, bind, Except.bind, pure, Except.pure]

theorem parent?_of_parent {q : Option NodeId} (h : f.parent c = .ok q) : f.parent? c = q := by
  by_cases hc : c < f.size
  · rw [parent_of_lt hc] at h
    cases h
    rfl
  · rw [parent_of_size_le (Nat.le_of_not_lt hc)] at h
    cases h

theorem children_of_size_le (h : f.size ≤ c) : f.children c = .error (.noSuchNode c) := by
  rw [children, find_of_size_le h]
  rfl

theorem childCount_of_size_le (h : f.size ≤ c) : f.childCount c = .error (.noSuchNode c) := by
  rw [childCount, find_of_size_le h]
  rfl

theorem firstChild_of_size_le (h : f.size ≤ c) : f.firstChild c = .error (.noSuchNode c) := by
  rw [firstChild, children_of_size_le h]
  rfl

theorem child_of_lt {i : Nat} (h : p < f.size) :
    f.child p i = match (f.childIds p)[i]? with
      | some c => .ok c
      | none => .error (.indexOutOfRange i (f.childIds p).length) := by
  rw [child, children_of_lt h]
  show (match (f.childIds p)[i]? with | some c => _ | none => _) = _
  cases (f.childIds p)[i]? <;> rfl

theorem index?_of_lt (h : c < f.size) : ∃ n, f.find c = .ok n ∧ f.index? c = some n.index := by
  obtain ⟨n, hn, hfind⟩ := find_of_lt h
  exact ⟨n, hfind, by simp [index?, hn]⟩

theorem indexIn_eq (h : f.Placed c) (hp : f.parent? c = some p) :
    f.indexIn p c = .ok ((f.childIds p).idxOf c) := by
  have hm : c ∈ f.childIds p := h.mem_iff.mpr hp
  obtain ⟨l, hl, hcl⟩ := exists_childList?_of_mem hm
  obtain ⟨n, hn, hfind⟩ := find_of_lt (lt_of_parent? hp)
  have hids := childIds_of_childList? hl
  have hnd : l.ids.Nodup := hids ▸ h.nodup p
  have hscan : l.ids.idxOf? c = some (l.ids.idxOf c) := by
    obtain ⟨j, hj⟩ := Option.isSome_iff_exists.mp (List.isSome_idxOf?.mpr hcl)
    rw [List.idxOf_eq_getD_idxOf?, hj]
    rfl
  have hmade : f.madeList? p = some l :=
    madeList?_of_childList? hl (by rintro rfl; exact absurd hcl List.not_mem_nil)
  simp only [indexIn, hmade, hfind, hids, bind, Except.bind]
  split
  · next hcache =>
    simp only [Bool.and_eq_true, beq_iff_eq] at hcache
    obtain ⟨hlt, hget⟩ := List.getElem?_eq_some_iff.mp hcache.2
    rw [← hget, hnd.idxOf_getElem]
    rfl
  · rw [hscan]
    rfl

end Forest

namespace Edit

theorem requireContainer_ok (h : (f.childList? p).isSome) : requireContainer p f = .ok () f :=
  ask_ok (checkContainer_eq_ok_iff.mpr h)

theorem requireContainer_error {e : TreeError} (h : f.checkContainer p = .error e) :
    requireContainer p f = .error e f :=
  ask_error h

theorem changeChildren_ok {u : ChildList → ChildList} (h : (f.childList? p).isSome) :
    Edit.changeChildren p u f = .ok () (f.changeChildren p u) := by
  rw [Edit.changeChildren, bind_ok (requireContainer_ok h)]
  rfl

theorem setParent_ok {q : Option NodeId} (h : c < f.size) :
    Edit.setParent c q f = .ok () (f.setParent c q) := by
  obtain ⟨n, _, hfind⟩ := find_of_lt h
  rw [Edit.setParent, bind_ok (ask_ok hfind)]
  rfl

theorem setParent_all_ok {q : Option NodeId} (h : ∀ c ∈ ids, c < f.size) :
    ids.forM (Edit.setParent · q) f = .ok () (f.pointAll q ids) := by
  induction ids generalizing f with
  | nil => rfl
  | cons c cs ih =>
    rw [forM_cons, bind_ok (setParent_ok (h c List.mem_cons_self)),
      ih (by simpa using fun y hy => h y (List.mem_cons_of_mem c hy))]
    rfl

end Edit

theorem removeChild_ok (h : f.Placed c) (hp : f.parent? c = some p) :
    removeChild p c f = .ok () (f.detach c) := by
  have hlt := lt_of_parent? hp
  obtain ⟨l, hl, _⟩ := exists_childList?_of_mem (h.mem_iff.mpr hp)
  have hids := childIds_of_childList? hl
  have hdet : f.detach c =
      (f.changeChildren p (·.eraseIdx (l.ids.idxOf c))).setParent c none := by
    simp only [detach, hp]
    congr 1
    refine changeChildren_congr fun k hk => ?_
    rw [hl] at hk
    cases hk
    rfl
  rw [removeChild, bind_ok (ask_ok (parent_of_lt hlt)), hp]
  simp only [ne_eq, not_true_eq_false, if_false]
  rw [bind_ok (ask_ok (indexIn_eq h hp)), bind_ok (changeChildren_ok (by rw [hl]; rfl)),
    setParent_ok (by simpa using hlt), hdet, hids]

theorem remove_ok (h : f.Placed c) (hlt : c < f.size) : remove c f = .ok () (f.detach c) := by
  rw [remove, bind_ok (ask_ok (parent_of_lt hlt))]
  cases hp : f.parent? c with
  | none =>
    rw [detach, hp]
    rfl
  | some p => exact removeChild_ok h hp

theorem remove_missing (h : f.size ≤ c) : remove c f = .error (.noSuchNode c) f := by
  rw [remove, bind_error (ask_error (parent_of_size_le h))]

theorem reparent_ok (h : f.Placed c) (hlt : c < f.size) (ha : f.isAbove c p = false) :
    reparent p c f = .ok () ((f.detach c).setParent c (some p)) := by
  rw [reparent, bind_ok get_eq]
  simp only [ha, Bool.false_eq_true, if_false]
  rw [bind_ok (remove_ok h hlt), setParent_ok (by simpa using hlt)]

namespace Forest

def checkAppend (f : Forest) (parent child : NodeId) : Except TreeError Unit := do
  f.checkContainer parent
  if f.isAbove child parent then throw (.unmet (.ownSubtree child parent))
  let _ ← f.find child

theorem attach_eq :
    f.attach p c = (((f.setParent c (some p)).changeChildren p (·.push c)).setIndex c
      (f.childIds p).length) := by
  have hp : (f.setParent c (some p)).changeChildren p (·.push c) =
      (f.changeChildren p (·.push c)).setParent c (some p) := modify_comm fun _ => rfl
  rw [hp]
  exact modify_comm fun _ => rfl

theorem checkAppend_eq_ok_iff :
    f.checkAppend p c = .ok () ↔
      (f.childList? p).isSome ∧ f.isAbove c p = false ∧ c < f.size := by
  rw [← checkContainer_eq_ok_iff]
  unfold checkAppend
  cases f.checkContainer p with
  | error x => simp [bind, Except.bind]
  | ok _ =>
    cases f.isAbove c p with
    | true => simp [bind, Except.bind, throw, throwThe, MonadExceptOf.throw]
    | false =>
      by_cases hc : c < f.size
      · obtain ⟨n, _, hfind⟩ := find_of_lt hc
        simp [hfind, hc, bind, Except.bind, pure, Except.pure]
      · simp [find_of_size_le (Nat.le_of_not_lt hc), hc, bind, Except.bind]

end Forest

theorem reparent_above (h : f.isAbove c p = true) :
    reparent p c f = .error (.unmet (.ownSubtree c p)) f := by
  rw [reparent, bind_ok get_eq]
  simp only [h, if_true]
  rfl

theorem reparent_missing (h : f.isAbove c p = false) (hc : f.size ≤ c) :
    reparent p c f = .error (.noSuchNode c) f := by
  rw [reparent, bind_ok get_eq]
  simp only [h, Bool.false_eq_true, if_false]
  rw [bind_error (remove_missing hc)]

theorem appendChild_eq (hf : f.WellFormed) :
    appendChild p c f = checked (f.checkAppend p c) () f ((f.detach c).attach p c) := by
  unfold checkAppend appendChild
  cases hcont : f.checkContainer p with
  | error x =>
    rw [bind_error (requireContainer_error hcont)]
    rfl
  | ok _ =>
    have hl := checkContainer_eq_ok_iff.mp hcont
    rw [bind_ok (requireContainer_ok hl)]
    cases ha : f.isAbove c p with
    | true =>
      rw [bind_error (reparent_above ha)]
      rfl
    | false =>
      by_cases hc : c < f.size
      · obtain ⟨n, _, hfind⟩ := find_of_lt hc
        have hld : ((f.detach c).childList? p).isSome := by rw [isSome_childList?_detach, hl]
        obtain ⟨l, hl⟩ := Option.isSome_iff_exists.mp hld
        rw [bind_ok (reparent_ok (hf.placed c) hc ha),
          bind_ok (changeChildren_ok (by rwa [childList?_setParent])), modify_eq, attach_eq,
          childIds_changeChildren_self (by rw [childList?_setParent, hl]), hfind,
          childIds_of_childList? hl]
        simp [ChildList.push, checked, bind, Except.bind, pure, Except.pure]
      · have hmiss := Nat.le_of_not_lt hc
        rw [bind_error (reparent_missing ha hmiss), find_of_size_le hmiss]
        rfl

theorem Forest.WellFormed.append (hf : f.WellFormed) (h : f.checkAppend p c = .ok ()) :
    ((f.detach c).attach p c).WellFormed := by
  obtain ⟨hl, ha, hc⟩ := checkAppend_eq_ok_iff.mp h
  have hld : ((f.detach c).childList? p).isSome := by rw [isSome_childList?_detach, hl]
  obtain ⟨l, hl⟩ := Option.isSome_iff_exists.mp hld
  have hd := hf.detach c
  refine hd.attach hl (by simpa using hc) (by rw [parent?_detach, if_pos rfl]) fun hab => ?_
  rw [hf.isAbove_iff.mpr hab.of_detach] at ha
  cases ha

namespace Forest

def checkInsert (f : Forest) (parent : NodeId) (ids : List NodeId) : Except TreeError Unit := do
  f.checkContainer parent
  f.checkInserted parent (f.lineage parent) [] ids

theorem checkInserted_eq_ok_iff {above seen : List NodeId} :
    f.checkInserted p above seen ids = .ok () ↔
      (∀ c ∈ ids, c < f.size) ∧ ids.Nodup ∧ (∀ c ∈ ids, c ∉ seen) ∧ ∀ c ∈ ids, c ∉ above := by
  induction ids generalizing seen with
  | nil => simp [checkInserted, pure, Except.pure]
  | cons c cs ih =>
    unfold checkInserted
    by_cases hc : c < f.size
    · obtain ⟨n, _, hfind⟩ := find_of_lt hc
      simp only [hfind, bind, Except.bind, List.contains_iff_mem]
      by_cases hs : c ∈ seen
      · simp [hs, throw, throwThe, MonadExceptOf.throw]
      · by_cases ha : c ∈ above
        · simp [hs, ha, throw, throwThe, MonadExceptOf.throw]
        · simp only [hs, ha, if_false, ih]
          constructor
          · rintro ⟨hlt, hnd, hseen, hab⟩
            have hcs : c ∉ cs := fun hm => hseen c hm List.mem_cons_self
            have hrest : ∀ y ∈ cs, y ∉ seen := fun y hy hm => hseen y hy (List.mem_cons_of_mem c hm)
            simp only [List.forall_mem_cons, List.nodup_cons]
            exact ⟨⟨hc, hlt⟩, ⟨hcs, hnd⟩, ⟨hs, hrest⟩, ha, hab⟩
          · simp only [List.forall_mem_cons, List.nodup_cons]
            rintro ⟨⟨_, hlt⟩, ⟨hcs, hnd⟩, ⟨_, hseen⟩, _, hab⟩
            refine ⟨hlt, hnd, fun y hy hm => ?_, hab⟩
            rcases List.mem_cons.mp hm with rfl | hm
            · exact hcs hy
            · exact hseen y hy hm
    · simp [find_of_size_le (Nat.le_of_not_lt hc), hc, bind, Except.bind]

structure Insertable (f : Forest) (p : NodeId) (ids : List NodeId) : Prop where
  container : (f.childList? p).isSome
  lt : ∀ c ∈ ids, c < f.size
  nodup : ids.Nodup
  not_above : ∀ c ∈ ids, ¬ f.Above c p

theorem checkInsert_eq_ok_iff (hf : f.WellFormed) :
    f.checkInsert p ids = .ok () ↔ f.Insertable p ids := by
  have hiff : f.Insertable p ids ↔ f.checkContainer p = .ok () ∧
      f.checkInserted p (f.lineage p) [] ids = .ok () := by
    rw [checkContainer_eq_ok_iff, checkInserted_eq_ok_iff]
    simp only [hf.mem_lineage_iff]
    constructor
    · rintro ⟨hl, hlt, hn, ha⟩
      exact ⟨hl, hlt, hn, by simp, ha⟩
    · rintro ⟨hl, hlt, hn, _, ha⟩
      exact ⟨hl, hlt, hn, ha⟩
  rw [hiff, checkInsert]
  cases f.checkContainer p with
  | error x => simp [bind, Except.bind]
  | ok _ => simp [bind, Except.bind]

theorem Scattered.lineage_eq (h : f.Scattered p done g) (ha : ∀ c ∈ done, ¬ f.Above c p) :
    g.lineage p = f.lineage p := by
  rw [lineage, h.size]
  refine climb_congr fun y hy => ?_
  rw [h.parent, if_neg fun hd => ha y hd (mem_climb hy)]

end Forest

theorem reparent_all_ok (hf : f.WellFormed) (h : f.Scattered p done g) (hi : f.Insertable p ids)
    (hd : ∀ c ∈ ids, c ∉ done) (ha : ∀ c ∈ done, ¬ f.Above c p) :
    ids.forM (reparent p) g = .ok () (g.scatter p ids) := by
  induction ids generalizing g done with
  | nil => rfl
  | cons c cs ih =>
    obtain ⟨hc, hcs⟩ := List.nodup_cons.mp hi.nodup
    have hlt := hi.lt c List.mem_cons_self
    have hnot := hi.not_above c List.mem_cons_self
    have hdc := hd c List.mem_cons_self
    have hac : g.isAbove c p = false := by
      rw [← Bool.not_eq_true, isAbove, h.lineage_eq ha, List.contains_iff_mem, hf.mem_lineage_iff]
      exact hnot
    have hrest : f.Insertable p cs := ⟨hi.container,
      fun y hy => hi.lt y (List.mem_cons_of_mem c hy), hcs,
      fun y hy => hi.not_above y (List.mem_cons_of_mem c hy)⟩
    rw [forM_cons, bind_ok (reparent_ok (h.placed hf hdc) (h.size ▸ hlt) hac),
      ih (h.step hf hdc hlt) hrest]
    · rfl
    · intro y hy
      rw [List.mem_cons, not_or]
      exact ⟨fun he => hc (he ▸ hy), hd y (List.mem_cons_of_mem c hy)⟩
    · intro y hy
      rcases List.mem_cons.mp hy with rfl | hy
      · exact hnot
      · exact ha y hy

theorem moveAll_ok (hf : f.WellFormed) (hq : (f.childList? q).isSome)
    (hp : (f.childList? p).isSome) : moveAll q p i f = .ok () (f.handOver q p i) := by
  have hp' : ((f.changeChildren q fun _ => ⟨[], false⟩).childList? p).isSome := by
    rw [childList?_changeChildren]
    split <;> simp [hp]
  rw [moveAll, bind_ok get_eq, bind_ok (changeChildren_ok hq), bind_ok (changeChildren_ok hp'),
    setParent_all_ok fun c hc => by simpa using hf.lt_of_mem hc]
  rfl

theorem wholeListOwner?_eq_some (h : f.wholeListOwner? ids = some q) (hn : ids ≠ []) :
    f.childIds q = ids ∧ (f.childList? q).isSome := by
  unfold wholeListOwner? at h
  split at h
  · split at h
    · next p _ hids =>
      cases h
      obtain ⟨c, cs, rfl⟩ := List.exists_cons_of_ne_nil hn
      obtain ⟨l, hl, _⟩ := exists_childList?_of_mem (hids ▸ List.mem_cons_self (a := c) (l := cs))
      exact ⟨hids, by rw [hl]; rfl⟩
    · cases h
  · cases h

theorem insertAll_eq (hf : f.WellFormed) :
    insertAll p i ids f = checked (f.checkInsert p ids) () f (f.insertIds p i ids) := by
  unfold insertAll insertIds
  cases hcont : f.checkContainer p with
  | error x =>
    have hcheck : f.checkInsert p ids = .error x := by simp [checkInsert, hcont, bind, Except.bind]
    rw [bind_error (requireContainer_error hcont), hcheck]
    rfl
  | ok _ =>
    have hp := checkContainer_eq_ok_iff.mp hcont
    have hcheck : f.checkInsert p ids = f.checkInserted p (f.lineage p) [] ids := by
      simp [checkInsert, hcont, bind, Except.bind]
    rw [bind_ok (requireContainer_ok hp), hcheck]
    by_cases hn : ids = []
    · subst hn
      rfl
    · rw [if_neg hn, if_neg hn]
      cases hins : f.checkInserted p (f.lineage p) [] ids with
      | error x =>
        rw [bind_error (ask_error hins)]
        rfl
      | ok _ =>
        have hi : f.Insertable p ids := (checkInsert_eq_ok_iff hf).mp (hcheck.trans hins)
        rw [bind_ok (ask_ok hins), bind_ok get_eq, checked]
        cases how : f.wholeListOwner? ids with
        | some q =>
          by_cases hqp : q = p
          · simp [hqp, pure_eq]
          · simp only [hqp, if_false]
            exact moveAll_ok hf (wholeListOwner?_eq_some how hn).2 hp
        | none =>
          have hloop := reparent_all_ok hf (Scattered.refl hf.noted p) hi (by simp) (by simp)
          have hs := hf.scattered (p := p) hi.nodup hi.lt
          simp only
          rw [bind_ok hloop, changeChildren_ok (by rw [hs.lists, hp])]
          rfl

theorem Forest.WellFormed.insert (hf : f.WellFormed) (h : f.Insertable p ids) :
    (f.insertIds p i ids).WellFormed := by
  unfold insertIds
  by_cases hn : ids = []
  · rwa [if_pos hn]
  · rw [if_neg hn]
    cases how : f.wholeListOwner? ids with
    | none => exact hf.gather h.nodup h.lt h.container h.not_above
    | some q =>
      obtain ⟨hids, hq⟩ := wholeListOwner?_eq_some how hn
      by_cases hqp : q = p
      · simpa [hqp] using hf
      · simp only [hqp, if_false]
        exact hf.handOver hqp hq h.container (hids ▸ h.not_above)

namespace Forest

def checkReplace (f : Forest) (parent old incoming : NodeId) : Except TreeError Unit := do
  if (← f.parent old) ≠ some parent then throw (.unmet (.notChildOf old parent))
  if f.isAbove incoming parent then throw (.unmet (.replacesAncestor incoming))
  let _ ← f.find incoming

variable {old new : NodeId}

theorem checkReplace_eq_ok_iff (hf : f.WellFormed) :
    f.checkReplace p old new = .ok () ↔
      f.parent? old = some p ∧ ¬ f.Above new p ∧ new < f.size := by
  rw [← hf.isAbove_iff, Bool.not_eq_true]
  unfold checkReplace
  by_cases ho : old < f.size
  · simp only [parent_of_lt ho, bind, Except.bind]
    by_cases hp : f.parent? old = some p
    · cases f.isAbove new p with
      | true => simp [hp, throw, throwThe, MonadExceptOf.throw]
      | false =>
        by_cases hn : new < f.size
        · obtain ⟨n, _, hfind⟩ := find_of_lt hn
          simp [hp, hn, hfind, pure, Except.pure]
        · simp [hp, hn, find_of_size_le (Nat.le_of_not_lt hn)]
    · simp [hp, throw, throwThe, MonadExceptOf.throw]
  · have hnone : f.parent? old ≠ some p := fun hp => ho (lt_of_parent? hp)
    simp [parent_of_size_le (Nat.le_of_not_lt ho), hnone, bind, Except.bind]

end Forest

variable {old new : NodeId}

theorem replaceChild_self : replaceChild p c c f = .ok () f := by
  simp [replaceChild, pure_eq]

theorem replaceChild_of_child (hne : old ≠ new) (hold : f.parent? old = some p) :
    replaceChild p old new f = (do
      if (← get).isAbove new p then throw (.unmet (.replacesAncestor new))
      remove new
      let i ← ask (·.indexIn p old)
      Edit.changeChildren p (·.replaceAt i new)
      Edit.setParent new (some p)
      modify (·.setIndex new i)
      Edit.setParent old none : Edit Unit) f := by
  rw [replaceChild, if_neg hne, bind_ok (ask_ok (parent_of_lt (lt_of_parent? hold))), hold]
  simp only [ne_eq, not_true_eq_false, if_false]

theorem replaceChild_ok (hf : f.WellFormed) (hne : old ≠ new) (hold : f.parent? old = some p)
    (ha : f.isAbove new p = false) (hlt : new < f.size) :
    replaceChild p old new f = .ok () (f.exchange p old new) := by
  have hd := hf.detach new
  have hdp : (f.detach new).parent? old = some p := by rw [parent?_detach, if_neg hne, hold]
  obtain ⟨l, hl, _⟩ := hd.exists_childList? hdp
  have hlo := lt_of_parent? hold
  rw [replaceChild_of_child hne hold, bind_ok get_eq]
  simp only [ha, Bool.false_eq_true, if_false]
  rw [bind_ok (remove_ok (hf.placed new) hlt), bind_ok (ask_ok (indexIn_eq (hd.placed old) hdp)),
    bind_ok (changeChildren_ok (by rw [hl]; rfl)), bind_ok (setParent_ok (by simpa using hlt)),
    bind_ok modify_eq, setParent_ok (by simpa using hlo)]
  rfl

theorem replaceChild_eq (hf : f.WellFormed) (hne : old ≠ new) :
    replaceChild p old new f = checked (f.checkReplace p old new) () f (f.exchange p old new) := by
  by_cases ho : old < f.size
  · by_cases hold : f.parent? old = some p
    · cases ha : f.isAbove new p with
      | true =>
        have hcheck : f.checkReplace p old new = .error (.unmet (.replacesAncestor new)) := by
          simp [checkReplace, parent_of_lt ho, hold, ha, bind, Except.bind, throw, throwThe,
            MonadExceptOf.throw]
        rw [replaceChild_of_child hne hold, hcheck, bind_ok get_eq, if_pos ha]
        rfl
      | false =>
        by_cases hn : new < f.size
        · have hcheck : f.checkReplace p old new = .ok () :=
            (checkReplace_eq_ok_iff hf).mpr ⟨hold, by rw [← hf.isAbove_iff, ha]; simp, hn⟩
          rw [replaceChild_ok hf hne hold ha hn, hcheck]
          rfl
        · have hmiss := Nat.le_of_not_lt hn
          have hcheck : f.checkReplace p old new = .error (.noSuchNode new) := by
            simp [checkReplace, parent_of_lt ho, hold, ha, find_of_size_le hmiss, bind, Except.bind]
          rw [replaceChild_of_child hne hold, hcheck, bind_ok get_eq]
          simp only [ha, Bool.false_eq_true, if_false]
          rw [bind_error (remove_missing hmiss)]
          rfl
    · have hcheck : f.checkReplace p old new = .error (.unmet (.notChildOf old p)) := by
        simp [checkReplace, parent_of_lt ho, hold, bind, Except.bind, throw, throwThe,
          MonadExceptOf.throw]
      rw [replaceChild, if_neg hne, bind_ok (ask_ok (parent_of_lt ho)), if_pos hold, hcheck]
      rfl
  · have hmiss := parent_of_size_le (Nat.le_of_not_lt ho)
    have hcheck : f.checkReplace p old new = .error (.noSuchNode old) := by
      simp [checkReplace, hmiss, bind, Except.bind]
    rw [replaceChild, if_neg hne, bind_error (ask_error hmiss), hcheck]
    rfl

theorem Forest.WellFormed.replace (hf : f.WellFormed) (hne : old ≠ new)
    (h : f.checkReplace p old new = .ok ()) : (f.exchange p old new).WellFormed := by
  obtain ⟨hold, ha, hlt⟩ := (checkReplace_eq_ok_iff hf).mp h
  exact hf.exchange hold hne hlt ha

theorem removeChildren_eq (hf : f.WellFormed) :
    removeChildren p f = checked ((f.find p).map fun _ => ()) () f (f.clearChildren p) := by
  by_cases hp : p < f.size
  · obtain ⟨n, hn, hfind⟩ := find_of_lt hp
    have hmade : f.madeList? p = n.body.container?.bind Container.children := by
      simp [madeList?, hn]
    rw [removeChildren, bind_ok (ask_ok hfind), hfind, clearChildren, hmade]
    cases hl : n.body.container?.bind Container.children with
    | none => rfl
    | some l =>
      have hids := childIds_of_childList? (childList?_of_madeList? (hmade.trans hl))
      have hlt : ∀ c ∈ l.ids, c < (f.changeChildren p fun _ => ⟨[], false⟩).size :=
        fun c hc => by simpa using hf.lt_of_mem (hids ▸ hc)
      simp only
      rw [bind_ok modify_eq, setParent_all_ok hlt]
      rfl
  · have hmiss := find_of_size_le (Nat.le_of_not_lt hp)
    rw [removeChildren, bind_error (ask_error hmiss), hmiss]
    rfl

theorem siblingIndex_child (hf : f.WellFormed) (hp : f.parent? c = some p) :
    siblingIndex c f = .ok ((f.childIds p).idxOf c) (f.settle p) := by
  have hm : c ∈ f.childIds p := hf.mem_iff.mpr hp
  have hlt := lt_of_parent? hp
  have hget : (f.childIds p)[(f.childIds p).idxOf c]? = some c :=
    List.getElem?_idxOf hm
  obtain ⟨n, hfind, hi⟩ := index?_of_lt (f := f.settle p) (c := c) (by simpa using hlt)
  rw [index?_settle hf hget] at hi
  rw [siblingIndex, bind_ok (ask_ok (parent_of_lt hlt)), hp]
  simp only
  rw [bind_ok modify_eq, bind_ok (ask_ok hfind), pure_eq, Option.some.inj hi]

theorem siblingIndex_root {n : Node} (hn : f.find c = .ok n) (hp : f.parent? c = none) :
    siblingIndex c f = .ok n.index f := by
  have hlt : c < f.size := lt_of_get? (find_eq_ok_iff.mp hn)
  rw [siblingIndex, bind_ok (ask_ok (parent_of_lt hlt)), hp]
  show (ask (·.find c) >>= fun m => pure m.index) f = _
  rw [bind_ok (ask_ok hn), pure_eq]

theorem siblingIndex_missing (h : f.size ≤ c) :
    siblingIndex c f = .error (.noSuchNode c) f := by
  rw [siblingIndex, bind_error (ask_error (parent_of_size_le h))]

end MarkupForest
