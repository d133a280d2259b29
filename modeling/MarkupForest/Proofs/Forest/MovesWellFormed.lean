import MarkupForest.Proofs.Forest.Moves

namespace MarkupForest.Forest

variable {f g : Forest} {c p q x : NodeId} {l : ChildList} {ids : List NodeId} {i : Nat}

theorem mem_take_append_drop {R : List NodeId} :
    c ∈ R.take i ++ ids ++ R.drop i ↔ c ∈ R ∨ c ∈ ids := by
  have h : c ∈ R ↔ c ∈ R.take i ∨ c ∈ R.drop i := by
    rw [← List.mem_append, List.take_append_drop]
  rw [h]
  simp only [List.mem_append]
  tauto

theorem nodup_take_append_drop {R : List NodeId} (hR : R.Nodup) (hi : ids.Nodup)
    (hd : ∀ c ∈ ids, c ∉ R) : (R.take i ++ ids ++ R.drop i).Nodup := by
  have hp : (R.take i ++ ids ++ R.drop i).Perm (R ++ ids) := by
    have hswap : (R.take i ++ ids ++ R.drop i).Perm (R.take i ++ R.drop i ++ ids) := by
      rw [List.append_assoc, List.append_assoc]
      exact List.Perm.append_left _ List.perm_append_comm
    rwa [List.take_append_drop] at hswap
  rw [hp.nodup_iff]
  exact List.nodup_append.mpr ⟨hR, hi, fun a ha b hb hab => hd b hb (hab ▸ ha)⟩

theorem set_idxOf_middle {before after : List NodeId} (h : c ∉ before) (x : NodeId) :
    (before ++ c :: after).set ((before ++ c :: after).idxOf c) x = before ++ x :: after := by
  rw [List.idxOf_append_of_notMem h, List.idxOf_cons_self, Nat.add_zero,
    List.set_append_right _ _ (Nat.le_refl _), Nat.sub_self, List.set_cons_zero]

theorem childIds_changeChildren_insertAt (h : (f.childList? p).isSome) :
    (f.changeChildren p (·.insertAt i ids)).childIds x =
      if x = p then (f.childIds p).take i ++ ids ++ (f.childIds p).drop i else f.childIds x := by
  by_cases hx : x = p
  · subst hx
    obtain ⟨l, hl⟩ := Option.isSome_iff_exists.mp h
    rw [childIds_changeChildren_self hl, if_pos rfl, childIds_of_childList? hl]
    rfl
  · rw [childIds_changeChildren_ne hx, if_neg hx]

section Gather

variable (hf : f.WellFormed) (hn : ids.Nodup) (hlt : ∀ c ∈ ids, c < f.size)
include hf hn hlt

theorem parent?_gather :
    (f.gather p i ids).parent? x = if x ∈ ids then some p else f.parent? x := by
  rw [gather, parent?_changeChildren, (hf.scattered hn hlt).parent]

theorem childIds_gather (hp : (f.childList? p).isSome) :
    (f.gather p i ids).childIds x =
      if x = p then ((f.childIds p).filter (· ∉ ids)).take i ++ ids ++
        ((f.childIds p).filter (· ∉ ids)).drop i
      else (f.childIds x).filter (· ∉ ids) := by
  have hs := hf.scattered (p := p) hn hlt
  have hl : ((f.scatter p ids).childList? p).isSome := by rw [hs.lists, hp]
  rw [gather, childIds_changeChildren_insertAt hl, hs.children, hs.children]

theorem WellFormed.gather (hp : (f.childList? p).isSome) (ha : ∀ c ∈ ids, ¬ f.Above c p) :
    (f.gather p i ids).WellFormed := by
  refine ⟨?_, ?_, ?_, ?_⟩
  · intro y q
    rw [childIds_gather hf hn hlt hp, parent?_gather hf hn hlt]
    by_cases hy : y ∈ ids
    · by_cases hq : q = p
      · subst hq
        rw [if_pos rfl, mem_take_append_drop]
        simp [hy]
      · simp [hq, hy, Ne.symm hq]
    · by_cases hq : q = p
      · subst hq
        rw [if_pos rfl, mem_take_append_drop]
        simpa [hy] using hf.mem_iff
      · simpa [hq, hy] using hf.mem_iff
  · intro q
    rw [childIds_gather hf hn hlt hp]
    split
    · exact nodup_take_append_drop ((hf.nodup p).filter _) hn fun c hc h => by simp [hc] at h
    · exact (hf.nodup q).filter _
  · refine hf.acyclic.move (p := p) (· ∈ ids) (fun y hy hm => ha y hm hy) ?_
    intro y q hq
    rw [parent?_gather hf hn hlt] at hq
    by_cases hy : y ∈ ids
    · exact .inl ⟨hy, by simpa [hy, eq_comm] using hq⟩
    · exact .inr ⟨hy, by simpa [hy] using hq⟩
  · exact (hf.scattered hn hlt).noted.changeChildren fun _ => rfl

end Gather

section HandOver

variable (hf : f.WellFormed) (hpq : p ≠ q)
include hf

theorem parent?_handOver :
    (f.handOver p q i).parent? x = if x ∈ f.childIds p then some q else f.parent? x := by
  rw [handOver, parent?_pointAll (by simpa using fun c hc => hf.lt_of_mem hc)]
  simp

include hpq

omit hf in
theorem childIds_handOver (hp : (f.childList? p).isSome) (hq : (f.childList? q).isSome) :
    (f.handOver p q i).childIds x =
      if x = q then (f.childIds q).take i ++ f.childIds p ++ (f.childIds q).drop i
      else if x = p then [] else f.childIds x := by
  have hl : ((f.changeChildren p fun _ => ⟨[], false⟩).childList? q).isSome := by
    rwa [childList?_changeChildren, if_neg (Ne.symm hpq)]
  rw [handOver, childIds_pointAll, childIds_changeChildren_insertAt hl,
    childIds_changeChildren_ne (Ne.symm hpq)]
  split
  · rfl
  · split
    · next hx =>
      obtain ⟨l, hl⟩ := Option.isSome_iff_exists.mp hp
      rw [hx, childIds_changeChildren_self hl]
    · next hx => rw [childIds_changeChildren_ne hx]

theorem WellFormed.handOver (hp : (f.childList? p).isSome) (hq : (f.childList? q).isSome)
    (ha : ∀ c ∈ f.childIds p, ¬ f.Above c q) : (f.handOver p q i).WellFormed := by
  have hids : ∀ x, (f.handOver p q i).childIds x = _ := fun x => childIds_handOver hpq hp hq
  have hpar : ∀ x, (f.handOver p q i).parent? x = _ := fun x => parent?_handOver hf
  refine ⟨?_, ?_, ?_, ?_⟩
  · intro y r
    rw [hids, hpar]
    by_cases hy : y ∈ f.childIds p
    · by_cases hr : r = q
      · subst hr
        rw [if_pos rfl, mem_take_append_drop]
        simp [hy]
      · by_cases hrp : r = p
        · simp [hrp, hy, hpq, Ne.symm hpq]
        · have hne : y ∉ f.childIds r := fun h => hrp (by
            rw [hf.mem_iff] at h hy
            rw [h] at hy
            exact Option.some.inj hy)
          simp [hr, hrp, hy, hne, Ne.symm hr]
    · by_cases hr : r = q
      · subst hr
        rw [if_pos rfl, mem_take_append_drop]
        simpa [hy] using hf.mem_iff
      · by_cases hrp : r = p
        · subst hrp
          simpa [hr, hy] using fun h => hy (hf.mem_iff.mpr h)
        · simpa [hr, hrp, hy] using hf.mem_iff
  · intro r
    rw [hids]
    split
    · refine nodup_take_append_drop (hf.nodup q) (hf.nodup p) fun c hc h => hpq ?_
      rw [hf.mem_iff] at hc h
      rw [hc] at h
      exact Option.some.inj h
    · split
      · exact List.nodup_nil
      · exact hf.nodup r
  · refine hf.acyclic.move (p := q) (· ∈ f.childIds p) (fun y hy hm => ha y hm hy) ?_
    intro y r hr
    rw [hpar] at hr
    by_cases hy : y ∈ f.childIds p
    · exact .inl ⟨hy, by simpa [hy, eq_comm] using hr⟩
    · exact .inr ⟨hy, by simpa [hy] using hr⟩
  · exact ((hf.noted.changeChildren fun _ => rfl).changeChildren fun _ => rfl).pointAll

end HandOver

section Exchange

variable {old new : NodeId} (hf : f.WellFormed) (hold : f.parent? old = some p)
  (hne : old ≠ new) (hlt : new < f.size)
include hf hold hne

theorem mem_childIds_detach_of_ne : old ∈ (f.detach new).childIds p := by
  rw [childIds_detach (hf.placed new), List.mem_filter]
  exact ⟨hf.mem_iff.mpr hold, by simpa using hne⟩

theorem childIds_exchange :
    (f.exchange p old new).childIds x =
      if x = p then ((f.detach new).childIds p).set (((f.detach new).childIds p).idxOf old) new
      else (f.detach new).childIds x := by
  have hm := mem_childIds_detach_of_ne hf hold hne
  obtain ⟨l, hl, _⟩ := exists_childList?_of_mem hm
  rw [exchange, childIds_setParent, childIds_setIndex, childIds_setParent]
  by_cases hx : x = p
  · subst hx
    rw [childIds_changeChildren_self hl, if_pos rfl, childIds_of_childList? hl]
    rfl
  · rw [childIds_changeChildren_ne hx, if_neg hx]

theorem mem_childIds_exchange :
    c ∈ (f.exchange p old new).childIds x ↔
      (c = new ∧ x = p) ∨ (c ≠ old ∧ c ≠ new ∧ c ∈ f.childIds x) := by
  have hm := mem_childIds_detach_of_ne hf hold hne
  have hlt := List.idxOf_lt_length_of_mem hm
  have hL : ∀ y z, y ∈ (f.detach new).childIds z ↔ y ∈ f.childIds z ∧ y ≠ new := fun y z => by
    rw [childIds_detach (hf.placed new), List.mem_filter]
    simp
  have hnd : ((f.detach new).childIds p).Nodup := (hf.detach new).nodup p
  rw [childIds_exchange hf hold hne]
  by_cases hx : x = p
  · subst hx
    rw [if_pos rfl, List.mem_iff_getElem?]
    constructor
    · rintro ⟨j, hj⟩
      rw [List.getElem?_set] at hj
      split at hj
      · next hij =>
        exact .inl ⟨(Option.some.inj hj).symm, rfl⟩
      · next hij =>
        obtain ⟨hc, hcn⟩ := (hL c x).mp (List.mem_of_getElem? hj)
        refine .inr ⟨?_, hcn, hc⟩
        rintro rfl
        exact hij (by
          obtain ⟨hj', hget⟩ := List.getElem?_eq_some_iff.mp hj
          rw [← hget, hnd.idxOf_getElem j hj'])
    · rintro (⟨rfl, -⟩ | ⟨hco, hcn, hc⟩)
      · exact ⟨_, List.getElem?_set_self hlt⟩
      · obtain ⟨j, hj⟩ := List.mem_iff_getElem?.mp ((hL c x).mpr ⟨hc, hcn⟩)
        refine ⟨j, ?_⟩
        rw [List.getElem?_set_ne, hj]
        rintro rfl
        rw [List.getElem?_idxOf hm] at hj
        exact hco (Option.some.inj hj).symm
  · rw [if_neg hx, hL]
    constructor
    · rintro ⟨hc, hcn⟩
      refine .inr ⟨?_, hcn, hc⟩
      rintro rfl
      rw [hf.mem_iff, hold] at hc
      exact hx (Option.some.inj hc).symm
    · rintro (⟨-, h⟩ | ⟨-, hcn, hc⟩)
      · exact absurd h hx
      · exact ⟨hc, hcn⟩

include hlt

omit hf hne in
theorem parent?_exchange :
    (f.exchange p old new).parent? x =
      if x = old then none else if x = new then some p else f.parent? x := by
  rw [exchange, parent?_setParent (by simpa using lt_of_parent? hold), parent?_setIndex,
    parent?_setParent (by simpa using hlt), parent?_changeChildren, parent?_detach]
  split
  · rfl
  · split <;> rfl

omit hf hold hne hlt in
theorem size_exchange : (f.exchange p old new).size = f.size := by simp [Forest.exchange]

omit hf hold hne hlt in
theorem index?_exchange (hx : x ≠ new) : (f.exchange p old new).index? x = f.index? x := by
  rw [exchange, index?_setParent, setIndex, index?_modify_ne hx, index?_setParent,
    index?_changeChildren, index?_detach]

omit hf hold hne hlt in
theorem isSome_childList?_exchange :
    ((f.exchange p old new).childList? x).isSome = (f.childList? x).isSome := by
  rw [Forest.exchange, childList?_setParent, childList?_setIndex, childList?_setParent,
    childList?_changeChildren]
  split <;> simp [isSome_childList?_detach]

theorem WellFormed.exchange (ha : ¬ f.Above new p) : (f.exchange p old new).WellFormed := by
  have hids : ∀ x, (f.exchange p old new).childIds x = _ := fun x => childIds_exchange hf hold hne
  have hd := hf.detach new
  have hm := mem_childIds_detach_of_ne hf hold hne
  have hnew : ∀ x, new ∉ (f.detach new).childIds x := fun x h => by
    rw [hd.mem_iff, parent?_detach, if_pos rfl] at h
    cases h
  refine ⟨?_, ?_, ?_, ?_⟩
  · intro y q
    rw [mem_childIds_exchange hf hold hne, parent?_exchange hold hlt]
    by_cases hyo : y = old
    · simp [hyo, hne]
    · by_cases hyn : y = new
      · simp [hyn, Ne.symm hne, eq_comm]
      · simpa [hyo, hyn] using hf.mem_iff
  · intro q
    rw [hids]
    split
    · exact (hd.nodup p).set (hnew p)
    · exact hd.nodup q
  · refine hf.acyclic.move (p := p) (· = new) ?_ ?_
    · rintro y hy rfl
      exact ha hy
    · intro y q hq
      rw [parent?_exchange hold hlt] at hq
      by_cases hyo : y = old
      · simp [hyo] at hq
      · by_cases hyn : y = new
        · exact .inl ⟨hyn, by simpa [hyo, hyn, Ne.symm hne, eq_comm] using hq⟩
        · exact .inr ⟨hyn, by simpa [hyo, hyn] using hq⟩
  · intro q k hk hx i y hy
    rw [Forest.exchange, index?_setParent, index?_setIndex (by simpa using hlt)]
    simp only [index?_setParent, index?_changeChildren]
    rw [Forest.exchange, childList?_setParent, childList?_setIndex, childList?_setParent,
      childList?_changeChildren] at hk
    by_cases hq : q = p
    · subst hq
      obtain ⟨l, hl, _⟩ := exists_childList?_of_mem hm
      rw [if_pos rfl, hl, Option.map_some, Option.some.injEq] at hk
      subst hk
      have hlids := childIds_of_childList? hl
      simp only [ChildList.replaceAt, hlids, List.getElem?_set] at hy hx
      split at hy
      · next hij =>
        split at hy
        · cases hy
          rw [if_pos rfl, hlids, hij]
        · cases hy
      · rw [if_neg (by
          rintro rfl
          exact hnew q (hlids ▸ List.mem_of_getElem? hy))]
        exact hd.noted hl hx hy
    · rw [if_neg hq] at hk
      rw [if_neg (by
        rintro rfl
        exact hnew q (childIds_of_childList? hk ▸ List.mem_of_getElem? hy))]
      exact hd.noted hk hx hy

end Exchange

section Clear

variable (hf : f.WellFormed)
include hf

theorem parent?_clearChildren :
    (f.clearChildren p).parent? x = if x ∈ f.childIds p then none else f.parent? x := by
  rw [clearChildren]
  split
  · next l hl =>
    have hids := childIds_of_childList? (childList?_of_madeList? hl)
    rw [← hids, parent?_pointAll (by simpa using fun c hc => hf.lt_of_mem hc)]
    simp
  · next hnone => simp [childIds_of_madeList?_eq_none hnone]

omit hf in
theorem childIds_clearChildren :
    (f.clearChildren p).childIds x = if x = p then [] else f.childIds x := by
  by_cases hx : x = p
  · subst hx
    rw [if_pos rfl, clearChildren]
    split
    · rw [childIds_pointAll, childIds_eq_childList?, childList?_changeChildren, if_pos rfl]
      cases f.childList? x <;> rfl
    · next hnone => exact childIds_of_madeList?_eq_none hnone
  · rw [if_neg hx, clearChildren]
    split
    · rw [childIds_pointAll, childIds_changeChildren_ne hx]
    · rfl

theorem WellFormed.clearChildren : (f.clearChildren p).WellFormed := by
  refine ⟨?_, ?_, ?_, ?_⟩
  · intro y q
    rw [childIds_clearChildren, parent?_clearChildren hf]
    by_cases hy : y ∈ f.childIds p
    · have hyp : f.parent? y = some p := hf.mem_iff.mp hy
      by_cases hq : q = p
      · simp [hq, hy]
      · rw [if_neg hq, if_pos hy, hf.mem_iff, hyp]
        simp [Ne.symm hq]
    · by_cases hq : q = p
      · subst hq
        simpa [hy] using fun h => hy (hf.mem_iff.mpr h)
      · rw [if_neg hq, if_neg hy, hf.mem_iff]
  · intro q
    rw [childIds_clearChildren]
    split
    · exact List.nodup_nil
    · exact hf.nodup q
  · refine hf.acyclic.sub fun y q h => ?_
    rw [parent?_clearChildren hf] at h
    split at h
    · cases h
    · exact h
  · rw [Forest.clearChildren]
    split
    · exact (hf.noted.changeChildren fun _ => rfl).pointAll
    · exact hf.noted

end Clear

theorem madeList?_stamp {i : Nat} : (f.stamp i ids).madeList? x = f.madeList? x := by
  induction ids generalizing f i with
  | nil => rfl
  | cons c cs ih => exact ih.trans (madeList?_modify fun _ => rfl)

@[simp] theorem size_stamp {i : Nat} : (f.stamp i ids).size = f.size := by
  induction ids generalizing f i with
  | nil => rfl
  | cons c cs ih => rw [stamp, ih, size_setIndex]

@[simp] theorem parent?_stamp {i : Nat} : (f.stamp i ids).parent? x = f.parent? x := by
  induction ids generalizing f i with
  | nil => rfl
  | cons c cs ih => rw [stamp, ih, parent?_setIndex]

@[simp] theorem childList?_stamp {i : Nat} : (f.stamp i ids).childList? x = f.childList? x := by
  induction ids generalizing f i with
  | nil => rfl
  | cons c cs ih => rw [stamp, ih, childList?_setIndex]

theorem index?_stamp_of_not_mem {i : Nat} (h : x ∉ ids) :
    (f.stamp i ids).index? x = f.index? x := by
  induction ids generalizing f i with
  | nil => rfl
  | cons c cs ih =>
    obtain ⟨hc, hcs⟩ := not_or.mp (List.mem_cons.not.mp h)
    rw [stamp, ih hcs]
    exact index?_modify_ne hc

theorem index?_stamp {i j : Nat} (hn : ids.Nodup) (hlt : ∀ c ∈ ids, c < f.size)
    (h : ids[j]? = some x) : (f.stamp i ids).index? x = some (i + j) := by
  induction ids generalizing f i j with
  | nil => simp at h
  | cons c cs ih =>
    obtain ⟨hc, hcs⟩ := List.nodup_cons.mp hn
    rw [stamp]
    cases j with
    | zero =>
      rw [List.getElem?_cons_zero, Option.some.injEq] at h
      rw [index?_stamp_of_not_mem (h ▸ hc),
        index?_setIndex (hlt c List.mem_cons_self), if_pos h.symm]
      rfl
    | succ j =>
      rw [List.getElem?_cons_succ] at h
      rw [ih hcs (by simpa using fun y hy => hlt y (List.mem_cons_of_mem c hy)) h]
      congr 1
      omega

section Settle

theorem settle_of_indexed (hl : f.childList? p = some l) (hx : l.indexed = true) :
    f.settle p = f := by
  rw [settle]
  split
  · next k hk =>
    cases (childList?_of_madeList? hk).symm.trans hl
    exact if_pos hx
  · rfl

theorem settle_of_not_indexed (hl : f.childList? p = some l) (hx : l.indexed = false) :
    f.settle p = (f.stamp 0 l.ids).changeChildren p fun l => { l with indexed := true } := by
  have hmade := madeList?_of_childList? hl (by rintro rfl; cases hx)
  simp [settle, hmade, hx]

@[simp] theorem size_settle : (f.settle p).size = f.size := by
  unfold settle
  split
  · split <;> simp
  · rfl

@[simp] theorem parent?_settle : (f.settle p).parent? x = f.parent? x := by
  unfold settle
  split
  · split <;> simp
  · rfl

theorem childIds_settle : (f.settle p).childIds x = f.childIds x := by
  unfold settle
  split
  · split
    · rfl
    · by_cases hx : x = p
      · next l hmade _ =>
        subst hx
        have hl := childList?_of_madeList? hmade
        rw [childIds_changeChildren_self (by rw [childList?_stamp, hl]), childIds_of_childList? hl]
      · rw [childIds_changeChildren_ne hx, childIds_eq_childList?, childList?_stamp,
          childIds_eq_childList?]
  · rfl

theorem index?_settle (hf : f.WellFormed) (h : (f.childIds p)[i]? = some c) :
    (f.settle p).index? c = some i := by
  obtain ⟨l, hl, _⟩ := exists_childList?_of_mem (List.mem_of_getElem? h)
  have hids := childIds_of_childList? hl
  rw [hids] at h
  cases hx : l.indexed with
  | true => rw [settle_of_indexed hl hx, hf.noted hl hx h]
  | false =>
    rw [settle_of_not_indexed hl hx, index?_changeChildren,
      index?_stamp (hids ▸ hf.nodup p) (fun y hy => hf.lt_of_mem_ids hl hy) h, Nat.zero_add]

theorem WellFormed.settle (hf : f.WellFormed) : (f.settle p).WellFormed := by
  refine ⟨?_, fun q => by rw [childIds_settle]; exact hf.nodup q,
    hf.acyclic.sub fun x q h => by simpa using h, ?_⟩
  · intro c q
    rw [childIds_settle, parent?_settle]
    exact hf.mem_iff
  · intro q k hk hx i c hc
    cases hl : f.childList? p with
    | none =>
      have hmade : f.madeList? p = none := by
        by_contra hne
        obtain ⟨l, hmade⟩ := Option.ne_none_iff_exists'.mp hne
        cases hl.symm.trans (childList?_of_madeList? hmade)
      rw [show f.settle p = f by simp [Forest.settle, hmade]] at hk ⊢
      exact hf.noted hk hx hc
    | some l =>
      cases hlx : l.indexed with
      | true =>
        rw [settle_of_indexed hl hlx] at hk ⊢
        exact hf.noted hk hx hc
      | false =>
        by_cases hq : q = p
        · have hmem : (f.childIds q)[i]? = some c := by
            rw [← childIds_settle (p := p), childIds_of_childList? hk, hc]
          exact index?_settle hf (hq ▸ hmem)
        · rw [settle_of_not_indexed hl hlx, childList?_changeChildren, if_neg hq,
            childList?_stamp] at hk
          -- a child of `q` is no child of `p`, so its note is left alone
          have hnot : c ∉ l.ids := by
            intro hcl
            rw [← childIds_of_childList? hl, hf.mem_iff] at hcl
            have hcq : f.parent? c = some q :=
              hf.mem_iff.mp (childIds_of_childList? hk ▸ List.mem_of_getElem? hc)
            rw [hcl] at hcq
            exact hq (Option.some.inj hcq).symm
          rw [settle_of_not_indexed hl hlx, index?_changeChildren, index?_stamp_of_not_mem hnot]
          exact hf.noted hk hx hc

end Settle

end MarkupForest.Forest
