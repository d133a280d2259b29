import MarkupForest.Proofs.Edit.Checks
import MarkupForest.Proofs.Edit.MovedNodes

namespace MarkupForest

open Edit Forest

variable {f g : Forest} {n p s x : NodeId} {ids before after freed : List NodeId} {side : Side}

def Side.cut (side : Side) (before : List NodeId) (n : NodeId) (after : List NodeId) :
    List NodeId × List NodeId :=
  match side with
  | .before => (before, n :: after)
  | .after => (before ++ [n], after)

theorem Side.append_cut : (side.cut before n after).1 ++ (side.cut before n after).2 =
    before ++ n :: after := by
  cases side <;> simp [cut]

theorem Side.length_cut : (side.cut before n after).1.length = before.length + side.offset := by
  cases side <;> simp [cut, offset]

namespace Forest

theorem Spliced.of_settle {q : NodeId} (h : (f.settle q).Spliced g p before ids after freed) :
    f.Spliced g p before ids after freed :=
  ⟨h.toMoved.of_settle, h.row⟩

namespace WellFormed

variable (hf : f.WellFormed)
include hf

theorem exists_middle (hp : f.parent? n = some p) :
    ∃ before after, f.childIds p = before ++ n :: after :=
  List.append_of_mem (hf.mem_iff.mpr hp)

theorem not_mem_split (hrow : f.childIds p = before ++ n :: after) : n ∉ before ++ after :=
  (List.nodup_middle.mp (hrow ▸ hf.nodup p)).notMem

theorem idxOf_middle (hrow : f.childIds p = before ++ n :: after) :
    (f.childIds p).idxOf n = before.length := by
  have hnot : n ∉ before := fun h => hf.not_mem_split hrow (List.mem_append_left after h)
  rw [hrow, List.idxOf_append_of_notMem hnot, List.idxOf_cons_self, Nat.add_zero]

theorem spliced_beside (hi : f.Insertable p ids) (hout : ∀ c ∈ ids, c ∉ f.childIds p)
    (hrow : f.childIds p = before ++ n :: after) (side : Side) :
    f.Spliced ((f.settle p).insertIds p ((f.childIds p).idxOf n + side.offset) ids) p
      (side.cut before n after).1 ids (side.cut before n after).2 [] := by
  have hlength : (side.cut before n after).1.length = before.length + side.offset := Side.length_cut
  rw [hf.idxOf_middle hrow, ← hlength]
  apply Spliced.of_settle (q := p)
  apply hf.settle.spliced_insertIds
  · exact hi.alike hf hf.settle Alike.of_settle.symm
  · rw [childIds_settle, hrow, Side.append_cut]
  · intro c hc
    rw [childIds_settle]
    exact hout c hc

variable (hp : f.parent? n = some p) (ha : ¬ f.Above s p)
include hp ha

theorem insertable_single (hs : s < f.size) : f.Insertable p [s] := by
  obtain ⟨l, hl, _⟩ := hf.exists_childList? hp
  constructor
  · rw [hl]
    rfl
  · simpa using hs
  · exact List.nodup_singleton s
  · intro c hc
    rw [List.mem_singleton.mp hc]
    exact ha

theorem insertBeside_ok (hs : s < f.size) (hne : s ≠ n) (side : Side) :
    insertBeside side n s f = .ok () (f.besideMove side n s) := by
  apply (checksFirst_insertBeside side).ok hf
  rw [checkParent_of_parent? hp]
  simp only [bind, Except.bind, if_neg hne]
  exact (checkInsert_eq_ok_iff hf).mpr (hf.insertable_single hp ha hs)

theorem spliced_besideMove (hs : s < f.size) (hne : s ≠ n)
    (hrow : (f.childIds p).filter (· ≠ s) = before ++ n :: after) (side : Side) :
    f.Spliced (f.besideMove side n s) p (side.cut before n after).1 [s]
      (side.cut before n after).2 [] := by
  by_cases hsp : f.parent? s = some p
  · -- it leaves the very list that it comes back to
    have hd := hf.detach s
    have hlist := childIds_detach (x := p) (hf.placed s)
    have hmove : f.besideMove side n s =
        ((f.detach s).settle p).insertIds p
            (((f.detach s).childIds p).idxOf n + side.offset) [s] := by
      simp [besideMove, hp, hne, hsp]
    rw [hmove]
    have hspliced := hd.spliced_beside (hf.insertable_detach hsp) (by simp [hlist])
      (hlist.trans hrow) side
    exact ⟨hspliced.toMoved.after_detach hf, hspliced.row⟩
  · have hout : s ∉ f.childIds p := fun h => hsp (hf.mem_iff.mp h)
    have hmove : f.besideMove side n s =
        (f.settle p).insertIds p ((f.childIds p).idxOf n + side.offset) [s] := by
      simp [besideMove, hp, hne, hsp]
    rw [hmove]
    rw [filter_ne_of_not_mem hout] at hrow
    exact hf.spliced_beside (hf.insertable_single hp ha hs) (by simpa using hout) hrow side

omit ha in
theorem spliced_exchange (hs : s < f.size) (hne : s ≠ n)
    (hrow : (f.childIds p).filter (· ≠ s) = before ++ n :: after) :
    f.Spliced (f.exchange p n s) p before [s] after [n] := by
  have hlist := (childIds_detach (x := p) (hf.placed s)).trans hrow
  have hnot : n ∉ before := fun h =>
    (hf.detach s).not_mem_split hlist (List.mem_append_left after h)
  refine ⟨hf.moved_exchange hp (Ne.symm hne) hs, ?_⟩
  rw [childIds_exchange hf hp (Ne.symm hne), if_pos rfl, hlist, set_idxOf_middle hnot]
  simp

omit ha in
theorem spliced_unwrapMove (hrow : f.childIds p = before ++ n :: after) :
    f.Spliced (f.unwrapMove n) p before (f.childIds n) after [n] := by
  have hins := hf.insertable_children hp
  have hout : ∀ c ∈ f.childIds n, c ∉ f.childIds p := by
    intro c hc hcp
    rw [hf.mem_iff] at hc hcp
    obtain rfl : n = p := Option.some.inj (hc.symm.trans hcp)
    exact hf.acyclic.not_above_parent hp (.refl n)
  have hspliced := hf.spliced_beside hins hout hrow .before
  have hsettle : (f.settle p).WellFormed := hf.settle
  have hk := hsettle.insert (i := (f.childIds p).idxOf n + Side.before.offset)
    (hins.alike hf hsettle Alike.of_settle.symm)
  rw [unwrapMove, hp]
  dsimp only
  rw [show (f.childIds p).idxOf n = (f.childIds p).idxOf n + Side.before.offset from rfl]
  generalize (f.settle p).insertIds p ((f.childIds p).idxOf n + Side.before.offset)
    (f.childIds n) = k
    at hspliced hk
  have hlist : ∀ q, (k.detach n).childIds q = (k.childIds q).filter (· ≠ n) := fun q =>
    childIds_detach (hk.placed n)
  constructor
  · constructor
    · intro x
      rw [parent?_detach, hspliced.parent]
      simp
    · intro q hq
      rw [hlist, hspliced.lists q hq]
      apply filter_ne_of_not_mem
      intro hn
      have hqp := hf.mem_iff.mp (List.mem_of_mem_filter hn)
      exact hq (hp.symm.trans hqp)
    · exact size_detach.trans hspliced.size
    · intro x
      exact payload?_detach.trans (hspliced.payload x)
  · have hrow := hspliced.row
    have hnot : n ∉ before ++ f.childIds n ++ after := hk.not_mem_split hrow
    rw [hlist, hrow]
    show (before ++ f.childIds n ++ n :: after).filter (· ≠ n) = _
    rw [← filter_ne_of_not_mem hnot]
    simp

end WellFormed

theorem WellFormed.checkInsert_above (hf : f.WellFormed) (hp : f.parent? n = some p)
    (ha : f.Above s p) : f.checkInsert p [s] = .error (.unmet (.ownSubtree s p)) := by
  obtain ⟨l, hl, _⟩ := hf.exists_childList? hp
  have hcontainer : f.checkContainer p = .ok () := checkContainer_eq_ok_iff.mpr (by rw [hl]; rfl)
  obtain ⟨m, _, hfind⟩ := find_of_lt (hf.lt_of_above ha (hf.parent_lt hp))
  have hmem : (f.lineage p).contains s = true := hf.isAbove_iff.mpr ha
  simp only [checkInsert, hcontainer, checkInserted, hfind, hmem, bind, Except.bind,
    throw, throwThe,
    MonadExceptOf.throw, List.contains_nil, Bool.false_eq_true, if_false, if_true]

end Forest

section Above

variable (hf : f.WellFormed) (hp : f.parent? n = some p) (ha : f.Above s p)
include hf hp ha

theorem Forest.ne_of_above_parent : s ≠ n := by
  rintro rfl
  exact hf.acyclic.not_above_parent hp ha

theorem insertBeside_above (side : Side) :
    ∃ g, insertBeside side n s f = .error (.unmet (.ownSubtree s p)) g := by
  have hcheck : (do
      let p ← f.checkParent "before/after" n
      if s = n then return
      f.checkInsert p [s] : Except TreeError Unit) = .error (.unmet (.ownSubtree s p)) := by
    rw [checkParent_of_parent? hp]
    simp only [bind, Except.bind, if_neg (ne_of_above_parent hf hp ha)]
    exact hf.checkInsert_above hp ha
  obtain ⟨g, hg, _⟩ := (checksFirst_insertBeside side).error hf hcheck
  exact ⟨g, hg⟩

theorem replaceWith_above :
    ∃ g, replaceWith n s f = .error (.unmet (.replacesAncestor s)) g := by
  have hcheck : (do
      let p ← f.checkParent "replace_with" n
      if n = s then return
      f.checkReplace p n s : Except TreeError Unit) = .error (.unmet (.replacesAncestor s)) := by
    rw [checkParent_of_parent? hp]
    simp only [bind, Except.bind, if_neg (Ne.symm (ne_of_above_parent hf hp ha)), checkReplace,
      parent_of_lt (lt_of_parent? hp), hp, hf.isAbove_iff.mpr ha]
    simp [throw, throwThe, MonadExceptOf.throw]
  obtain ⟨g, hg, _⟩ := checksFirst_replaceWith.error hf hcheck
  exact ⟨g, hg⟩

end Above

theorem single_edits_splice (h : Reachable f) (hp : f.parent? n = some p) :
    (∀ s, s < f.size → s ≠ n → ¬ f.Above s p → ∃ before after,
      (f.childIds p).filter (· ≠ s) = before ++ n :: after ∧
      (∃ g, insertBeside .before n s f = .ok () g ∧ f.Spliced g p before [s] (n :: after) []) ∧
      (∃ g, insertBeside .after n s f = .ok () g ∧ f.Spliced g p (before ++ [n]) [s] after []) ∧
      ∃ g, replaceWith n s f = .ok () g ∧ f.Spliced g p before [s] after [n]) ∧
    (∃ before after g, f.childIds p = before ++ n :: after ∧
      unwrap n f = .ok (f.childIds n).head? g ∧ f.Spliced g p before (f.childIds n) after [n] ∧
      g.childIds n = [] ∧ ∀ q, q ≠ p → q ≠ n → g.childIds q = f.childIds q) ∧
    ∀ s, f.Above s p →
      (∀ side, ∃ g, insertBeside side n s f = .error (.unmet (.ownSubtree s p)) g) ∧
      ∃ g, replaceWith n s f = .error (.unmet (.replacesAncestor s)) g := by
  have hf := h.wellFormed
  refine ⟨?_, ?_, ?_⟩
  · intro s hs hne ha
    have hmem : n ∈ (f.childIds p).filter (· ≠ s) :=
      List.mem_filter.mpr ⟨hf.mem_iff.mpr hp, by simpa using Ne.symm hne⟩
    obtain ⟨before, after, hrow⟩ := List.append_of_mem hmem
    have hbeside := hf.insertBeside_ok hp ha hs hne
    have hspliced := hf.spliced_besideMove hp ha hs hne hrow
    refine ⟨before, after, hrow, ⟨_, hbeside .before, hspliced .before⟩,
      ⟨_, hbeside .after, hspliced .after⟩, f.exchange p n s, ?_,
        hf.spliced_exchange hp hs hne hrow⟩
    exact replaceWith_ok hf (Ne.symm hne) hp ha hs
  · obtain ⟨before, after, hrow⟩ := hf.exists_middle hp
    have hcheck : (do let _ ← f.checkParent "unwrap" n : Except TreeError Unit) = .ok () := by
      rw [checkParent_of_parent? hp]
      rfl
    have hspliced := hf.spliced_unwrapMove hp hrow
    have hlists : ∀ q, q ≠ p → (f.unwrapMove n).childIds q = _ := fun q hq =>
      hspliced.lists q fun he => hq (Option.some.inj he).symm
    have hnp : n ≠ p := by
      rintro rfl
      exact hf.acyclic.not_above_parent hp (.refl n)
    refine ⟨before, after, _, hrow, checksFirst_unwrap.ok hf hcheck, hspliced, ?_, ?_⟩
    · rw [hlists n hnp, filter_childIds_self rfl]
    · intro q hqp hqn
      rw [hlists q hqp, hf.filter_childIds rfl hqn]
  · intro s ha
    exact ⟨insertBeside_above hf hp ha, replaceWith_above hf hp ha⟩

theorem single_edits_splice_twoLists :
    Reachable twoLists ∧ twoLists.parent? 2 = some 0 ∧
      (∃ before after, (twoLists.childIds 0).filter (· ≠ 5) = before ++ 2 :: after ∧
        ∃ g, replaceWith 2 5 twoLists = .ok () g ∧ twoLists.Spliced g 0 before [5] after [2]) ∧
      ∃ g, replaceWith 2 0 twoLists = .error (.unmet (.replacesAncestor 0)) g := by
  have h : Reachable twoLists := reaches_runAll _
  have hp : twoLists.parent? 2 = some 0 := by decide
  have hnot : ¬ twoLists.Above 5 0 := by
    rw [← h.wellFormed.isAbove_iff]
    decide
  obtain ⟨hmoves, -, hrefused⟩ := single_edits_splice h hp
  obtain ⟨before, after, hrow, -, -, hreplaced⟩ := hmoves 5 (by decide) (by decide) hnot
  exact ⟨h, hp, ⟨before, after, hrow, hreplaced⟩, (hrefused 0 (.refl 0)).2⟩

end MarkupForest
