import MarkupForest.Proofs.Edit.InsertChildren
import MarkupForest.Proofs.Tour.Plans

namespace MarkupForest

open Edit Forest

variable {f g k : Forest} {c p q s n r top x y : NodeId} {pre mid post es done rest : List NodeId}

def swap (n r m : NodeId) : Fate := if m = n then .replace r else .keep

def loss (n m : NodeId) : Fate := if m = n then .remove else .keep

def passed (pre : List NodeId) (n : NodeId) (mid : List NodeId) (r : NodeId) (post : List NodeId) :
    List NodeId :=
  pre ++ n :: if mid = [] then r :: post else mid ++ post

def Forest.passedBy (f : Forest) (p : NodeId) (row : List NodeId) (s : NodeId) : List NodeId :=
  if s = p then row else f.childIds s

theorem loss_self : loss n n = .remove := if_pos rfl

theorem loss_of_ne (h : c ≠ n) : loss n c = .keep := if_neg h

theorem swap_of_ne (h : c ≠ n) : swap n r c = .keep := if_neg h

theorem loss_heir : (loss n c).heir c = some s ↔ c ≠ n ∧ s = c := by
  by_cases h : c = n
  · simp [loss, h, Fate.heir]
  · simp [loss, h, Fate.heir, eq_comm]

theorem eq_of_stand_loss (h : stand (loss n) es c = some x) : x = c ∧ (c ∈ es → c ≠ n) := by
  unfold stand at h
  split at h
  · obtain ⟨hne, rfl⟩ := loss_heir.mp h
    exact ⟨rfl, fun _ => hne⟩
  · next hc =>
    cases h
    exact ⟨rfl, fun h => absurd h hc⟩

theorem split_before {t u : List NodeId} (h : pre ++ n :: t = done ++ c :: rest) (hn : n ∉ done)
    (hhead : t.head? = u.head?) :
    ∃ l, pre ++ n :: u = done ++ c :: l ∧ l.head? = rest.head? := by
  rcases List.append_eq_append_iff.mp h with ⟨a, rfl, ha⟩ | ⟨a, rfl, ha⟩
  · cases a with
    | nil =>
      obtain ⟨rfl, rfl⟩ : n = c ∧ t = rest := by simpa using ha
      exact ⟨u, by simp, hhead.symm⟩
    | cons b a =>
      obtain ⟨rfl, _⟩ : n = b ∧ t = a ++ c :: rest := by simpa using ha
      simp at hn
  · cases a with
    | nil =>
      obtain ⟨rfl, rfl⟩ : c = n ∧ rest = t := by simpa using ha
      exact ⟨u, by simp, hhead.symm⟩
    | cons b a =>
      obtain ⟨rfl, rfl⟩ : c = b ∧ rest = a ++ n :: t := by simpa using ha
      exact ⟨a ++ n :: u, by simp, by cases a <;> simp⟩

theorem split_after {t : List NodeId} (h : pre ++ n :: t = done ++ c :: rest) (hpre : n ∉ pre)
    (hn : n ∈ done) : ∃ l, t = l ++ c :: rest := by
  rcases List.append_eq_append_iff.mp h with ⟨a, rfl, ha⟩ | ⟨a, rfl, ha⟩
  · cases a with
    | nil => exact absurd (by simpa using hn) hpre
    | cons b a => exact ⟨a, by simpa using (List.cons.inj ha).2⟩
  · exact absurd (List.mem_append_left a hn) hpre

section

variable (hf : f.WellFormed) (hrow : f.childIds p = pre ++ n :: (mid ++ r :: post))
include hf hrow

theorem swap_parents : f.parent? n = some p ∧ f.parent? r = some p :=
  ⟨hf.mem_iff.mp (by simp [hrow]), hf.mem_iff.mp (by simp [hrow])⟩

theorem swap_apart : n ∉ pre ∧ n ≠ r ∧ r ∉ pre ++ n :: (mid ++ post) := by
  have hnd := hf.nodup p
  rw [hrow] at hnd
  simp only [List.nodup_append, List.nodup_cons, List.mem_append, List.mem_cons] at hnd ⊢
  grind

theorem not_above_swapped : ¬ f.Above r n := by
  obtain ⟨hn, hr⟩ := swap_parents hf hrow
  intro ha
  rcases above_iff.mp ha with he | ⟨q, hq, hrq⟩
  · exact (swap_apart hf hrow).2.1 he.symm
  · cases hn.symm.trans hq
    exact hf.acyclic.not_above_parent hr hrq

theorem childIds_swap : (f.exchange p n r).childIds s =
    if s = p then pre ++ r :: (mid ++ post) else f.childIds s := by
  obtain ⟨hn, hr⟩ := swap_parents hf hrow
  obtain ⟨hpre, hne, hnot⟩ := swap_apart hf hrow
  rw [childIds_exchange hf hn hne, childIds_detach (hf.placed r), childIds_detach (hf.placed r)]
  by_cases hs : s = p
  · have hrest : (f.childIds p).filter (· ≠ r) = pre ++ n :: (mid ++ post) := by
      rw [hrow, ← filter_ne_of_not_mem hnot]
      simp [List.filter_cons]
    rw [if_pos hs, if_pos hs, hrest, set_idxOf_middle hpre]
  · rw [if_neg hs, if_neg hs]
    refine filter_ne_of_not_mem fun hy => ?_
    rw [hf.mem_iff, hr] at hy
    exact hs (Option.some.inj hy).symm

omit hf in
theorem sublist_passed : (passed pre n mid r post).Sublist (f.childIds p) := by
  rw [hrow, passed]
  refine (List.Sublist.refl pre).append (.cons_cons n ?_)
  split
  · next hmid => simp [hmid]
  · exact (List.Sublist.refl mid).append (List.sublist_cons_self r post)

omit hf in
theorem admissible_loss (htop : top < f.size) :
    Admissible f (f.passedBy p (passed pre n mid r post)) (loss n) top := by
  refine ⟨htop, fun s => ?_, fun m _ o hm => ?_, fun m _ _ _ o hm _ => ?_⟩
  · unfold Forest.passedBy
    split
    · next hs => exact hs ▸ sublist_passed hrow
    · exact List.Sublist.refl _
  all_goals
    unfold loss at hm
    split at hm <;> cases hm

theorem childIds_swapping (hs : s ≠ p) :
    (if n ∈ es then f.exchange p n r else f).childIds s = f.childIds s := by
  split
  · rw [childIds_swap hf hrow, if_neg hs]
  · rfl

theorem realizes_swap :
    Realizes f (f.passedBy p (passed pre n mid r post)) (loss n) top (fun m => (swap n r m).work m)
      fun es g => g.WellFormed ∧ g.Alike (if n ∈ es then f.exchange p n r else f) where
  wellFormed h := h.1
  size h := by
    rw [h.2.size_eq]
    split <;> simp [size_exchange]
  settle _ h := ⟨h.1.settle, Alike.of_settle.trans h.2⟩
  first := by
    rintro es g s ⟨_, hg⟩ hnew
    rw [hg.childIds_eq]
    unfold Forest.passedBy at hnew ⊢
    by_cases hs : s = p
    · rw [if_pos hs] at hnew ⊢
      rw [if_neg (hnew n (by simp [passed])), hs, hrow, passed]
      cases pre <;> rfl
    · rw [if_neg hs, childIds_swapping hf hrow hs]
  row := by
    rintro es g s done c rest x ⟨_, hg⟩ hsplit hdone hrest hst
    obtain ⟨rfl, hcn⟩ := eq_of_stand_loss hst
    rw [hg.childIds_eq]
    unfold Forest.passedBy at hsplit
    by_cases hs : s = p
    · rw [if_pos hs, passed] at hsplit
      rw [hs]
      by_cases hn : n ∈ es
      · have hndone : n ∈ done := by
          have hmem : n ∈ done ++ x :: rest := hsplit ▸ by simp
          rcases List.mem_append.mp hmem with h | h
          · exact h
          · rcases List.mem_cons.mp h with rfl | h
            · exact absurd rfl (hcn hn)
            · exact absurd hn (hrest n h)
        obtain ⟨l, hl⟩ := split_after hsplit (swap_apart hf hrow).1 hndone
        rw [if_pos hn, childIds_swap hf hrow, if_pos rfl]
        by_cases hmid : mid = []
        · rw [if_pos hmid] at hl
          exact ⟨pre ++ l, rest, by simp [hmid, hl], rfl⟩
        · rw [if_neg hmid] at hl
          exact ⟨pre ++ r :: l, rest, by simp [hl], rfl⟩
      · rw [if_neg hn, hrow]
        obtain ⟨l, hl, hhead⟩ := split_before (u := mid ++ r :: post) hsplit
          (fun h => hn (hdone n h)) (by cases mid <;> simp)
        exact ⟨done, l, hl, hhead⟩
    · rw [if_neg hs] at hsplit
      exact ⟨done, rest, by rw [childIds_swapping hf hrow hs, hsplit], rfl⟩
  act := by
    rintro es g c way ⟨hwf, hg⟩ hw hway hc _
    by_cases hcn : c = n
    · subst hcn
      rw [if_neg hc] at hg
      obtain ⟨hpar, hr⟩ := swap_parents hf hrow
      rw [← hg.parent?_eq] at hpar hr
      have hne := (swap_apart hf hrow).2.1
      have ha : ¬ g.Above r p := hwf.acyclic.not_above_parent hr
      have hrlt := lt_of_parent? hr
      refine ⟨g.exchange p c r, ?_, ⟨hwf.exchange hpar hne hrlt ha, ?_⟩, ?_⟩
      · show (swap c r c).work c g = _
        rw [swap, if_pos rfl]
        exact replaceWith_ok hwf hne hpar ha hrlt
      · rw [if_pos (by simp)]
        exact hg.exchange
      · rw [loss_self]
        refine ⟨p, hpar, by simp [parent?_exchange hpar hrlt], ?_⟩
        rw [hg.exchange.childIds_eq, hg.childIds_eq, childIds_swap hf hrow, if_pos rfl, hrow]
        simp
    · refine ⟨g, ?_, ⟨hwf, ?_⟩, ?_⟩
      · show (swap n r c).work c g = _
        rw [swap_of_ne hcn]
        rfl
      · simpa [Ne.symm hcn] using hg
      · rw [loss_of_ne hcn]
        rfl

theorem way_of_above (ha : f.Above top y) (hy : f.Above y n) :
    ∃ way, VisitPath (f.passedBy p (passed pre n mid r post)) (loss n) top y way := by
  obtain ⟨hn, _⟩ := swap_parents hf hrow
  induction ha using Relation.ReflTransGen.head_induction_on with
  | refl => exact ⟨[], .top⟩
  | @head y q hq _ ih =>
    obtain ⟨way, hw⟩ := ih (hy.up hq)
    have hqn : q ≠ n := by
      rintro rfl
      exact hf.acyclic.not_above_parent hq hy
    refine ⟨q :: way, hw.step (loss_heir.mpr ⟨hqn, rfl⟩) ?_⟩
    unfold Forest.passedBy
    split
    · next hqp =>
      -- of the children of its parent only the node itself is above it
      rcases above_iff.mp hy with rfl | ⟨o, ho, hyo⟩
      · simp [passed]
      · rw [hn] at ho
        cases ho
        exact absurd (hqp ▸ hyo) (hf.acyclic.not_above_parent hq)
    · exact hf.mem_iff.mpr hq

theorem not_above_way (htop : f.Above top n) (hmid : mid ≠ [])
    (hw : VisitPath (f.passedBy p (passed pre n mid r post))
        (loss n) top x way) : ¬ f.Above r x := by
  obtain ⟨hn, hr⟩ := swap_parents hf hrow
  have hs := admissible_loss hrow (hf.lt_of_above htop (lt_of_parent? hn))
  induction hw with
  | top => exact fun ha => not_above_swapped hf hrow (ha.trans htop)
  | @step m s c way hm hh hc ih =>
    obtain ⟨_, rfl⟩ := loss_heir.mp hh
    have hcs := hs.parent?_called hf hc
    intro ha
    rcases above_iff.mp ha with rfl | ⟨q, hq, hrq⟩
    · cases hr.symm.trans hcs
      rw [Forest.passedBy, if_pos rfl, passed, if_neg hmid] at hc
      exact (swap_apart hf hrow).2.2 hc
    · cases hcs.symm.trans hq
      exact ih hrq

end

theorem tours_pass_over_swaps (h : Reachable f)
    (hrow : f.childIds p = pre ++ n :: (mid ++ r :: post)) (htop : f.Above top n) :
    ∃ es t g,
      (∀ l, Visits (f.passedBy p (passed pre n mid r post)) (loss n) [top] 0 l ↔ l = es) ∧
      t.stage = .finished ∧
      (∃ k, ∀ limit ≥ k,
        tour limit (recording fun m => (swap n r m).work m) top (f, []) = .ok t (g, es)) ∧
      g.Alike (f.exchange p n r) ∧ n ∈ entered es ∧
      if n ≠ top ∧ mid = [] then r ∈ entered es else ∀ x, f.Above r x → x ∉ entered es := by
  have hf := h.wellFormed
  obtain ⟨hn, _⟩ := swap_parents hf hrow
  have hs := admissible_loss hrow (hf.lt_of_above htop (lt_of_parent? hn))
  obtain ⟨es, t, g, hv, ⟨_, hg⟩, ht, hrun⟩ :=
    (realizes_swap hf hrow).tour hf hs ⟨hf, by simpa using Alike.refl f⟩
  obtain ⟨way, hw⟩ := way_of_above hf hrow htop (.refl n)
  have hnes := hw.entered hv
  rw [if_pos hnes] at hg
  refine ⟨es, t, g, fun l => ⟨fun hl => hl.unique hv, fun hl => hl ▸ hv⟩, ht, hrun, hg, hnes, ?_⟩
  split
  · next hnext =>
    obtain ⟨hne, hmid⟩ := hnext
    have htp : f.Above top p := by
      rcases above_iff.mp htop with he | ⟨q, hq, ha⟩
      · exact absurd he.symm hne
      · cases hn.symm.trans hq
        exact ha
    obtain ⟨up, hwp⟩ := way_of_above hf hrow htp ((Above.refl p).of_parent hn)
    have hpn : p ≠ n := by
      rintro rfl
      exact hf.acyclic.not_above_parent hn (.refl p)
    refine hv.closed (hwp.entered hv) (loss_heir.mpr ⟨hpn, rfl⟩) ?_
    simp [Forest.passedBy, passed, hmid]
  · next hlost =>
    intro x hx hxes
    by_cases hmid : mid = []
    · obtain rfl : n = top := by
        by_contra hne
        exact hlost ⟨hne, hmid⟩
      have hone : es = [.enter n 0] := hv.unique (.gone (by rw [loss_self]; rfl) .nil)
      obtain rfl : x = n := by simpa [hone] using hxes
      exact not_above_swapped hf hrow hx
    · obtain ⟨c, hc, way, hwx, _⟩ := hv.way_of_entered (by simpa using VisitPath.top) hxes
      exact not_above_way hf hrow htop hmid hwx hx

theorem tours_pass_over_swaps_twoLists :
    Reachable twoLists ∧ twoLists.childIds 0 = [] ++ 1 :: ([2] ++ 3 :: []) ∧ twoLists.Above 0 1 ∧
      ∃ t g, t.stage = .finished ∧
        (∃ k, ∀ limit ≥ k, tour limit (recording fun m => (swap 1 3 m).work m) 0 (twoLists, []) =
          .ok t (g, [.enter 0 0, .enter 1 1, .enter 2 1, .leave 2 1, .leave 0 0])) ∧
        g.Alike (twoLists.exchange 0 1 3) := by
  have h : Reachable twoLists := reaches_runAll _
  have hrow : twoLists.childIds 0 = [] ++ 1 :: ([2] ++ 3 :: []) := by decide
  have htop : twoLists.Above 0 1 := (Above.refl 0).of_parent (by decide)
  obtain ⟨es, t, g, hes, ht, hrun, hg, _⟩ := tours_pass_over_swaps h hrow htop
  have hvisit : Visits (twoLists.passedBy 0 (passed [] 1 [2] 3 [])) (loss 1) [0] 0
      [.enter 0 0, .enter 1 1, .enter 2 1, .leave 2 1, .leave 0 0] :=
    @Visits.stays _ _ 0 0 [] 0 [.enter 1 1, .enter 2 1, .leave 2 1] [] rfl
      (.gone rfl (@Visits.stays _ _ 2 2 [] 1 [] [] rfl .nil .nil)) .nil
  obtain rfl := (hes _).mp hvisit
  exact ⟨h, hrow, htop, t, g, ht, hrun, hg⟩

end MarkupForest
