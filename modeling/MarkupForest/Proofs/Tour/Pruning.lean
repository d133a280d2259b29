import MarkupForest.Proofs.Edit.InsertChildren
import MarkupForest.Proofs.Tour.Plans

namespace MarkupForest

open Edit Forest

variable {f g k : Forest} {plan : NodeId → Fate} {c p q s n m r top x y : NodeId}
  {way es ids : List NodeId}

theorem stand_of_not_mem (h : c ∉ es) : stand plan es c = some c := if_neg h

theorem stand_eq_some :
    stand plan es y = some c ↔ y ∉ es ∧ y = c ∨ y ∈ es ∧ (plan y).heir y = some c := by
  unfold stand
  split <;> simp_all

theorem filterMap_stand (h : ∀ c ∈ ids, c ∉ es) : ids.filterMap (stand plan es) = ids :=
  (List.filterMap_congr fun c hc => stand_of_not_mem (h c hc)).trans List.filterMap_some

theorem stand_snoc (hy : y ∈ es → (plan y).heir y ≠ some c) :
    stand plan (es ++ [c]) y =
      (stand plan es y).bind fun z => if z = c then (plan c).heir c else some z := by
  by_cases hes : y ∈ es
  · have hh := hy hes
    rw [stand, stand, if_pos (by simp [hes]), if_pos hes]
    cases ht : (plan y).heir y with
    | none => rfl
    | some t =>
      have hne : t ≠ c := fun he => hh (he ▸ ht)
      simp [hne]
  · rw [stand_of_not_mem hes]
    by_cases hyc : y = c
    · simp [stand, hyc]
    · simp [stand, hes, hyc]

theorem set_idxOf (hn : ids.Nodup) (hc : c ∈ ids) :
    ids.set (ids.idxOf c) r = ids.filterMap fun z => if z = c then some r else some z := by
  obtain ⟨pre, post, rfl⟩ := List.append_of_mem hc
  obtain ⟨_, hpost, hdisj⟩ := List.nodup_append.mp hn
  have hpre : c ∉ pre := fun h => hdisj c h c List.mem_cons_self rfl
  have hself : ∀ l : List NodeId, c ∉ l →
      (l.filterMap fun z => if z = c then some r else some z) = l := fun l hl =>
    (List.filterMap_congr fun z hz => if_neg fun he : z = c => hl (he ▸ hz)).trans
      List.filterMap_some
  rw [Forest.set_idxOf_middle hpre, List.filterMap_append, List.filterMap_cons, hself pre hpre,
    hself post (List.nodup_cons.mp hpost).1]
  simp

namespace Forest

/-- What is left of `f` when the nodes `es` were kept, removed or replaced as planned. -/
structure Pruned (f : Forest) (plan : NodeId → Fate) (es : List NodeId) (g : Forest) : Prop where
  wellFormed : g.WellFormed
  size : g.size = f.size
  payload : ∀ x, g.payload? x = f.payload? x
  childIds : ∀ p, g.childIds p = (f.childIds p).filterMap (stand plan es)

def EnteredByVisit (f : Forest) (plan : NodeId → Fate) (top : NodeId) (es : List NodeId) : Prop :=
  ∀ n ∈ es, ∃ way, VisitPath f.childIds plan top n way ∧ ∀ m ∈ way, m ∈ es

theorem EnteredByVisit.snoc (h : f.EnteredByVisit plan top es)
    (hw : VisitPath f.childIds plan top c way)
    (hway : ∀ m ∈ way, m ∈ es) : f.EnteredByVisit plan top (es ++ [c]) := by
  intro n hn
  rcases List.mem_append.mp hn with hn | hn
  · obtain ⟨w, hnw, hin⟩ := h n hn
    exact ⟨w, hnw, fun m hm => List.mem_append_left _ (hin m hm)⟩
  · obtain rfl := List.mem_singleton.mp hn
    exact ⟨way, hw, fun m hm => List.mem_append_left _ (hway m hm)⟩

namespace Pruned

theorem refl (hf : f.WellFormed) : f.Pruned plan [] f where
  wellFormed := hf
  size := rfl
  payload _ := rfl
  childIds p := (filterMap_stand (by simp)).symm

theorem settle (hg : f.Pruned plan es g) (p : NodeId) : f.Pruned plan es (g.settle p) where
  wellFormed := hg.wellFormed.settle
  size := by simp [hg.size]
  payload x := by rw [payload?_settle, hg.payload]
  childIds q := by rw [childIds_settle, hg.childIds]

variable (hf : f.WellFormed) (hg : f.Pruned plan es g)
include hf hg

theorem parent?_eq_some :
    g.parent? c = some p ↔ ∃ y, f.parent? y = some p ∧ stand plan es y = some c := by
  rw [← hg.wellFormed.mem_iff, hg.childIds, List.mem_filterMap]
  simp only [hf.mem_iff]

theorem parent?_of_fresh (hc : c ∉ es) (hr : ∀ n < f.size, n ∈ es → plan n ≠ .replace c) :
    g.parent? c = f.parent? c := by
  refine Option.ext fun p => (hg.parent?_eq_some hf).trans ?_
  constructor
  · rintro ⟨y, hy, hst⟩
    rcases stand_eq_some.mp hst with ⟨_, rfl⟩ | ⟨hes, hh⟩
    · exact hy
    · rcases Fate.heir_eq_some hh with ⟨_, rfl⟩ | hrep
      · exact absurd hes hc
      · exact absurd hrep (hr y (lt_of_parent? hy) hes)
  · exact fun hp => ⟨c, hp, stand_of_not_mem hc⟩

variable (hs : Admissible f f.childIds plan top)
include hs

theorem parent?_entering (hw : VisitPath f.childIds plan top c way) (hc : c ∉ es) :
    g.parent? c = f.parent? c :=
  hg.parent?_of_fresh hf hc fun _ hn _ => hs.not_replacement hf hw hn

theorem childIds_snoc (hw : VisitPath f.childIds plan top c way) (hc : c ∉ es) :
    (f.childIds p).filterMap (stand plan (es ++ [c])) =
      (g.childIds p).filterMap fun z => if z = c then (plan c).heir c else some z := by
  rw [hg.childIds, List.filterMap_filterMap]
  refine List.filterMap_congr fun y hy => stand_snoc fun hes hh => ?_
  rcases Fate.heir_eq_some hh with ⟨_, rfl⟩ | hrep
  · exact hc hes
  · exact hs.not_replacement hf hw (hf.lt_of_mem hy) hrep

theorem keep (hw : VisitPath f.childIds plan top c way) (hc : c ∉ es) (hplan : plan c = .keep) :
    f.Pruned plan (es ++ [c]) g where
  wellFormed := hg.wellFormed
  size := hg.size
  payload := hg.payload
  childIds p := by
    rw [hg.childIds_snoc hf hs hw hc, hplan]
    refine (List.filterMap_some.symm.trans (List.filterMap_congr fun z _ => ?_))
    split
    · next he => rw [he, Fate.heir]
    · rfl

theorem detach (hw : VisitPath f.childIds plan top c way) (hc : c ∉ es) (hplan : plan c = .remove) :
    f.Pruned plan (es ++ [c]) (g.detach c) where
  wellFormed := hg.wellFormed.detach c
  size := by simp [hg.size]
  payload x := by rw [payload?_detach, hg.payload]
  childIds p := by
    rw [hg.childIds_snoc hf hs hw hc, hplan, childIds_detach (hg.wellFormed.placed c),
      ← List.filterMap_eq_filter]
    refine List.filterMap_congr fun z _ => ?_
    by_cases hz : z = c <;> simp [hz, Fate.heir]

variable (hentered : f.EnteredByVisit plan top es)
include hentered

theorem parent?_heir (hw : VisitPath f.childIds plan top m way) (hm : m ∈ es)
    (hh : (plan m).heir m = some s) (hp : g.parent? s = some p) : f.parent? m = some p := by
  obtain ⟨y, hy, hst⟩ := (hg.parent?_eq_some hf).mp hp
  rcases stand_eq_some.mp hst with ⟨hes, rfl⟩ | ⟨hes, hhy⟩
  · rcases Fate.heir_eq_some hh with ⟨_, rfl⟩ | hrep
    · exact hy
    · rw [(hs.replaces m (hs.way_lt hf hw) y hrep).2.1] at hy
      cases hy
  · obtain ⟨w, hwy, _⟩ := hentered y hes
    rw [hs.heir_inj hf hw hwy hh hhy]
    exact hy

theorem above_top (hp : f.parent? top = some p) (hx : g.Above x p) : f.Above x p := by
  induction hx with
  | refl => exact .refl p
  | @tail x q _ hq ih =>
    -- neither was it entered, nor has it come in for another node
    have hxes : x ∉ es := fun hxes => by
      obtain ⟨w, hw, _⟩ := hentered x hxes
      exact hs.not_entered_above_top hf hw hp ih
    have hfresh := hg.parent?_of_fresh hf hxes fun n hn _ hr =>
      (hs.replaces n hn x hr).2.2 (ih.of_parent hp)
    rw [hfresh] at hq
    exact ih.up hq

theorem above_entering (hw : VisitPath f.childIds plan top c way) (hway : ∀ m ∈ way, m ∈ es)
    (hp : f.parent? c = some p) (hx : g.Above x p) :
    (∃ m ∈ way, (plan m).heir m = some x) ∨ f.Above x top := by
  induction hw generalizing p with
  | top => exact .inr ((hg.above_top hf hs hentered hp hx).of_parent hp)
  | @step m s c way hm hh hc ih =>
    obtain ⟨hmes, hway'⟩ := List.forall_mem_cons.mp hway
    cases (hf.mem_iff.mp hc).symm.trans hp
    rcases above_iff.mp hx with rfl | ⟨q, hq, hxq⟩
    · exact .inl ⟨m, List.mem_cons_self, hh⟩
    · exact (ih hway' (hg.parent?_heir hf hs hentered hm hmes hh hq) hxq).imp_left
        fun ⟨y, hy, hyx⟩ => ⟨y, List.mem_cons_of_mem m hy, hyx⟩

theorem not_above (hw : VisitPath f.childIds plan top c way)
    (hway : ∀ m ∈ way, m ∈ es) (hc : c ∉ es)
    (hr : plan c = .replace r) (hp : f.parent? c = some p) : ¬ g.Above r p := by
  have hclt := hs.way_lt hf hw
  intro hrp
  rcases hg.above_entering hf hs hentered hw hway hp hrp with ⟨m, hm, hh⟩ | htop
  · obtain ⟨u, v, he⟩ := List.append_of_mem hm
    have hmw : VisitPath f.childIds plan top m v := hw.of_suffix ⟨c :: u, by simp [he]⟩
    rcases Fate.heir_eq_some hh with ⟨_, rfl⟩ | hrm
    · exact hs.not_replacement hf hmw hclt hr
    · exact hc (hs.distinct c hclt m (hs.way_lt hf hmw) r hr hrm ▸ hway m hm)
  · exact (hs.replaces c hclt r hr).2.2 htop

theorem exchange (hw : VisitPath f.childIds plan top c way) (hway : ∀ m ∈ way, m ∈ es) (hc : c ∉ es)
    (hplan : plan c = .replace r) (hp : g.parent? c = some p) :
    f.Pruned plan (es ++ [c]) (g.exchange p c r) ∧ g.parent? r = none ∧ c ≠ r ∧ ¬ g.Above r p := by
  have hclt := hs.way_lt hf hw
  obtain ⟨hrlt, hroot, _⟩ := hs.replaces c hclt r hplan
  have hfp : f.parent? c = some p := hg.parent?_entering hf hs hw hc ▸ hp
  have hne : c ≠ r := fun he => hs.not_replacement hf hw hclt (he ▸ hplan)
  have ha := hg.not_above hf hs hentered hw hway hc hplan hfp
  have hgr : g.parent? r = none := by
    rw [hg.parent?_of_fresh hf (fun hr => ?_) fun n hn hnes hnr => ?_, hroot]
    · obtain ⟨w, hwr, _⟩ := hentered r hr
      exact hs.not_replacement hf hwr hclt hplan
    · exact hc (hs.distinct c hclt n hn r hplan hnr ▸ hnes)
  refine ⟨⟨hg.wellFormed.exchange hp hne (hg.size ▸ hrlt) ha, by simp [size_exchange, hg.size],
    fun x => by rw [payload?_exchange, hg.payload], fun q => ?_⟩, hgr, hne, ha⟩
  have hdet : g.detach r = g := by rw [Forest.detach, hgr]
  rw [hg.childIds_snoc hf hs hw hc, hplan, childIds_exchange hg.wellFormed hp hne, hdet]
  by_cases hq : q = p
  · rw [if_pos hq, hq]
    exact set_idxOf (hg.wellFormed.nodup p) (hg.wellFormed.mem_iff.mpr hp)
  · rw [if_neg hq]
    refine (List.filterMap_some.symm.trans (List.filterMap_congr fun z hz => ?_))
    rw [if_neg]
    rintro rfl
    rw [hg.wellFormed.mem_iff.mp hz] at hp
    exact hq (Option.some.inj hp)

end Pruned

section

variable (hf : f.WellFormed) (hs : Admissible f f.childIds plan top)
include hf hs

theorem exists_parent_of_worked (hroot : f.parent? top = none → plan top = .keep)
    (hw : VisitPath f.childIds plan top c way) (hne : plan c ≠ .keep) : ∃ p,
        f.parent? c = some p := by
  cases hw with
  | top => exact Option.ne_none_iff_exists'.mp fun hnone => hne (hroot hnone)
  | step _ _ hc => exact ⟨_, hf.mem_iff.mp hc⟩

theorem realizes_work (hroot : f.parent? top = none → plan top = .keep) :
    Realizes f f.childIds plan top (fun n => (plan n).work n)
      fun es g => f.Pruned plan es g ∧ f.EnteredByVisit plan top es where
  wellFormed h := h.1.wellFormed
  size h := h.1.size
  settle p h := ⟨h.1.settle p, h.2⟩
  first h hnew := by rw [h.1.childIds, filterMap_stand hnew]
  row := by
    rintro es g s done c rest x h hrow _ hrest hst
    refine ⟨done.filterMap (stand plan es), rest, ?_, rfl⟩
    rw [h.1.childIds, hrow, List.filterMap_append, List.filterMap_cons_some hst,
      filterMap_stand hrest]
  act := by
    rintro es g c way ⟨hg, hentered⟩ hw hway hc hindex
    have hentered' := hentered.snoc hw hway
    have hgp := hg.parent?_entering hf hs hw hc
    have hwf := hg.wellFormed
    cases hplan : plan c with
    | keep => exact ⟨g, rfl, ⟨hg.keep hf hs hw hc hplan, hentered'⟩, rfl⟩
    | remove =>
      obtain ⟨p, hp⟩ := exists_parent_of_worked hf hs hroot hw (by simp [hplan])
      rw [← hgp] at hp
      refine ⟨g.detach c, remove_ok (hwf.placed c) (lt_of_parent? hp),
        ⟨hg.detach hf hs hw hc hplan, hentered'⟩, p, hp, by simp [parent?_detach], Nat.ne_of_lt ?_⟩
      rw [childIds_detach (hwf.placed c), List.length_filter_lt_length_iff_exists]
      exact ⟨c, hwf.mem_iff.mpr hp, by simp⟩
    | replace r =>
      obtain ⟨p, hp⟩ := exists_parent_of_worked hf hs hroot hw (by simp [hplan])
      rw [← hgp] at hp
      obtain ⟨hleft, hgr, hne, ha⟩ := hg.exchange hf hs hentered hw hway hc hplan hp
      have hrlt : r < g.size := by
        rw [hg.size]
        exact (hs.replaces c (hs.way_lt hf hw) r hplan).1
      have hdet : g.detach r = g := by rw [Forest.detach, hgr]
      have hids : (g.exchange p c r).childIds p =
          (g.childIds p).set ((g.childIds p).idxOf c) r := by
        rw [childIds_exchange hwf hp hne, if_pos rfl, hdet]
      refine ⟨g.exchange p c r, replaceWith_ok hwf hne hp ha hrlt, ⟨hleft, hentered'⟩, p,
        (g.childIds p).idxOf c, hp, ?_, ?_, ?_, ?_⟩
      · simp [parent?_exchange hp hrlt]
      · rw [hids, List.length_set]
      · rw [index?_exchange hne, hindex p hp]
      · rw [hids, List.getElem?_set_self (List.idxOf_lt_length_of_mem (hwf.mem_iff.mpr hp))]

theorem Pruned.outside (hg : f.Pruned plan es g) (hentered : f.EnteredByVisit plan top es)
    (htop : top ∈ es)
    (hx : ¬ f.Above top x) (hr : ∀ n ∈ es, ∀ r, plan n = .replace r → ¬ f.Above r x) :
    g.parent? x = f.parent? x ∧ g.childIds x = (f.childIds x).filterMap fun c =>
      if c = top then (plan top).heir top else some c := by
  -- what stands for a node that was entered lies where the visit went
  have hground : ∀ {way : List NodeId}, (∀ m ∈ way, m ∈ es) →
      ¬ ∃ o, (o = top ∨ ∃ m ∈ way, plan m = .replace o) ∧ f.Above o x := by
    rintro way hway ⟨o, rfl | ⟨m, hm, hmo⟩, ho⟩
    · exact hx ho
    · exact hr m (hway m hm) o hmo ho
  constructor
  · refine hg.parent?_of_fresh hf (fun hxes => ?_) fun n _ hn hnx => hr n hn x hnx (.refl x)
    obtain ⟨w, hw, hway⟩ := hentered x hxes
    exact hground hway (hs.grounded hf hw)
  · rw [hg.childIds]
    refine List.filterMap_congr fun c hc => ?_
    by_cases hct : c = top
    · rw [if_pos hct, hct, stand, if_pos htop]
    · rw [if_neg hct, stand_of_not_mem]
      intro hces
      obtain ⟨w, hw, hway⟩ := hentered c hces
      cases hw with
      | top => exact hct rfl
      | step hm hh hcs =>
        cases (hf.mem_iff.mp hc).symm.trans (hf.mem_iff.mp hcs)
        exact hground hway (Admissible.heir_grounded (hs.grounded hf hm) hh)

end

theorem root_of_above (hf : f.WellFormed) (hx : x < f.size) (ha : f.Above r x)
    (hr : f.parent? r = none) : f.root x = .ok r := by
  obtain ⟨n, _, hfind⟩ := find_of_lt hx
  have hway := hf.ascent_lineage x
  obtain ⟨o, ho, hroot⟩ := hway.getLast?_eq
  have hmem : f.Above o x := hway.mem_iff.mp (List.mem_of_getLast? ho)
  have heq : o = r := by
    rcases hmem.total ha with h | h
    · rcases above_iff.mp h with h | ⟨q, hq, _⟩
      · exact h
      · simp [hr] at hq
    · rcases above_iff.mp h with h | ⟨q, hq, _⟩
      · exact h.symm
      · simp [hroot] at hq
  rw [root, hfind, ← heq, List.getLastD_eq_getLast?, ho]
  rfl

end Forest

theorem tours_prune (h : Reachable f) (htop : top < f.size)
    (hroot : f.parent? top = none → plan top = .keep)
    (hreplace : ∀ n < f.size, ∀ r, plan n = .replace r →
      r < f.size ∧ f.parent? r = none ∧ f.root top ≠ .ok r)
    (hdistinct : ∀ n < f.size, ∀ m < f.size, ∀ r,
      plan n = .replace r → plan m = .replace r → n = m) :
    ∃ es t g, (∀ l, Visits f.childIds plan [top] 0 l ↔ l = es) ∧ t.stage = .finished ∧
      (∃ k, ∀ limit ≥ k,
        tour limit (recording fun n => (plan n).work n) top (f, []) = .ok t (g, es)) ∧
      f.Pruned plan (entered es) g ∧
      ∀ x, ¬ f.Above top x → (∀ n ∈ entered es, ∀ r, plan n = .replace r → ¬ f.Above r x) →
        g.parent? x = f.parent? x ∧ g.childIds x = (f.childIds x).filterMap fun c =>
          if c = top then (plan top).heir top else some c := by
  have hf := h.wellFormed
  have hs : Admissible f f.childIds plan top := by
    refine ⟨htop, fun s => List.Sublist.refl _, fun n hn r hr => ?_, hdistinct⟩
    obtain ⟨hrlt, hpar, hne⟩ := hreplace n hn r hr
    exact ⟨hrlt, hpar, fun ha => hne (root_of_above hf htop ha hpar)⟩
  obtain ⟨es, t, g, hv, ⟨hg, hentered⟩, ht, hrun⟩ :=
    (realizes_work hf hs hroot).tour hf hs ⟨.refl hf, by simp [EnteredByVisit]⟩
  refine ⟨es, t, g, fun l => ⟨fun hl => hl.unique hv, fun hl => hl ▸ hv⟩, ht, hrun, hg, ?_⟩
  have hin := hv.row_entered top (List.mem_singleton_self top)
  exact fun x hx hr => hg.outside hf hs hentered hin hx hr

def listForText : NodeId → Fate
  | 2 => .replace 4
  | 5 => .remove
  | _ => .keep

theorem listForText_eq_replace (h : listForText n = .replace r) : n = 2 ∧ r = 4 := by
  unfold listForText at h
  split at h <;> simp_all

theorem tours_prune_twoLists :
    Reachable twoLists ∧ 0 < twoLists.size ∧ twoLists.root 0 = .ok 0 ∧ ∃ t g, t.stage = .finished ∧
      (∃ n, ∀ limit ≥ n, tour limit (recording fun n => (listForText n).work n) 0 (twoLists, []) =
        .ok t (g, [.enter 0 0, .enter 1 1, .leave 1 1, .enter 2 1, .enter 5 2, .leave 4 1,
          .enter 3 1, .leave 3 1, .leave 0 0])) ∧
      g.childIds 0 = [1, 4, 3] ∧ g.childIds 4 = [] := by
  have h : Reachable twoLists := reaches_runAll _
  have htop : 0 < twoLists.size := by decide
  have hroot : twoLists.root 0 = .ok 0 := by decide
  obtain ⟨es, t, g, hes, ht, hrun, hg, _⟩ := @tours_prune twoLists listForText 0 h htop
    (fun _ => rfl)
    (fun n _ r hr => by
      obtain ⟨rfl, rfl⟩ := listForText_eq_replace hr
      rw [hroot]
      decide)
    (fun n _ m _ r hn hm => by
      rw [(listForText_eq_replace hn).1, (listForText_eq_replace hm).1])
  have hvisit : Visits twoLists.childIds listForText [0] 0 [.enter 0 0, .enter 1 1, .leave 1 1,
      .enter 2 1, .enter 5 2, .leave 4 1, .enter 3 1, .leave 3 1, .leave 0 0] :=
    @Visits.stays _ _ 0 0 [] 0 [.enter 1 1, .leave 1 1, .enter 2 1, .enter 5 2, .leave 4 1,
      .enter 3 1, .leave 3 1] [] rfl
      (@Visits.stays _ _ 1 1 [2, 3] 1 [] _ rfl .nil
        (@Visits.stays _ _ 2 4 [3] 1 [.enter 5 2] _ rfl (.gone rfl .nil)
          (@Visits.stays _ _ 3 3 [] 1 [] [] rfl .nil .nil))) .nil
  obtain rfl := (hes _).mp hvisit
  exact ⟨h, htop, hroot, t, g, ht, hrun, by rw [hg.childIds]; decide, by rw [hg.childIds]; decide⟩

end MarkupForest
