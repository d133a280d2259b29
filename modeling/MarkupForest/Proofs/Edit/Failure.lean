import MarkupForest.Proofs.Edit.Splice

namespace MarkupForest

open Edit Forest

variable {f g h : Forest} {p c id x root wrapper innermost last : NodeId} {ids rs : List NodeId}
  {config : ReaderConfig} {markup base : String} {e : TreeError}

theorem Restructuring.alike_of_error (r : Restructuring) (hf : f.WellFormed)
    (hrun : r.run f = .error e g) : g.Alike f := by
  cases r with
  | appendChild parent child => exact checksFirst_appendChild.atomic hf (map_error hrun)
  | appendChildren parent ids => exact checksFirst_appendChildren.atomic hf (map_error hrun)
  | prependChild parent child => exact checksFirst_insertAll.atomic hf (map_error hrun)
  | insertChildren parent index ids => exact checksFirst_insertChildren.atomic hf (map_error hrun)
  | replaceWith id replacement => exact checksFirst_replaceWith.atomic hf (map_error hrun)
  | insertBeside side id sibling => exact (checksFirst_insertBeside side).atomic hf (map_error hrun)
  | unwrap id => exact checksFirst_unwrap.atomic hf (map_error hrun)
  | remove id => exact checksFirst_remove.atomic hf (map_error hrun)
  | removeChildren id => exact checksFirst_removeChildren.atomic hf (map_error hrun)

namespace Forest.Fragment

variable (hg : Fragment f g root ids) (hf : f.WellFormed)
include hg

theorem not_mem_childIds (hc : c ∈ ids) (hx : x ≠ root) : c ∉ g.childIds x := by
  intro h
  have hroot := hg.wellFormed.mem_iff.mp (hg.children ▸ hc)
  have hparent := hg.wellFormed.mem_iff.mp h
  exact hx (Option.some.inj (hparent.symm.trans hroot))

include hf

theorem ne_of_lt (hx : x < f.size) (hc : c ∈ ids) : x ≠ c :=
  Nat.ne_of_lt (Nat.lt_of_lt_of_le hx (hg.fresh hf hc))

theorem not_above (hx : x < f.size) (hc : c ∈ ids) : ¬ g.Above c x := fun ha =>
  absurd (hg.old.lt_of_above hf ha hx) (Nat.not_lt.mpr (hg.fresh hf hc))

theorem insertable (hp : (f.childList? p).isSome) : g.Insertable p ids := by
  obtain ⟨l, hl⟩ := Option.isSome_iff_exists.mp hp
  have hlt := lt_of_childList? hl
  refine ⟨by rw [hg.old.childList?_eq hlt, hl]; rfl, ?_, hg.children ▸ hg.wellFormed.nodup root, ?_⟩
  · exact fun c hc => hg.wellFormed.lt_of_mem (hg.children ▸ hc)
  · exact fun c hc => hg.not_above hf hlt hc

theorem fresh_child (hx : f.size ≤ x) (hc : c ∈ g.childIds x) : f.size ≤ c := by
  by_contra hlt
  have hp := hg.wellFormed.mem_iff.mp hc
  rw [hg.old.parent?_eq (Nat.lt_of_not_le hlt)] at hp
  exact absurd (hf.parent_lt hp) (Nat.not_lt.mpr hx)

theorem fresh_parent (hx : f.size ≤ x) (hp : g.parent? x = some p) : f.size ≤ p := by
  by_contra hlt
  have hm := hg.wellFormed.mem_iff.mpr hp
  rw [hg.old.childIds_eq (Nat.lt_of_not_le hlt)] at hm
  exact absurd (hf.lt_of_mem hm) (Nat.not_lt.mpr hx)

theorem fresh_above (hx : f.size ≤ x) (ha : g.Above c x) : f.size ≤ c := by
  induction ha with
  | refl => exact hx
  | tail _ hq ih => exact hg.fresh_parent hf ih hq

theorem descend (n : Nat) (hx : f.size ≤ x) (he : g.isElement x = true) :
    f.size ≤ g.descend n x ∧ g.isElement (g.descend n x) = true := by
  induction n generalizing x with
  | zero => exact ⟨hx, he⟩
  | succ n ih =>
    unfold Forest.descend
    split
    · next c hc =>
      exact ih (hg.fresh_child hf hx (List.mem_of_find?_eq_some hc)) (List.find?_some hc)
    · exact ⟨hx, he⟩

end Forest.Fragment

theorem Forest.isSome_childList?_of_isElement (he : f.isElement x = true) :
    (f.childList? x).isSome := by
  unfold isElement at he
  cases hn : f.get? x with
  | none => simp [hn] at he
  | some n =>
    simp only [hn, Node.isElement, beq_iff_eq] at he
    rw [childList?, hn, Option.bind_some, ← Node.isContainer_iff, he]
    rfl

theorem baseUri_ok (hx : x < f.size) :
    f.baseUri x = .ok (((f.lineage x).findSome? f.ownBase?).getD "") := by
  obtain ⟨n, _, hfind⟩ := find_of_lt hx
  rw [baseUri, hfind]
  rfl

theorem exists_fragment (config : ReaderConfig) (markup base : String) (hf : f.WellFormed)
    (hp : p < f.size) : ∃ ids g, readFragment config markup (some p) base f = .ok ids g ∧
      Fragment f g f.size ids := by
  refine ⟨_, _, readFragment_ok config markup base hf fun c hc => ?_, (hf.withFragment _ _ _ _).1⟩
  cases hc
  exact hp

theorem readChildrenOf_error (hp : f.checkContainer p = .error e) :
    readChildrenOf (readFragment config) p markup f = .error e f := by
  rw [readChildrenOf, bind_error (requireContainer_error hp)]

section Inserting

variable (hf : f.WellFormed) (hg : Fragment f g root ids)
include hf hg

theorem Forest.Fragment.insertAll_ok {k : Forest} {i : Nat} (hp : (f.childList? p).isSome)
    (hk : k.WellFormed) (ha : k.Alike g) : insertAll p i ids k = .ok () (k.insertIds p i ids) := by
  have hins : k.Insertable p ids := (hg.insertable hf hp).alike hg.wellFormed hk ha.symm
  rw [insertAll_eq hk, (checkInsert_eq_ok_iff hk).mpr hins]
  rfl

variable (hread : readFragment config markup (some p) base f = .ok ids g)
include hread

omit hf hg in
theorem readChildrenOf_ok (hp : (f.childList? p).isSome) (hbase : f.baseUri p = .ok base) :
    readChildrenOf (readFragment config) p markup f = .ok ids g := by
  rw [readChildrenOf, bind_ok (requireContainer_ok hp), bind_ok (ask_ok hbase), hread]

theorem appendMarkup_ok (hp : (f.childList? p).isSome) (hbase : f.baseUri p = .ok base) :
    appendMarkup (readFragment config) p markup f =
      .ok () (g.insertIds p (f.childIds p).length ids) := by
  obtain ⟨l, hl⟩ := Option.isSome_iff_exists.mp hp
  have hlt := lt_of_childList? hl
  have hcount := childCount_of_lt (Nat.lt_of_lt_of_le hlt hg.old.size_le)
  rw [appendMarkup, bind_ok (readChildrenOf_ok hread hp hbase), bind_ok (ask_ok hcount),
    hg.old.childIds_eq hlt, hg.insertAll_ok hf hp hg.wellFormed (.refl g)]

theorem prependMarkup_ok (hp : (f.childList? p).isSome) (hbase : f.baseUri p = .ok base) :
    prependMarkup (readFragment config) p markup f = .ok () (g.insertIds p 0 ids) := by
  rw [prependMarkup, bind_ok (readChildrenOf_ok hread hp hbase),
    hg.insertAll_ok hf hp hg.wellFormed (.refl g)]

theorem insertMarkupBeside_ok (hp : f.parent? id = some p) (hbase : f.baseUri id = .ok base)
    (side : Side) : insertMarkupBeside (readFragment config) side id markup f = .ok ()
      ((g.settle p).insertIds p ((g.childIds p).idxOf id + side.offset) ids) := by
  obtain ⟨l, hl, _⟩ := hf.exists_childList? hp
  have hgp := (hg.old.parent?_eq (lt_of_parent? hp)).trans hp
  rw [insertMarkupBeside, bind_ok (ask_ok (checkParent_of_parent? hp)), bind_ok (ask_ok hbase),
    bind_ok hread, bind_ok (siblingIndex_child hg.wellFormed hgp),
    hg.insertAll_ok hf (by rw [hl]; rfl) hg.wellFormed.settle Alike.of_settle]

end Inserting

theorem appendMarkup_error (hf : f.WellFormed)
    (hrun : appendMarkup (readFragment config) p markup f = .error e g) : g = f := by
  cases hcont : f.checkContainer p with
  | error y =>
    rw [appendMarkup, bind_error (readChildrenOf_error hcont)] at hrun
    cases hrun
    rfl
  | ok _ =>
    have hp := checkContainer_eq_ok_iff.mp hcont
    obtain ⟨l, hl⟩ := Option.isSome_iff_exists.mp hp
    have hlt := lt_of_childList? hl
    obtain ⟨ids, h, hread, hfrag⟩ := exists_fragment config markup _ hf hlt
    rw [appendMarkup_ok hf hfrag hread hp (baseUri_ok hlt)] at hrun
    cases hrun

theorem prependMarkup_error (hf : f.WellFormed)
    (hrun : prependMarkup (readFragment config) p markup f = .error e g) : g = f := by
  cases hcont : f.checkContainer p with
  | error y =>
    rw [prependMarkup, bind_error (readChildrenOf_error hcont)] at hrun
    cases hrun
    rfl
  | ok _ =>
    have hp := checkContainer_eq_ok_iff.mp hcont
    obtain ⟨l, hl⟩ := Option.isSome_iff_exists.mp hp
    have hlt := lt_of_childList? hl
    obtain ⟨ids, h, hread, hfrag⟩ := exists_fragment config markup _ hf hlt
    rw [prependMarkup_ok hf hfrag hread hp (baseUri_ok hlt)] at hrun
    cases hrun

theorem insertMarkupBeside_error {side : Side} (hf : f.WellFormed)
    (hrun : insertMarkupBeside (readFragment config) side id markup f = .error e g) : g = f := by
  cases hcheck : f.checkParent "before/after" id with
  | error y =>
    rw [insertMarkupBeside, bind_error (ask_error hcheck)] at hrun
    cases hrun
    rfl
  | ok p =>
    have hp := checkParent_eq_ok hcheck
    obtain ⟨ids, h, hread, hfrag⟩ := exists_fragment config markup _ hf (hf.parent_lt hp)
    rw [insertMarkupBeside_ok hf hfrag hread hp (baseUri_ok (lt_of_parent? hp))] at hrun
    cases hrun

structure Forest.Placing (f g : Forest) (p wrapper last : NodeId) (rs : List NodeId) : Prop where
  wellFormed : g.WellFormed
  above_wrapper : g.parent? wrapper = some p
  above_last : g.parent? last = some p
  new : ∀ r ∈ rs, f.size ≤ r ∧ r < g.size
  nodup : rs.Nodup
  apart : wrapper ∉ rs ∧ last ∉ rs
  old : ∀ a, g.Above a p → a < f.size

theorem Forest.hasParent_of_parent? (h : f.parent? x = some p) : f.hasParent x = true := by
  rw [hasParent, h]
  rfl

namespace Forest.Placing

theorem step {r : NodeId} (hg : f.Placing g p wrapper last (r :: rs)) :
    ∃ k, insertBeside .after last r (g.detach r) = .ok () k ∧ f.Placing k p wrapper r rs ∧
      ∀ before after, (g.childIds p).filter (· ≠ r) = before ++ last :: after →
        g.Spliced k p (before ++ [last]) [r] after [] := by
  obtain ⟨hr, hrs⟩ := List.nodup_cons.mp hg.nodup
  obtain ⟨hnew, hlt⟩ := hg.new r List.mem_cons_self
  have hd := hg.wellFormed.detach r
  have hwr : wrapper ≠ r := fun he => hg.apart.1 (he ▸ List.mem_cons_self)
  have hlr : last ≠ r := fun he => hg.apart.2 (he ▸ List.mem_cons_self)
  have hlast : (g.detach r).parent? last = some p := by
    rw [parent?_detach, if_neg hlr, hg.above_last]
  have hnot : ¬ (g.detach r).Above r p := fun ha =>
    absurd (hg.old r ha.of_detach) (Nat.not_lt.mpr hnew)
  have hsize : r < (g.detach r).size := by simpa using hlt
  have hrun := hd.insertBeside_ok hlast hnot hsize (Ne.symm hlr) .after
  have hrow : (g.detach r).childIds p = (g.childIds p).filter (· ≠ r) :=
    childIds_detach (hg.wellFormed.placed r)
  have hspliced : ∀ before after, (g.childIds p).filter (· ≠ r) = before ++ last :: after →
      g.Spliced ((g.detach r).besideMove .after last r) p (before ++ [last]) [r] after [] := by
    intro before after hsplit
    have hout : r ∉ (g.detach r).childIds p := by simp [hrow]
    have hmove := hd.spliced_besideMove hlast hnot hsize (Ne.symm hlr)
      ((filter_ne_of_not_mem hout).trans (hrow.trans hsplit)) .after
    exact ⟨hmove.toMoved.after_detach hg.wellFormed, hmove.row⟩
  obtain ⟨before, after, hsplit⟩ := hd.exists_middle hlast
  have hshift := (hspliced before after (hrow.symm.trans hsplit)).toMoved
  have hkept : ∀ x, x ≠ r → ((g.detach r).besideMove .after last r).parent? x = g.parent? x :=
    fun x hx => hshift.parent_eq (by simpa using hx) List.not_mem_nil
  refine ⟨_, hrun, ⟨?_, ?_, ?_, ?_, hrs, ⟨?_, hr⟩, ?_⟩, hspliced⟩
  · exact after_ok hrun ▸ safe_insertBeside hd
  · rw [hkept wrapper hwr, hg.above_wrapper]
  · simpa using hshift.parent r
  · intro y hy
    obtain ⟨hynew, hylt⟩ := hg.new y (List.mem_cons_of_mem r hy)
    exact ⟨hynew, hshift.size ▸ hylt⟩
  · exact fun hm => hg.apart.1 (List.mem_cons_of_mem r hm)
  · -- above `p` stand old nodes only, and of these none has moved
    intro a ha
    apply hg.old a
    induction ha with
    | refl => exact .refl p
    | @tail b q _ hq ih =>
      have hbr : b ≠ r := fun h => absurd (hg.old b ih) (Nat.not_lt.mpr (h ▸ hnew))
      rw [hkept b hbr] at hq
      exact ih.up hq

theorem run (hg : f.Placing g p wrapper last rs) :
    ∃ k, placeRemainders wrapper last rs g = .ok () k ∧ g.Moved k (some p) rs [] ∧
      ∀ before after, g.childIds p = before ++ last :: after → (∀ c ∈ rs, c ∉ g.childIds p) →
        k.childIds p = before ++ last :: rs ++ after := by
  induction rs generalizing g last with
  | nil =>
    refine ⟨g, rfl, .refl g _, ?_⟩
    intro before after hsplit _
    simpa using hsplit
  | cons r rs ih =>
    obtain ⟨k, hstep, hk, hspliced⟩ := hg.step
    obtain ⟨t, hrest, hshift, hplace⟩ := ih hk
    have hlr : last ≠ r := fun he => hg.apart.2 (he ▸ List.mem_cons_self)
    have hmem : last ∈ (g.childIds p).filter (· ≠ r) :=
      List.mem_filter.mpr ⟨hg.wellFormed.mem_iff.mpr hg.above_last, by simpa using hlr⟩
    have hfirst : g.Moved k (some p) [r] [] := by
      obtain ⟨before, after, hsplit⟩ := List.append_of_mem hmem
      exact (hspliced before after hsplit).toMoved
    have hne : wrapper ≠ r := fun he => hg.apart.1 (he ▸ List.mem_cons_self)
    have hkept : (g.detach r).parent? wrapper = some p := by
      rw [parent?_detach, if_neg hne, hg.above_wrapper]
    refine ⟨t, ?_, hfirst.trans hshift fun _ _ => List.not_mem_nil, ?_⟩
    · rw [placeRemainders,
        bind_ok (remove_ok (hg.wellFormed.placed r) (hg.new r List.mem_cons_self).2),
        bind_ok get_eq, if_pos (hasParent_of_parent? hkept), bind_ok hstep, hrest]
    · intro before after hsplit hout
      have hr := hout r List.mem_cons_self
      have hrow := (hspliced before after ((filter_ne_of_not_mem hr).trans hsplit)).row
      have hrest := hplace (before ++ [last]) after (by simpa using hrow) ?_
      · simpa using hrest
      · intro c hc hm
        have hcr : c ≠ r := fun he => (List.nodup_cons.mp hg.nodup).1 (he ▸ hc)
        have hold := hout c (List.mem_cons_of_mem r hc)
        rw [hsplit] at hold
        simp_all

end Forest.Placing

theorem placeRemainders_detached (hg : g.WellFormed) (hw : g.parent? wrapper = none)
    (hlt : ∀ r ∈ rs, r < g.size) :
    ∃ k, placeRemainders wrapper last rs g = .ok () k ∧ g.Moved k none rs [] := by
  induction rs generalizing g last with
  | nil => exact ⟨g, rfl, .refl g none⟩
  | cons r rs ih =>
    have hroot : (g.detach r).parent? wrapper = none := by
      rw [parent?_detach]
      split
      · rfl
      · exact hw
    have hno : (g.detach r).hasParent wrapper = false := by
      rw [hasParent, hroot]
      rfl
    have hrs : ∀ y ∈ rs, y < (g.detach r).size := by
      simpa using fun y hy => hlt y (List.mem_cons_of_mem r hy)
    obtain ⟨k, hrest, hshift⟩ : ∃ k, placeRemainders wrapper last rs (g.detach r) = .ok () k ∧
        (g.detach r).Moved k none rs [] := ih (hg.detach r) hroot hrs
    refine ⟨k, ?_, (hg.moved_detach r).trans hshift fun _ _ => List.not_mem_nil⟩
    rw [placeRemainders, bind_ok (remove_ok (hg.placed r) (hlt r List.mem_cons_self)),
      bind_ok get_eq]
    simp only [hno, Bool.false_eq_true, if_false]
    exact hrest

def Forest.seat (g : Forest) (home : Option NodeId) (id wrapper : NodeId) : Forest :=
  match home with
  | some p => g.exchange p id wrapper
  | none => g.detach wrapper

theorem Forest.isSome_childList?_seat {home : Option NodeId} :
    ((g.seat home id wrapper).childList? x).isSome = (g.childList? x).isSome := by
  cases home with
  | none => exact isSome_childList?_detach
  | some p => exact isSome_childList?_exchange

structure Forest.Wrapping (f g : Forest) (id wrapper innermost : NodeId)
    (rs : List NodeId) : Prop where
  wellFormed : g.WellFormed
  size : f.size ≤ g.size
  id_lt : id < f.size
  container : (g.childList? innermost).isSome
  wrapper_new : f.size ≤ wrapper
  innermost_new : f.size ≤ innermost
  new : ∀ r ∈ rs, f.size ≤ r ∧ r < g.size
  nodup : rs.Nodup
  apart : wrapper ∉ rs
  not_above : ∀ y, f.size ≤ y → ¬ g.Above id y
  old : ∀ p, g.parent? wrapper = some p → ∀ a, g.Above a p → a < f.size ∧ a ≠ id

namespace Forest.Wrapping

variable (hg : f.Wrapping g id wrapper innermost rs)
include hg

theorem checkAppend_ok : g.checkAppend innermost id = .ok () := by
  refine checkAppend_eq_ok_iff.mpr
    ⟨hg.container, ?_, Nat.lt_of_lt_of_le hg.id_lt hg.size⟩
  rw [← Bool.not_eq_true, hg.wellFormed.isAbove_iff]
  exact hg.not_above innermost hg.innermost_new

theorem run : ∃ k, (do
    appendChild innermost id
    placeRemainders wrapper wrapper rs
    return id : Edit NodeId) g = .ok id k ∧
    ((g.detach id).attach innermost id).Moved k (g.parent? wrapper) rs [] ∧
    ∀ p before after, g.parent? wrapper = some p →
      ((g.detach id).attach innermost id).childIds p = before ++ wrapper :: after →
      (∀ c ∈ rs, c ∉ before ++ wrapper :: after) →
        k.childIds p = before ++ wrapper :: rs ++ after := by
  have hcheck := hg.checkAppend_ok
  have happend : appendChild innermost id g = .ok () ((g.detach id).attach innermost id) := by
    rw [appendChild_eq hg.wellFormed, hcheck]
    rfl
  have hw := hg.wellFormed.append hcheck
  have hshift := (hg.wellFormed.spliced_append hcheck).toMoved
  generalize (g.detach id).attach innermost id = t at happend hw hshift ⊢
  have hparent : ∀ x, x ≠ id → t.parent? x = g.parent? x := fun x hx =>
    hshift.parent_eq (by simpa using hx) List.not_mem_nil
  have hwid : wrapper ≠ id := fun he =>
    absurd hg.id_lt (Nat.not_lt.mpr (he ▸ hg.wrapper_new))
  have hnew : ∀ r ∈ rs, f.size ≤ r ∧ r < t.size := fun r hr => hshift.size ▸ hg.new r hr
  cases hp : g.parent? wrapper with
  | none =>
    obtain ⟨k, hk, hrest⟩ : ∃ k, placeRemainders wrapper wrapper rs t = .ok () k ∧
        t.Moved k none rs [] :=
      placeRemainders_detached hw ((hparent wrapper hwid).trans hp) fun r hr => (hnew r hr).2
    refine ⟨k, ?_, hrest, ?_⟩
    · rw [bind_ok happend, bind_ok hk, pure_eq]
    · intro p before after hno
      cases hno
  | some p =>
    have hplacing : f.Placing t p wrapper wrapper rs := by
      refine ⟨hw, (hparent wrapper hwid).trans hp, (hparent wrapper hwid).trans hp, hnew, hg.nodup,
        ⟨hg.apart, hg.apart⟩, ?_⟩
      intro a ha
      apply (hg.old p hp a _).1
      induction ha with
      | refl => exact .refl p
      | tail _ hq ih =>
        rw [hparent _ (hg.old p hp _ ih).2] at hq
        exact ih.up hq
    obtain ⟨k, hk, hrest, hplace⟩ := hplacing.run
    refine ⟨k, ?_, hrest, ?_⟩
    · rw [bind_ok happend, bind_ok hk, pure_eq]
    · intro q before after hq hsplit hout
      cases hq
      exact hplace before after hsplit (hsplit ▸ hout)

end Forest.Wrapping

section Wrap

variable (hg : Fragment f g root (wrapper :: rs)) (hf : f.WellFormed) (hid : id < f.size)
include hg

theorem Forest.Fragment.top_lt : wrapper < g.size :=
  hg.wellFormed.lt_of_mem (hg.children ▸ List.mem_cons_self)

include hf hid

theorem Forest.Fragment.seatable (hp : f.parent? id = some p) :
    g.parent? id = some p ∧ id ≠ wrapper ∧ ¬ g.Above wrapper p :=
  ⟨(hg.old.parent?_eq hid).trans hp, hg.ne_of_lt hf hid List.mem_cons_self,
    hg.not_above hf (hf.parent_lt hp) List.mem_cons_self⟩

theorem Forest.Fragment.wellFormed_seat : (g.seat (f.parent? id) id wrapper).WellFormed := by
  cases hp : f.parent? id with
  | none => exact hg.wellFormed.detach wrapper
  | some p =>
    obtain ⟨hgp, hne, hnot⟩ := hg.seatable hf hid hp
    exact hg.wellFormed.exchange hgp hne hg.top_lt hnot

theorem Forest.Fragment.moved_seat :
    g.Moved (g.seat (f.parent? id) id wrapper) (f.parent? id) [wrapper] [id] := by
  cases hp : f.parent? id with
  | none =>
    apply (hg.wellFormed.moved_detach wrapper).free
    rw [parent?_detach, hg.old.parent?_eq hid, hp, ite_self]
  | some p =>
    obtain ⟨hgp, hne, -⟩ := hg.seatable hf hid hp
    exact hg.wellFormed.moved_exchange hgp hne hg.top_lt

theorem Forest.Fragment.up_seat {b q : NodeId} (hp : f.parent? id = some p) (hb : f.Above b p)
    (hq : (g.seat (f.parent? id) id wrapper).parent? b = some q) : f.Above q p := by
  have hlt := hf.lt_of_above hb (hf.parent_lt hp)
  have hbw := hg.ne_of_lt hf hlt (List.mem_cons_self (a := wrapper) (l := rs))
  have hbid : b ≠ id := fun he => hf.acyclic.not_above_parent hp (he ▸ hb)
  rw [(hg.moved_seat hf hid).parent_eq (by simpa using hbw) (by simpa using hbid),
    hg.old.parent?_eq hlt] at hq
  exact hb.up hq

theorem Forest.Fragment.above_seat (hx : f.size ≤ x)
    (ha : (g.seat (f.parent? id) id wrapper).Above c x) :
    f.size ≤ c ∨ ∃ p, f.parent? id = some p ∧ f.Above c p := by
  induction ha with
  | refl => exact .inl hx
  | @tail b q hb hq ih =>
    rcases ih with hnew | ⟨p, hp, hold⟩
    · have hbid : b ≠ id := Nat.ne_of_gt (Nat.lt_of_lt_of_le hid hnew)
      rw [(hg.moved_seat hf hid).parent, if_neg (by simpa using hbid)] at hq
      split at hq
      · exact .inr ⟨q, hq, .refl q⟩
      · exact .inl (hg.fresh_parent hf hnew hq)
    · exact .inr ⟨p, hp, hg.up_seat hf hid hp hold hq⟩

theorem wrapping_seat (he : g.isElement wrapper = true) :
    f.Wrapping (g.seat (f.parent? id) id wrapper) id wrapper (g.descend g.size wrapper) rs := by
  have hshift := hg.moved_seat hf hid
  have hnodup : (wrapper :: rs).Nodup := hg.children ▸ hg.wellFormed.nodup root
  obtain ⟨hnot, hrs⟩ := List.nodup_cons.mp hnodup
  have hnew := hg.fresh hf (List.mem_cons_self (a := wrapper) (l := rs))
  obtain ⟨hin, hel⟩ := hg.descend hf g.size hnew he
  refine ⟨hg.wellFormed_seat hf hid, hshift.size ▸ hg.old.size_le, hid, ?_, hnew,
    hin, ?_, hrs, hnot,
    ?_, ?_⟩
  · rw [isSome_childList?_seat]
    exact isSome_childList?_of_isElement hel
  · intro r hr
    have hm := List.mem_cons_of_mem wrapper hr
    exact ⟨hg.fresh hf hm, hshift.size ▸ hg.wellFormed.lt_of_mem (hg.children ▸ hm)⟩
  · intro y hy ha
    rcases hg.above_seat hf hid hy ha with h | ⟨p, hp, h⟩
    · exact absurd hid (Nat.not_lt.mpr h)
    · exact hf.acyclic.not_above_parent hp h
  · intro p hp a ha
    have hwid := (hg.ne_of_lt hf hid (List.mem_cons_self (a := wrapper) (l := rs))).symm
    rw [hshift.parent, if_neg (by simpa using hwid), if_pos (List.mem_singleton_self wrapper)] at hp
    have hab : f.Above a p := by
      induction ha with
      | refl => exact .refl p
      | tail _ hq ih => exact hg.up_seat hf hid hp ih hq
    refine ⟨hf.lt_of_above hab (hf.parent_lt hp), ?_⟩
    rintro rfl
    exact hf.acyclic.not_above_parent hp hab

theorem wrapIn_seat (he : g.isElement wrapper = true) :
    wrapIn id (f.parent? id) (wrapper :: rs) g = (do
    appendChild (g.descend g.size wrapper) id
    placeRemainders wrapper wrapper rs
    return id : Edit NodeId) (g.seat (f.parent? id) id wrapper) := by
  obtain ⟨n, _, hfind⟩ := find_of_lt hg.top_lt
  have hdeep : g.deepChild wrapper = .ok (g.descend g.size wrapper) := by
    rw [deepChild, hfind]
    rfl
  rw [wrapIn, bind_ok get_eq, he, Bool.not_true, if_neg Bool.false_ne_true, bind_ok (ask_ok hdeep)]
  cases hp : f.parent? id with
  | none =>
    dsimp only [seat]
    rw [bind_ok (remove_ok (hg.wellFormed.placed wrapper) hg.top_lt)]
  | some p =>
    obtain ⟨hgp, hne, hnot⟩ := hg.seatable hf hid hp
    have hreplace : replaceChild p id wrapper g = .ok () (g.exchange p id wrapper) := by
      rw [replaceChild_eq hg.wellFormed hne,
        (checkReplace_eq_ok_iff hg.wellFormed).mpr ⟨hgp, hnot, hg.top_lt⟩]
      rfl
    dsimp only [seat]
    rw [bind_ok hreplace]

end Wrap

theorem wrapIn_plain {home : Option NodeId} (h : ∀ w ∈ ids.head?, g.isElement w = false) :
    wrapIn id home ids g = .ok id g := by
  cases ids with
  | nil => rfl
  | cons w rest =>
    rw [wrapIn, bind_ok get_eq, h w rfl]
    rfl

theorem leading_element (g : Forest) (ids : List NodeId) :
    (∀ w ∈ ids.head?, g.isElement w = false) ∨ ∃ w rest, ids = w :: rest ∧
        g.isElement w = true := by
  cases ids with
  | nil => exact .inl fun w hw => by cases hw
  | cons w rest =>
    cases he : g.isElement w with
    | false => exact .inl fun v hv => by cases hv; exact he
    | true => exact .inr ⟨w, rest, rfl, he⟩

theorem wrapIn_ok (hg : Fragment f g root ids) (hf : f.WellFormed) (hid : id < f.size) :
    ∃ k, wrapIn id (f.parent? id) ids g = .ok id k := by
  obtain h | ⟨wrapper, rs, rfl, he⟩ := leading_element g ids
  · exact ⟨g, wrapIn_plain h⟩
  · obtain ⟨k, hk, -⟩ := (wrapping_seat hg hf hid he).run
    exact ⟨k, (wrapIn_seat hg hf hid he).trans hk⟩

theorem wrap_eq_wrapIn (config : ReaderConfig) (hf : f.WellFormed) (hid : id < f.size)
    (hm : markup ≠ "")
    (hbase : f.baseUri id = .ok base) :
    let context := some ((f.parent? id).getD id)
    readFragment config markup context base f =
        .ok ((f.withFragment config context markup base).childIds f.size)
          (f.withFragment config context markup base) ∧
      wrap (readFragment config) id markup f =
        wrapIn id (f.parent? id) ((f.withFragment config context markup base).childIds f.size)
          (f.withFragment config context markup base) := by
  have hcontext : ∀ c ∈ some ((f.parent? id).getD id), c < f.size := by
    intro c hc
    cases hc
    cases hp : f.parent? id with
    | none => exact hid
    | some p => exact hf.parent_lt hp
  have hread := readFragment_ok config markup base hf hcontext
  refine ⟨hread, ?_⟩
  unfold wrap
  rw [if_neg hm]
  dsimp only
  rw [bind_ok (ask_ok (parent_of_lt hid)), bind_ok (ask_ok hbase), bind_ok hread]

theorem wrap_error (hf : f.WellFormed)
    (hrun : wrap (readFragment config) id markup f = .error e g) : g = f := by
  by_cases hm : markup = ""
  · unfold wrap at hrun
    rw [if_pos hm] at hrun
    cases hrun
    rfl
  · by_cases hid : id < f.size
    · rw [(wrap_eq_wrapIn config hf hid hm (baseUri_ok hid)).2] at hrun
      obtain ⟨k, hk⟩ := wrapIn_ok (hf.withFragment config (some ((f.parent? id).getD id)) markup
        (((f.lineage id).findSome? f.ownBase?).getD "")).1 hf hid
      rw [hk] at hrun
      cases hrun
    · unfold wrap at hrun
      rw [if_neg hm] at hrun
      dsimp only at hrun
      rw [bind_error (ask_error (parent_of_size_le (Nat.le_of_not_lt hid)))] at hrun
      cases hrun
      rfl

theorem MarkupEdit.eq_of_error (m : MarkupEdit) (hf : f.WellFormed)
    (hrun : m.run (readFragment config) f = .error e g) : g = f := by
  cases m with
  | append parent markup => exact appendMarkup_error hf (map_error hrun)
  | prepend parent markup => exact prependMarkup_error hf (map_error hrun)
  | insertBeside side id markup => exact insertMarkupBeside_error hf (map_error hrun)
  | wrap id markup => exact wrap_error hf (map_error hrun)

theorem failed_edit_leaves_nodes (h : Reachable f) :
    (∀ (r : Restructuring) (e : TreeError) (g : Forest), r.run f = .error e g →
      g.size = f.size ∧ ∀ id, g.parent? id = f.parent? id ∧ g.childIds id = f.childIds id ∧
        (g.get? id).map Node.bare = (f.get? id).map Node.bare) ∧
    ∀ (config : ReaderConfig) (m : MarkupEdit) (e : TreeError) (g : Forest),
      m.run (readFragment config) f = .error e g → g = f := by
  constructor
  · intro r e g hrun
    have ha := r.alike_of_error h.wellFormed hrun
    exact ⟨ha.size_eq, fun id => ⟨ha.parent?_eq, ha.childIds_eq, ha.map_get?⟩⟩
  · intro config m e g hrun
    exact m.eq_of_error h.wellFormed hrun

theorem failed_edit_leaves_nodes_hungPair :
    Reachable hungPair ∧
    (∃ g, (Restructuring.insertBeside .before 1 0).run hungPair =
      .error (.unmet (.ownSubtree 0 0)) g ∧ g.childIds 0 = [1]) ∧
    ∃ g, (MarkupEdit.wrap 1 "").run (readFragment .html) hungPair =
      .error (.badArgument .emptyWrapper) g ∧ g = hungPair := by
  have h : Reachable hungPair := reaches_runAll _
  have hbeside : (Restructuring.insertBeside .before 1 0).run hungPair =
      .error (.unmet (.ownSubtree 0 0)) (hungPair.settle 0) := rfl
  have hwrap : (MarkupEdit.wrap 1 "").run (readFragment .html) hungPair =
      .error (.badArgument .emptyWrapper) hungPair := rfl
  have hkept := ((failed_edit_leaves_nodes h).1 _ _ _ hbeside).2 0
  exact ⟨h, ⟨_, hbeside, hkept.2.1.trans (by decide)⟩, _, hwrap,
    (failed_edit_leaves_nodes h).2 _ _ _ _ hwrap⟩

end MarkupForest
