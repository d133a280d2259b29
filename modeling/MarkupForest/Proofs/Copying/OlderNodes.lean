import MarkupForest.Proofs.Operation.Reachable

namespace MarkupForest

open Edit Forest

variable {α β σ : Type} {f g h : Forest} {c p x id : NodeId} {ids : List NodeId} {n : Node}

namespace Forest

structure Separated (f g : Forest) : Prop where
  old : f.Extends g
  up : ∀ c p, f.size ≤ c → g.parent? c = some p → f.size ≤ p
  down : ∀ p c, f.size ≤ p → c ∈ g.childIds p → f.size ≤ c

theorem WellFormed.separated (hf : f.WellFormed) (hg : g.WellFormed) (hold : f.Extends g) :
    f.Separated g where
  old := hold
  up c p hc hp := by
    by_contra hlt
    have hmem := hg.mem_iff.mpr hp
    rw [hold.childIds_eq (Nat.lt_of_not_le hlt)] at hmem
    exact absurd (hf.lt_of_mem hmem) (Nat.not_lt.mpr hc)
  down p c hp hc := by
    by_contra hlt
    have hparent := hg.mem_iff.mp hc
    rw [hold.parent?_eq (Nat.lt_of_not_le hlt)] at hparent
    exact absurd (hf.parent_lt hparent) (Nat.not_lt.mpr hp)

namespace Separated

theorem modify (h : f.Separated g) {u : Node → Node} (hx : f.size ≤ x)
    (hparent : ∀ n p, (u n).parent = some p → n.parent = some p ∨ f.size ≤ p)
    (hchildren : ∀ n c, c ∈ (u n).childIds → c ∈ n.childIds ∨ f.size ≤ c) :
    f.Separated (g.modify x u) := by
  refine ⟨h.old.modify hx, fun c p hc hp => ?_, fun p c hp hc => ?_⟩
  · unfold parent? at hp
    rw [get?_modify] at hp
    split at hp
    · obtain ⟨n', hn', hp⟩ := Option.bind_eq_some_iff.mp hp
      obtain ⟨n, hn, rfl⟩ := Option.map_eq_some_iff.mp hn'
      refine (hparent n p hp).elim (fun hp => h.up c p hc ?_) fun hp => hp
      rw [parent?, hn, Option.bind_some, hp]
    · exact h.up c p hc hp
  · unfold childIds at hc
    rw [get?_modify] at hc
    split at hc
    · next n' hn' =>
      split at hn'
      · obtain ⟨n, hn, rfl⟩ := Option.map_eq_some_iff.mp hn'
        refine (hchildren n c hc).elim (fun hc => h.down p c hp ?_) fun hc => hc
        rwa [childIds, hn]
      · refine h.down p c hp ?_
        rwa [childIds, hn']
    · cases hc

theorem setParent (h : f.Separated g) (hx : f.size ≤ x) {q : Option NodeId}
    (hq : ∀ p ∈ q, f.size ≤ p) : f.Separated (g.setParent x q) :=
  h.modify hx (fun _ p hp => .inr (hq p hp)) fun _ _ hc => .inl hc

theorem setIndex (h : f.Separated g) (hx : f.size ≤ x) (i : Nat) : f.Separated (g.setIndex x i) :=
  h.modify hx (fun _ _ hp => .inl hp) fun _ _ hc => .inl hc

theorem changeChildren (h : f.Separated g) (hx : f.size ≤ x) {u : ChildList → ChildList}
    (hu : ∀ l, ∀ c ∈ (u l).ids, c ∈ l.ids ∨ f.size ≤ c) : f.Separated (g.changeChildren x u) := by
  refine h.modify hx (fun _ _ hp => .inl hp) fun n c hc => ?_
  unfold Node.childIds Node.mapChildren at hc
  rw [Body.container?_mapContainer] at hc
  unfold Node.childIds
  cases hb : n.body.container? with
  | none => simp [hb] at hc
  | some inner =>
    rw [hb] at hc
    exact hu _ c hc

theorem mapAttributes (h : f.Separated g) (hx : f.size ≤ x)
    (u : Option Attributes → Option Attributes) :
    f.Separated (g.modify x (Node.mapAttributes u)) := by
  refine h.modify hx (fun _ _ hp => .inl hp) fun n c hc => .inl ?_
  unfold Node.childIds Node.mapAttributes at hc
  rw [Body.container?_mapContainer] at hc
  unfold Node.childIds
  cases hb : n.body.container? with
  | none => simp [hb] at hc
  | some inner =>
    rw [hb] at hc
    exact hc

theorem stamp (h : f.Separated g) (i : Nat) (hids : ∀ c ∈ ids, f.size ≤ c) :
    f.Separated (g.stamp i ids) := by
  induction ids generalizing g i with
  | nil => exact h
  | cons c cs ih =>
    exact ih (h.setIndex (hids c List.mem_cons_self) i) (i + 1)
      fun d hd => hids d (List.mem_cons_of_mem c hd)

theorem settle (h : f.Separated g) (hp : f.size ≤ p) : f.Separated (g.settle p) := by
  unfold Forest.settle
  split
  · next l hl =>
    split
    · exact h
    · refine (h.stamp 0 fun c hc => ?_).changeChildren hp fun l c hc => .inl hc
      exact h.down p c hp (childIds_of_childList? (childList?_of_madeList? hl) ▸ hc)
  · exact h

end Separated

end Forest

namespace Edit

variable {P : Forest → Prop} {Q : α → Prop} {R : β → Prop} {e : Edit α} {k : α → Edit β}

def Preserves (P : Forest → Prop) (Q : α → Prop) (e : Edit α) : Prop :=
  ∀ ⦃g⦄, P g → P (e.after g) ∧ ∀ a h, e g = .ok a h → Q a

namespace Preserves

theorem bind (he : Preserves P Q e) (hk : ∀ a, Q a → Preserves P R (k a)) :
    Preserves P R (e >>= k) := by
  intro g hg
  obtain ⟨hafter, hanswer⟩ := he hg
  cases hrun : e g with
  | ok a s =>
    rw [after_ok hrun] at hafter
    unfold after
    rw [bind_ok hrun]
    exact hk a (hanswer a s hrun) hafter
  | error y s =>
    rw [after_error hrun] at hafter
    rw [after_error (bind_error hrun)]
    refine ⟨hafter, fun b t hb => ?_⟩
    rw [bind_error hrun] at hb
    cases hb

theorem pure {a : α} (ha : Q a) : Preserves P Q (pure a : Edit α) :=
  fun _ hg => ⟨hg, fun _ _ h => by cases h; exact ha⟩

theorem throw {y : TreeError} : Preserves P Q (throw y : Edit α) :=
  fun _ hg => ⟨hg, fun _ _ h => by cases h⟩

theorem get : Preserves P P (get : Edit Forest) :=
  fun _ hg => ⟨hg, fun _ _ h => by cases h; exact hg⟩

theorem ask {q : Forest → Except TreeError α} (hq : ∀ g a, P g → q g = .ok a → Q a) :
    Preserves P Q (ask q) := by
  intro g hg
  cases hrun : q g with
  | ok a =>
    rw [after_ok (ask_ok hrun)]
    refine ⟨hg, fun b s hb => ?_⟩
    rw [ask_ok hrun] at hb
    cases hb
    exact hq g a hg hrun
  | error y =>
    rw [after_error (ask_error hrun)]
    refine ⟨hg, fun b s hb => ?_⟩
    rw [ask_error hrun] at hb
    cases hb

theorem ask_bind {q : Forest → Except TreeError α} (hk : ∀ a, Preserves P R (k a)) :
    Preserves P R (Edit.ask q >>= k) :=
  bind (Q := fun _ => True) (ask fun _ _ _ _ => trivial) fun a _ => hk a

theorem modify {u : Forest → Forest} (hu : ∀ g, P g → P (u g)) :
    Preserves P (fun _ => True) (modify u : Edit Unit) := fun g hg =>
      ⟨hu g hg, fun _ _ _ => trivial⟩

theorem weaken {Q' : α → Prop} (he : Preserves P Q e) (hQ : ∀ a, Q a → Q' a) : Preserves P Q' e :=
  fun _ hg => ⟨(he hg).1, fun a s h => hQ a ((he hg).2 a s h)⟩

theorem any (he : Preserves P Q e) : Preserves P (fun _ => True) e := he.weaken fun _ _ => trivial

theorem map {m : α → β} (he : Preserves P (fun _ => True) e) :
    Preserves P (fun _ => True) (m <$> e) := by
  rw [map_eq_pure_bind]
  exact he.bind fun _ _ => .pure trivial

theorem forM {k : α → Edit Unit} {as : List α} (hk : ∀ a ∈ as, Preserves P (fun _ => True) (k a)) :
    Preserves P (fun _ => True) (as.forM k) := by
  induction as with
  | nil => exact .pure trivial
  | cons a as ih =>
    have hrest := ih fun b hb => hk b (List.mem_cons_of_mem a hb)
    show Preserves P _ (k a >>= fun _ => as.forM k)
    exact (hk a List.mem_cons_self).bind fun _ _ => hrest

theorem mapM {k : α → Edit β} {as : List α} (hk : ∀ a ∈ as, Preserves P (fun _ => True) (k a)) :
    Preserves P (fun _ => True) (as.mapM k) := by
  induction as with
  | nil => exact .pure trivial
  | cons a as ih =>
    rw [List.mapM_cons]
    exact (hk a List.mem_cons_self).bind fun _ _ =>
      (ih fun b hb => hk b (List.mem_cons_of_mem a hb)).bind fun _ _ => .pure trivial

end Preserves

end Edit

namespace Forest.Separated

variable {q : Option NodeId}

theorem parent (hg : f.Separated g) (hc : f.size ≤ c) (h : g.parent c = .ok q) :
    ∀ p ∈ q, f.size ≤ p := by
  rintro p rfl
  unfold Forest.parent find at h
  cases hn : g.get? c with
  | none => simp [hn, bind, Except.bind] at h
  | some n =>
    have hp : n.parent = some p := by simpa [hn, bind, Except.bind, pure, Except.pure] using h
    exact hg.up c p hc (by rw [parent?, hn, Option.bind_some, hp])

theorem children (hg : f.Separated g) (hp : f.size ≤ p) (h : g.children p = .ok ids) :
    ∀ c ∈ ids, f.size ≤ c := by
  unfold Forest.children find at h
  cases hn : g.get? p with
  | none => simp [hn, bind, Except.bind] at h
  | some n =>
    obtain rfl : n.childIds = ids := by
      simpa [hn, bind, Except.bind, pure, Except.pure] using h
    intro c hc
    refine hg.down p c hp ?_
    rwa [childIds, hn]

theorem child (hg : f.Separated g) (hp : f.size ≤ p) {i : Nat} (h : g.child p i = .ok c) :
    f.size ≤ c := by
  unfold Forest.child at h
  cases hids : g.children p with
  | error y => simp [hids, bind, Except.bind] at h
  | ok ids =>
    simp only [hids, bind, Except.bind] at h
    split at h
    · next d hd =>
      cases h
      exact hg.children hp hids c (List.mem_of_getElem? hd)
    · cases h

theorem firstChild (hg : f.Separated g) (hp : f.size ≤ p) (h : g.firstChild p = .ok q) :
    ∀ c ∈ q, f.size ≤ c := by
  unfold Forest.firstChild at h
  cases hids : g.children p with
  | error y => simp [hids, bind, Except.bind] at h
  | ok ids =>
    simp only [hids, bind, Except.bind, pure, Except.pure, Except.ok.injEq] at h
    intro c hc
    exact hg.children hp hids c (List.mem_of_mem_head? (h ▸ hc))

theorem checkParent (hg : f.Separated g) (hc : f.size ≤ c) {operation : String}
    (h : g.checkParent operation c = .ok p) : f.size ≤ p := by
  unfold Forest.checkParent at h
  cases hq : g.parent c with
  | error y => simp [hq, bind, Except.bind] at h
  | ok q =>
    simp only [hq, bind, Except.bind] at h
    split at h
    · cases h
      exact hg.parent hc hq p rfl
    · cases h

theorem wholeListOwner? (hg : f.Separated g) (hids : ∀ c ∈ ids, f.size ≤ c)
    (h : g.wholeListOwner? ids = some p) : f.size ≤ p := by
  unfold Forest.wholeListOwner? at h
  split at h
  · next q hq =>
    split at h
    · obtain rfl : q = p := Option.some_inj.mp h
      obtain ⟨c, hc, hcp⟩ := Option.bind_eq_some_iff.mp hq
      exact hg.up c q (hids c (List.mem_of_mem_head? hc)) hcp
    · cases h
  · cases h

theorem descend (hg : f.Separated g) (hx : f.size ≤ x) (n : Nat) : f.size ≤ g.descend n x := by
  induction n generalizing x with
  | zero => exact hx
  | succ n ih =>
    unfold Forest.descend
    split
    · next c hc => exact ih (hg.down x c hx (List.mem_of_find?_eq_some hc))
    · exact hx

theorem deepChild (hg : f.Separated g) (hx : f.size ≤ x) (h : g.deepChild x = .ok c) :
    f.size ≤ c := by
  unfold Forest.deepChild at h
  cases hn : g.find x with
  | error y => simp [hn, bind, Except.bind] at h
  | ok n =>
    simp only [hn, bind, Except.bind, pure, Except.pure, Except.ok.injEq] at h
    exact h ▸ hg.descend hx g.size

end Forest.Separated

namespace Edit

abbrev Separates (f : Forest) (e : Edit α) : Prop := Preserves f.Separated (fun _ => True) e

variable {i : Nat} {k : α → Edit β}

theorem separates_requireContainer : Separates f (requireContainer x) := .ask fun _ _ _ _ => trivial

section Newer

variable (hx : f.size ≤ x)
include hx

theorem preserves_parent :
    Preserves f.Separated (fun q => ∀ p ∈ q, f.size ≤ p) (ask (·.parent x)) :=
  .ask fun _ _ hg h => hg.parent hx h

theorem separates_setParent {q : Option NodeId} (hq : ∀ p ∈ q, f.size ≤ p) :
    Separates f (setParent x q) :=
  .ask_bind fun _ => .modify fun _ hg => hg.setParent hx hq

theorem separates_changeChildren {u : ChildList → ChildList}
    (hu : ∀ l, ∀ c ∈ (u l).ids, c ∈ l.ids ∨ f.size ≤ c) : Separates f (changeChildren x u) :=
  separates_requireContainer.bind fun _ _ => .modify fun _ hg => hg.changeChildren hx hu

end Newer

end Edit

section Structure

variable {i : Nat} (hp : f.size ≤ p) (hc : f.size ≤ c)

theorem mem_eraseIdx_or {l : ChildList} (hc : c ∈ (l.eraseIdx i).ids) : c ∈ l.ids ∨ f.size ≤ c :=
  .inl (List.mem_of_mem_eraseIdx hc)

theorem mem_insertAt_or (hids : ∀ c ∈ ids, f.size ≤ c) (l : ChildList) :
    ∀ c ∈ (l.insertAt i ids).ids, c ∈ l.ids ∨ f.size ≤ c := by
  intro c hc
  simp only [ChildList.insertAt, List.mem_append] at hc
  rcases hc with (hc | hc) | hc
  · exact .inl (List.mem_of_mem_take hc)
  · exact .inr (hids c hc)
  · exact .inl (List.mem_of_mem_drop hc)

include hp hc in
theorem separates_removeChild : Separates f (removeChild p c) := by
  have hmove : Separates f (do
      let i ← Edit.ask (·.indexIn p c)
      Edit.changeChildren p (·.eraseIdx i)
      Edit.setParent c none : Edit Unit) :=
    .ask_bind fun i =>
      (separates_changeChildren hp fun l c hc => mem_eraseIdx_or hc).bind fun _ _ =>
      separates_setParent hc (by simp)
  refine .ask_bind fun q => ?_
  split
  · exact Preserves.throw.bind (Q := fun _ => True) fun _ _ => hmove
  · exact hmove

include hc in
theorem separates_remove : Separates f (remove c) :=
  (preserves_parent hc).bind fun q hq => by
    cases q with
    | none => exact .pure trivial
    | some p => exact separates_removeChild (hq p rfl) hc

include hp hc in
theorem separates_reparent : Separates f (reparent p c) := by
  have hmove : Separates f (do remove c; Edit.setParent c (some p) : Edit Unit) :=
    (separates_remove hc).bind fun _ _ => separates_setParent hc (by simpa using hp)
  refine Preserves.get.bind fun g hg => ?_
  split
  · exact Preserves.throw.bind (Q := fun _ => True) fun _ _ => hmove
  · exact hmove

include hp hc in
theorem separates_appendChild : Separates f (appendChild p c) :=
  separates_requireContainer.bind fun _ _ => (separates_reparent hp hc).bind fun _ _ =>
    (separates_changeChildren hp fun l d hd => by
      rcases List.mem_append.mp hd with hd | hd
      · exact .inl hd
      · exact .inr (List.mem_singleton.mp hd ▸ hc)).bind fun _ _ =>
      .modify fun g hg => hg.setIndex hc _

include hp in
theorem separates_moveAll {source : NodeId} (hs : f.size ≤ source) :
    Separates f (moveAll source p i) := by
  refine Preserves.get.bind fun g hg => ?_
  have hids : ∀ c ∈ g.childIds source, f.size ≤ c := fun c hc => hg.down source c hs hc
  refine (separates_changeChildren hs fun l c hc => by cases hc).bind fun _ _ => ?_
  refine (separates_changeChildren hp (mem_insertAt_or hids)).bind fun _ _ => ?_
  exact .forM fun c hc => separates_setParent (hids c hc) (by simpa using hp)

include hp in
theorem separates_insertAll (hids : ∀ c ∈ ids, f.size ≤ c) : Separates f (insertAll p i ids) := by
  refine separates_requireContainer.bind fun _ _ => ?_
  split
  · exact .pure trivial
  · refine .ask_bind fun _ => Preserves.get.bind fun g hg => ?_
    split
    · next source hs =>
      split
      · exact .pure trivial
      · exact separates_moveAll hp (hg.wholeListOwner? hids hs)
    · exact (Preserves.forM fun c hc => separates_reparent hp (hids c hc)).bind fun _ _ =>
        separates_changeChildren hp (mem_insertAt_or hids)

include hp in
theorem separates_appendChildren (hids : ∀ c ∈ ids, f.size ≤ c) :
    Separates f (appendChildren p ids) :=
  .ask_bind fun _ => separates_insertAll hp hids

include hp hc in
theorem separates_prependChild : Separates f (prependChild p c) :=
  separates_insertAll hp (by simpa using hc)

include hp in
theorem separates_insertChildren (hids : ∀ c ∈ ids, f.size ≤ c) :
    Separates f (insertChildren p i ids) := by
  refine .ask_bind fun n => ?_
  split
  · exact Preserves.throw.bind (Q := fun _ => True) fun _ _ => separates_insertAll hp hids
  · exact separates_insertAll hp hids

include hp hc in
theorem separates_replaceChild {new : NodeId} (hnew : f.size ≤ new) :
    Separates f (replaceChild p c new) := by
  have hmove : Separates f (do
      remove new
      let i ← Edit.ask (·.indexIn p c)
      Edit.changeChildren p (·.replaceAt i new)
      Edit.setParent new (some p)
      modify (·.setIndex new i)
      Edit.setParent c none : Edit Unit) := by
    refine (separates_remove hnew).bind fun _ _ => .ask_bind fun i => ?_
    refine (separates_changeChildren hp fun l d hd => ?_).bind fun _ _ => ?_
    · rcases List.mem_or_eq_of_mem_set hd with hd | rfl
      · exact .inl hd
      · exact .inr hnew
    · refine (separates_setParent hnew (by simpa using hp)).bind fun _ _ => ?_
      exact (Preserves.modify fun g hg => hg.setIndex hnew i).bind fun _ _ =>
        separates_setParent hc (by simp)
  have habove : Separates f (do
      if (← get).isAbove new p then throw (.unmet (.replacesAncestor new))
      remove new
      let i ← Edit.ask (·.indexIn p c)
      Edit.changeChildren p (·.replaceAt i new)
      Edit.setParent new (some p)
      modify (·.setIndex new i)
      Edit.setParent c none : Edit Unit) := by
    refine Preserves.get.bind fun g _ => ?_
    split
    · exact Preserves.throw.bind (Q := fun _ => True) fun _ _ => hmove
    · exact hmove
  unfold replaceChild
  split
  · exact .pure trivial
  · refine .ask_bind fun q => ?_
    split
    · exact Preserves.throw.bind (Q := fun _ => True) fun _ _ => habove
    · exact habove

include hc in
theorem preserves_checkParent {operation : String} :
    Preserves f.Separated (fun p => f.size ≤ p) (Edit.ask (·.checkParent operation c)) :=
  .ask fun _ _ hg h => hg.checkParent hc h

include hc in
theorem separates_replaceWith {new : NodeId} (hnew : f.size ≤ new) :
    Separates f (replaceWith c new) :=
  (preserves_checkParent hc).bind fun _ hp => separates_replaceChild hp hc hnew

include hc in
theorem separates_siblingIndex : Separates f (siblingIndex c) := by
  refine (preserves_parent hc).bind fun q hq => ?_
  cases q with
  | none => exact .ask_bind fun _ => .pure trivial
  | some p =>
    exact (Preserves.modify fun g hg => hg.settle (hq p rfl)).bind fun _ _ =>
      .ask_bind fun _ => .pure trivial

include hc in
theorem separates_insertBeside {side : Side} {sibling : NodeId} (hs : f.size ≤ sibling) :
    Separates f (insertBeside side c sibling) := by
  refine (preserves_checkParent hc).bind fun p hp => ?_
  have hrest :
      Separates f (do insertAll p ((← siblingIndex c) + side.offset) [sibling] : Edit Unit) :=
    (separates_siblingIndex hc).bind fun _ _ => separates_insertAll hp (by simpa using hs)
  split
  · exact .pure trivial
  · refine .ask_bind fun q => ?_
    split
    · exact (separates_removeChild hp hs).bind fun _ _ => hrest
    · exact hrest

include hc in
theorem preserves_children :
    Preserves f.Separated (fun ids => ∀ d ∈ ids, f.size ≤ d) (Edit.ask (·.children c)) :=
  .ask fun _ _ hg h => hg.children hc h

include hc in
theorem separates_unwrap : Separates f (unwrap c) :=
  (preserves_checkParent hc).bind fun _ hp => (preserves_children hc).bind fun _ hids =>
    (separates_siblingIndex hc).bind fun _ _ => (separates_insertAll hp hids).bind fun _ _ =>
      (separates_removeChild hp hc).bind fun _ _ => .pure trivial

include hc in
theorem preserves_found :
    Preserves f.Separated (fun n => ∀ d ∈ n.childIds, f.size ≤ d) (Edit.ask (·.find c)) := by
  refine .ask fun g n hg hn d hd => hg.down c d hc ?_
  rwa [childIds, find_eq_ok_iff.mp hn]

include hc in
theorem separates_removeChildren : Separates f (removeChildren c) := by
  refine (preserves_found hc).bind fun n hn => ?_
  split
  · next l hl =>
    obtain ⟨k, hk, hl⟩ := Option.bind_eq_some_iff.mp hl
    have hids : n.childIds = l.ids := by simp [Node.childIds, hk, Container.childList, hl]
    refine (Preserves.modify fun g hg => hg.changeChildren hc fun l d hd => by cases hd).bind
      fun _ _ => ?_
    exact .forM fun d hd => separates_setParent (hn d (hids ▸ hd)) (by simp)
  · exact .pure trivial

end Structure

section OneNode

variable (hx : f.size ≤ x)
include hx

theorem separates_changeAttributes {u : Attributes → Attributes} :
    Separates f (modify (·.changeAttributes x u) : Edit Unit) :=
  .modify fun _ hg => hg.mapAttributes hx _

theorem separates_changeExisting {u : Attributes → Attributes} :
    Separates f (modify (·.changeExisting x u) : Edit Unit) :=
  .modify fun _ hg => hg.mapAttributes hx _

theorem separates_setOutputRules {output : OutputRules} :
    Separates f (setOutputRules x output) := by
  refine (preserves_found hx).bind fun n hn => ?_
  split
  · next cases old inner hb =>
    refine .modify fun g hg => hg.modify hx (fun _ _ hp => .inl hp) fun m c hc => .inr (hn c ?_)
    rw [Node.childIds, hb]
    exact hc
  · exact .throw

theorem separates_setAttribute {key value : String} : Separates f (setAttribute x key value) :=
  .ask_bind fun _ => separates_requireContainer.bind fun _ _ => separates_changeAttributes hx

theorem separates_setBooleanAttribute {key : String} {on : Bool} :
    Separates f (setBooleanAttribute x key on) :=
  .ask_bind fun _ => separates_requireContainer.bind fun _ _ => separates_changeAttributes hx

theorem separates_removeAttribute {key : String} : Separates f (removeAttribute x key) := by
  unfold removeAttribute
  split
  · exact .pure trivial
  · exact .ask_bind fun _ => separates_changeExisting hx

theorem separates_clearAttributes : Separates f (clearAttributes x) :=
  .ask_bind fun _ => separates_changeExisting hx

theorem separates_openAttributes : Separates f (openAttributes x) :=
  separates_requireContainer.bind fun _ _ => (separates_changeAttributes hx).bind fun _ _ =>
    .ask_bind fun _ => .pure trivial

theorem separates_setBaseUri {base : String} : Separates f (setBaseUri x base) :=
  .ask_bind fun n => by
    split
    · exact separates_changeAttributes hx
    · exact .pure trivial

theorem separates_setUserData {key : String} {value : Option Datum} :
    Separates f (setUserData x key value) :=
  .ask_bind fun as => by
    split
    · exact .pure trivial
    · exact separates_requireContainer.bind fun _ _ => separates_changeAttributes hx

theorem separates_setSourceRange {start stop : SourceRange} :
    Separates f (setSourceRange x start stop) :=
  .ask_bind fun _ => .modify fun _ hg =>
    hg.modify hx (fun _ _ hp => .inl hp) fun _ _ hc => .inl hc

theorem preserves_nextSibling :
    Preserves f.Separated (fun q => ∀ c ∈ q, f.size ≤ c) (nextSibling x) := by
  refine (preserves_parent hx).bind fun q hq => ?_
  cases q with
  | none => exact .pure (by simp)
  | some p =>
    refine (separates_siblingIndex hx).bind fun i _ => Preserves.get.bind fun g hg =>
      .pure fun c hc => ?_
    exact hg.down p c (hq p rfl) (List.mem_of_getElem? hc)

end OneNode

end MarkupForest
