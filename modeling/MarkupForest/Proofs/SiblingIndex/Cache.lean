import MarkupForest.Proofs.SiblingIndex.IndexFree

namespace MarkupForest

open Edit Forest

variable {f g : Forest} {p c id a b : NodeId} {ids : List NodeId} {i : Nat}

theorem indexFree_appendChild : IndexFree (appendChild p c) :=
  checksFirst_appendChild.indexFree safe_appendChild (fun _ => checkAppend_bare) (fun _ => rfl)
    fun _ _ h => h.detach.attach

theorem indexFree_insertAll : IndexFree (insertAll p i ids) :=
  checksFirst_insertAll.indexFree safe_insertAll (fun _ => checkInsert_bare) (fun _ => rfl)
    fun _ _ h => h.insertIds

theorem indexFree_remove : IndexFree (remove id) := by
  refine checksFirst_remove.indexFree safe_remove (fun f => ?_) (fun _ => rfl) fun _ _ h => h.detach
  rw [find_bare]
  cases f.find id <;> rfl

theorem indexFree_replaceWith {new : NodeId} : IndexFree (replaceWith id new) := by
  refine checksFirst_replaceWith.indexFree safe_replaceWith (fun _ => by simp) (fun _ => rfl)
    fun f g h => ?_
  unfold replaceMove
  rw [← h.parent?_eq]
  split
  · split
    · exact h
    · exact h.exchange
  · exact h

theorem indexFree_insertBeside {side : Side} {sibling : NodeId} :
    IndexFree (insertBeside side id sibling) := by
  refine (checksFirst_insertBeside side).indexFree safe_insertBeside
    (fun _ => by simp) (fun _ => rfl)
    fun f g h => ?_
  unfold besideMove
  rw [← h.parent?_eq (x := id), ← h.parent?_eq (x := sibling)]
  cases f.parent? id with
  | none => exact h
  | some p =>
    dsimp only
    by_cases hs : sibling = id
    · rw [if_pos hs, if_pos hs]
      exact h
    · rw [if_neg hs, if_neg hs]
      by_cases hp : f.parent? sibling = some p
      · rw [if_pos hp, if_pos hp, ← h.detach.childIds_eq]
        exact h.detach.settle.insertIds
      · rw [if_neg hp, if_neg hp, ← h.childIds_eq]
        exact h.settle.insertIds

theorem indexFree_unwrap : IndexFree (unwrap id) := by
  refine checksFirst_unwrap.indexFree safe_unwrap (fun _ => by simp)
    (fun _ => by simp) fun f g h => ?_
  unfold unwrapMove
  rw [← h.parent?_eq]
  cases f.parent? id with
  | none => exact h
  | some p =>
    dsimp only
    rw [← h.childIds_eq, ← h.childIds_eq]
    exact h.settle.insertIds.detach

theorem indexFree_removeChildren : IndexFree (removeChildren id) := by
  refine checksFirst_removeChildren.indexFree safe_removeChildren (fun f => ?_) (fun _ => rfl)
    fun _ _ h => h.clearChildren
  rw [find_bare]
  cases f.find id <;> rfl

theorem indexFree_replaceChild {old new : NodeId} : IndexFree (replaceChild p old new) := by
  by_cases hne : old = new
  · subst hne
    refine ⟨safe_replaceChild, fun f g _ _ _ _ _ => ?_, fun f g _ _ _ _ h => ?_⟩
    · rw [answer_ok replaceChild_self, answer_ok replaceChild_self]
    · rwa [after_ok replaceChild_self, after_ok replaceChild_self]
  · have hc : ChecksFirst (replaceChild p old new) (·.checkReplace p old new) (fun _ => ())
        (·.exchange p old new) :=
      .of_checked fun _ hf => replaceChild_eq hf hne
    exact hc.indexFree safe_replaceChild (fun _ => checkReplace_bare) (fun _ => rfl)
      fun _ _ h => h.exchange

theorem indexFree_restructuring (r : Restructuring) : IndexFree r.run := by
  cases r with
  | appendChild parent child => exact indexFree_appendChild.map
  | appendChildren parent ids =>
    exact ((IndexFree.ask fun _ => childCount_bare).bind fun _ => indexFree_insertAll).map
  | prependChild parent child => exact indexFree_insertAll.map
  | insertChildren parent index ids =>
    refine IndexFree.map ((IndexFree.ask fun _ => childCount_bare).bind fun count => ?_)
    split
    · exact IndexFree.throw.bind fun _ => indexFree_insertAll
    · exact indexFree_insertAll
  | replaceWith id replacement => exact indexFree_replaceWith.map
  | insertBeside side id sibling => exact indexFree_insertBeside.map
  | unwrap id => exact indexFree_unwrap.map
  | remove id => exact indexFree_remove.map
  | removeChildren id => exact indexFree_removeChildren.map

def lookBeside (id : NodeId) (k : NodeId → Nat → Forest → Option NodeId) :
    Edit (Option NodeId) := do
  match ← ask (·.parent id) with
  | some p =>
    let i ← siblingIndex id
    let f ← get
    return k p i f
  | none => return none

theorem lookBeside_child {k : NodeId → Nat → Forest → Option NodeId} (hf : f.WellFormed)
    (hp : f.parent? id = some p) :
    lookBeside id k f = .ok (k p ((f.childIds p).idxOf id) (f.settle p)) (f.settle p) := by
  rw [lookBeside, bind_ok (ask_ok (parent_of_lt (lt_of_parent? hp))), hp]
  dsimp only
  rw [bind_ok (siblingIndex_child hf hp), bind_ok get_eq, pure_eq]

theorem lookBeside_root {k : NodeId → Nat → Forest → Option NodeId} (hid : id < f.size)
    (hp : f.parent? id = none) : lookBeside id k f = .ok none f := by
  rw [lookBeside, bind_ok (ask_ok (parent_of_lt hid)), hp]
  rfl

theorem lookBeside_missing {k : NodeId → Nat → Forest → Option NodeId} (hid : f.size ≤ id) :
    lookBeside id k f = .error (.noSuchNode id) f := by
  rw [lookBeside, bind_error (ask_error (parent_of_size_le hid))]

theorem after_lookBeside {k : NodeId → Nat → Forest → Option NodeId} (hf : f.WellFormed) :
    ((lookBeside id k).after f).Alike f := by
  by_cases hid : id < f.size
  · cases hp : f.parent? id with
    | some p =>
      rw [after_ok (lookBeside_child hf hp)]
      exact Alike.of_settle
    | none =>
      rw [after_ok (lookBeside_root hid hp)]
      exact .refl f
  · rw [after_error (lookBeside_missing (Nat.le_of_not_lt hid))]
    exact .refl f

theorem indexFree_lookBeside {k : NodeId → Nat → Forest → Option NodeId}
    (hk : ∀ p i f, k p i f.bare = k p i f) : IndexFree (lookBeside id k) := by
  refine ⟨?_, fun f g hf hg _ _ h => ?_, fun f g hf hg _ _ h => ?_⟩
  · refine Safe.ask.bind fun p => ?_
    cases p with
    | none => exact Safe.pure
    | some p => exact safe_siblingIndex.bind fun _ => Safe.get.bind fun _ => Safe.pure
  · by_cases hid : id < f.size
    · cases hp : f.parent? id with
      | some p =>
        have hpg : g.parent? id = some p := h.parent?_eq ▸ hp
        rw [answer_ok (lookBeside_child hf hp), answer_ok (lookBeside_child hg hpg), h.childIds_eq,
          h.settle.eq_of (hk p _)]
      | none =>
        have hpg : g.parent? id = none := h.parent?_eq ▸ hp
        rw [answer_ok (lookBeside_root hid hp), answer_ok (lookBeside_root (h.size_eq ▸ hid) hpg)]
    · have hmiss := Nat.le_of_not_lt hid
      rw [answer_error (lookBeside_missing hmiss),
        answer_error (lookBeside_missing (h.size_eq ▸ hmiss))]
  · exact (after_lookBeside hf).trans (h.trans (after_lookBeside hg).symm)

theorem nextSibling_eq : nextSibling id = lookBeside id fun p i f => (f.childIds p)[i + 1]? := rfl

theorem previousSibling_eq :
    previousSibling id = lookBeside id fun p i f =>
        if i = 0 then none else (f.childIds p)[i - 1]? :=
  rfl

theorem nextElementSibling_eq :
    nextElementSibling id =
      lookBeside id fun p i f => ((f.childIds p).drop (i + 1)).find? f.isElement := rfl

theorem previousElementSibling_eq :
    previousElementSibling id =
      lookBeside id fun p i f => ((f.childIds p).take i).reverse.find? f.isElement := rfl

theorem SiblingRead.after_alike (r : SiblingRead) (hf : f.WellFormed) :
    (r.run.after f).Alike f := by
  cases r with
  | index id =>
    show ((Answer.count <$> siblingIndex id).after f).Alike f
    rw [after_map]
    exact after_siblingIndex hf
  | next id =>
    show ((Answer.perhaps <$> nextSibling id).after f).Alike f
    rw [after_map, nextSibling_eq]
    exact after_lookBeside hf
  | previous id =>
    show ((Answer.perhaps <$> previousSibling id).after f).Alike f
    rw [after_map, previousSibling_eq]
    exact after_lookBeside hf
  | nextElement id =>
    show ((Answer.perhaps <$> nextElementSibling id).after f).Alike f
    rw [after_map, nextElementSibling_eq]
    exact after_lookBeside hf
  | previousElement id =>
    show ((Answer.perhaps <$> previousElementSibling id).after f).Alike f
    rw [after_map, previousElementSibling_eq]
    exact after_lookBeside hf

theorem SiblingRead.indexFree (r : SiblingRead) (hr : ∀ id, r ≠ .index id) : IndexFree r.run := by
  cases r with
  | index id => exact absurd rfl (hr id)
  | next id => exact IndexFree.map (nextSibling_eq ▸ indexFree_lookBeside fun _ _ _ => by simp)
  | previous id =>
    exact IndexFree.map (previousSibling_eq ▸ indexFree_lookBeside fun _ _ _ => by simp)
  | nextElement id =>
    exact IndexFree.map (nextElementSibling_eq ▸ indexFree_lookBeside fun _ _ _ => by simp)
  | previousElement id =>
    exact IndexFree.map (previousElementSibling_eq ▸ indexFree_lookBeside fun _ _ _ => by simp)

structure IndexFreeReader (reader : FragmentReader) : Prop where
  indexFree : ∀ markup context base, IndexFree (reader markup context base)
  parent : ∀ markup context base f ids g, f.WellFormed → reader markup context base f = .ok ids g →
    ∀ x < f.size, g.parent? x = f.parent? x

theorem indexFreeReader_readFragment (config : ReaderConfig) :
    IndexFreeReader (readFragment config) := by
  refine ⟨fun markup context base => ⟨safe_readFragment, ?_, ?_⟩, ?_⟩
  · intro f g hf hg _ _ h
    by_cases hc : ∀ c ∈ context, c < f.size
    · have hcg : ∀ c ∈ context, c < g.size := fun c hm => h.size_eq ▸ hc c hm
      rw [answer_ok (readFragment_ok _ _ _ hf hc), answer_ok (readFragment_ok _ _ _ hg hcg),
        h.withFragment.childIds_eq, h.size_eq]
    · obtain ⟨c, hm, hlt⟩ : ∃ c ∈ context, ¬ c < f.size := by simpa using hc
      cases hm
      have hmiss := Nat.le_of_not_lt hlt
      rw [answer_error (readFragment_missing hmiss),
        answer_error (readFragment_missing (h.size_eq ▸ hmiss))]
  · intro f g hf hg _ _ h
    by_cases hc : ∀ c ∈ context, c < f.size
    · have hcg : ∀ c ∈ context, c < g.size := fun c hm => h.size_eq ▸ hc c hm
      rw [after_ok (readFragment_ok _ _ _ hf hc), after_ok (readFragment_ok _ _ _ hg hcg)]
      exact h.withFragment
    · obtain ⟨c, hm, hlt⟩ : ∃ c ∈ context, ¬ c < f.size := by simpa using hc
      cases hm
      have hmiss := Nat.le_of_not_lt hlt
      rw [after_error (readFragment_missing hmiss),
        after_error (readFragment_missing (h.size_eq ▸ hmiss))]
      exact h
  · intro markup context base f ids g hf hrun x hx
    by_cases hc : ∀ c ∈ context, c < f.size
    · rw [readFragment_ok _ _ _ hf hc] at hrun
      cases hrun
      exact (hf.withFragment _ _ _ _).1.old.parent?_eq hx
    · obtain ⟨c, hm, hlt⟩ : ∃ c ∈ context, ¬ c < f.size := by simpa using hc
      cases hm
      rw [readFragment_missing (Nat.le_of_not_lt hlt)] at hrun
      cases hrun

section Reader

variable {reader : FragmentReader}

theorem indexFree_placeRemainders {wrapper last : NodeId} :
    IndexFree (placeRemainders wrapper last ids) := by
  induction ids generalizing last with
  | nil => exact IndexFree.pure
  | cons r rs ih =>
    refine indexFree_remove.bind fun _ =>
      IndexFree.get_bind (fun f => by rw [hasParent_bare]) fun f => ?_
    split
    · exact indexFree_insertBeside.bind fun _ => ih
    · exact ih

variable (hr : IndexFreeReader reader)
include hr

omit hr in
theorem indexFree_wrapIn {parent : Option NodeId} : IndexFree (wrapIn id parent ids) := by
  cases ids with
  | nil => exact IndexFree.pure
  | cons wrapper rest =>
    refine IndexFree.get_bind (fun f => by rw [isElement_bare]) fun f => ?_
    split
    · exact IndexFree.pure
    · refine (IndexFree.ask fun _ => deepChild_bare).bind fun innermost => ?_
      have hplace : IndexFree (do
          appendChild innermost id
          placeRemainders wrapper wrapper rest
          return id : Edit NodeId) :=
        indexFree_appendChild.bind fun _ => indexFree_placeRemainders.bind fun _ => IndexFree.pure
      cases parent with
      | none => exact indexFree_remove.bind fun _ => hplace
      | some p => exact indexFree_replaceChild.bind fun _ => hplace

theorem indexFree_wrap {markup : String} : IndexFree (wrap reader id markup) := by
  have hread : IndexFree (do
      let parent ← Edit.ask (·.parent id)
      let ids ← reader markup (some (parent.getD id)) (← Edit.ask (·.baseUri id))
      wrapIn id parent ids : Edit NodeId) :=
    (IndexFree.ask fun _ => parent_bare).bind fun parent =>
      (IndexFree.ask fun _ => baseUri_bare).bind
      fun base => (hr.indexFree markup _ base).bind fun ids => indexFree_wrapIn
  unfold wrap
  split
  · exact IndexFree.throw.bind fun _ => hread
  · exact hread

theorem indexFree_insertMarkupBeside {side : Side} {markup : String} :
    IndexFree (insertMarkupBeside reader side id markup) := by
  -- the reader leaves the node its parent, so that its place is asked for where it has one
  refine IndexFreeOn.bind (Q := fun p f => f.parent? id = some p)
    (IndexFree.ask fun _ => checkParent_bare)
    (fun f p g _ _ hrun => ?_) fun p => ?_
  · obtain ⟨hcheck, rfl⟩ := ask_eq_ok hrun
    exact checkParent_eq_ok hcheck
  refine IndexFreeOn.bind (Q := fun _ f => f.parent? id = some p)
    (IndexFree.ask fun _ => baseUri_bare).weaken (fun f base g _ hp hrun => ?_) fun base => ?_
  · obtain ⟨_, rfl⟩ := ask_eq_ok hrun
    exact hp
  refine IndexFreeOn.bind (Q := fun _ f => f.parent? id = some p)
    (hr.indexFree markup _ base).weaken
    (fun f ids g hf hp hrun => ?_) fun ids => ?_
  · rw [hr.parent _ _ _ f ids g hf hrun id (lt_of_parent? hp), hp]
  exact IndexFreeOn.bind (Q := fun _ _ => True) indexFreeOn_siblingIndex
    (fun _ _ _ _ _ _ => trivial) fun i => indexFree_insertAll

theorem indexFree_readChildrenOf {markup : String} : IndexFree (readChildrenOf reader p markup) :=
  (IndexFree.ask fun _ => checkContainer_bare).bind fun _ =>
    (IndexFree.ask fun _ => baseUri_bare).bind
    fun base => hr.indexFree markup _ base

theorem indexFree_markupEdit (m : MarkupEdit) : IndexFree (m.run reader) := by
  cases m with
  | append parent markup =>
    exact ((indexFree_readChildrenOf hr).bind fun _ => (IndexFree.ask fun _ => childCount_bare).bind
      fun _ => indexFree_insertAll).map
  | prepend parent markup =>
    exact ((indexFree_readChildrenOf hr).bind fun _ => indexFree_insertAll).map
  | insertBeside side id markup => exact (indexFree_insertMarkupBeside hr).map
  | wrap id markup => exact (indexFree_wrap hr).map

end Reader

theorem Question.answer_bare {resolve : Resolver} (q : Question) :
    q.answer resolve f.bare = q.answer resolve f := by
  cases q with
  | kind id =>
    simp only [Question.answer, find_bare]
    cases f.find id <;> simp [Except.map]
  | name id =>
    simp only [Question.answer, find_bare]
    cases f.find id <;> simp [Except.map]
  | normalName id =>
    simp only [Question.answer, find_bare]
    cases f.find id <;> simp [Except.map]
  | value id =>
    simp only [Question.answer, find_bare]
    cases f.find id <;> simp [Except.map]
  | doctype id =>
    simp only [Question.answer, find_bare]
    cases f.find id <;> simp [Except.map]
  | _ => simp [Question.answer]

theorem indexFree_changeAttributes {u : Attributes → Attributes} :
    IndexFree (modify (·.changeAttributes id u) : Edit Unit) :=
  IndexFree.modify (fun _ hf => hf.sameLinks sameLinks_mapAttributes) fun _ _ h => h.mapAttributes

theorem indexFree_changeExisting {u : Attributes → Attributes} :
    IndexFree (modify (·.changeExisting id u) : Edit Unit) :=
  IndexFree.modify (fun _ hf => hf.sameLinks sameLinks_mapAttributes) fun _ _ h => h.mapAttributes

theorem indexFree_find_bind {α : Type} {k : Node → Edit α} (hq : ∀ n, k n.bare = k n)
    (hk : ∀ n, IndexFree (k n)) : IndexFree (Edit.ask (·.find id) >>= k) := by
  have hb : IndexFree (Edit.ask (fun f => (f.find id).map Node.bare)) := IndexFree.ask fun f => by
    rw [find_bare]
    cases f.find id <;> simp [Except.map]
  have heq : (Edit.ask (·.find id) >>= k) =
      (Edit.ask (fun f => (f.find id).map Node.bare) >>= k) := by
    funext f
    cases hfind : f.find id with
    | ok n =>
      rw [bind_ok (ask_ok hfind), bind_ok (ask_ok (a := n.bare) (by rw [hfind]; rfl)), hq]
    | error x =>
      rw [bind_error (ask_error hfind), bind_error (ask_error (x := x) (by rw [hfind]; rfl))]
  rw [heq]
  exact hb.bind hk

theorem indexFree_deepClone : IndexFree (deepClone id) := by
  refine ⟨safe_deepClone, fun f g _ _ _ _ h => ?_, fun f g _ _ _ _ h => ?_⟩
  · have hfind := h.find_map (x := id)
    cases hf : f.find id with
    | ok n =>
      cases hg : g.find id with
      | ok m => rw [answer_ok (deepClone_ok hf), answer_ok (deepClone_ok hg), h.size_eq]
      | error y => simp [hf, hg, Except.map] at hfind
    | error x =>
      cases hg : g.find id with
      | ok m => simp [hf, hg, Except.map] at hfind
      | error y =>
        simp only [hf, hg, Except.map, Except.error.injEq] at hfind
        rw [answer_error (deepClone_error hf), answer_error (deepClone_error hg), hfind]
  · have hfind := h.find_map (x := id)
    cases hf : f.find id with
    | ok n =>
      cases hg : g.find id with
      | ok m =>
        simp only [hf, hg, Except.map, Except.ok.injEq] at hfind
        rw [after_ok (deepClone_ok hf), after_ok (deepClone_ok hg)]
        exact h.copySubtree hfind
      | error y => simp [hf, hg, Except.map] at hfind
    | error x =>
      cases hg : g.find id with
      | ok m => simp [hf, hg, Except.map] at hfind
      | error y =>
        rw [after_error (deepClone_error hf), after_error (deepClone_error hg)]
        exact h

theorem setOutputRules_document (output : OutputRules) {cases : CasePolicy} {rules : OutputRules}
    {inner : Container} {n : Node} (hn : f.find id = .ok n)
    (hb : n.body = .document cases rules inner) :
    setOutputRules id output f =
      .ok () (f.modify id fun n => { n with body := .document cases output inner }) := by
  rw [setOutputRules, bind_ok (ask_ok hn), hb]
  rfl

theorem setOutputRules_other (output : OutputRules) {n : Node} (hn : f.find id = .ok n)
    (hk : n.isDocument = false) :
    setOutputRules id output f = .error (.notDocument n.kind) f := by
  rw [setOutputRules, bind_ok (ask_ok hn)]
  cases hb : n.body with
  | document cases rules inner => simp [Node.isDocument, Node.kind, Body.kind, hb] at hk
  | _ =>
    rw [Node.kind, hb]
    rfl

theorem setOutputRules_error (output : OutputRules) {x : TreeError} (hx : f.find id = .error x) :
    setOutputRules id output f = .error x f := by
  rw [setOutputRules, bind_error (ask_error hx)]

theorem indexFree_setOutputRules {output : OutputRules} : IndexFree (setOutputRules id output) := by
  have hcase : ∀ ⦃f g⦄, f.Alike g →
      (setOutputRules id output).answer f = (setOutputRules id output).answer g ∧
        ((setOutputRules id output).after f).Alike ((setOutputRules id output).after g) := by
    intro f g h
    have hfind := h.find_map (x := id)
    cases hf : f.find id with
    | error x =>
      cases hg : g.find id with
      | ok m => simp [hf, hg, Except.map] at hfind
      | error y =>
        simp only [hf, hg, Except.map, Except.error.injEq] at hfind
        have hrf := setOutputRules_error output hf
        have hrg := setOutputRules_error output hg
        rw [answer_error hrf, answer_error hrg, after_error hrf, after_error hrg, hfind]
        exact ⟨rfl, h⟩
    | ok n =>
      cases hg : g.find id with
      | error y => simp [hf, hg, Except.map] at hfind
      | ok m =>
        simp only [hf, hg, Except.map, Except.ok.injEq] at hfind
        have hdoc : n.isDocument = m.isDocument := by
          rw [← Node.isDocument_bare, hfind, Node.isDocument_bare]
        cases hd : n.isDocument with
        | false =>
          have hkind : n.kind = m.kind := by rw [← Node.kind_bare, hfind, Node.kind_bare]
          have hrf := setOutputRules_other output hf hd
          have hrg := setOutputRules_other output hg (hdoc ▸ hd)
          rw [answer_error hrf, answer_error hrg, after_error hrf, after_error hrg, hkind]
          exact ⟨rfl, h⟩
        | true =>
          obtain ⟨cases, rules, inner, hn⟩ := Node.body_of_isDocument hd
          obtain ⟨cases', rules', inner', hm⟩ := Node.body_of_isDocument (hdoc ▸ hd)
          have hrf := setOutputRules_document output hf hn
          have hrg := setOutputRules_document output hg hm
          rw [answer_ok hrf, answer_ok hrg, after_ok hrf, after_ok hrg]
          refine ⟨rfl, ext fun y => ?_⟩
          rw [get?_bare, get?_bare, get?_modify, get?_modify]
          by_cases hy : id = y
          · subst hy
            rw [if_pos rfl, if_pos rfl, find_eq_ok_iff.mp hf, find_eq_ok_iff.mp hg]
            obtain ⟨body, parent, index, ranges⟩ := n
            obtain ⟨body', parent', index', ranges'⟩ := m
            subst hn hm
            simp only [Node.bare, Body.mapContainer, Node.mk.injEq,
              Body.document.injEq, Option.map_some, Option.some.injEq] at hfind ⊢
            exact ⟨⟨hfind.1.1, trivial, hfind.1.2.2⟩, hfind.2.1, trivial, hfind.2.2.2⟩
          · rw [if_neg hy, if_neg hy]
            exact h.map_get?
  refine ⟨safe_setOutputRules, fun f g _ _ _ _ h => (hcase h).1, fun f g _ _ _ _ h => (hcase h).2⟩

theorem indexFree_operation {resolve : Resolver} {reader : FragmentReader}
    (hr : IndexFreeReader reader)
    (o : Operation) (ho : ∀ id, o ≠ .look (.index id)) : IndexFree (o.run resolve reader) := by
  cases o with
  | ask q => exact IndexFree.ask fun _ => q.answer_bare
  | look r => exact r.indexFree fun id he => ho id (by rw [he])
  | createDocument cases output base => exact (IndexFree.create rfl rfl).map
  | createElement tag => exact (IndexFree.create rfl rfl).map
  | createText s => exact (IndexFree.create rfl rfl).map
  | createComment s => exact (IndexFree.create rfl rfl).map
  | createData s => exact (IndexFree.create rfl rfl).map
  | createDoctype d => exact (IndexFree.create rfl rfl).map
  | readDocument config markup base =>
    refine IndexFree.map ⟨fun f hf => (hf.plant config markup base).1, fun f g _ _ _ _ h => ?_,
      fun f g _ _ _ _ h => h.plant⟩
    exact congrArg Except.ok h.size_eq
  | readFragment markup context base => exact (hr.indexFree markup context base).map
  | restructure r => exact indexFree_restructuring r
  | insertMarkup m => exact indexFree_markupEdit hr m
  | shallowClone id =>
    exact (indexFree_find_bind (fun n => by rw [Node.copy_bare]) fun n =>
      IndexFree.create rfl Node.childIds_copy).map
  | deepClone id => exact indexFree_deepClone.map
  | cloneChildren id =>
    exact ((IndexFree.ask fun _ => children_bare).bind fun ids =>
      IndexFree.mapM (fun _ => indexFree_deepClone) ids).map
  | setOutputRules id output => exact indexFree_setOutputRules.map
  | setAttribute id key value =>
    exact ((IndexFree.ask fun _ => writingKey_bare).bind fun _ =>
      (IndexFree.ask fun _ => checkContainer_bare).bind fun _ => indexFree_changeAttributes).map
  | setBooleanAttribute id key on =>
    exact ((IndexFree.ask fun _ => writingKey_bare).bind fun _ =>
      (IndexFree.ask fun _ => checkContainer_bare).bind fun _ => indexFree_changeAttributes).map
  | removeAttribute id key =>
    refine IndexFree.map ?_
    unfold removeAttribute
    split
    · exact IndexFree.pure
    · exact indexFree_find_bind (fun _ => rfl) fun _ => indexFree_changeExisting
  | clearAttributes id =>
    exact (indexFree_find_bind (fun _ => rfl) fun _ => indexFree_changeExisting).map
  | reviseAttributes id change =>
    have hopen : IndexFree (openAttributes id) :=
      (IndexFree.ask fun _ => checkContainer_bare).bind fun _ =>
        indexFree_changeAttributes.bind fun _ =>
        (IndexFree.ask fun _ => attributes_bare).bind fun _ => IndexFree.pure
    exact hopen.bind fun _ => indexFree_changeAttributes.bind fun _ => IndexFree.pure
  | setBaseUri id base =>
    refine IndexFree.map (indexFree_find_bind (fun n => by rw [Node.kind_bare]) fun n => ?_)
    split
    · exact indexFree_changeAttributes
    · exact IndexFree.pure
  | setUserData id key value =>
    refine IndexFree.map ((IndexFree.ask fun _ => attributes_bare).bind fun as => ?_)
    split
    · exact IndexFree.pure
    · exact (IndexFree.ask fun _ => checkContainer_bare).bind fun _ => indexFree_changeAttributes
  | setSourceRange id start stop =>
    exact (indexFree_find_bind (fun _ => rfl) fun _ =>
      IndexFree.modify (fun _ hf => hf.sameLinks sameLinks_setRanges) fun _ _ h => h.setRanges).map

inductive InterleavedStep where
  | own (o : Operation)
  | peek (r : SiblingRead)

def InterleavedStep.isOwn : InterleavedStep → Bool
  | .own _ => true
  | .peek _ => false

def Operation.asksRootPlace (f : Forest) : Operation → Bool
  | .look (.index id) => match f.parent id with
    | .ok none => true
    | _ => false
  | _ => false

/-- The place of a node that hangs nowhere is left out. -/
def answers (resolve : Resolver) (reader : FragmentReader) :
    List InterleavedStep → Forest → List (Option (Except TreeError Answer))
  | [], _ => []
  | .own o :: steps, f =>
    (if o.asksRootPlace f then none else some ((o.run resolve reader).answer f)) ::
      answers resolve reader steps ((o.run resolve reader).after f)
  | .peek r :: steps, f => answers resolve reader steps (r.run.after f)

theorem Operation.asksRootPlace_eq {o : Operation} (h : f.Alike g) :
    o.asksRootPlace f = o.asksRootPlace g := by
  refine h.eq_of (q := fun f => o.asksRootPlace f) fun f => ?_
  unfold Operation.asksRootPlace
  cases o with
  | look r => cases r <;> simp
  | _ => rfl

theorem siblingIndex_answer_eq (hf : f.WellFormed) (hg : g.WellFormed) (h : f.Alike g)
    (hp : f.parent id ≠ .ok none) : (siblingIndex id).answer f = (siblingIndex id).answer g := by
  by_cases hid : id < f.size
  · cases hpar : f.parent? id with
    | some p => exact indexFreeOn_siblingIndex.answer hf hg hpar (h.parent?_eq ▸ hpar) h
    | none => exact absurd (by rw [parent_of_lt hid, hpar]) hp
  · have hmiss := Nat.le_of_not_lt hid
    rw [answer_error (siblingIndex_missing hmiss),
      answer_error (siblingIndex_missing (h.size_eq ▸ hmiss))]

section Sequences

variable (resolve : Resolver) {reader : FragmentReader} (hr : IndexFreeReader reader)
include hr

theorem operation_answer_eq (o : Operation) (hf : f.WellFormed) (hg : g.WellFormed)
    (h : f.Alike g) (ho : o.asksRootPlace f = false) :
    (o.run resolve reader).answer f = (o.run resolve reader).answer g := by
  by_cases hi : ∃ id, o = .look (.index id)
  · obtain ⟨id, rfl⟩ := hi
    show (Answer.count <$> siblingIndex id).answer f = (Answer.count <$> siblingIndex id).answer g
    rw [answer_map, answer_map, siblingIndex_answer_eq hf hg h]
    intro hp
    simp [Operation.asksRootPlace, hp] at ho
  · exact (indexFree_operation hr o fun id he => hi ⟨id, he⟩).answer hf hg trivial trivial h

theorem operation_after_alike (o : Operation) (hf : f.WellFormed) (hg : g.WellFormed)
    (h : f.Alike g) : ((o.run resolve reader).after f).Alike ((o.run resolve reader).after g) := by
  by_cases hi : ∃ id, o = .look (.index id)
  · obtain ⟨id, rfl⟩ := hi
    exact ((SiblingRead.index id).after_alike hf).trans
      (h.trans ((SiblingRead.index id).after_alike hg).symm)
  · exact (indexFree_operation hr o fun id he => hi ⟨id, he⟩).after hf hg trivial trivial h

theorem safe_operation_of_indexFreeReader (o : Operation) : (o.run resolve reader).Safe :=
  safe_operation (fun markup context base => (hr.indexFree markup context base).safe) o

theorem answers_filter (steps : List InterleavedStep) (hf : f.WellFormed) (hg : g.WellFormed)
    (h : f.Alike g) :
    answers resolve reader steps f =
      answers resolve reader (steps.filter InterleavedStep.isOwn) g := by
  induction steps generalizing f g with
  | nil => rfl
  | cons s steps ih =>
    cases s with
    | own o =>
      have hrest := ih (safe_operation_of_indexFreeReader resolve hr o hf)
          (safe_operation_of_indexFreeReader resolve hr o hg)
        (operation_after_alike resolve hr o hf hg h)
      rw [List.filter_cons_of_pos rfl]
      unfold answers
      rw [hrest, ← Operation.asksRootPlace_eq h]
      cases ho : o.asksRootPlace f with
      | true => rfl
      | false => rw [operation_answer_eq resolve hr o hf hg h ho]
    | peek r =>
      rw [List.filter_cons_of_neg (by simp [InterleavedStep.isOwn])]
      exact ih (safe_siblingRead r hf) hg ((r.after_alike hf).trans h)

end Sequences

theorem Forest.WellFormed.bare (hf : f.WellFormed) : f.bare.WellFormed where
  mem_iff := by
    intro c p
    rw [childIds_bare, parent?_bare]
    exact hf.mem_iff
  nodup p := by
    rw [childIds_bare]
    exact hf.nodup p
  acyclic := hf.acyclic.sub fun x q h => by rwa [parent?_bare] at h
  noted := by
    intro p l hl hx
    rw [ids_of_childList?_bare hl hx]
    nofun

theorem place_iff (hf : f.WellFormed) :
    (f.childIds p)[i]? = some a ↔ f.parent? a = some p ∧ (f.childIds p).idxOf a = i := by
  constructor
  · intro h
    have hm := List.mem_of_getElem? h
    obtain ⟨hlt, hget⟩ := List.getElem?_eq_some_iff.mp h
    exact ⟨hf.mem_iff.mp hm, by rw [← hget, (hf.nodup p).idxOf_getElem i hlt]⟩
  · rintro ⟨hp, rfl⟩
    exact List.getElem?_idxOf (hf.mem_iff.mpr hp)

theorem lookBeside_answer_iff {k : NodeId → Nat → Forest → Option NodeId} (hf : f.WellFormed)
    (hk : ∀ p i f, k p i f.bare = k p i f) :
    (lookBeside a k).answer f = .ok (some b) ↔
      ∃ p i, (f.childIds p)[i]? = some a ∧ k p i f = some b := by
  cases hp : f.parent? a with
  | some p =>
    rw [answer_ok (lookBeside_child hf hp),
      (Alike.of_settle (f := f) (p := p)).eq_of (q := k p _) (hk p _)]
    constructor
    · intro h
      exact ⟨p, _, (place_iff hf).mpr ⟨hp, rfl⟩, Except.ok.inj h⟩
    · rintro ⟨q, i, hq, hb⟩
      obtain ⟨hpar, rfl⟩ := (place_iff hf).mp hq
      rw [hp] at hpar
      cases hpar
      rw [hb]
  | none =>
    have hno : ¬ ∃ p i, (f.childIds p)[i]? = some a ∧ k p i f = some b := by
      rintro ⟨p, i, hq, _⟩
      rw [((place_iff hf).mp hq).1] at hp
      cases hp
    by_cases ha : a < f.size
    · rw [answer_ok (lookBeside_root ha hp)]
      exact ⟨fun h => (by simp at h), fun h => absurd h hno⟩
    · rw [answer_error (lookBeside_missing (Nat.le_of_not_lt ha))]
      exact ⟨fun h => (by cases h), fun h => absurd h hno⟩

theorem nextSibling_iff_previousSibling (hf : f.WellFormed) :
    (nextSibling a).answer f = .ok (some b) ↔ (previousSibling b).answer f = .ok (some a) := by
  rw [nextSibling_eq, previousSibling_eq, lookBeside_answer_iff hf fun _ _ _ => by simp,
    lookBeside_answer_iff hf fun _ _ _ => by simp]
  constructor
  · rintro ⟨p, i, ha, hb⟩
    exact ⟨p, i + 1, hb, by simpa using ha⟩
  · rintro ⟨p, i, hb, ha⟩
    cases i with
    | zero => simp at ha
    | succ i => exact ⟨p, i, by simpa using ha, hb⟩

theorem noted_places_are_a_cache (h : Reachable f) :
    (∀ p l, f.childList? p = some l → l.indexed = true →
      ∀ (i : Nat) c, l.ids[i]? = some c → f.index? c = some i) ∧
    (∀ n p, f.parent? n = some p → ∃ l i, f.childList? p = some l ∧ l.ids[i]? = some n ∧
      l.ids.idxOf? n = some i ∧ (l.indexed = true → f.index? n = some i) ∧
      f.indexIn p n = .ok i ∧ (siblingIndex n).answer f = .ok i ∧
      (nextSibling n).answer f = .ok l.ids[i + 1]? ∧
      (previousSibling n).answer f = .ok (if i = 0 then none else l.ids[i - 1]?)) ∧
    (∀ a b, (nextSibling a).answer f = .ok (some b) ↔ (previousSibling b).answer f = .ok (some a)) ∧
    (∀ config, IndexFreeReader (readFragment config)) ∧
    ∀ resolve reader, IndexFreeReader reader →
      (∀ o : Operation, o.asksRootPlace f = false →
        (o.run resolve reader).answer f = (o.run resolve reader).answer f.bare ∧
          ((o.run resolve reader).after f).bare = ((o.run resolve reader).after f.bare).bare) ∧
      ∀ steps, answers resolve reader steps f =
        answers resolve reader (steps.filter InterleavedStep.isOwn) f := by
  have hf := h.wellFormed
  refine ⟨fun p l hl hx i c hc => hf.noted hl hx hc, fun n p hp => ?_,
    fun a b => nextSibling_iff_previousSibling hf, indexFreeReader_readFragment,
    fun resolve reader hr => ⟨fun o ho => ?_, fun steps => ?_⟩⟩
  · obtain ⟨l, hl, hm⟩ := hf.exists_childList? hp
    have hids := childIds_of_childList? hl
    have hplace : l.ids[l.ids.idxOf n]? = some n := List.getElem?_idxOf hm
    have hscan : l.ids.idxOf? n = some (l.ids.idxOf n) := by
      obtain ⟨j, hj⟩ := Option.isSome_iff_exists.mp (List.isSome_idxOf?.mpr hm)
      rw [List.idxOf_eq_getD_idxOf?, hj]
      rfl
    refine ⟨l, _, hl, hplace, hscan, fun hx => hf.noted hl hx hplace, ?_, ?_, ?_, ?_⟩
    · rw [indexIn_eq (hf.placed n) hp, hids]
    · rw [answer_ok (siblingIndex_child hf hp), hids]
    · rw [nextSibling_eq, answer_ok (lookBeside_child hf hp), childIds_settle, hids]
    · rw [previousSibling_eq, answer_ok (lookBeside_child hf hp), childIds_settle, hids]
  · have hb := hf.bare
    exact ⟨operation_answer_eq resolve hr o hf hb Alike.of_bare ho,
      operation_after_alike resolve hr o hf hb Alike.of_bare⟩
  · exact answers_filter resolve hr steps hf hf (.refl f)

theorem noted_places_are_a_cache_hungPair :
    Reachable hungPair ∧ IndexFreeReader (readFragment .html) ∧
      answers Url.resolve (readFragment .html) [.peek (.index 1), .own (.restructure (.remove 1)),
        .peek (.next 1), .own (.look (.index 1)), .own (.look (.next 1))] hungPair =
      answers Url.resolve (readFragment .html)
        [.own (.restructure (.remove 1)), .own (.look (.index 1)),
        .own (.look (.next 1))] hungPair := by
  have h : Reachable hungPair := reaches_runAll _
  have hr := (noted_places_are_a_cache h).2.2.2.1 .html
  exact ⟨h, hr, ((noted_places_are_a_cache h).2.2.2.2 _ _ hr).2 _⟩

end MarkupForest
