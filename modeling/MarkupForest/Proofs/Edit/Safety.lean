import MarkupForest.Forest.Operation
import MarkupForest.Forest.Tour
import MarkupForest.Proofs.Copying.Queue

namespace MarkupForest

open Edit Forest

variable {α β : Type} {e : Edit α} {k : α → Edit β} {f : Forest} {c p id : NodeId}
  {ids : List NodeId} {i : Nat}

namespace Edit

def Safe (e : Edit α) : Prop := ∀ ⦃f⦄, f.WellFormed → (e.after f).WellFormed

namespace Safe

theorem bind (he : e.Safe) (hk : ∀ a, (k a).Safe) : (e >>= k).Safe := by
  intro f hf
  have hg := he hf
  cases hrun : e f with
  | ok a g =>
    rw [after_ok hrun] at hg
    rw [after, bind_ok hrun]
    exact hk a hg
  | error x g =>
    rw [after_error hrun] at hg
    rwa [after_error (bind_error hrun)]

theorem map {m : α → β} (he : e.Safe) : (m <$> e).Safe := fun f hf => by
  rw [after_map]
  exact he hf

theorem pure {a : α} : (pure a : Edit α).Safe := fun _ hf => hf

theorem throw {x : TreeError} : (throw x : Edit α).Safe := fun _ hf => hf

theorem get : (get : Edit Forest).Safe := fun _ hf => hf

theorem ask {q : Forest → Except TreeError α} : (ask q).Safe := by
  intro f hf
  cases hq : q f with
  | ok a => rwa [after_ok (ask_ok hq)]
  | error x => rwa [after_error (ask_error hq)]

theorem create {n : Node} (hp : n.parent = none) (hn : n.childIds = []) : (create n).Safe :=
  fun _ hf => hf.push hp hn

theorem modify {m : Forest → Forest} (hm : ∀ f, f.WellFormed → (m f).WellFormed) :
    (modify m : Edit Unit).Safe :=
  fun f hf => hm f hf

theorem checked {a : α} {check : Forest → Except TreeError Unit} {move : Forest → Forest}
    (he : ∀ f, f.WellFormed → e f = checked (check f) a f (move f))
    (hm : ∀ f, f.WellFormed → check f = .ok () → (move f).WellFormed) : e.Safe := by
  intro f hf
  have hrun := he f hf
  unfold Edit.checked at hrun
  split at hrun
  · next hc =>
    rw [after_ok hrun]
    exact hm f hf hc
  · rwa [after_error hrun]

theorem mapM {t : α → Edit β} (ht : ∀ a, (t a).Safe) (as : List α) : (as.mapM t).Safe := by
  induction as with
  | nil => exact pure
  | cons a as ih =>
    rw [List.mapM_cons]
    exact (ht a).bind fun b => ih.bind fun bs => pure

end Safe

end Edit

theorem safe_requireContainer : (requireContainer id).Safe := Safe.ask

theorem safe_removeChild : (removeChild p c).Safe := by
  intro f hf
  by_cases hp : f.parent? c = some p
  · rw [after_ok (removeChild_ok (hf.placed c) hp)]
    exact hf.detach c
  · by_cases hc : c < f.size
    · rw [after, removeChild, bind_ok (ask_ok (parent_of_lt hc)), if_pos hp]
      exact hf
    · rw [after, removeChild, bind_error (ask_error (parent_of_size_le (Nat.le_of_not_lt hc)))]
      exact hf

theorem safe_remove : (remove c).Safe :=
  Safe.ask.bind fun p? => by
    cases p? with
    | none => exact Safe.pure
    | some p => exact safe_removeChild

theorem safe_appendChild : (appendChild p c).Safe :=
  Safe.checked (fun _ hf => appendChild_eq hf) fun _ hf h => hf.append h

theorem safe_insertAll : (insertAll p i ids).Safe :=
  Safe.checked (fun _ hf => insertAll_eq hf) fun _ hf h =>
    hf.insert ((checkInsert_eq_ok_iff hf).mp h)

theorem safe_replaceChild {old new : NodeId} : (replaceChild p old new).Safe := by
  by_cases hne : old = new
  · subst hne
    intro f hf
    rwa [after_ok replaceChild_self]
  · exact Safe.checked (fun _ hf => replaceChild_eq hf hne) fun _ hf h => hf.replace hne h

theorem safe_removeChildren : (removeChildren id).Safe :=
  Safe.checked (fun _ hf => removeChildren_eq hf) fun _ hf _ => hf.clearChildren

theorem safe_siblingIndex : (siblingIndex id).Safe :=
  Safe.ask.bind fun p? => by
    cases p? with
    | none => exact Safe.ask.bind fun _ => Safe.pure
    | some p =>
      exact (Safe.modify fun _ hf => hf.settle).bind fun _ => Safe.ask.bind fun _ => Safe.pure

theorem safe_appendChildren : (appendChildren p ids).Safe :=
  Safe.ask.bind fun _ => safe_insertAll

theorem safe_prependChild : (prependChild p c).Safe := safe_insertAll

theorem safe_insertChildren : (insertChildren p i ids).Safe :=
  Safe.ask.bind fun n => by
    split
    · exact Safe.throw.bind fun _ => safe_insertAll
    · exact safe_insertAll

theorem safe_replaceWith {new : NodeId} : (replaceWith id new).Safe :=
  Safe.ask.bind fun _ => safe_replaceChild

theorem safe_insertBeside {side : Side} {sibling : NodeId} :
    (insertBeside side id sibling).Safe :=
  Safe.ask.bind fun p => by
    have hrest : (do insertAll p ((← siblingIndex id) + side.offset) [sibling] : Edit Unit).Safe :=
      safe_siblingIndex.bind fun _ => safe_insertAll
    split
    · exact Safe.pure
    · refine Safe.ask.bind fun q => ?_
      split
      · exact safe_removeChild.bind fun _ => hrest
      · exact hrest

theorem safe_unwrap : (unwrap id).Safe :=
  Safe.ask.bind fun _ => Safe.ask.bind fun _ => safe_siblingIndex.bind fun _ =>
    safe_insertAll.bind fun _ => safe_removeChild.bind fun _ => Safe.pure

theorem safe_siblingRead (r : SiblingRead) : r.run.Safe := by
  cases r with
  | index id => exact safe_siblingIndex.map
  | _ =>
    refine Safe.map (Safe.ask.bind fun p => ?_)
    cases p with
    | none => exact Safe.pure
    | some p => exact safe_siblingIndex.bind fun _ => Safe.get.bind fun _ => Safe.pure

theorem safe_restructuring (r : Restructuring) : r.run.Safe := by
  cases r with
  | appendChild parent child => exact safe_appendChild.map
  | appendChildren parent ids => exact safe_appendChildren.map
  | prependChild parent child => exact safe_prependChild.map
  | insertChildren parent index ids => exact safe_insertChildren.map
  | replaceWith id replacement => exact safe_replaceWith.map
  | insertBeside side id sibling => exact safe_insertBeside.map
  | unwrap id => exact safe_unwrap.map
  | remove id => exact safe_remove.map
  | removeChildren id => exact safe_removeChildren.map

section Reader

variable {reader : FragmentReader} (hr : ∀ markup context base, (reader markup context base).Safe)

theorem safe_readFragment {config : ReaderConfig} {markup base : String} {context : Option NodeId} :
    (readFragment config markup context base).Safe := by
  intro f hf
  by_cases h : ∀ c ∈ context, c < f.size
  · rw [after_ok (readFragment_ok _ _ _ hf h)]
    exact (hf.withFragment _ _ _ _).1.wellFormed
  · obtain ⟨c, hc, hlt⟩ : ∃ c ∈ context, ¬ c < f.size := by simpa using h
    cases hc
    rw [after_error (readFragment_missing (Nat.le_of_not_lt hlt))]
    exact hf

include hr

theorem safe_readChildrenOf {markup : String} : (readChildrenOf reader p markup).Safe :=
  safe_requireContainer.bind fun _ => Safe.ask.bind fun _ => hr _ _ _

omit hr in
theorem safe_placeRemainders {wrapper last : NodeId} :
    (placeRemainders wrapper last ids).Safe := by
  induction ids generalizing last with
  | nil => exact Safe.pure
  | cons r rs ih =>
    refine safe_remove.bind fun _ => Safe.get.bind fun f => ?_
    split
    · exact safe_insertBeside.bind fun _ => ih
    · exact ih

omit hr in
theorem safe_wrapIn {parent : Option NodeId} : (wrapIn id parent ids).Safe := by
  cases ids with
  | nil => exact Safe.pure
  | cons wrapper rest =>
    refine Safe.get.bind fun f => ?_
    split
    · exact Safe.pure
    · refine Safe.ask.bind fun innermost => ?_
      have hplace : (do
          appendChild innermost id
          placeRemainders wrapper wrapper rest
          return id : Edit NodeId).Safe :=
        safe_appendChild.bind fun _ => safe_placeRemainders.bind fun _ => Safe.pure
      cases parent with
      | none => exact safe_remove.bind fun _ => hplace
      | some p => exact safe_replaceChild.bind fun _ => hplace

theorem safe_wrap {markup : String} : (wrap reader id markup).Safe := by
  have hread : (do
      let parent ← Edit.ask (·.parent id)
      let ids ← reader markup (some (parent.getD id)) (← Edit.ask (·.baseUri id))
      wrapIn id parent ids : Edit NodeId).Safe :=
    Safe.ask.bind fun _ => Safe.ask.bind fun _ => (hr _ _ _).bind fun _ => safe_wrapIn
  unfold wrap
  split
  · exact Safe.throw.bind fun _ => hread
  · exact hread

theorem safe_markupEdit (m : MarkupEdit) : (m.run reader).Safe := by
  cases m with
  | append parent markup =>
    exact ((safe_readChildrenOf hr).bind fun _ => Safe.ask.bind fun _ => safe_insertAll).map
  | prepend parent markup => exact ((safe_readChildrenOf hr).bind fun _ => safe_insertAll).map
  | insertBeside side id markup =>
    exact (Safe.ask.bind fun _ => Safe.ask.bind fun _ => (hr _ _ _).bind fun _ =>
      safe_siblingIndex.bind fun _ => safe_insertAll).map
  | wrap id markup => exact (safe_wrap hr).map

end Reader

end MarkupForest
