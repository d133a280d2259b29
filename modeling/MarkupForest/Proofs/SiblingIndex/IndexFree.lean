import MarkupForest.Proofs.Edit.Checks
import MarkupForest.Proofs.Operation.Reachable

namespace MarkupForest

open Edit Forest

variable {α β : Type} {e : Edit α} {k : α → Edit β} {f g : Forest} {p c id : NodeId}
  {ids : List NodeId} {i : Nat} {P : Forest → Prop}

namespace Edit

structure IndexFreeOn (P : Forest → Prop) (e : Edit α) : Prop where
  safe : e.Safe
  answer : ∀ ⦃f g⦄, f.WellFormed → g.WellFormed → P f → P g → f.Alike g → e.answer f = e.answer g
  after : ∀ ⦃f g⦄, f.WellFormed → g.WellFormed → P f → P g → f.Alike g →
    (e.after f).Alike (e.after g)

abbrev IndexFree (e : Edit α) : Prop := IndexFreeOn (fun _ => True) e

namespace IndexFreeOn

theorem bind {Q : α → Forest → Prop} (he : IndexFreeOn P e)
    (hQ : ∀ f a g, f.WellFormed → P f → e f = .ok a g → Q a g) (hk : ∀ a, IndexFreeOn (Q a) (k a)) :
    IndexFreeOn P (e >>= k) := by
  have hcase : ∀ ⦃f g⦄, f.WellFormed → g.WellFormed → P f → P g → f.Alike g →
      (e >>= k).answer f = (e >>= k).answer g ∧ ((e >>= k).after f).Alike ((e >>= k).after g) := by
    intro f g hf hg hPf hPg ha
    have hans := he.answer hf hg hPf hPg ha
    have haft := he.after hf hg hPf hPg ha
    have hwf := he.safe hf
    have hwg := he.safe hg
    cases hef : e f with
    | ok a s =>
      cases heg : e g with
      | ok b t =>
        rw [answer_ok hef, answer_ok heg] at hans
        cases hans
        rw [after_ok hef, after_ok heg] at haft
        rw [after_ok hef] at hwf
        rw [after_ok heg] at hwg
        have hQs := hQ f a s hf hPf hef
        have hQt := hQ g a t hg hPg heg
        unfold Edit.answer Edit.after
        rw [bind_ok hef, bind_ok heg]
        exact ⟨(hk a).answer hwf hwg hQs hQt haft, (hk a).after hwf hwg hQs hQt haft⟩
      | error y t =>
        rw [answer_ok hef, answer_error heg] at hans
        cases hans
    | error x s =>
      cases heg : e g with
      | ok b t =>
        rw [answer_error hef, answer_ok heg] at hans
        cases hans
      | error y t =>
        rw [answer_error hef, answer_error heg] at hans
        cases hans
        rw [after_error hef, after_error heg] at haft
        rw [answer_error (bind_error hef), answer_error (bind_error heg),
          after_error (bind_error hef), after_error (bind_error heg)]
        exact ⟨rfl, haft⟩
  refine ⟨he.safe.bind fun a => (hk a).safe, ?_, ?_⟩
  · intro f g hf hg hPf hPg ha
    exact (hcase hf hg hPf hPg ha).1
  · intro f g hf hg hPf hPg ha
    exact (hcase hf hg hPf hPg ha).2

theorem weaken (he : IndexFree e) : IndexFreeOn P e :=
  ⟨he.safe, fun _ _ hf hg _ _ => he.answer hf hg trivial trivial,
    fun _ _ hf hg _ _ => he.after hf hg trivial trivial⟩

end IndexFreeOn

namespace IndexFree

theorem bind (he : IndexFree e) (hk : ∀ a, IndexFree (k a)) : IndexFree (e >>= k) :=
  IndexFreeOn.bind (Q := fun _ _ => True) he (fun _ _ _ _ _ _ => trivial) hk

theorem map {m : α → β} (he : IndexFree e) : IndexFree (m <$> e) := by
  refine ⟨he.safe.map, fun f g hf hg _ _ ha => ?_, fun f g hf hg _ _ ha => ?_⟩
  · rw [answer_map, answer_map, he.answer hf hg trivial trivial ha]
  · rw [after_map, after_map]
    exact he.after hf hg trivial trivial ha

theorem pure {a : α} : IndexFree (pure a : Edit α) :=
  ⟨Safe.pure, fun _ _ _ _ _ _ _ => rfl, fun _ _ _ _ _ _ ha => ha⟩

theorem throw {x : TreeError} : IndexFree (throw x : Edit α) :=
  ⟨Safe.throw, fun _ _ _ _ _ _ _ => rfl, fun _ _ _ _ _ _ ha => ha⟩

theorem ask {q : Forest → Except TreeError α} (hq : ∀ f, q f.bare = q f) :
    IndexFree (Edit.ask q) := by
  have hsame : ∀ {f g : Forest}, f.Alike g → q f = q g := fun ha => ha.eq_of hq
  have hanswer : ∀ f, (Edit.ask q).answer f = q f := by
    intro f
    cases hf : q f with
    | ok a => rw [answer_ok (ask_ok hf)]
    | error x => rw [answer_error (ask_error hf)]
  have hafter : ∀ f, (Edit.ask q).after f = f := by
    intro f
    cases hf : q f with
    | ok a => rw [after_ok (ask_ok hf)]
    | error x => rw [after_error (ask_error hf)]
  refine ⟨Safe.ask, fun f g _ _ _ _ ha => ?_, fun f g _ _ _ _ ha => ?_⟩
  · rw [hanswer, hanswer, hsame ha]
  · rwa [hafter, hafter]

theorem get_bind {k : Forest → Edit β} (hq : ∀ f, k f.bare = k f) (hk : ∀ f, IndexFree (k f)) :
    IndexFree ((get : Edit Forest) >>= k) := by
  refine ⟨Safe.get.bind fun f => (hk f).safe, fun f g hf hg _ _ ha => ?_,
    fun f g hf hg _ _ ha => ?_⟩
  · unfold Edit.answer
    rw [bind_ok get_eq, bind_ok get_eq, ha.eq_of hq]
    exact (hk g).answer hf hg trivial trivial ha
  · unfold Edit.after
    rw [bind_ok get_eq, bind_ok get_eq, ha.eq_of hq]
    exact (hk g).after hf hg trivial trivial ha

theorem create {n : Node} (hp : n.parent = none) (hn : n.childIds = []) : IndexFree (create n) :=
  ⟨Safe.create hp hn, fun _ _ _ _ _ _ ha => congrArg Except.ok ha.size_eq,
    fun _ _ _ _ _ _ ha => ha.push rfl⟩

theorem modify {m : Forest → Forest} (hw : ∀ f, f.WellFormed → (m f).WellFormed)
    (hm : ∀ f g, f.Alike g → (m f).Alike (m g)) : IndexFree (modify m : Edit Unit) :=
  ⟨Safe.modify hw, fun _ _ _ _ _ _ _ => rfl, fun f g _ _ _ _ ha => hm f g ha⟩

theorem mapM {t : α → Edit β} (ht : ∀ a, IndexFree (t a)) (as : List α) :
    IndexFree (as.mapM t) := by
  induction as with
  | nil => exact pure
  | cons a as ih =>
    rw [List.mapM_cons]
    exact (ht a).bind fun b => ih.bind fun bs => pure

end IndexFree

end Edit

theorem ChecksFirst.indexFree {check : Forest → Except TreeError Unit} {answer : Forest → α}
    {move : Forest → Forest} (h : ChecksFirst e check answer move) (hk : e.Safe)
    (hc : ∀ f, check f.bare = check f) (ha : ∀ f, answer f.bare = answer f)
    (hm : ∀ f g, f.Alike g → (move f).Alike (move g)) : IndexFree e := by
  refine ⟨hk, fun f g hf hg _ _ hfg => ?_, fun f g hf hg _ _ hfg => ?_⟩
  · have hcheck := hfg.eq_of hc
    cases hcf : check f with
    | ok _ =>
      rw [answer_ok (h.ok hf hcf), answer_ok (h.ok hg (hcheck ▸ hcf)), hfg.eq_of ha]
    | error x =>
      obtain ⟨s, hs, _⟩ := h.error hf hcf
      obtain ⟨t, ht, _⟩ := h.error hg (hcheck ▸ hcf)
      rw [answer_error hs, answer_error ht]
  · have hcheck := hfg.eq_of hc
    cases hcf : check f with
    | ok _ =>
      rw [after_ok (h.ok hf hcf), after_ok (h.ok hg (hcheck ▸ hcf))]
      exact hm f g hfg
    | error x =>
      obtain ⟨s, hs, hsf⟩ := h.error hf hcf
      obtain ⟨t, ht, htg⟩ := h.error hg (hcheck ▸ hcf)
      rw [after_error hs, after_error ht]
      exact hsf.trans (hfg.trans htg.symm)

theorem after_siblingIndex (hf : f.WellFormed) : ((siblingIndex id).after f).Alike f := by
  cases hp : f.parent? id with
  | some p =>
    rw [after_ok (siblingIndex_child hf hp)]
    exact Alike.of_settle
  | none =>
    by_cases hid : id < f.size
    · obtain ⟨n, _, hfind⟩ := find_of_lt hid
      rw [after_ok (siblingIndex_root hfind hp)]
      exact .refl f
    · rw [after_error (siblingIndex_missing (Nat.le_of_not_lt hid))]
      exact .refl f

theorem indexFreeOn_siblingIndex :
    IndexFreeOn (fun f => f.parent? id = some p) (siblingIndex id) := by
  refine ⟨safe_siblingIndex, fun f g hf hg hpf hpg ha => ?_, fun f g hf hg _ _ ha => ?_⟩
  · rw [answer_ok (siblingIndex_child hf hpf), answer_ok (siblingIndex_child hg hpg),
      ha.childIds_eq]
  · exact (after_siblingIndex hf).trans (ha.trans (after_siblingIndex hg).symm)

end MarkupForest
