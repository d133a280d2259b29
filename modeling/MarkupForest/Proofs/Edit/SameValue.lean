import MarkupForest.Proofs.Edit.MovedNodes

namespace MarkupForest

open Edit Forest

variable {f g : Forest} {a b p q x : NodeId} {home : Option NodeId} {r : Restructuring}
  {dialect : Dialect}

namespace Forest

inductive MovesOnly (f : Forest) (a b : NodeId) : Restructuring → Option NodeId → Prop
  | away : f.MovesOnly a b (.remove a) none
  | under {q : NodeId} (hq : (f.childList? q).isSome) (ha : ¬ f.Above a q) (hb : ¬ f.Above b q) :
    f.MovesOnly a b (.appendChild q a) (some q)

def rulesAfter (f : Forest) (a : NodeId) (home : Option NodeId) (x : NodeId) :
    CasePolicy × OutputRules :=
  if f.isAbove a x && (f.ownerDocument? x).all fun d => !f.isAbove a d then
    home.elim default f.rules
  else f.rules x

def sameValueIn (f : Forest) (d e : Dialect) (a b : NodeId) : Except TreeError Bool := do
  if a = b then return true
  let m ← f.find a
  let n ← f.find b
  if m.kind = n.kind then return (← f.write d a) == (← f.write e b) else return false

theorem hasSameValue_eq_sameValueIn : f.hasSameValue a b =
    f.sameValueIn (f.outputRules a).dialect (f.outputRules b).dialect a b := rfl

namespace MovesOnly

variable (h : f.MovesOnly a b r home)
include h

theorem apart (hq : home = some q) : ¬ f.Above a q ∧ ¬ f.Above b q := by
  cases h with
  | away => cases hq
  | under _ ha hb =>
    cases hq
    exact ⟨ha, hb⟩

theorem run_ok (hf : f.WellFormed) (ha : a < f.size) :
    ∃ g, r.run f = .ok .done g ∧ f.Moved g home [a] [] ∧ g.WellFormed := by
  cases h with
  | away =>
    have hrun := remove_ok (hf.placed a) ha
    exact ⟨f.detach a, map_ok hrun, hf.moved_detach a, hf.detach a⟩
  | @under q hq hnot _ =>
    have hcheck : f.checkAppend q a = .ok () := by
      apply checkAppend_eq_ok_iff.mpr
      refine ⟨hq, ?_, ha⟩
      rw [← Bool.not_eq_true, hf.isAbove_iff]
      exact hnot
    have hrun := appendChild_eq (p := q) (c := a) hf
    rw [hcheck] at hrun
    exact ⟨_, map_ok hrun, (hf.spliced_append hcheck).toMoved, hf.append hcheck⟩

end MovesOnly

section Rules

variable (h : f.Moved g home [a] []) (hf : f.WellFormed) (hg : g.WellFormed)
include h hf hg

theorem ownerDocument?_relocated (ha : f.Above a x) :
    (∃ d, f.ownerDocument? x = some d ∧ f.Above a d ∧ g.ownerDocument? x = some d) ∨
    (∀ d, f.ownerDocument? x = some d → ¬ f.Above a d) ∧
      g.ownerDocument? x = home.bind g.ownerDocument? := by
  have hdoc : ∀ y, g.isDocument y = f.isDocument y := congrFun h.isDocument_eq
  induction ha using Relation.ReflTransGen.head_induction_on with
  | refl =>
    cases hd : f.isDocument a with
    | true =>
      exact .inl ⟨a, ownerDocument?_self hd, .refl a, ownerDocument?_self ((hdoc a).trans hd)⟩
    | false =>
      right
      have hga := h.parent a
      simp only [List.not_mem_nil, if_false, List.mem_singleton, if_true] at hga
      constructor
      · intro d hown ha
        cases hp : f.parent? a with
        | none =>
          rw [hf.ownerDocument?_root hd hp] at hown
          cases hown
        | some p =>
          rw [hf.ownerDocument?_child hd hp] at hown
          have hdp : f.Above d p := hf.mem_lineage_iff.mp (List.mem_of_find?_eq_some hown)
          exact hf.acyclic.not_above_parent hp (ha.trans hdp)
      · cases home with
        | none => exact hg.ownerDocument?_root ((hdoc a).trans hd) hga
        | some q => exact hg.ownerDocument?_child ((hdoc a).trans hd) hga
  | @head y p hp hpa ih =>
    cases hd : f.isDocument y with
    | true =>
      exact .inl
        ⟨y, ownerDocument?_self hd, .of_parent hp hpa, ownerDocument?_self ((hdoc y).trans hd)⟩
    | false =>
      have hya : y ≠ a := by
        rintro rfl
        exact hf.acyclic.not_above_parent hp hpa
      have hgp : g.parent? y = some p :=
        (h.parent_eq (by simpa using hya) List.not_mem_nil).trans hp
      rw [hf.ownerDocument?_child hd hp, hg.ownerDocument?_child ((hdoc y).trans hd) hgp]
      exact ih

theorem rules_relocated (hhome : ∀ q, home = some q → ¬ f.Above a q) (x : NodeId) :
    g.rules x = f.rulesAfter a home x := by
  have hkept : ∀ {y}, ¬ f.Above a y → g.rules y = f.rules y := by
    intro y hy
    apply h.rules_eq
    intro z hz
    refine ⟨?_, List.not_mem_nil⟩
    intro hm
    exact hy (List.mem_singleton.mp hm ▸ hz)
  unfold rulesAfter
  by_cases hx : f.Above a x
  · rw [hf.isAbove_iff.mpr hx, Bool.true_and]
    obtain ⟨d, hd, had, hgd⟩ | ⟨hfree, howner⟩ := ownerDocument?_relocated h hf hg hx
    · have hall : ((f.ownerDocument? x).all fun d => !f.isAbove a d) = false := by
        rw [hd, Option.all_some, hf.isAbove_iff.mpr had]
        rfl
      rw [hall, if_neg Bool.false_ne_true]
      exact rules_of_matter hd hgd (h.matter?_eq d)
    · have hall : ((f.ownerDocument? x).all fun d => !f.isAbove a d) = true := by
        rw [Option.all_eq_true]
        intro d hd
        rw [Bool.not_eq_true', ← Bool.not_eq_true, hf.isAbove_iff]
        exact hfree d hd
      rw [hall, if_pos rfl]
      cases home with
      | none => exact rules_of_none howner
      | some q =>
        rw [rules, howner]
        exact hkept (hhome q rfl)
  · have hno : f.isAbove a x = false := by
      rw [← Bool.not_eq_true, hf.isAbove_iff]
      exact hx
    rw [hno, Bool.false_and, if_neg Bool.false_ne_true]
    exact hkept hx

end Rules

theorem WellFormed.exists_write (hf : f.WellFormed) (dialect : Dialect) (hx : x < f.size) :
    ∃ s, f.write dialect x = .ok s := by
  obtain ⟨ho, hsize⟩ := hf.shown_outline hx
  exact ⟨_, writeTo_eq ho hsize ""⟩

theorem WellFormed.exists_sameValueIn (hf : f.WellFormed) (d e : Dialect) (ha : a < f.size)
    (hb : b < f.size) : ∃ v, f.sameValueIn d e a b = .ok v := by
  obtain ⟨m, -, hm⟩ := find_of_lt ha
  obtain ⟨n, -, hn⟩ := find_of_lt hb
  obtain ⟨s, hs⟩ := hf.exists_write d ha
  obtain ⟨t, ht⟩ := hf.exists_write e hb
  unfold sameValueIn
  simp only [hm, hn, hs, ht, bind, Except.bind, pure, Except.pure]
  split
  · exact ⟨true, rfl⟩
  · split
    · exact ⟨_, rfl⟩
    · exact ⟨false, rfl⟩

theorem sameValueIn_congr {d e : Dialect} (ha : a < f.size) (hb : b < f.size)
    (hmatter : ∀ x, g.matter? x = f.matter? x) (hwa : g.write d a = f.write d a)
    (hwb : g.write e b = f.write e b) : g.sameValueIn d e a b = f.sameValueIn d e a b := by
  obtain ⟨m, hm, hfm⟩ := find_of_lt ha
  obtain ⟨n, hn, hfn⟩ := find_of_lt hb
  obtain ⟨m', hm', hmm⟩ := exists_matter (hmatter a) hm
  obtain ⟨n', hn', hnn⟩ := exists_matter (hmatter b) hn
  unfold sameValueIn
  simp only [hwa, hwb, hfm, hfn, find_eq_ok_iff.mpr hm', find_eq_ok_iff.mpr hn', bind, Except.bind,
    Node.kind_eq_of_matter hmm, Node.kind_eq_of_matter hnn]

end Forest

theorem value_goes_by_place (h : Reachable f) (ha : a < f.size) (hb : b < f.size)
    (hout : ¬ f.Above b a) (hr : f.MovesOnly a b r home) :
    ∃ g v, r.run f = .ok .done g ∧
      (∀ dialect, g.write dialect a = f.write dialect a ∧ g.write dialect b = f.write dialect b) ∧
      (∀ x, g.rules x = f.rulesAfter a home x) ∧ g.hasSameValue a b = .ok v ∧
      f.sameValueIn (f.rulesAfter a home a).2.dialect
        (f.rulesAfter a home b).2.dialect a b = .ok v ∧
      ((f.rulesAfter a home a).2.dialect = (f.outputRules a).dialect →
        (f.rulesAfter a home b).2.dialect = (f.outputRules b).dialect →
            f.hasSameValue a b = .ok v) := by
  have hf := h.wellFormed
  obtain ⟨g, hrun, hshift, hg⟩ := hr.run_ok hf ha
  have hrules := rules_relocated hshift hf hg fun q hq => (hr.apart hq).1
  have hwrite : ∀ dialect, g.write dialect a = f.write dialect a ∧
      g.write dialect b = f.write dialect b := by
    intro dialect
    constructor
    · apply hshift.writeTo_eq hf ha (fun q hq => (hr.apart hq).1)
      exact fun c hc _ => List.mem_singleton.mp hc
    · apply hshift.writeTo_eq hf hb (fun q hq => (hr.apart hq).2)
      intro c hc hbc
      exact absurd (List.mem_singleton.mp hc ▸ hbc) hout
  obtain ⟨v, hv⟩ := hf.exists_sameValueIn (f.rulesAfter a home a).2.dialect
    (f.rulesAfter a home b).2.dialect ha hb
  refine ⟨g, v, hrun, hwrite, hrules, ?_, hv, ?_⟩
  · rw [hasSameValue_eq_sameValueIn, outputRules, outputRules, hrules, hrules,
      sameValueIn_congr ha hb hshift.matter?_eq (hwrite _).1 (hwrite _).2, hv]
  · intro hda hdb
    rw [hasSameValue_eq_sameValueIn, ← hda, ← hdb, hv]

def xmlPair : Forest :=
  runAll Url.resolve (readFragment .html) [.createDocument ⟨true, true⟩ ⟨.xml⟩ "",
    .createElement "p", .createElement "p", .restructure (.appendChildren 0 [1, 2])] .empty

theorem value_goes_by_place_xmlPair : Reachable xmlPair ∧ ¬ xmlPair.Above 2 1 ∧
    xmlPair.MovesOnly 1 2 (.remove 1) none ∧ xmlPair.hasSameValue 1 2 = .ok true ∧
    ∃ g, (Restructuring.remove 1).run xmlPair = .ok .done g ∧ g.hasSameValue 1 2 = .ok false := by
  have h : Reachable xmlPair := reaches_runAll _
  have hout : ¬ xmlPair.Above 2 1 := by
    rw [← h.wellFormed.isAbove_iff]
    decide
  have hr : xmlPair.MovesOnly 1 2 (.remove 1) none := .away
  have hbefore : xmlPair.hasSameValue 1 2 = .ok true := by decide +kernel
  obtain ⟨g, v, hrun, -, -, hg, hv, -⟩ := value_goes_by_place h (by decide) (by decide) hout hr
  have hfalse : xmlPair.sameValueIn (xmlPair.rulesAfter 1 none 1).2.dialect
      (xmlPair.rulesAfter 1 none 2).2.dialect 1 2 = .ok false := by decide +kernel
  obtain rfl : false = v := Except.ok.inj (hfalse.symm.trans hv)
  exact ⟨h, hout, hr, hbefore, g, hrun, hg⟩

end MarkupForest
