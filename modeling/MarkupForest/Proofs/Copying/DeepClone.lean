import MarkupForest.Proofs.Copying.Mirror
import MarkupForest.Proofs.Copying.LaterOperations
import Mathlib.Data.List.Find

namespace MarkupForest

open Edit Forest

variable {f g : Forest} {id c d p x y holder : NodeId} {n n' : Node} {ids way : List NodeId}
  {φ : NodeId → NodeId} {o : Outline}

theorem Outline.OutlineOf.exists_head {look : NodeId → Option Node}
    (h : o.OutlineOf look (x :: ids)) :
    ∃ n, look x = some n := by
  cases o with
  | nil => cases h
  | node label below after =>
    obtain ⟨_, _, n, he, hn, _⟩ := h
    cases he
    exact ⟨n, hn⟩

namespace Forest

theorem isDocument_of_get? (hn : f.get? x = some n) : f.isDocument x = n.isDocument := by
  rw [isDocument, hn]

theorem isDocument_of_matter (h : g.matter? y = f.matter? x) (hx : x < f.size) :
    g.isDocument y = f.isDocument x := by
  obtain ⟨n, hn⟩ := exists_get? hx
  obtain ⟨n', hn', hm⟩ := exists_matter h hn
  rw [isDocument_of_get? hn, isDocument_of_get? hn', Node.isDocument, Node.isDocument,
    Node.kind_eq_of_matter hm]

theorem ownerDocument?_self (hx : f.isDocument x = true) : f.ownerDocument? x = some x := by
  rw [ownerDocument?, lineage, climb, List.find?_cons_of_pos hx]

namespace WellFormed

variable (hf : f.WellFormed)
include hf

theorem ownerDocument?_lt (hx : x < f.size) (ho : f.ownerDocument? x = some d) : d < f.size :=
  hf.lt_of_above (hf.mem_lineage_iff.mp (List.mem_of_find?_eq_some ho)) hx

variable (hx : f.isDocument x = false)
include hx

theorem ownerDocument?_child (hp : f.parent? x = some p) :
    f.ownerDocument? x = f.ownerDocument? p := by
  rw [ownerDocument?, hf.lineage_eq (.step hp (hf.ascent_lineage p)),
    List.find?_cons_of_neg (by simp [hx]), ownerDocument?]

theorem ownerDocument?_root (hp : f.parent? x = none) : f.ownerDocument? x = none := by
  rw [ownerDocument?, hf.lineage_eq (.root hp), List.find?_cons_of_neg (by simp [hx]),
    List.find?_nil]

end WellFormed

theorem Extends.ascent {way : List NodeId} (h : f.Extends g) (hf : f.WellFormed)
    (hw : f.Ascent x way) (hx : x < f.size) : g.Ascent x way := by
  induction hw with
  | root hp => exact .root ((h.parent?_eq hx).trans hp)
  | step hp _ ih => exact .step ((h.parent?_eq hx).trans hp) (ih (hf.parent_lt hp))

theorem Extends.lineage_eq (h : f.Extends g) (hf : f.WellFormed) (hg : g.WellFormed)
    (hx : x < f.size) : g.lineage x = f.lineage x :=
  hg.lineage_eq (h.ascent hf (hf.ascent_lineage x) hx)

theorem Extends.ownerDocument?_eq (h : f.Extends g) (hf : f.WellFormed) (hg : g.WellFormed)
    (hx : x < f.size) : g.ownerDocument? x = f.ownerDocument? x := by
  have hdoc : ∀ y ∈ f.lineage x, g.isDocument y = f.isDocument y := fun y hy => by
    rw [isDocument, h.get?_eq (hf.lt_of_above (hf.mem_lineage_iff.mp hy) hx), isDocument]
  rw [ownerDocument?, h.lineage_eq hf hg hx, List.find?_congr hdoc, ownerDocument?]

theorem rules_of_none (hx : f.ownerDocument? x = none) : f.rules x = default := by
  rw [rules, hx]
  rfl

theorem rules_of_some {cases : CasePolicy} {output : OutputRules} {inner : Container}
    (hx : f.ownerDocument? x = some d) (hn : f.get? d = some n)
    (hb : n.body = .document cases output inner) : f.rules x = (cases, output) := by
  obtain ⟨body, _, _, _⟩ := n
  obtain rfl : body = _ := hb
  rw [rules, hx, Option.bind_some, hn]

theorem rules_of_matter (hx : f.ownerDocument? x = some c) (hy : g.ownerDocument? y = some d)
    (hm : g.matter? d = f.matter? c) : g.rules y = f.rules x := by
  have hdoc := isDocument_ownerDocument? hx
  unfold isDocument at hdoc
  cases hn : f.get? c with
  | none =>
    rw [hn] at hdoc
    cases hdoc
  | some n =>
    rw [hn] at hdoc
    obtain ⟨n', hn', hm'⟩ := exists_matter hm hn
    cases hb : n.body with
    | document cases output inner =>
      obtain ⟨inner', hb'⟩ := Node.document_of_matter hm' hb
      rw [rules_of_some hx hn hb, rules_of_some hy hn' hb']
    | _ => simp [Node.isDocument, Node.kind, hb, Body.kind] at hdoc

theorem Extends.rules_eq (h : f.Extends g) (hf : f.WellFormed) (hg : g.WellFormed)
    (hx : x < f.size) : g.rules x = f.rules x := by
  have howner := h.ownerDocument?_eq hf hg hx
  cases ho : f.ownerDocument? x with
  | none => rw [rules_of_none ho, rules_of_none (howner.trans ho)]
  | some d =>
    refine rules_of_matter ho (howner.trans ho) ?_
    rw [matter?, h.get?_eq (hf.ownerDocument?_lt hx ho), matter?]

theorem shown_of_matter (hmatter : ∀ x, f.Above id x → g.matter? (φ x) = f.matter? x)
    (hchildren : ∀ x, f.Above id x → g.childIds (φ x) = (f.childIds x).map φ)
    (hids : ∀ x ∈ ids, f.Above id x) (hf : f.WellFormed) (ho : o.OutlineOf f.get? ids) :
    o.OutlineOf g.get? (ids.map φ) := by
  induction o generalizing ids with
  | nil =>
    rw [show ids = [] from ho]
    rfl
  | node label below after ihb iha =>
    obtain ⟨x, rest, n, rfl, hn, rfl, hb, ha⟩ := ho
    have hx := hids x List.mem_cons_self
    obtain ⟨n', hn', hm⟩ := exists_matter (hmatter x hx) hn
    have hkids : f.childIds x = n.childIds := by rw [childIds, hn]
    have hcopies : n'.childIds = n.childIds.map φ := by
      have hrow := hchildren x hx
      rwa [childIds, hn', hkids] at hrow
    refine ⟨φ x, rest.map φ, n', rfl, hn', Node.label_eq_of_matter hm, ?_, ?_⟩
    · rw [hcopies]
      refine ihb (fun c hc => ?_) hb
      exact hx.of_parent (hf.mem_iff.mp (hkids ▸ hc))
    · exact iha (fun c hc => hids c (List.mem_cons_of_mem x hc)) ha

theorem Mirrored.shown {copy : NodeId} (h : Mirrored f id g copy φ) (hids : ∀ x ∈ ids, f.Above id x)
    (hf : f.WellFormed) (ho : o.OutlineOf f.get? ids) : o.OutlineOf g.get? (ids.map φ) :=
  shown_of_matter h.matter h.children hids hf ho

theorem UnderDocumentCopy.rules_eq (h : f.UnderDocumentCopy d g x holder) (hg : g.WellFormed)
    (hx : g.isDocument x = false)
    (ho : f.ownerDocument? id = some d) (hd : d < f.size) : g.rules x = f.rules id := by
  have hholder : g.isDocument holder = true := by
    rw [isDocument_of_matter h.matter hd]
    exact isDocument_ownerDocument? ho
  refine rules_of_matter ho ?_ h.matter
  rw [hg.ownerDocument?_child hx h.parent, ownerDocument?_self hholder]

theorem hasSameValue_of_shown (hx : o.OutlineOf g.get? [x]) (hy : o.OutlineOf g.get? [y])
    (hsize : o.size ≤ g.size) (hkind : ∀ n n', g.get? x = some n → g.get? y = some n' →
      n.kind = n'.kind) (hrules : g.rules x = g.rules y) : g.hasSameValue x y = .ok true := by
  unfold hasSameValue
  split
  · rfl
  · obtain ⟨n, hn⟩ := hx.exists_head
    obtain ⟨n', hn'⟩ := hy.exists_head
    have hfind := find_eq_ok_iff.mpr hn
    have hfind' := find_eq_ok_iff.mpr hn'
    simp only [hfind, hfind', outerMarkup_eq hx hsize, outerMarkup_eq hy hsize, outputRules, hrules,
      hkind n n' hn hn', bind, Except.bind, pure, Except.pure, if_true, beq_self_eq_true]

/-- In `g` node `f.size` is a deep copy of `id` on new nodes. -/
structure Cloned (f : Forest) (id : NodeId) (g : Forest) : Prop where
  old : f.Extends g
  mirrored : ∃ φ, Mirrored f id g f.size φ
  held : ∀ d, f.isDocument id = false → f.ownerDocument id = .ok (some d) →
    g.isDocument (f.size + 1) = true ∧ f.UnderDocumentCopy d g f.size (f.size + 1)
  free : f.isDocument id = true ∨ f.ownerDocument id = .ok none → g.parent? f.size = none
  rules : g.rules f.size = g.rules id
  sameValue : g.hasSameValue f.size id = .ok true

theorem WellFormed.cloned (hf : f.WellFormed) (hn : f.get? id = some n) :
    Cloned f id (f.copySubtree id n) := by
  have hid := lt_of_get? hn
  obtain ⟨hold, hg⟩ := hf.copySubtree hn
  obtain ⟨⟨φ, hφ⟩, hhung⟩ := copySubtree_spec hf hn
  generalize f.copySubtree id n = g at hold hg hφ hhung
  have hmatter : g.matter? f.size = f.matter? id := by
    rw [← hφ.root]
    exact hφ.matter id (.refl id)
  have hdoc : f.isDocument id = n.isDocument := isDocument_of_get? hn
  have hcopy : g.isDocument f.size = n.isDocument := (isDocument_of_matter hmatter hid).trans hdoc
  have hask : f.ownerDocument id = .ok (f.ownerDocument? id) := by
    rw [ownerDocument, find_eq_ok_iff.mpr hn]
    rfl
  have hrules : g.rules f.size = g.rules id := by
    rw [hold.rules_eq hf hg hid]
    rcases hhung with ⟨d, hnd, ho, hcopied⟩ | ⟨hfree, hp⟩
    · exact hcopied.rules_eq hg (hcopy.trans hnd) ho (hf.ownerDocument?_lt hid ho)
    · cases hnd : n.isDocument with
      | true =>
        exact rules_of_matter (ownerDocument?_self (hdoc.trans hnd))
          (ownerDocument?_self (hcopy.trans hnd)) hmatter
      | false =>
        rw [rules_of_none (hfree.resolve_left (by simp [hnd])),
          rules_of_none (hg.ownerDocument?_root (hcopy.trans hnd) hp)]
  refine ⟨hold, ⟨φ, hφ⟩, ?_, ?_, hrules, ?_⟩
  · intro d hnd howner
    rw [hask, Except.ok.injEq] at howner
    rcases hhung with ⟨d', _, ho, hcopied⟩ | ⟨hdocument | hnone, _⟩
    · obtain rfl : d' = d := Option.some_inj.mp (ho.symm.trans howner)
      refine ⟨?_, hcopied⟩
      rw [isDocument_of_matter hcopied.matter (hf.ownerDocument?_lt hid ho)]
      exact isDocument_ownerDocument? ho
    · rw [hdoc, hdocument] at hnd
      cases hnd
    · rw [hnone] at howner
      cases howner
  · intro hfree
    rw [hdoc, hask, Except.ok.injEq] at hfree
    rcases hhung with ⟨d, hnd, ho, _⟩ | ⟨_, hp⟩
    · rw [hnd, ho] at hfree
      rcases hfree with h | h <;> cases h
    · exact hp
  · obtain ⟨ho, hsize⟩ := hf.shown_outline hid
    have hshown := hφ.shown (by simp [Above.refl]) hf ho
    rw [List.map_singleton, hφ.root] at hshown
    refine hasSameValue_of_shown hshown (ho.mono fun _ _ h => hold h) (hsize.trans hold.size_le) ?_
      hrules
    intro m m' hm hm'
    obtain rfl : n = m' := Option.some_inj.mp ((hold hn).symm.trans hm')
    rw [matter?_of_get? hm, matter?_of_get? hn, Option.some_inj] at hmatter
    exact Node.kind_eq_of_matter hmatter

end Forest

theorem deep_clone_mirrors (h : Reachable f) (hid : id < f.size) :
    ∃ g, deepClone id f = .ok f.size g ∧ Cloned f id g ∧
      ∀ k, RunsOnNewer f.size g k → f.Extends k := by
  have hf := h.wellFormed
  obtain ⟨n, hn, hfind⟩ := find_of_lt hid
  refine ⟨f.copySubtree id n, deepClone_ok hfind, hf.cloned hn, fun k hk => ?_⟩
  obtain ⟨hold, hg⟩ := hf.copySubtree hn
  exact (hk.leavesOlder hf hg hold).2

theorem deep_clone_mirrors_twoLists :
    Reachable twoLists ∧ 0 < twoLists.size ∧ ∃ g, deepClone 0 twoLists = .ok 6 g ∧
      Cloned twoLists 0 g ∧ twoLists.Extends
        (((Operation.restructure (.remove 7)).run Url.resolve (readFragment .html)).after g) := by
  have h : Reachable twoLists := reaches_runAll _
  have hid : 0 < twoLists.size := by decide
  obtain ⟨g, hclone, hcloned, hseparated⟩ := deep_clone_mirrors h hid
  exact ⟨h, hid, g, hclone, hcloned,
    hseparated _ (runsOnNewer_operation Url.resolve .html (.restructure (.remove 7)) (by decide))⟩

end MarkupForest
