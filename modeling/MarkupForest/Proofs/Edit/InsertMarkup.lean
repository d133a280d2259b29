import MarkupForest.Proofs.Edit.Failure

namespace MarkupForest

open Edit Forest

variable {f g k : Forest} {n p q x y root : NodeId} {ids before after : List NodeId}
  {dialect : Dialect} {config : ReaderConfig} {markup base a b t : String}

namespace Forest

def writeRow (f : Forest) (dialect : Dialect) (ids : List NodeId) (out : String) :
    Except TreeError String :=
  ids.foldlM (fun out c => f.writeTo dialect c out) out

def WritesText (f : Forest) (dialect : Dialect) (ids : List NodeId) (t : String) : Prop :=
  ∀ out, f.writeRow dialect ids out = .ok (out ++ t)

theorem innerMarkup_of_lt (hx : x < f.size) :
    f.innerMarkup x = f.writeRow (f.outputRules x).dialect (f.childIds x) "" := by
  rw [innerMarkup, children_of_lt hx]
  rfl

theorem WritesText.nil : f.WritesText dialect [] "" := fun out => by
  rw [String.append_empty]
  rfl

theorem WritesText.append (ha : f.WritesText dialect before a) (hb : f.WritesText dialect after b) :
    f.WritesText dialect (before ++ after) (a ++ b) := by
  intro out
  have hrow : f.writeRow dialect before out >>= f.writeRow dialect after = .ok (out ++ a ++ b) := by
    rw [ha]
    exact hb _
  rw [writeRow, List.foldlM_append, ← String.append_assoc]
  exact hrow

theorem writeRow_congr (h : ∀ c ∈ ids, ∀ out, g.writeTo dialect c out = f.writeTo dialect c out)
    (out : String) : g.writeRow dialect ids out = f.writeRow dialect ids out := by
  unfold writeRow
  induction ids generalizing out with
  | nil => rfl
  | cons c rest ih =>
    rw [List.foldlM_cons, List.foldlM_cons, h c List.mem_cons_self]
    congr
    funext out
    exact ih (fun d hd => h d (List.mem_cons_of_mem c hd)) out

theorem WritesText.congr (h : f.WritesText dialect ids t)
    (hw : ∀ c ∈ ids, ∀ out, g.writeTo dialect c out = f.writeTo dialect c out) :
    g.WritesText dialect ids t := fun out => (writeRow_congr hw out).trans (h out)

theorem WritesText.unique {s : String} (h : f.WritesText dialect ids t)
    (hs : f.WritesText dialect ids s) :
    t = s := by
  have he := (h "").symm.trans (hs "")
  rw [String.empty_append, String.empty_append] at he
  exact Except.ok.inj he

theorem WellFormed.exists_writesText (hf : f.WellFormed) (dialect : Dialect) (ids : List NodeId)
    (hids : ∀ c ∈ ids, c < f.size) : ∃ t, f.WritesText dialect ids t := by
  induction ids with
  | nil => exact ⟨"", .nil⟩
  | cons c rest ih =>
    obtain ⟨t, ht⟩ := ih fun d hd => hids d (List.mem_cons_of_mem c hd)
    obtain ⟨ho, hsize⟩ := hf.shown_outline (hids c List.mem_cons_self)
    have hc : f.WritesText dialect [c] (String.ofList ((f.outline c).markup dialect)) := by
      intro out
      rw [writeRow, List.foldlM_cons, writeTo_eq ho hsize]
      rfl
    exact ⟨_, hc.append ht⟩

/-- Only the list of `q` differs, and the fragment has left its own root. -/
structure OnlyListChanged (f k : Forest) (q : NodeId) : Prop where
  parent : ∀ y, y < f.size → k.parent? y = f.parent? y
  lists : ∀ y, y < f.size → y ≠ q → k.childIds y = f.childIds y
  payload : ∀ y, y < f.size → k.payload? y = f.payload? y
  left : k.childIds f.size = []

namespace Fragment

variable (hg : Fragment f g root ids) (hf : f.WellFormed) (hq : q < f.size)
  (hk : g.Spliced k q before ids after [])
include hg hf hq hk

theorem rules_eq : k.rules q = f.rules q := by
  rw [← hg.old.rules_eq hf hg.wellFormed hq]
  apply hk.toMoved.rules_eq
  exact fun y hy => ⟨fun hm => hg.not_above hf hq hm hy, List.not_mem_nil⟩

omit hq in
theorem writeTo_child (hp : f.parent? x = some q) (out : String) :
    k.writeTo dialect x out = f.writeTo dialect x out := by
  have hx := lt_of_parent? hp
  rw [← hg.old.writeTo_eq hf hx]
  apply hk.toMoved.writeTo_eq hg.wellFormed (Nat.lt_of_lt_of_le hx hg.old.size_le)
  · rintro _ ⟨⟩ ha
    exact hg.wellFormed.acyclic.not_above_parent ((hg.old.parent?_eq hx).trans hp) ha
  · intro c hc ha
    exact absurd hx (Nat.not_lt.mpr (hg.fresh_above hf (hg.fresh hf hc) ha))

theorem writeTo_top (hx : x ∈ ids) (out : String) :
    k.writeTo dialect x out = g.writeTo dialect x out := by
  have hroot : ∀ {c}, c ∈ ids → g.parent? c = some root := fun hc =>
    hg.wellFormed.mem_iff.mp (hg.children ▸ hc)
  apply hk.toMoved.writeTo_eq hg.wellFormed (lt_of_parent? (hroot hx))
  · rintro _ ⟨⟩
    exact hg.not_above hf hq hx
  · intro c hc ha
    exact (hg.wellFormed.eq_of_above_sibling (hroot hx) (hroot hc) ha).symm

theorem innerMarkup_spliced (hrow : f.childIds q = before ++ after)
    (ha : f.WritesText (f.outputRules q).dialect before a)
      (hb : f.WritesText (f.outputRules q).dialect after b)
    (ht : g.WritesText (f.outputRules q).dialect ids t) : k.innerMarkup q = .ok (a ++ t ++ b) := by
  have hdialect : (k.outputRules q).dialect = (f.outputRules q).dialect := by
    rw [outputRules, hg.rules_eq hf hq hk, outputRules]
  have hchild : ∀ {c}, c ∈ before ++ after → f.parent? c = some q := fun hc =>
    hf.mem_iff.mp (hrow ▸ hc)
  have hbefore : k.WritesText (f.outputRules q).dialect before a := ha.congr fun c hc =>
    hg.writeTo_child hf hk (hchild (List.mem_append_left after hc))
  have hafter : k.WritesText (f.outputRules q).dialect after b := hb.congr fun c hc =>
    hg.writeTo_child hf hk (hchild (List.mem_append_right before hc))
  have hids : k.WritesText (f.outputRules q).dialect ids t := ht.congr fun c hc =>
    hg.writeTo_top hf hq hk hc
  have hlt : q < k.size := by
    rw [hk.size]
    exact Nat.lt_of_lt_of_le hq hg.old.size_le
  rw [innerMarkup_of_lt hlt, hdialect, hk.row, (hbefore.append hids).append hafter,
    String.empty_append]

theorem onlyListChanged (hroot : root = f.size) : f.OnlyListChanged k q := by
  subst hroot
  have hne : ∀ {y}, y ≠ q → some q ≠ some y := fun hy he => hy (Option.some.inj he).symm
  refine ⟨?_, ?_, ?_, ?_⟩
  · intro y hy
    exact hg.parent?_kept hf hk.toMoved (fun _ => id) hy List.not_mem_nil
  · intro y hy hyq
    exact hg.childIds_kept hf hk.toMoved (fun _ => id) hy (hne hyq)
  · intro y hy
    rw [hk.payload, hg.old.payload?_eq hy]
  · rw [hk.lists f.size (hne (Nat.ne_of_gt hq)), hg.children]
    simp

end Fragment

end Forest

section Edits

variable (hf : f.WellFormed) (hg : Fragment f g f.size ids)
  (hread : readFragment config markup (some q) base f = .ok ids g)
  (ht : g.WritesText (f.outputRules q).dialect ids t)
include hf hg hread ht

theorem appendMarkup_inlays (hq : (f.childList? q).isSome) (hbase : f.baseUri q = .ok base)
    (ha : f.WritesText (f.outputRules q).dialect (f.childIds q) a) :
    ∃ k, appendMarkup (readFragment config) q markup f = .ok () k ∧
      k.innerMarkup q = .ok (a ++ t) ∧ f.OnlyListChanged k q := by
  obtain ⟨l, hl⟩ := Option.isSome_iff_exists.mp hq
  have hlt := lt_of_childList? hl
  have hrow := (hg.old.childIds_eq hlt).trans (List.append_nil (f.childIds q)).symm
  have hk := hg.wellFormed.spliced_insertIds (hg.insertable hf hq) hrow fun c hc =>
    hg.not_mem_childIds hc (Nat.ne_of_lt hlt)
  refine ⟨_, appendMarkup_ok hf hg hread hq hbase, ?_, hg.onlyListChanged hf hlt hk rfl⟩
  rw [hg.innerMarkup_spliced hf hlt hk (List.append_nil _).symm ha .nil ht, String.append_empty]

theorem prependMarkup_inlays (hq : (f.childList? q).isSome) (hbase : f.baseUri q = .ok base)
    (hb : f.WritesText (f.outputRules q).dialect (f.childIds q) b) :
    ∃ k, prependMarkup (readFragment config) q markup f = .ok () k ∧
      k.innerMarkup q = .ok (t ++ b) ∧ f.OnlyListChanged k q := by
  obtain ⟨l, hl⟩ := Option.isSome_iff_exists.mp hq
  have hlt := lt_of_childList? hl
  have hrow : g.childIds q = [] ++ f.childIds q := hg.old.childIds_eq hlt
  have hk := hg.wellFormed.spliced_insertIds (hg.insertable hf hq) hrow fun c hc =>
    hg.not_mem_childIds hc (Nat.ne_of_lt hlt)
  refine ⟨_, prependMarkup_ok hf hg hread hq hbase, ?_, hg.onlyListChanged hf hlt hk rfl⟩
  have hmarkup := hg.innerMarkup_spliced hf hlt hk (List.nil_append _).symm .nil hb ht
  rwa [String.empty_append] at hmarkup

theorem insertMarkupBeside_inlays (hn : f.parent? n = some q) (hbase : f.baseUri n = .ok base)
    (hrow : f.childIds q = before ++ n :: after) (side : Side)
    (ha : f.WritesText (f.outputRules q).dialect (side.cut before n after).1 a)
    (hb : f.WritesText (f.outputRules q).dialect (side.cut before n after).2 b) :
    ∃ k, insertMarkupBeside (readFragment config) side n markup f = .ok () k ∧
      k.innerMarkup q = .ok (a ++ t ++ b) ∧ f.OnlyListChanged k q := by
  obtain ⟨l, hl, _⟩ := hf.exists_childList? hn
  have hlt := hf.parent_lt hn
  have hins := hg.insertable hf (p := q) (by rw [hl]; rfl)
  have hk := hg.wellFormed.spliced_beside hins
    (fun c hc => hg.not_mem_childIds hc (Nat.ne_of_lt hlt))
      ((hg.old.childIds_eq hlt).trans hrow) side
  refine ⟨_, insertMarkupBeside_ok hf hg hread hn hbase side, ?_, hg.onlyListChanged hf hlt hk rfl⟩
  exact hg.innerMarkup_spliced hf hlt hk (hrow.trans Side.append_cut.symm) ha hb ht

end Edits

theorem markup_edits_are_local (config : ReaderConfig) (markup : String) (h : Reachable f)
    (hq : (f.childList? q).isSome) :
    let dialect := (f.outputRules q).dialect
    ∃ old, f.innerMarkup q = .ok old ∧
      (∃ base ids g t, f.baseUri q = .ok base ∧
        readFragment config markup (some q) base f = .ok ids g ∧ Fragment f g f.size ids ∧
        g.WritesText dialect ids t ∧
        (∃ k, appendMarkup (readFragment config) q markup f = .ok () k ∧
          k.innerMarkup q = .ok (old ++ t) ∧ f.OnlyListChanged k q) ∧
        ∃ k, prependMarkup (readFragment config) q markup f = .ok () k ∧
          k.innerMarkup q = .ok (t ++ old) ∧ f.OnlyListChanged k q) ∧
      ∀ n, f.parent? n = some q → ∃ base ids g t before after a s b, f.baseUri n = .ok base ∧
        readFragment config markup (some q) base f = .ok ids g ∧ Fragment f g f.size ids ∧
        g.WritesText dialect ids t ∧ f.childIds q = before ++ n :: after ∧
        f.WritesText dialect before a ∧ f.WritesText dialect [n] s ∧ f.WritesText dialect after b ∧
        old = a ++ s ++ b ∧
        (∃ k, insertMarkupBeside (readFragment config) .before n markup f = .ok () k ∧
          k.innerMarkup q = .ok (a ++ t ++ s ++ b) ∧ f.OnlyListChanged k q) ∧
        ∃ k, insertMarkupBeside (readFragment config) .after n markup f = .ok () k ∧
          k.innerMarkup q = .ok (a ++ s ++ t ++ b) ∧ f.OnlyListChanged k q := by
  intro dialect
  have hf := h.wellFormed
  obtain ⟨l, hl⟩ := Option.isSome_iff_exists.mp hq
  have hlt := lt_of_childList? hl
  have hwrites : ∀ ids, (∀ c ∈ ids, c ∈ f.childIds q) → ∃ s, f.WritesText dialect ids s :=
    fun ids hids => hf.exists_writesText dialect ids fun c hc => hf.lt_of_mem (hids c hc)
  have hfragment : ∀ base, ∃ ids g t, readFragment config markup (some q) base f = .ok ids g ∧
      Fragment f g f.size ids ∧ g.WritesText dialect ids t := by
    intro base
    obtain ⟨ids, g, hread, hg⟩ := exists_fragment config markup base hf hlt
    obtain ⟨t, ht⟩ := hg.wellFormed.exists_writesText dialect ids fun c hc =>
      hg.wellFormed.lt_of_mem (hg.children ▸ hc)
    exact ⟨ids, g, t, hread, hg, ht⟩
  obtain ⟨old, hold⟩ := hwrites (f.childIds q) fun _ hc => hc
  refine ⟨old, ?_, ?_, ?_⟩
  · rw [innerMarkup_of_lt hlt, hold, String.empty_append]
  · have hbase := baseUri_ok hlt
    obtain ⟨ids, g, t, hread, hg, ht⟩ := hfragment (((f.lineage q).findSome? f.ownBase?).getD "")
    exact ⟨_, ids, g, t, hbase, hread, hg, ht, appendMarkup_inlays hf hg hread ht hq hbase hold,
      prependMarkup_inlays hf hg hread ht hq hbase hold⟩
  · intro n hn
    have hbase := baseUri_ok (lt_of_parent? hn)
    obtain ⟨ids, g, t, hread, hg, ht⟩ := hfragment (((f.lineage n).findSome? f.ownBase?).getD "")
    obtain ⟨before, after, hrow⟩ := hf.exists_middle hn
    obtain ⟨a, ha⟩ := hwrites before fun c hc => hrow ▸ List.mem_append_left _ hc
    obtain ⟨s, hs⟩ := hwrites [n] fun c hc => by simp_all
    obtain ⟨b, hb⟩ := hwrites after fun c hc => by simp_all
    have hwhole : old = a ++ s ++ b := by
      rw [hrow] at hold
      rw [hold.unique (ha.append (hs.append hb)), String.append_assoc]
    have hbefore := insertMarkupBeside_inlays hf hg hread ht hn hbase hrow .before ha (hs.append hb)
    have hafter := insertMarkupBeside_inlays hf hg hread ht hn hbase hrow .after (ha.append hs) hb
    rw [← String.append_assoc] at hbefore
    exact ⟨_, ids, g, t, before, after, a, s, b, hbase, hread, hg, ht, hrow, ha, hs, hb, hwhole,
      hbefore, hafter⟩

theorem markup_edits_are_local_twoLists : Reachable twoLists ∧ (twoLists.childList? 0).isSome ∧
    (∃ k, appendMarkup (readFragment .html) 0 "<b></b>" twoLists = .ok () k ∧
      k.innerMarkup 0 = .ok "<li></li>ab<b></b>" ∧ twoLists.OnlyListChanged k 0) ∧
    ∃ k, insertMarkupBeside (readFragment .html) .before 2 "<b></b>" twoLists = .ok () k ∧
      twoLists.OnlyListChanged k 0 := by
  have h : Reachable twoLists := reaches_runAll _
  have hq : (twoLists.childList? 0).isSome := by decide
  obtain ⟨old, hold, ⟨base, ids, g, t, hbase, hread, -, ht, ⟨k, hk, hinner, hkept⟩, -⟩, hbeside⟩ :=
    markup_edits_are_local .html "<b></b>" h hq
  obtain ⟨-, -, -, -, -, -, -, -, -, -, -, -, -, -, -, -, -, -, ⟨l, hl, -, hlkept⟩, -⟩ :=
    hbeside 2 (by decide)
  obtain rfl : "" = base := Except.ok.inj hbase
  have hresult := hread.symm.trans (readFragment_ok .html "<b></b>" "" h.wellFormed (by decide))
  injection hresult with hids hg
  have hrow : ids = [7] := hids.trans (by decide +kernel)
  subst hrow
  have hspelled := (ht "").symm.trans (hg ▸ by decide +kernel : _ = Except.ok "<b></b>")
  obtain rfl : t = "<b></b>" := by simpa using hspelled
  have hwhole : twoLists.innerMarkup 0 = .ok "<li></li>ab" := by decide +kernel
  obtain rfl : old = "<li></li>ab" := Except.ok.inj (hold.symm.trans hwhole)
  exact ⟨h, hq, ⟨k, hk, hinner, hkept⟩, l, hl, hlkept⟩

end MarkupForest
