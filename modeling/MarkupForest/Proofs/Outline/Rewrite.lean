import MarkupForest.Proofs.Outline.RoundTrip
import MarkupForest.Proofs.Outline.OpenElements

namespace MarkupForest

open Forest Text Token

variable {config : ReaderConfig} {dialect : Dialect} {o : Outline} {label : Label}
  {kids kids' : List Label} {s t : String}

namespace Attribute

variable {a b : Attribute}

theorem writtenKey?_of_respelt (h : a.respelt dialect = some b) :
    writtenKey? dialect a.key = some b.key ∧ writtenKey? dialect b.key = some b.key ∧
      b.value = a.value := by
  obtain ⟨key, hkey, rfl⟩ := Option.map_eq_some_iff.mp h
  exact ⟨hkey, by rw [writtenKey?, if_pos (writtenKey?_cases hkey).1], rfl⟩

theorem written_collapsed (dialect : Dialect) (a : Attribute) :
    written dialect a.key (a.collapsed dialect).value = written dialect a.key a.value := by
  unfold collapsed
  cases hc : collapses dialect a.key a.value with
  | true =>
    cases dialect with
    | html =>
      have hnone : collapses .html a.key none = true := rfl
      simp only [if_true, written, hnone, hc]
    | xml => cases hc
  | false =>
    cases hv : a.value with
    | some v => rfl
    | none =>
      cases dialect with
      | html =>
        rw [hv] at hc
        cases hc
      | xml => rfl

end Attribute

namespace Label

theorem attributes_respelt (dialect : Dialect) (as : List Attribute) :
    attributes dialect (as.filterMap (·.respelt dialect)) = attributes dialect as := by
  induction as with
  | nil => rfl
  | cons a as ih =>
    cases hr : a.respelt dialect with
    | none =>
      have hkey : Attribute.writtenKey? dialect a.key = none := Option.map_eq_none_iff.mp hr
      rw [List.filterMap_cons_none hr, ih, attributes, attributes, List.flatMap_cons, hkey]
      rfl
    | some b =>
      obtain ⟨ha, hb, hv⟩ := Attribute.writtenKey?_of_respelt hr
      rw [List.filterMap_cons_some hr]
      simp only [attributes, List.flatMap_cons] at ih ⊢
      rw [ih, ha, hb, hv]

theorem attributes_collapsed {as : List Attribute} (has : ∀ a ∈ as, a.Canonical config) :
    attributes config.dialect (as.map (·.collapsed config.dialect)) =
      attributes config.dialect as := by
  induction as with
  | nil => rfl
  | cons a as ih =>
    have ha := has a List.mem_cons_self
    have hrest := ih fun b hb => has b (List.mem_cons_of_mem a hb)
    have hkey : Attribute.writtenKey? config.dialect a.key = some a.key := by
      rw [Attribute.writtenKey?, if_pos ha.1]
    simp only [attributes, List.map_cons, List.flatMap_cons] at hrest ⊢
    rw [hrest, show (a.collapsed config.dialect).key = a.key from rfl, hkey, Option.elim_some,
      Option.elim_some, Attribute.written_collapsed]

def respelt (dialect : Dialect) : Label → Label
  | .element tag as => .element tag (as.filterMap (·.respelt dialect))
  | label => label

def WrittenAlike (dialect : Dialect) (label label' : Label) : Prop :=
  ∀ kids, label.opening dialect kids = label'.opening dialect kids ∧
    label.closing dialect kids = label'.closing dialect kids

theorem writtenAlike_respelt (dialect : Dialect) (label : Label) :
    WrittenAlike dialect (label.respelt dialect) label := by
  intro kids
  cases label with
  | element tag as => exact ⟨by simp only [respelt, opening, attributes_respelt], rfl⟩
  | _ => exact ⟨rfl, rfl⟩

theorem writtenAlike_collapsed (tag : String) {as : List Attribute}
    (has : ∀ a ∈ as, a.Canonical config) :
    WrittenAlike config.dialect ((element tag as).collapsed config.dialect) (element tag as) :=
  fun _ => ⟨by simp only [collapsed, opening, attributes_collapsed has], rfl⟩

theorem opening_congr (h : kids = [] ↔ kids' = []) (label : Label) :
    label.opening dialect kids = label.opening dialect kids' := by
  cases label with
  | element tag as => simp only [opening, h]
  | _ => rfl

theorem closing_congr (h : kids = [] ↔ kids' = []) (label : Label) :
    label.closing dialect kids = label.closing dialect kids' := by
  have hempty : kids.isEmpty = kids'.isEmpty := by
    rw [Bool.eq_iff_iff, List.isEmpty_iff, List.isEmpty_iff, h]
  cases label with
  | element tag as =>
    unfold closing standsAlone
    rw [hempty]
  | _ => rfl

end Label

namespace Outline

def withText (s : String) : Outline → Outline
  | node (.text t) below after => node (.text (s ++ t)) below after
  | o => node (.text s) nil o

def tidied (dialect : Dialect) : Outline → Outline
  | nil => nil
  | node (.text s) _ after => (after.tidied dialect).withText s
  | node label below after =>
    node (label.respelt dialect) (below.tidied dialect) (after.tidied dialect)

theorem withText_ne_nil : o.withText s ≠ nil := by
  unfold withText
  split <;> simp

theorem tidied_eq_nil_iff : o.tidied dialect = nil ↔ o = nil := by
  cases o with
  | nil => exact ⟨fun _ => rfl, fun _ => rfl⟩
  | node label below after =>
    cases label with
    | text s => simp [tidied, withText_ne_nil]
    | _ => simp [tidied]

theorem markup_withText (s : String) (o : Outline) : (o.withText s).markup dialect =
    Reference.encode .content dialect s.toList ++ o.markup dialect := by
  unfold withText
  split
  · simp [markup, Label.opening, Label.closing, Reference.encode]
  · simp [markup, Label.opening, Label.closing]

theorem IsRaw.tidied {tag : String} (h : o.IsRaw tag) (dialect : Dialect) :
    o.tidied dialect = o := by
  unfold IsRaw at h
  split at h
  · rfl
  · rfl
  · exact h.elim

theorem markup_node {label' : Label} {below below' after after' : Outline}
    (hl : label'.WrittenAlike dialect label) (hnil : below' = nil ↔ below = nil)
    (hb : below'.markup dialect = below.markup dialect)
    (ha : after'.markup dialect = after.markup dialect) :
    (node label' below' after').markup dialect = (node label below after).markup dialect := by
  have hkids : below'.labels = [] ↔ below.labels = [] := by
    rw [labels_eq_nil_iff, labels_eq_nil_iff, hnil]
  rw [markup, markup, (hl _).1, (hl _).2, Label.opening_congr hkids, Label.closing_congr hkids, hb,
    ha]

theorem markup_tidied (h : o.Readable config) :
    (o.tidied config.dialect).markup config.dialect = o.markup config.dialect := by
  induction o with
  | nil => rfl
  | node label below after ihb iha =>
    cases label with
    | element tag as =>
      obtain ⟨_, hcontent, hafter⟩ := h
      refine markup_node (Label.writtenAlike_respelt _ _) tidied_eq_nil_iff ?_ (iha hafter)
      split at hcontent
      · rw [hcontent]
        rfl
      · split at hcontent
        · rw [hcontent.tidied]
        · exact ihb hcontent
    | text s =>
      obtain ⟨_, rfl, hafter⟩ := h
      rw [tidied, markup_withText, iha hafter]
      rfl
    | comment s =>
      obtain ⟨_, rfl, hafter⟩ := h
      exact markup_node (Label.writtenAlike_respelt _ _) .rfl rfl (iha hafter)
    | doctype d =>
      obtain ⟨_, rfl, hafter⟩ := h
      exact markup_node (Label.writtenAlike_respelt _ _) .rfl rfl (iha hafter)
    | data s => exact h.1.elim
    | document cases output as => exact h.1.elim

theorem canonical_withText (hs : s ≠ "") (h : o.Canonical config) :
    (o.withText s).Canonical config := by
  unfold withText
  split
  · next t below after =>
    obtain ⟨_, hbelow, htext, hafter⟩ := h
    exact ⟨by simp [hs], hbelow, htext, hafter⟩
  · next hnot =>
    refine ⟨hs, rfl, ?_, h⟩
    unfold startsWithText
    split
    · next t below after => exact absurd rfl (hnot t below after)
    · rfl

theorem canonical_tidied (h : o.Readable config) : (o.tidied config.dialect).Canonical config := by
  induction o with
  | nil => trivial
  | node label below after ihb iha =>
    cases label with
    | element tag as =>
      obtain ⟨⟨htag, has, hkeys⟩, hcontent, hafter⟩ := h
      refine ⟨htag, has, hkeys, ?_, iha hafter⟩
      split at hcontent
      · next hvoid => rw [if_pos hvoid, hcontent, tidied]
      · next hvoid =>
        rw [if_neg hvoid]
        split at hcontent
        · next hraw => rwa [if_pos hraw, hcontent.tidied]
        · next hraw =>
          rw [if_neg hraw]
          exact ihb hcontent
    | text s =>
      obtain ⟨hs, _, hafter⟩ := h
      exact canonical_withText hs (iha hafter)
    | comment s =>
      obtain ⟨hs, rfl, hafter⟩ := h
      exact ⟨hs, rfl, iha hafter⟩
    | doctype d =>
      obtain ⟨hd, rfl, hafter⟩ := h
      exact ⟨hd, rfl, iha hafter⟩
    | data s => exact h.1.elim
    | document cases output as => exact h.1.elim

theorem collapsed_eq_nil_iff : o.collapsed dialect = nil ↔ o = nil := by
  cases o <;> simp [collapsed]

theorem IsRaw.collapsed {tag : String} (h : o.IsRaw tag) (dialect : Dialect) :
    o.collapsed dialect = o := by
  unfold IsRaw at h
  split at h
  · rfl
  · rfl
  · exact h.elim

theorem markup_collapsed (h : o.Canonical config) :
    (o.collapsed config.dialect).markup config.dialect = o.markup config.dialect := by
  induction o with
  | nil => rfl
  | node label below after ihb iha =>
    cases label with
    | element tag as =>
      obtain ⟨_, has, _, hcontent, hafter⟩ := h
      refine markup_node (Label.writtenAlike_collapsed tag has) collapsed_eq_nil_iff ?_ (iha hafter)
      split at hcontent
      · rw [hcontent]
        rfl
      · split at hcontent
        · rw [hcontent.collapsed]
        · exact ihb hcontent
    | text s =>
      obtain ⟨_, rfl, _, hafter⟩ := h
      exact markup_node (fun _ => ⟨rfl, rfl⟩) .rfl rfl (iha hafter)
    | comment s =>
      obtain ⟨_, rfl, hafter⟩ := h
      exact markup_node (fun _ => ⟨rfl, rfl⟩) .rfl rfl (iha hafter)
    | doctype d =>
      obtain ⟨_, rfl, hafter⟩ := h
      exact markup_node (fun _ => ⟨rfl, rfl⟩) .rfl rfl (iha hafter)
    | data s => exact h.elim
    | document cases output as => exact h.elim

end Outline

theorem Forest.lt_of_outline {f : Forest} {id : NodeId} (h : f.outline id ≠ .nil) :
    id < f.size := by
  by_contra hge
  have hnone := get?_of_size_le (Nat.le_of_not_lt hge)
  rw [outline] at h
  cases hn : f.size with
  | zero => exact h (by rw [hn]; rfl)
  | succ n => exact h (by rw [hn, outlineFrom, hnone]; rfl)

theorem outerMarkup_document {f : Forest} {d : NodeId} {below : Outline} {cases : CasePolicy}
    {output : OutputRules} {as : List Attribute} (hf : f.WellFormed)
    (hd : f.outline d = .node (.document cases output as) below .nil) :
    f.outerMarkup d = .ok (String.ofList (below.markup output.dialect)) := by
  obtain ⟨hshown, hsize⟩ := hf.shown_outline (lt_of_outline (by rw [hd]; simp))
  have hmarkup := outerMarkup_eq hshown hsize
  rw [hd] at hshown hmarkup
  obtain ⟨id, rest, n, hid, hn, hlabel, _⟩ := hshown
  cases hid
  have hrules : f.outputRules d = output := by
    cases hb : n.body with
    | document cases' output' c =>
      rw [hb, Body.label, Label.document.injEq] at hlabel
      exact (outputRules_document hn hb).trans hlabel.2.1
    | _ => simp [hb, Body.label] at hlabel
  rw [hrules] at hmarkup
  simpa [Outline.markup, Label.opening, Label.closing] using hmarkup

section Again

variable {f : Forest} {markup : String} (hstock : config.Stock)
include hstock

theorem outerMarkup_plant {below : Outline} (hbelow : below.Canonical config) (baseUri : String)
    (hf : f.WellFormed) :
    (f.plant config (String.ofList (below.markup config.dialect)) baseUri).outerMarkup f.size =
      .ok (String.ofList (below.markup config.dialect)) := by
  have hgrown := (hf.plant config (String.ofList (below.markup config.dialect)) baseUri).1
  have hmarkup := outerMarkup_document hgrown (outline_plant_at hstock hbelow baseUri f)
  rwa [Outline.markup_collapsed hbelow] at hmarkup

theorem rewritten_markup_is_stable (hf : Reachable f) (baseUri : String)
    (hfree : ∀ t ∈ Token.tokens config.dialect markup, t.CollisionFree (config.manner markup)) :
    ∃ g s, readDocument config markup baseUri f = .ok f.size g ∧ g.outerMarkup f.size = .ok s ∧
      ∀ (k : Forest) (baseUri' : String), Reachable k → ∃ k',
        readDocument config s baseUri' k = .ok k.size k' ∧ k'.outerMarkup k.size = .ok s := by
  obtain ⟨below, hreadable, houtline⟩ := readable_plant hstock baseUri hf.wellFormed hfree
  have hcanonical := Outline.canonical_tidied hreadable
  have hgrown := (hf.wellFormed.plant config markup baseUri).1
  have hmarkup := outerMarkup_document hgrown houtline
  rw [← Outline.markup_tidied hreadable] at hmarkup
  exact ⟨_, _, rfl, hmarkup, fun k baseUri' hk =>
    ⟨_, rfl, outerMarkup_plant hstock hcanonical baseUri' hk.wellFormed⟩⟩

end Again

theorem rewritten_markup_is_stable_twoLists :
    ReaderConfig.html.Stock ∧ Reachable twoLists ∧
      (∀ t ∈ Token.tokens .html "<!DOCTYPE html PUBLIC 'a'><P B=1>x</i>y<script>a<b",
        t.CollisionFree
          (ReaderConfig.html.manner "<!DOCTYPE html PUBLIC 'a'><P B=1>x</i>y<script>a<b")) ∧
      ∃ g s, readDocument .html "<!DOCTYPE html PUBLIC 'a'><P B=1>x</i>y<script>a<b" "" twoLists =
          .ok 6 g ∧ g.outerMarkup 6 = .ok s ∧
        ∀ (k : Forest) (baseUri' : String), Reachable k → ∃ k',
          readDocument .html s baseUri' k = .ok k.size k' ∧ k'.outerMarkup k.size = .ok s := by
  have hstock : ReaderConfig.html.Stock := .inl rfl
  have hf : Reachable twoLists := reaches_runAll _
  have hfree : ∀ t ∈ Token.tokens .html "<!DOCTYPE html PUBLIC 'a'><P B=1>x</i>y<script>a<b",
      t.CollisionFree
          (ReaderConfig.html.manner "<!DOCTYPE html PUBLIC 'a'><P B=1>x</i>y<script>a<b") := by
    decide +kernel
  exact ⟨hstock, hf, hfree, rewritten_markup_is_stable hstock hf "" hfree⟩

-- An id is written in quotes that it may hold, and is cut at them when it is read again.
example :
    ((empty.plant .html "<!DOCTYPE a PUBLIC 'b\x22c'>" "").outerMarkup 0).toOption =
      some "<!doctype a PUBLIC \x22b\x22c\x22>" ∧
    ((empty.plant .html "<!doctype a PUBLIC \x22b\x22c\x22>" "").outerMarkup 0).toOption =
      some "<!doctype a PUBLIC \x22b\x22>" := by
  decide +kernel

-- Two keys may be repaired to the same, and only the first of its attributes is read again.
example :
    ((empty.plant .html "<p \x01=1 _=2>" "").outerMarkup 0).toOption =
      some "<p _=\x221\x22 _=\x222\x22></p>" ∧
    ((empty.plant .html "<p _=\x221\x22 _=\x222\x22></p>" "").outerMarkup 0).toOption =
      some "<p _=\x221\x22></p>" := by
  decide +kernel

end MarkupForest
