import MarkupForest.Proofs.Token.Doctypes
import MarkupForest.Proofs.Token.StartTags

namespace MarkupForest

open Text Token

variable {config : ReaderConfig} {dialect : Dialect} {tag : String} {as : List Attribute}
  {below after o : Outline} {t : List Char}

def Label.tokensBefore (dialect : Dialect) (kids : List Label) : Label → List Token
  | .document _ _ _ => []
  | .element tag as =>
    [.startTag tag (as.map (·.token dialect)) (decide (dialect = .xml ∧ kids = [])) nowhere]
  | .text s => [.text s nowhere]
  | .comment s => [.comment s nowhere]
  | .data s => [.rawText s nowhere]
  | .doctype d => [.doctype d nowhere]

def Label.tokensAfter (dialect : Dialect) (kids : List Label) : Label → List Token
  | .element tag _ => if standsAlone dialect tag kids then [] else [.endTag tag nowhere]
  | _ => []

namespace Outline

def tokens (dialect : Dialect) : Outline → List Token
  | nil => []
  | node label below after => label.tokensBefore dialect below.labels ++ (below.tokens dialect ++
      (label.tokensAfter dialect below.labels ++ after.tokens dialect))

theorem labels_eq_nil_iff : o.labels = [] ↔ o = nil := by
  cases o <;> simp [labels]

theorem Canonical.element_cases (h : (node (.element tag as) below after).Canonical config) :
    (Label.standsAlone config.dialect tag below.labels = true ∧ below = nil ∧
      (config.dialect = .xml ∨ Tag.isVoid tag = true)) ∨
    (Label.standsAlone config.dialect tag below.labels = false ∧
      decide (config.dialect = .xml ∧ below.labels = []) = false ∧
      (config.dialect == .html && Tag.isVoid tag) = false ∧
      (config.dialect = .html ∧ Tag.isRawText tag = true ∧ below.IsRaw tag ∨
        ¬ (config.dialect = .html ∧ Tag.isRawText tag = true) ∧ below.Canonical config)) := by
  obtain ⟨_, _, _, hcontent, _⟩ := h
  by_cases halone : Label.standsAlone config.dialect tag below.labels = true
  · have h := Bool.and_eq_true_iff.mp halone
    simp only [List.isEmpty_iff, Bool.or_eq_true, beq_iff_eq] at h
    exact .inl ⟨halone, labels_eq_nil_iff.mp h.1, h.2⟩
  · have hopen : decide (config.dialect = .xml ∧ below.labels = []) = false := by
      rw [decide_eq_false_iff_not]
      rintro ⟨hd, hkids⟩
      simp [Label.standsAlone, hd, hkids] at halone
    have hvoid : ¬ (config.dialect = .html ∧ Tag.isVoid tag = true) := by
      rintro ⟨hd, hv⟩
      rw [if_pos ⟨hd, hv⟩] at hcontent
      simp [Label.standsAlone, hv, hcontent, labels] at halone
    rw [if_neg hvoid] at hcontent
    refine .inr ⟨by simpa using halone, hopen, ?_, ?_⟩
    · simpa using hvoid
    · by_cases hraw : config.dialect = .html ∧ Tag.isRawText tag = true
      · rw [if_pos hraw] at hcontent
        exact .inl ⟨hraw.1, hraw.2, hcontent⟩
      · rw [if_neg hraw] at hcontent
        exact .inr ⟨hraw, hcontent⟩

theorem Canonical.boundary (h : o.Canonical config) (htext : o.startsWithText = false)
    (ht : Boundary t) : Boundary (o.markup config.dialect ++ t) := by
  cases o with
  | nil => exact ht
  | node label below after =>
    cases label with
    | element tag as =>
      obtain ⟨k, rest, hk, halpha⟩ := h.1.exists_first
      refine .inr ?_
      simp only [markup, Label.opening, hk, List.cons_append]
      exact opensMarkup_of_isAlpha halpha
    | text s => cases htext
    | comment s => exact .inr rfl
    | doctype d =>
      obtain ⟨r, hr, hmarkup⟩ := Forest.toList_doctypeMarkup config.dialect d
      refine .inr ?_
      simp only [markup, Label.opening, hmarkup]
      rcases hr with rfl | rfl <;> rfl
    | data s => exact h.elim
    | document cases output as => exact h.elim

theorem boundary_endTag (h : Tag.Canonical dialect tag) :
    Boundary ('<' :: '/' :: (tag.toList ++ '>' :: t)) := by
  obtain ⟨k, rest, hk, halpha⟩ := h.exists_first
  rw [hk]
  exact .inr halpha

theorem IsRaw.exists_text (h : o.IsRaw tag) (dialect : Dialect) :
    ∃ s : List Char, o.markup dialect = s ∧
    o.tokens dialect = (if s = [] then [] else [.rawText (String.ofList s) nowhere]) ∧
    ∀ v, v <:+ s → closes tag.toList v = true → v.length = tag.toList.length + 2 := by
  unfold IsRaw at h
  split at h
  · refine ⟨[], rfl, rfl, fun v hv hclosed => ?_⟩
    rw [List.suffix_nil.mp hv] at hclosed
    cases hclosed
  · next s =>
    refine ⟨s.toList, ?_, ?_, fun v hv => h.2 v ((List.mem_tails v s.toList).mpr hv)⟩
    · simp [markup, Label.opening, Label.closing]
    · have hne : s.toList ≠ [] := by simpa using h.1
      rw [if_neg hne, String.ofList_toList]
      rfl
  · exact h.elim

theorem markup_element : (node (.element tag as) below after).markup dialect ++ t =
    '<' :: (tag.toList ++ (Label.attributes dialect as ++
      (tagEnd (decide (dialect = .xml ∧ below.labels = [])) ++ (below.markup dialect ++
        ((if Label.standsAlone dialect tag below.labels then []
          else '<' :: '/' :: (tag.toList ++ ['>'])) ++ (after.markup dialect ++ t)))))) := by
  simp only [markup, Label.opening, Label.closing, tagEnd, decide_eq_true_eq]
  simp

theorem scans_element (h : (node (.element tag as) below after).Canonical config)
    (hbelow : below.Canonical config → ∀ u, Boundary u →
      Scans config.dialect (below.markup config.dialect ++ u) (below.tokens config.dialect) u)
    (hafter : Scans config.dialect (after.markup config.dialect ++ t)
      (after.tokens config.dialect) t) :
    Scans config.dialect ((node (.element tag as) below after).markup config.dialect ++ t)
      ((node (.element tag as) below after).tokens config.dialect) t := by
  rw [markup_element]
  simp only [tokens, Label.tokensBefore, Label.tokensAfter]
  rcases h.element_cases with ⟨halone, hnil, hd⟩ | ⟨halone, hopen, _, hcontent⟩
  · have hraw : ¬ (config.dialect = .html ∧
        decide (config.dialect = .xml ∧ below.labels = []) = false ∧
        Tag.isRawText tag = true) := by
      rintro ⟨hhtml, _, hr⟩
      rcases hd with hxml | hvoid
      · rw [hxml] at hhtml
        cases hhtml
      · rw [Tag.isRawText_of_isVoid hvoid] at hr
        cases hr
    have hstart := scans_startTag _ (t := after.markup config.dialect ++ t) h.1
      (fun a ha => (h.2.1 a ha).writtenVerbatim) hraw
    simp only [if_pos halone]
    subst hnil
    exact hstart.trans hafter
  · have hend : Scans config.dialect _ _ (after.markup config.dialect ++ t) :=
      scans_endTag h.1.1 h.1.2.1
    rw [String.ofList_toList] at hend
    have hboundary := boundary_endTag (t := after.markup config.dialect ++ t) h.1
    simp only [hopen, halone, Bool.false_eq_true, if_false, List.cons_append, List.append_assoc,
      List.nil_append]
    rcases hcontent with ⟨hhtml, hraw, hbelow'⟩ | ⟨hraw, hbelow'⟩
    · obtain ⟨s, hmarkup, htokens, hs⟩ := hbelow'.exists_text config.dialect
      have hstart :=
          scans_rawElement (t := after.markup config.dialect ++ t) hhtml h.1 h.2.1 hraw hs
      rw [hmarkup, htokens]
      exact hstart.trans (hend.trans hafter)
    · have hstart := scans_startTag false
        (t := below.markup config.dialect ++ '<' :: '/' :: (tag.toList ++ '>' ::
          (after.markup config.dialect ++ t))) h.1 (fun a ha => (h.2.1 a ha).writtenVerbatim)
        fun h => hraw ⟨h.1, h.2.2⟩
      exact hstart.trans ((hbelow hbelow' _ hboundary).trans (hend.trans hafter))

theorem scans_markup (h : o.Canonical config) (ht : Boundary t) :
    Scans config.dialect (o.markup config.dialect ++ t) (o.tokens config.dialect) t := by
  induction o generalizing t with
  | nil => exact .refl t
  | node label below after ihb iha =>
    cases label with
    | element tag as =>
      exact scans_element h (fun hb u hu => ihb hb hu) (iha h.2.2.2.2 ht)
    | text s =>
      obtain ⟨hs, rfl, htext, hafter⟩ := h
      have hscan : Scans config.dialect _ _ (after.markup config.dialect ++ t) :=
        scans_escaped hs (hafter.boundary htext ht)
      simpa [markup, tokens, Label.opening, Label.closing, Label.tokensBefore, Label.tokensAfter]
        using hscan.trans (iha hafter ht)
    | comment s =>
      obtain ⟨hs, rfl, hafter⟩ := h
      have hscan : Scans config.dialect _ _ (after.markup config.dialect ++ t) := scans_comment hs
      rw [String.ofList_toList] at hscan
      simpa [markup, tokens, Label.opening, Label.closing, Label.tokensBefore, Label.tokensAfter]
        using hscan.trans (iha hafter ht)
    | doctype d =>
      obtain ⟨hd, rfl, hafter⟩ := h
      have hscan : Scans config.dialect _ _ (after.markup config.dialect ++ t) := scans_doctype hd
      simpa [markup, tokens, Label.opening, Label.closing, Label.tokensBefore, Label.tokensAfter]
        using hscan.trans (iha hafter ht)
    | data s => exact h.elim
    | document cases output as => exact h.elim

theorem map_tokens_markup (h : o.Canonical config) :
    (Token.tokens config.dialect (String.ofList (o.markup config.dialect))).map Token.unplaced =
      o.tokens config.dialect := by
  have hscan := scans_markup h (.inl rfl)
  rw [List.append_nil, ← String.toList_ofList (l := o.markup config.dialect)] at hscan
  exact hscan.map_tokens

end Outline

end MarkupForest
