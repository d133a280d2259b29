import MarkupForest.Proofs.Attribute.Deduplication
import MarkupForest.Proofs.Text.CaseFolding
import MarkupForest.Proofs.Token.StartTags
import MarkupForest.Forest.Growth

namespace MarkupForest

open Text

variable {config : ReaderConfig} {a : Attribute} {as : List Attribute}

def ReaderConfig.Stock (config : ReaderConfig) : Prop := config = .html ∨ config = .xml

namespace Attributes

theorem entries_foldl_add {l : List (String × TokenAttribute)} {as : Attributes} :
    (l.foldl (fun s e => s.add e.1 e.2.value) as).entries =
      as.entries ++ l.map fun e => ⟨e.1, .text e.2.value⟩ := by
  induction l generalizing as with
  | nil => simp
  | cons e l ih =>
    rw [List.foldl_cons, ih]
    simp [add, push]

end Attributes

namespace Attribute

theorem Canonical.not_hidden (h : a.Canonical config) : isHiddenKey a.key = false := by
  obtain ⟨k, key, hk, hkey, _, _⟩ := h.writtenVerbatim.exists_first
  unfold isHiddenKey
  rw [hk]
  split
  · next he =>
    cases he
    exact absurd hkey (by decide)
  · rfl

end Attribute

namespace CasePolicy

def keyMatch (p : CasePolicy) : Attributes.Match := if p.keepsAttributes then .exact else .anyCase

def sameKey (p : CasePolicy) (a b : TokenAttribute) : Bool :=
  p.attributeName a.name == p.attributeName b.name

theorem holds_attributeName (p : CasePolicy) (n k : String) :
    p.keyMatch.holds (p.attributeName k) (p.attributeName n) =
      (p.attributeName n == p.attributeName k) := by
  unfold keyMatch
  split
  · rfl
  · next hfolds =>
    have hlow (n : String) : lowerAscii (p.attributeName n) = (p.attributeName n).toList := by
      rw [attributeName, if_neg hfolds]
      exact lowerAscii_lower _
    show sameLetters (p.attributeName n) (p.attributeName k) = _
    rw [Bool.eq_iff_iff, sameLetters_iff, hlow, hlow, String.toList_inj, beq_iff_eq]

end CasePolicy

namespace Growth

variable {manner : Manner}

theorem entries_attributesOf (hm : manner.lines = none) (ts : List TokenAttribute) :
    (attributesOf manner ts).entries = (firsts manner.cases.sameKey ts).map fun a =>
      ⟨manner.cases.attributeName a.name, .text a.value⟩ := by
  have hsame : (fun a b : TokenAttribute => manner.cases.keyMatch.repeated
      ⟨manner.cases.attributeName a.name, .text a.value⟩
      ⟨manner.cases.attributeName b.name, .text b.value⟩) = manner.cases.sameKey :=
    funext fun a => funext fun b => manner.cases.holds_attributeName a.name b.name
  unfold attributesOf
  simp only [hm, Attributes.deduplicate, Attributes.entries_foldl_add, List.map_map,
    Attributes.empty, List.nil_append]
  rw [Attributes.firstOfEach_eq_firsts, firsts_map]
  exact congrArg (fun like => (firsts like ts).map _) hsame

theorem toList_attributesOf (hm : manner = ⟨config.cases, config.dialect, none⟩)
    (has : ∀ a ∈ as, a.Canonical config) (hkeys : (as.map Attribute.key).Nodup) :
    (attributesOf manner (as.map (·.token config.dialect))).toList =
      as.map (·.collapsed config.dialect) := by
  subst hm
  have hname : ∀ a ∈ as, config.cases.attributeName (a.token config.dialect).name = a.key :=
    fun a ha => (has a ha).2.2
  have hfirst : firsts config.cases.sameKey (as.map (·.token config.dialect)) =
      as.map (·.token config.dialect) := by
    refine firsts_of_pairwise (List.pairwise_map.mpr ?_)
    refine (List.pairwise_map.mp hkeys).imp_of_mem fun {a b} ha hb hne => ?_
    rw [CasePolicy.sameKey, hname a ha, hname b hb]
    exact beq_eq_false_iff_ne.mpr hne
  have hentries : (attributesOf ⟨config.cases, config.dialect, none⟩
      (as.map (·.token config.dialect))).entries =
        as.map fun a => ⟨a.key, .text (a.collapsed config.dialect).value⟩ := by
    rw [entries_attributesOf rfl, hfirst, List.map_map]
    exact List.map_congr_left fun a ha => congrArg (Entry.mk · _) (hname a ha)
  have hvisible :
      ∀ e ∈ as.map (fun a => (⟨a.key, .text (a.collapsed config.dialect).value⟩ : Entry)),
      (!e.isHidden) = true := by
    intro e he
    obtain ⟨a, ha, rfl⟩ := List.mem_map.mp he
    simp [Entry.isHidden, (has a ha).not_hidden]
  rw [Attributes.toList, Attributes.visible, hentries,
    List.filter_eq_self.mpr hvisible, List.map_map]
  rfl

end Growth

end MarkupForest
