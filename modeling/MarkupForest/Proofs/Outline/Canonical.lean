import MarkupForest.Proofs.Outline.Basic
import MarkupForest.Attribute.Basic
import MarkupForest.Token.Scan
import Mathlib.Data.List.Infix

namespace MarkupForest

namespace Attribute

variable {config : ReaderConfig} {dialect : Dialect} {a : Attribute}

def Canonical (config : ReaderConfig) (a : Attribute) : Prop :=
  isKey config.dialect a.key.toList = true ∧ '>' ∉ a.key.toList ∧
    config.cases.attributeName a.key = a.key

instance : Decidable (a.Canonical config) := inferInstanceAs (Decidable (_ ∧ _ ∧ _))

def collapsed (dialect : Dialect) (a : Attribute) : Attribute :=
  ⟨a.key, if collapses dialect a.key a.value then none else some (a.value.getD "")⟩

end Attribute

namespace Tag

def Canonical (dialect : Dialect) (tag : String) : Prop :=
  Text.startsIn Char.isAlpha tag.toList = true ∧ (∀ c ∈ tag.toList, Token.isTagChar c = true) ∧
    (dialect = .html → ∀ c ∈ tag.toList, c.isUpper = false)

-- A bound on the characters of a name is checked over the name, not over all characters.
instance (dialect : Dialect) (tag : String) : Decidable (Canonical dialect tag) :=
  have : Decidable (∀ c ∈ tag.toList, Token.isTagChar c = true) := List.decidableBAll _ _
  have : Decidable (∀ c ∈ tag.toList, c.isUpper = false) := List.decidableBAll _ _
  inferInstanceAs (Decidable (_ ∧ _ ∧ _))

theorem Canonical.exists_first {dialect : Dialect} {tag : String} (h : Canonical dialect tag) :
    ∃ k rest, tag.toList = k :: rest ∧ k.isAlpha = true := by
  cases hk : tag.toList with
  | nil =>
    have halpha := h.1
    rw [hk] at halpha
    cases halpha
  | cons k rest =>
    have halpha := h.1
    rw [hk] at halpha
    exact ⟨k, rest, rfl, halpha⟩

theorem isRawText_of_isVoid {tag : String} (h : isVoid tag = true) : isRawText tag = false := by
  have hapart : ∀ v ∈ voids, ∀ r ∈ rawTexts, ¬ Text.sameLetters r v = true := by decide
  obtain ⟨v, hv, hsame⟩ := List.any_eq_true.mp h
  rw [Bool.eq_false_iff]
  intro hraw
  obtain ⟨r, hr, hsame'⟩ := List.any_eq_true.mp hraw
  exact hapart v hv r hr (Text.sameLetters_trans hsame' (Text.sameLetters_symm hsame))

end Tag

namespace Doctype

variable {config : ReaderConfig} {d : Doctype}

def Canonical (config : ReaderConfig) (d : Doctype) : Prop :=
  config.cases.tagName d.name = d.name ∧
    (∀ c ∈ d.name.toList, Text.isGap c = false ∧ c ≠ '>') ∧
    (∀ c ∈ d.publicId.toList ++ d.systemId.toList, c ≠ '\x22' ∧ c ≠ '>') ∧
    (d.name = "" → d.publicId = "" ∧ d.systemId = "")

instance : Decidable (d.Canonical config) :=
  have : Decidable (∀ c ∈ d.name.toList, Text.isGap c = false ∧ c ≠ '>') := List.decidableBAll _ _
  have : Decidable (∀ c ∈ d.publicId.toList ++ d.systemId.toList, c ≠ '\x22' ∧ c ≠ '>') :=
    List.decidableBAll _ _
  inferInstanceAs (Decidable (_ ∧ _ ∧ _ ∧ _))

end Doctype

def Label.collapsed (dialect : Dialect) : Label → Label
  | .element tag as => .element tag (as.map (·.collapsed dialect))
  | label => label

namespace Outline

variable {config : ReaderConfig} {dialect : Dialect}

def IsRaw (tag : String) : Outline → Prop
  | nil => True
  | node (.data s) nil nil => s ≠ "" ∧
    ∀ t ∈ s.toList.tails, Token.closes tag.toList t = true → t.length = tag.toList.length + 2
  | _ => False

def startsWithText : Outline → Bool
  | node (.text _) _ _ => true
  | _ => false

def Canonical (config : ReaderConfig) : Outline → Prop
  | nil => True
  | node (.element tag as) below after =>
    Tag.Canonical config.dialect tag ∧ (∀ a ∈ as, a.Canonical config) ∧
      (as.map Attribute.key).Nodup ∧
      (if config.dialect = .html ∧ Tag.isVoid tag = true then below = nil
        else if config.dialect = .html ∧ Tag.isRawText tag = true then below.IsRaw tag
        else below.Canonical config) ∧
      after.Canonical config
  | node (.text s) below after =>
    s ≠ "" ∧ below = nil ∧ after.startsWithText = false ∧ after.Canonical config
  | node (.comment s) below after =>
    ¬ Token.commentEnd <:+: s.toList ∧ below = nil ∧ after.Canonical config
  | node (.doctype d) below after => d.Canonical config ∧ below = nil ∧ after.Canonical config
  | node (.data _) _ _ => False
  | node (.document _ _ _) _ _ => False

instance (tag : String) (o : Outline) : Decidable (o.IsRaw tag) := by
  unfold IsRaw
  split <;> infer_instance

instance decidableCanonical (config : ReaderConfig) :
    (o : Outline) → Decidable (o.Canonical config)
  | nil => .isTrue trivial
  | node (.element tag as) below after =>
    have := decidableCanonical config below
    have := decidableCanonical config after
    inferInstanceAs (Decidable (Tag.Canonical config.dialect tag ∧
      (∀ a ∈ as, a.Canonical config) ∧ (as.map Attribute.key).Nodup ∧
      (if config.dialect = .html ∧ Tag.isVoid tag = true then below = nil
        else if config.dialect = .html ∧ Tag.isRawText tag = true then below.IsRaw tag
        else below.Canonical config) ∧ after.Canonical config))
  | node (.text _) _ after =>
    have := decidableCanonical config after
    inferInstanceAs (Decidable (_ ∧ _ ∧ _ ∧ _))
  | node (.comment _) _ after =>
    have := decidableCanonical config after
    inferInstanceAs (Decidable (_ ∧ _ ∧ _))
  | node (.doctype _) _ after =>
    have := decidableCanonical config after
    inferInstanceAs (Decidable (_ ∧ _ ∧ _))
  | node (.data _) _ _ => .isFalse id
  | node (.document _ _ _) _ _ => .isFalse id

def collapsed (dialect : Dialect) : Outline → Outline
  | nil => nil
  | node label below after =>
    node (label.collapsed dialect) (below.collapsed dialect) (after.collapsed dialect)

end Outline

end MarkupForest
