import MarkupForest.Settings
import MarkupForest.Text.Ascii

namespace MarkupForest.Text

variable {ranges : List (Nat × Nat)} {s t before : List Char} {c : Char}

def capitals : List (Nat × Nat) := [(0x41, 0x5a)]

def Avoided (ranges : List (Nat × Nat)) : Prop :=
  ∀ r ∈ lowerRuns, ∀ b ∈ ranges, (r.last + r.shift : Int) < b.1 ∨ (b.2 : Int) < r.first + r.shift

instance : Decidable (Avoided ranges) := by
  unfold Avoided
  infer_instance

theorem avoided_capitals : Avoided capitals := by decide +kernel

theorem avoided_blankRanges : Avoided blankRanges := by decide +kernel

theorem inRanges_eq_false_iff :
    inRanges ranges c = false ↔ ∀ b ∈ ranges, c.toNat < b.1 ∨ b.2 < c.toNat := by
  simp only [inRanges, List.any_eq_false, Bool.and_eq_true, decide_eq_true_eq,
    Decidable.not_and_iff_not_or_not, Nat.not_le]

theorem toNat_ofNat (n : Nat) : (Char.ofNat n).toNat = n ∨ (Char.ofNat n).toNat = 0 := by
  by_cases hvalid : n.isValidChar
  · exact .inl (by rw [Char.ofNat, dif_pos hvalid]; rfl)
  · exact .inr (by rw [Char.ofNat, dif_neg hvalid]; rfl)

theorem inRanges_lowerChar (hr : Avoided ranges) (h0 : ∀ b ∈ ranges, 0 < b.1)
    (hascii : c.toNat < 0x80 → inRanges ranges c.toLower = false)
    (hc : 0x80 ≤ c.toNat → inRanges ranges c = false) : inRanges ranges (lowerChar c) = false := by
  unfold lowerChar
  split
  · next h => exact hascii h
  · next h =>
    split
    · next r hfind =>
      have hcovers : r.first ≤ c.toNat ∧ c.toNat ≤ r.last := by
        have h := List.find?_some hfind
        simp only [CaseRun.covers, Bool.and_eq_true, decide_eq_true_eq] at h
        exact h.1
      rw [inRanges_eq_false_iff]
      intro b hb
      have hpos := h0 b hb
      have havoid := hr r (List.mem_of_find?_eq_some hfind) b hb
      have himage : r.image c.toNat = (c.toNat + r.shift : Int).toNat := rfl
      rcases toNat_ofNat (r.image c.toNat) with he | he
      · omega
      · omega
    · exact hc (Nat.le_of_not_lt h)

theorem ascii_induction {P : Char → Prop} (h : ∀ n < 0x80, P (Char.ofNat n)) (hc : c.toNat < 0x80) :
    P c := by
  have := h c.toNat hc
  rwa [Char.ofNat_toNat] at this

theorem lowerChar_not_capital : inRanges capitals (lowerChar c) = false := by
  refine inRanges_lowerChar avoided_capitals (by decide) (fun h => ?_) fun h => ?_
  · exact ascii_induction (P := fun c => inRanges capitals c.toLower = false) (by decide) h
  · rw [inRanges_eq_false_iff]
    intro b hb
    rw [List.mem_singleton.mp hb]
    exact .inr (Nat.lt_of_lt_of_le (by decide) h)

theorem lowerChar_not_blank (hc : isBlank c = false) : isBlank (lowerChar c) = false := by
  refine inRanges_lowerChar avoided_blankRanges (by decide) (fun h => ?_) fun _ => hc
  exact ascii_induction (P := fun c => isBlank c = false → isBlank c.toLower = false)
    (by decide) h hc

theorem toLower_of_not_capital (hc : inRanges capitals c = false) : c.toLower = c := by
  unfold Char.toLower
  split
  · next h =>
    have hlow : 0x41 ≤ c.toNat := UInt32.le_iff_toNat_le.mp h.1
    have hhigh : c.toNat ≤ 0x5a := UInt32.le_iff_toNat_le.mp h.2
    have h := inRanges_eq_false_iff.mp hc (0x41, 0x5a) (List.mem_singleton.mpr rfl)
    simp only at h
    omega
  · rfl

theorem toLower_of_not_ascii (hc : ¬ c.toNat < 0x80) : c.toLower = c := by
  refine toLower_of_not_capital (inRanges_eq_false_iff.mpr fun b hb => ?_)
  rw [List.mem_singleton.mp hb]
  exact .inr (by omega)

theorem lowerAfter_cons (before : List Char) (c : Char) (s : List Char) :
    ∃ d piece, lowerAfter before (c :: s) = d :: (piece ++ lowerAfter (c :: before) s) ∧
      ∀ x ∈ d :: piece, x ∈ ['ς', 'σ', 'i', '\u0307', lowerChar c] := by
  rw [lowerAfter]
  split
  · refine ⟨_, [], rfl, fun x hx => ?_⟩
    rw [List.mem_singleton.mp hx]
    split <;> simp
  · split
    · exact ⟨'i', ['\u0307'], rfl, by simp⟩
    · exact ⟨lowerChar c, [], rfl, by simp⟩

theorem lowerAfter_all {P : Char → Prop} (hfixed : ∀ x ∈ ['ς', 'σ', 'i', '\u0307'], P x)
    (hchar : ∀ c ∈ s, P (lowerChar c)) : ∀ x ∈ lowerAfter before s, P x := by
  induction s generalizing before with
  | nil => simp [lowerAfter]
  | cons c s ih =>
    obtain ⟨d, piece, he, hp⟩ := lowerAfter_cons before c s
    have hrest : ∀ x ∈ lowerAfter (c :: before) s, P x :=
      ih fun y hy => hchar y (List.mem_cons_of_mem c hy)
    have hpiece : ∀ x ∈ d :: piece, P x := by
      intro x hx
      rcases List.mem_append.mp (show x ∈ ['ς', 'σ', 'i', '\u0307'] ++ [lowerChar c] from hp x hx)
        with h | h
      · exact hfixed x h
      · exact List.mem_singleton.mp h ▸ hchar c List.mem_cons_self
    intro x hx
    rw [he, ← List.cons_append] at hx
    rcases List.mem_append.mp hx with h | h
    · exact hpiece x h
    · exact hrest x h

theorem lowerAscii_lower (s : String) : lowerAscii (lower s) = (lower s).toList := by
  have h : ∀ x ∈ (lower s).toList, inRanges capitals x = false := by
    rw [lower, String.toList_ofList]
    exact lowerAfter_all (by simp [inRanges, capitals]) fun c _ => lowerChar_not_capital
  unfold lowerAscii
  exact List.map_congr_left (fun x hx => toLower_of_not_capital (h x hx)) |>.trans (List.map_id _)

theorem lowerAfter_of_ascii (h : ∀ c ∈ s, c.toNat < 0x80 ∧ c.toLower = c) :
    lowerAfter before s = s := by
  induction s generalizing before with
  | nil => rfl
  | cons c s ih =>
    obtain ⟨hascii, hlow⟩ := h c List.mem_cons_self
    have hsigma : c ≠ 'Σ' := by
      rintro rfl
      exact absurd hascii (by decide)
    have hdot : c ≠ 'İ' := by
      rintro rfl
      exact absurd hascii (by decide)
    rw [lowerAfter, if_neg hsigma, if_neg hdot, ih fun x hx => h x (List.mem_cons_of_mem c hx),
      lowerChar, if_pos hascii, hlow]

def Trimmed (s : List Char) : Prop :=
  (∀ c ∈ s.head?, isBlank c = false) ∧ ∀ c ∈ s.getLast?, isBlank c = false

theorem trimStart_isSuffix (s : List Char) : trimStart s <:+ s := List.dropWhile_suffix _

theorem trimEnd_isPrefix (s : List Char) : trimEnd s <+: s := by
  rw [trimEnd, ← List.reverse_suffix, List.reverse_reverse]
  exact List.dropWhile_suffix _

theorem trimChars_isInfix (s : List Char) : trimChars s <:+: s :=
  (trimEnd_isPrefix _).isInfix.trans (trimStart_isSuffix s).isInfix

theorem trimStart_eq (h : ∀ c ∈ s.head?, isBlank c = false) : trimStart s = s := by
  cases s with
  | nil => rfl
  | cons c s => rw [trimStart, List.dropWhile_cons_of_neg (by simp [h c rfl])]

theorem trimEnd_eq (h : ∀ c ∈ s.getLast?, isBlank c = false) : trimEnd s = s := by
  have hrev : trimStart s.reverse = s.reverse := trimStart_eq (by simpa using h)
  rw [trimStart] at hrev
  rw [trimEnd, hrev, List.reverse_reverse]

theorem Trimmed.trimChars_eq (h : Trimmed s) : trimChars s = s := by
  rw [trimChars, trimStart_eq h.1, trimEnd_eq h.2]

theorem head?_trimStart : ∀ c ∈ (trimStart s).head?, isBlank c = false := by
  intro c hc
  have h := List.head?_dropWhile_not isBlank s
  rw [← trimStart, show (trimStart s).head? = some c from hc] at h
  simpa using h

theorem trimmed_trimChars (s : List Char) : Trimmed (trimChars s) := by
  have hlast : ∀ c ∈ (trimChars s).getLast?, isBlank c = false := by
    rw [trimChars, trimEnd, List.getLast?_reverse]
    exact head?_trimStart (s := (trimStart s).reverse)
  refine ⟨fun c hc => ?_, hlast⟩
  -- what is left of the end keeps the first character, unless nothing is left
  have hpre : trimChars s <+: trimStart s := by
    have h := List.dropWhile_suffix isBlank (l := (trimStart s).reverse)
    rw [← List.reverse_prefix, List.reverse_reverse] at h
    exact h
  obtain ⟨u, hu⟩ := hpre
  refine head?_trimStart (s := s) c ?_
  rw [← hu, List.head?_append, show (trimChars s).head? = some c from hc]
  rfl

theorem lowerAfter_ne_nil (hs : s ≠ []) : lowerAfter before s ≠ [] := by
  cases s with
  | nil => exact absurd rfl hs
  | cons c s =>
    obtain ⟨d, piece, he, _⟩ := lowerAfter_cons before c s
    simp [he]

theorem piece_not_blank (hc : isBlank c = false) :
    ∀ x ∈ ['ς', 'σ', 'i', '\u0307', lowerChar c], isBlank x = false := by
  intro x hx
  rcases List.mem_append.mp (show x ∈ ['ς', 'σ', 'i', '\u0307'] ++ [lowerChar c] from hx) with h | h
  · have hfixed : ∀ y ∈ ['ς', 'σ', 'i', '\u0307'], isBlank y = false := by
      simp [isBlank, blankRanges, inRanges]
    exact hfixed x h
  · exact List.mem_singleton.mp h ▸ lowerChar_not_blank hc

theorem getLast?_lowerAfter (h : ∀ c ∈ s.getLast?, isBlank c = false) :
    ∀ c ∈ (lowerAfter before s).getLast?, isBlank c = false := by
  induction s generalizing before with
  | nil => simp [lowerAfter]
  | cons c s ih =>
    obtain ⟨d, piece, he, hp⟩ := lowerAfter_cons before c s
    intro x hx
    rw [he, ← List.cons_append, List.getLast?_append] at hx
    by_cases hs : s = []
    · subst hs
      simp only [lowerAfter, List.getLast?_nil, Option.none_or] at hx
      exact piece_not_blank (h c rfl) x (hp x (List.mem_of_getLast? hx))
    · have hlast : ∀ c ∈ s.getLast?, isBlank c = false := by
        intro y hy
        refine h y ?_
        rw [List.getLast?_cons, show s.getLast? = some y from hy]
        rfl
      have hne : lowerAfter (c :: before) s ≠ [] := lowerAfter_ne_nil hs
      rw [List.getLast?_eq_some_getLast hne] at hx
      cases hx
      exact ih hlast _ (List.getLast?_eq_some_getLast hne)

theorem Trimmed.lowerAfter (h : Trimmed s) : Trimmed (lowerAfter before s) := by
  refine ⟨fun x hx => ?_, getLast?_lowerAfter h.2⟩
  cases s with
  | nil => simp [Text.lowerAfter] at hx
  | cons c s =>
    obtain ⟨d, piece, he, hp⟩ := lowerAfter_cons before c s
    rw [he] at hx
    have hd : d = x := Option.some.inj hx
    exact piece_not_blank (h.1 c rfl) x (hp x (hd ▸ List.mem_cons_self))

end MarkupForest.Text

namespace MarkupForest.CasePolicy

open Text

variable {p : CasePolicy} {name : String}

theorem trimmed_of_tagName (h : p.tagName name = name) : Trimmed name.toList := by
  have ht := trimmed_trimChars name.toList
  unfold tagName at h
  split at h
  · rw [← h, trim, String.toList_ofList]
    exact ht
  · rw [← h, lower, trim, String.toList_ofList, String.toList_ofList]
    exact ht.lowerAfter

theorem tagName_of_ascii (h : ∀ c ∈ name.toList, c.toNat < 0x80 ∧ isBlank c = false)
    (hlow : p.keepsTags = false → ∀ c ∈ name.toList, c.toLower = c) : p.tagName name = name := by
  have htrim : trim name = name := by
    have ht : Trimmed name.toList :=
      ⟨fun c hc => (h c (List.mem_of_mem_head? hc)).2,
        fun c hc => (h c (List.mem_of_getLast? hc)).2⟩
    rw [trim, ht.trimChars_eq, String.ofList_toList]
  unfold tagName
  rw [htrim]
  split
  · rfl
  · next hp =>
    have hl := hlow (by simpa using hp)
    rw [lower, lowerAfter_of_ascii fun c hc => ⟨(h c hc).1, hl c hc⟩, String.ofList_toList]

end MarkupForest.CasePolicy
