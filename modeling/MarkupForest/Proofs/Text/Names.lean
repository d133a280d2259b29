import MarkupForest.Proofs.Growth.StartTagStore
import Mathlib.Data.List.TakeWhile

namespace MarkupForest.Text

variable {s before : List Char} {c d : Char} {r r' : CaseRun} {n : Nat}

def CaseRun.misses (r r' : CaseRun) : Bool :=
  let first := r.image r.first
  Nat.blt 0 first && (Nat.blt (r.image r.last) r'.first || Nat.blt r'.last first ||
    ((r.step == 2 || r.first == r.last) && r'.step == 2 && (first + r'.first) % 2 == 1))

theorem misses_lowerRuns : (lowerRuns.all fun r => lowerRuns.all fun r' => r.misses r') = true := by
  decide +kernel

theorem covers_iff : r.covers n = true ↔ r.first ≤ n ∧ n ≤ r.last ∧ (n - r.first) % r.step = 0 := by
  simp [CaseRun.covers, and_assoc]

theorem not_covers_image (h : r.misses r' = true) (hn : r.covers n = true) :
    r'.covers (r.image n) = false := by
  simp only [CaseRun.misses, CaseRun.image, Bool.and_eq_true, Bool.or_eq_true, beq_iff_eq,
    Nat.blt_eq] at h
  obtain ⟨hpos, h⟩ := h
  rw [covers_iff] at hn
  rw [Bool.eq_false_iff, ne_eq, covers_iff, CaseRun.image]
  rintro ⟨hfirst, hlast, hstep⟩
  rcases h with (h | h) | ⟨⟨h | h, h'⟩, hodd⟩
  · omega
  · omega
  · rw [h] at hn
    rw [h'] at hstep
    omega
  · rw [h'] at hstep
    omega

theorem lowerChar_cases (c : Char) : c.toNat < 0x80 ∧ lowerChar c = c.toLower ∨
    0x80 ≤ c.toNat ∧ ((∃ r ∈ lowerRuns, r.covers c.toNat = true ∧
        lowerChar c = Char.ofNat (r.image c.toNat)) ∨
      (∀ r ∈ lowerRuns, r.covers c.toNat = false) ∧ lowerChar c = c) := by
  unfold lowerChar
  split
  · next hascii => exact .inl ⟨hascii, rfl⟩
  · next hascii =>
    refine .inr ⟨Nat.le_of_not_lt hascii, ?_⟩
    split
    · next r hfind =>
      have hcovers := List.find?_some hfind
      exact .inl ⟨r, List.mem_of_find?_eq_some hfind, hcovers, rfl⟩
    · next hnone =>
      rw [List.find?_eq_none] at hnone
      exact .inr ⟨fun r hr => by simpa using hnone r hr, rfl⟩

theorem lowerChar_of_not_covered (hc : inRanges capitals c = false)
    (h : 0x80 ≤ c.toNat → ∀ r ∈ lowerRuns, r.covers c.toNat = false) : lowerChar c = c := by
  rcases lowerChar_cases c with ⟨_, he⟩ | ⟨hge, ⟨r, hr, hcovers, _⟩ | ⟨_, he⟩⟩
  · rw [he, toLower_of_not_capital hc]
  · rw [h hge r hr] at hcovers
    cases hcovers
  · exact he

theorem toNat_toLower_lt (hc : c.toNat < 0x80) : c.toLower.toNat < 0x80 :=
  ascii_induction (P := fun c => c.toLower.toNat < 0x80) (by decide) hc

theorem lowerChar_lowerChar (c : Char) : lowerChar (lowerChar c) = lowerChar c := by
  refine lowerChar_of_not_covered lowerChar_not_capital fun hge r' hr' => ?_
  rcases lowerChar_cases c with ⟨hascii, he⟩ | ⟨_, ⟨r, hr, hcovers, he⟩ | ⟨hnone, he⟩⟩
  · rw [he] at hge
    exact absurd (toNat_toLower_lt hascii) (Nat.not_lt.mpr hge)
  · rw [he] at hge ⊢
    rcases toNat_ofNat (r.image c.toNat) with h | h
    · rw [h]
      have hmisses := List.all_eq_true.mp (List.all_eq_true.mp misses_lowerRuns r hr) r' hr'
      exact not_covers_image hmisses hcovers
    · omega
  · rw [he]
    exact hnone r' hr'

def marks : List Char := [' ', '\t', '\n', '\x0c', '\r', '/', '>', '=', '\x22', '\x27', 'İ']

theorem forall_mem_of_all {l : List Char} {P : Char → Prop} [DecidablePred P]
    (h : (l.all fun c => decide (P c)) = true) : ∀ c ∈ l, P c := fun c hc =>
  of_decide_eq_true (List.all_eq_true.mp h c hc)

theorem mark_facts : ∀ d ∈ marks, 0 < d.toNat ∧ Avoided [(d.toNat, d.toNat)] ∧
    d ∉ ['ς', 'σ', 'i', '\u0307'] := forall_mem_of_all (by decide +kernel)

theorem toLower_ne_mark (hd : d ∈ marks) (hascii : c.toNat < 0x80) (hc : c ≠ d) :
    c.toLower ≠ d := by
  have hall := ascii_induction (P := fun c => (marks.all fun d => c == d || c.toLower != d) = true)
    (by decide) hascii
  simpa [hc] using List.all_eq_true.mp hall d hd

theorem inRanges_single : inRanges [(d.toNat, d.toNat)] c = false ↔ c ≠ d := by
  rw [inRanges_eq_false_iff]
  simp only [List.mem_singleton, forall_eq, ne_eq, ← Char.toNat_inj]
  omega

theorem lowerChar_ne_mark (hd : d ∈ marks) (hc : c ≠ d) : lowerChar c ≠ d := by
  obtain ⟨hpos, havoided, _⟩ := mark_facts d hd
  rw [← inRanges_single]
  refine inRanges_lowerChar havoided ?_ (fun h => ?_) fun _ => inRanges_single.mpr hc
  · simpa using hpos
  · exact inRanges_single.mpr (toLower_ne_mark hd h hc)

theorem not_mem_lowerAfter (hd : d ∈ marks) (h : d ∉ s) : d ∉ lowerAfter before s := by
  intro hm
  refine lowerAfter_all (P := fun x => x ≠ d) (fun x hx he => ?_) (fun c hc => ?_) d hm rfl
  · exact (mark_facts d hd).2.2 (he ▸ hx)
  · exact lowerChar_ne_mark hd fun he => h (he ▸ hc)

def Lowered (s : List Char) : Prop := ∀ c ∈ s, lowerChar c = c ∧ c ≠ 'İ'

theorem Lowered.lowerAfter_eq (h : Lowered s) : lowerAfter before s = s := by
  induction s generalizing before with
  | nil => rfl
  | cons c s ih =>
    obtain ⟨hlow, hdot⟩ := h c List.mem_cons_self
    have hsigma : c ≠ 'Σ' := by
      rintro rfl
      exact absurd hlow (by decide +kernel)
    rw [lowerAfter, if_neg hsigma, if_neg hdot, hlow,
      ih fun x hx => h x (List.mem_cons_of_mem c hx)]

theorem lowered_lowerAfter (s before : List Char) : Lowered (lowerAfter before s) := by
  have hfixed : ∀ x ∈ ['ς', 'σ', 'i', '\u0307'], lowerChar x = x ∧ x ≠ 'İ' :=
    forall_mem_of_all (by decide +kernel)
  induction s generalizing before with
  | nil => simp [lowerAfter, Lowered]
  | cons c s ih =>
    rw [lowerAfter]
    split
    · rintro x (_ | ⟨_, hx⟩)
      · split
        · exact hfixed _ (by simp)
        · exact hfixed _ (by simp)
      · exact ih _ x hx
    · split
      · rintro x (_ | ⟨_, _ | ⟨_, hx⟩⟩)
        · exact hfixed _ (by simp)
        · exact hfixed _ (by simp)
        · exact ih _ x hx
      · next hdot =>
        rintro x (_ | ⟨_, hx⟩)
        · exact ⟨lowerChar_lowerChar c, lowerChar_ne_mark (by decide) hdot⟩
        · exact ih _ x hx

theorem lowerAfter_ascii (h : ∀ c ∈ s, c.toNat < 0x80) :
    lowerAfter before s = s.map Char.toLower := by
  induction s generalizing before with
  | nil => rfl
  | cons c s ih =>
    have hascii := h c List.mem_cons_self
    have hsigma : c ≠ 'Σ' := by
      rintro rfl
      exact absurd hascii (by decide)
    have hdot : c ≠ 'İ' := by
      rintro rfl
      exact absurd hascii (by decide)
    rw [lowerAfter, if_neg hsigma, if_neg hdot, lowerChar, if_pos hascii, List.map_cons,
      ih fun x hx => h x (List.mem_cons_of_mem c hx)]

def normal (keeps : Bool) (name : String) : String := if keeps then trim name else lower (trim name)

structure Normal (keeps : Bool) (s : List Char) : Prop where
  trimmed : Trimmed s
  lowered : keeps = false → Lowered s

variable {keeps : Bool} {name : String}

theorem Normal.eq_self (h : Normal keeps name.toList) : normal keeps name = name := by
  have htrim : trim name = name := by rw [trim, h.trimmed.trimChars_eq, String.ofList_toList]
  unfold normal
  rw [htrim]
  split
  · rfl
  · next hk => rw [lower, (h.lowered (by simpa using hk)).lowerAfter_eq, String.ofList_toList]

theorem normal_normal (keeps : Bool) (name : String) : Normal keeps (normal keeps name).toList := by
  have htrim := trimmed_trimChars name.toList
  unfold normal
  split
  · next hk =>
    rw [trim, String.toList_ofList]
    exact ⟨htrim, fun h => by simp [hk] at h⟩
  · rw [lower, trim, String.toList_ofList, String.toList_ofList]
    exact ⟨htrim.lowerAfter, fun _ => lowered_lowerAfter _ _⟩

theorem not_mem_normal (hd : d ∈ marks) (h : d ∉ name.toList) :
    d ∉ (normal keeps name).toList := by
  have htrim : d ∉ trimChars name.toList := fun hm => h ((trimChars_isInfix _).subset hm)
  unfold normal
  split
  · rwa [trim, String.toList_ofList]
  · rw [lower, trim, String.toList_ofList, String.toList_ofList]
    exact not_mem_lowerAfter hd htrim

theorem trimStart_ne_nil (hc : c ∈ s) (h : isBlank c = false) : trimStart s ≠ [] := by
  intro hnil
  have hall := List.dropWhile_eq_nil_iff.mp hnil c hc
  simp [h] at hall

theorem normal_ne_empty (hc : c ∈ name.toList) (h : isBlank c = false) :
    normal keeps name ≠ "" := by
  have htrim : trimChars name.toList ≠ [] := by
    obtain ⟨d, rest, hd⟩ := List.exists_cons_of_ne_nil (trimStart_ne_nil hc h)
    have hblank := head?_trimStart d (by rw [hd]; rfl)
    have hrev : trimStart (trimStart name.toList).reverse ≠ [] :=
      trimStart_ne_nil (c := d) (by simp [hd]) hblank
    exact fun hnil => hrev (List.reverse_eq_nil_iff.mp hnil)
  rw [ne_eq, ← String.toList_inj, String.toList_empty]
  unfold normal
  split
  · rwa [trim, String.toList_ofList]
  · rw [lower, trim, String.toList_ofList, String.toList_ofList]
    exact lowerAfter_ne_nil htrim

end MarkupForest.Text

namespace MarkupForest

open Text Token

variable {config : ReaderConfig} {name : String} {c : Char} {s t : List Char}

theorem tagChar_facts (hc : isTagChar c = true) : isBlank c = false ∧ isTagChar c.toLower = true ∧
    c.toLower.isUpper = false ∧ (c.isAlpha = true → c.toLower.isAlpha = true) ∧
    c.toLower.toLower = c.toLower :=
  ascii_induction (P := fun c => isTagChar c = true → isBlank c = false ∧
    isTagChar c.toLower = true ∧ c.toLower.isUpper = false ∧
    (c.isAlpha = true → c.toLower.isAlpha = true) ∧ c.toLower.toLower = c.toLower)
    (by decide) (isTagChar_lt hc) hc

theorem toList_normal_tag (keeps : Bool) (h : ∀ c ∈ name.toList, isTagChar c = true) :
    (normal keeps name).toList = if keeps then name.toList else name.toList.map Char.toLower := by
  have htrimmed : Trimmed name.toList :=
    ⟨fun c hc => (tagChar_facts (h c (List.mem_of_mem_head? hc))).1,
      fun c hc => (tagChar_facts (h c (List.mem_of_getLast? hc))).1⟩
  have htrim : trim name = name := by rw [trim, htrimmed.trimChars_eq, String.ofList_toList]
  unfold normal
  rw [htrim]
  split
  · rfl
  · rw [lower, String.toList_ofList, lowerAfter_ascii fun c hc => isTagChar_lt (h c hc)]

theorem startsIn_map (hs : startsIn Char.isAlpha s = true) (h : ∀ c ∈ s, isTagChar c = true) :
    startsIn Char.isAlpha (s.map Char.toLower) = true := by
  cases s with
  | nil => cases hs
  | cons c s => exact (tagChar_facts (h c List.mem_cons_self)).2.2.2.1 hs

theorem canonical_tagName (hstock : config.Stock)
    (hfirst : startsIn Char.isAlpha name.toList = true)
    (h : ∀ c ∈ name.toList, isTagChar c = true) :
    Tag.Canonical config.dialect (config.cases.tagName name) := by
  have hlist : (config.cases.tagName name).toList = _ := toList_normal_tag config.cases.keepsTags h
  unfold Tag.Canonical
  rw [hlist]
  split
  · next hkeeps =>
    refine ⟨hfirst, h, fun hd => ?_⟩
    rcases hstock with rfl | rfl
    · cases hkeeps
    · cases hd
  · refine ⟨startsIn_map hfirst h, fun c hc => ?_, fun _ c hc => ?_⟩
    · obtain ⟨d, hd, rfl⟩ := List.mem_map.mp hc
      exact (tagChar_facts (h d hd)).2.1
    · obtain ⟨d, hd, rfl⟩ := List.mem_map.mp hc
      exact (tagChar_facts (h d hd)).2.2.1

namespace Attribute

def respelt (dialect : Dialect) (a : Attribute) : Option Attribute :=
  (writtenKey? dialect a.key).map (⟨·, a.value⟩)

variable {dialect : Dialect} {a b : Attribute} {keeps : Bool}

theorem writtenKey?_cases {key : String} (h : writtenKey? dialect a.key = some key) :
    isKey dialect key.toList = true ∧
      (key = a.key ∨ key.toList = a.key.toList.map (repair dialect)) := by
  unfold writtenKey? at h
  split at h
  · next hkey =>
    cases h
    exact ⟨hkey, .inl rfl⟩
  · dsimp only at h
    split at h
    · next hkey =>
      cases h
      rw [String.toList_ofList]
      exact ⟨hkey, .inr rfl⟩
    · cases h

theorem repair_cases (dialect : Dialect) (c : Char) :
    repair dialect c = c ∨ repair dialect c = '_' := by
  unfold repair
  cases dialect <;> (dsimp only; split) <;> simp

theorem normal_map_repair (dialect : Dialect) (h : Normal keeps s) :
    Normal keeps (s.map (repair dialect)) := by
  have hblank : ∀ c, isBlank c = false → isBlank (repair dialect c) = false := by
    intro c hc
    rcases repair_cases dialect c with he | he
    · rwa [he]
    · rw [he]
      decide
  refine ⟨⟨fun c hc => ?_, fun c hc => ?_⟩, fun hk c hc => ?_⟩
  · rw [List.head?_map, Option.mem_map] at hc
    obtain ⟨d, hd, rfl⟩ := hc
    exact hblank d (h.trimmed.1 d hd)
  · rw [List.getLast?_map, Option.mem_map] at hc
    obtain ⟨d, hd, rfl⟩ := hc
    exact hblank d (h.trimmed.2 d hd)
  · obtain ⟨d, hd, rfl⟩ := List.mem_map.mp hc
    rcases repair_cases dialect d with he | he
    · rw [he]
      exact h.lowered hk d hd
    · rw [he]
      decide

theorem writtenVerbatim_respelt (hgt : dialect = .html → '>' ∉ a.key.toList)
    (h : a.respelt dialect = some b) : b.WrittenVerbatim dialect := by
  obtain ⟨key, hkey, rfl⟩ := Option.map_eq_some_iff.mp h
  obtain ⟨hfits, hform⟩ := writtenKey?_cases hkey
  refine ⟨hfits, ?_⟩
  cases dialect with
  | html =>
    rcases hform with rfl | hform
    · exact hgt rfl
    · intro hm
      rw [hform] at hm
      obtain ⟨d, hd, he⟩ := List.mem_map.mp hm
      rcases repair_cases .html d with hr | hr
      · exact hgt rfl (he ▸ hr.symm ▸ hd)
      · rw [hr] at he
        exact absurd he (by decide)
  | xml =>
    -- in XML the character fits no key at all
    intro hm
    cases hk : key.toList with
    | nil => simp [hk] at hm
    | cons k rest =>
      rw [hk, isKey, Bool.and_eq_true, List.all_eq_true] at hfits
      rcases List.mem_cons.mp (hk ▸ hm) with rfl | hrest
      · exact absurd hfits.1 (by decide)
      · exact absurd (hfits.2 _ hrest) (by decide)

theorem canonical_respelt (hk : Normal config.cases.keepsAttributes a.key.toList)
    (hgt : '>' ∉ a.key.toList) (h : a.respelt config.dialect = some b) : b.Canonical config := by
  obtain ⟨hfits, hclosed⟩ := writtenVerbatim_respelt (fun _ => hgt) h
  obtain ⟨key, hkey, rfl⟩ := Option.map_eq_some_iff.mp h
  refine ⟨hfits, hclosed, ?_⟩
  have hnormal : Normal config.cases.keepsAttributes key.toList := by
    rcases (writtenKey?_cases hkey).2 with rfl | hform
    · exact hk
    · rw [hform]
      exact normal_map_repair config.dialect hk
  exact hnormal.eq_self

end Attribute

end MarkupForest
