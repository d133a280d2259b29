import MarkupForest.Proofs.Outline.Canonical
import MarkupForest.Proofs.Token.Lexing
import MarkupForest.Forest.Writing

namespace MarkupForest

open Text Token

variable {config : ReaderConfig} {dialect : Dialect} {d : Doctype} {s t u v name : List Char}

namespace Doctype

def writtenIds (p s : List Char) : List Char :=
  if p = [] then
    if s = [] then []
    else [' ', 'S', 'Y', 'S', 'T', 'E', 'M', ' ', '\x22'] ++ (s ++ ['\x22'])
  else [' ', 'P', 'U', 'B', 'L', 'I', 'C', ' ', '\x22'] ++ (p ++ '\x22' ::
    if s = [] then [] else ' ' :: '\x22' :: (s ++ ['\x22']))

def content (d : Doctype) : List Char :=
  (if d.name = "" then [] else ' ' :: d.name.toList) ++
    writtenIds d.publicId.toList d.systemId.toList

theorem quoted_append (hv : '\x22' ∉ v) :
    quoted (' ' :: '\x22' :: (v ++ '\x22' :: u)) = (v, u) := by
  have hall := bne_of_not_mem hv
  have htrim : trimStart (' ' :: '\x22' :: (v ++ '\x22' :: u)) = '\x22' :: (v ++ '\x22' :: u) := rfl
  have hquote : isQuote '\x22' = true := rfl
  have htake : (v ++ '\x22' :: u).takeWhile (· != '\x22') = v :=
    takeWhile_append_cons hall rfl
  have hdrop : (v ++ '\x22' :: u).dropWhile (· != '\x22') = '\x22' :: u :=
    dropWhile_append_cons hall rfl
  unfold quoted
  rw [htrim]
  simp only [hquote, if_true, htake, hdrop, List.drop_succ_cons, List.drop_zero]

theorem identifiers_writtenIds {p : List Char} (hp : '\x22' ∉ p) (hs : '\x22' ∉ s) :
    identifiers (trimStart (writtenIds p s)) = (p, s) := by
  unfold writtenIds
  split
  · next hpe =>
    subst hpe
    split
    · next hse => rw [hse]; rfl
    · show ([], (quoted (' ' :: '\x22' :: (s ++ ['\x22']))).1) = ([], s)
      rw [quoted_append hs]
  · next hpe =>
    have hpublic : identifiers (trimStart ([' ', 'P', 'U', 'B', 'L', 'I', 'C', ' ', '\x22'] ++
        (p ++ '\x22' :: if s = [] then [] else ' ' :: '\x22' :: (s ++ ['\x22'])))) =
        ((quoted (' ' :: '\x22' :: (p ++ '\x22' ::
            if s = [] then [] else ' ' :: '\x22' :: (s ++ ['\x22'])))).1,
          (quoted (quoted (' ' :: '\x22' :: (p ++ '\x22' ::
            if s = [] then [] else ' ' :: '\x22' :: (s ++ ['\x22'])))).2).1) := rfl
    rw [hpublic, quoted_append hp]
    split
    · next hse => rw [hse]; rfl
    · rw [quoted_append hs]

theorem writtenIds_cases (p s : List Char) :
    writtenIds p s = [] ∨ ∃ r, writtenIds p s = ' ' :: (r ++ ['\x22']) := by
  unfold writtenIds
  split
  · split
    · exact .inl rfl
    · exact .inr ⟨['S', 'Y', 'S', 'T', 'E', 'M', ' ', '\x22'] ++ s, by simp⟩
  · split
    · exact .inr ⟨['P', 'U', 'B', 'L', 'I', 'C', ' ', '\x22'] ++ p, by simp⟩
    · exact .inr ⟨['P', 'U', 'B', 'L', 'I', 'C', ' ', '\x22'] ++
        (p ++ '\x22' :: ' ' :: '\x22' :: s), by simp⟩

theorem ofContent_name (hne : name ≠ []) (htrim : Trimmed name)
    (hgap : ∀ c ∈ name, isGap c = false) (hu : u = [] ∨ ∃ r, u = ' ' :: (r ++ ['\x22'])) :
    ofContent (' ' :: (name ++ u)) =
      ⟨String.ofList name, String.ofList (identifiers (trimStart u)).1,
        String.ofList (identifiers (trimStart u)).2⟩ := by
  have hall : ∀ x ∈ name, (!isGap x) = true := fun x hx => by rw [hgap x hx]; rfl
  have htrimmed : Trimmed (name ++ u) := by
    refine ⟨fun c hc => htrim.1 c ?_, fun c hc => ?_⟩
    · rwa [List.head?_append_of_ne_nil _ hne] at hc
    · rcases hu with rfl | ⟨r, rfl⟩
      · rw [List.append_nil] at hc
        exact htrim.2 c hc
      · have hlast : (name ++ ' ' :: (r ++ ['\x22'])).getLast? = some '\x22' := by
          rw [← List.cons_append, ← List.append_assoc, List.getLast?_concat]
        rw [hlast] at hc
        cases hc
        rfl
  have hs : trimChars (' ' :: (name ++ u)) = name ++ u := by
    rw [trimChars, show trimStart (' ' :: (name ++ u)) = trimStart (name ++ u) from rfl]
    exact htrimmed.trimChars_eq
  have htake : (name ++ u).takeWhile (!isGap ·) = name := by
    rw [List.takeWhile_append_of_pos hall]
    rcases hu with rfl | ⟨r, rfl⟩ <;> exact List.append_nil name
  have hdrop : (name ++ u).dropWhile (!isGap ·) = u := by
    rw [List.dropWhile_append_of_pos hall]
    rcases hu with rfl | ⟨r, rfl⟩ <;> rfl
  unfold ofContent
  simp only [hs, htake, hdrop]

theorem ofContent_content (hd : d.Canonical config) : ofContent d.content = d := by
  obtain ⟨hfixed, hname, hids, hempty⟩ := hd
  have hp : '\x22' ∉ d.publicId.toList := fun h => (hids _ (List.mem_append_left _ h)).1 rfl
  have hs : '\x22' ∉ d.systemId.toList := fun h => (hids _ (List.mem_append_right _ h)).1 rfl
  unfold content
  split
  · next hn =>
    obtain ⟨hpe, hse⟩ := hempty hn
    obtain ⟨name, publicId, systemId⟩ := d
    simp only at hn hpe hse
    subst hn hpe hse
    rfl
  · next hn =>
    have hne : d.name.toList ≠ [] := by simpa using hn
    rw [List.cons_append, ofContent_name hne (CasePolicy.trimmed_of_tagName hfixed)
      (fun c hc => (hname c hc).1) (writtenIds_cases _ _), identifiers_writtenIds hp hs]
    simp

theorem not_mem_content (hd : d.Canonical config) : '>' ∉ d.content := by
  obtain ⟨_, hname, hids, _⟩ := hd
  have hn : '>' ∉ d.name.toList := fun h => (hname _ h).2 rfl
  have hp : '>' ∉ d.publicId.toList := fun h => (hids _ (List.mem_append_left _ h)).2 rfl
  have hs : '>' ∉ d.systemId.toList := fun h => (hids _ (List.mem_append_right _ h)).2 rfl
  unfold content writtenIds
  split <;> split <;> split <;> simp [hn, hp, hs]

end Doctype

theorem Forest.toList_doctypeMarkup (dialect : Dialect) (d : Doctype) :
    ∃ r, (r = doctypeStart ∨ r = capitalDoctypeStart) ∧
      (doctypeMarkup dialect d).toList = r ++ (d.content ++ ['>']) := by
  refine ⟨if dialect = .html then doctypeStart else capitalDoctypeStart,
    by cases dialect <;> simp, ?_⟩
  unfold doctypeMarkup Doctype.content Doctype.writtenIds
  cases dialect <;> by_cases hp : d.publicId = "" <;> by_cases hs : d.systemId = "" <;>
    by_cases hn : d.name = "" <;> simp [hp, hs, hn, doctypeStart, capitalDoctypeStart]

namespace Token

theorem scans_doctype (hd : d.Canonical config) :
    Scans dialect ((Forest.doctypeMarkup dialect d).toList ++ t) [.doctype d nowhere] t := by
  obtain ⟨r, hr, hmarkup⟩ := Forest.toList_doctypeMarkup dialect d
  have hlen : r.length = doctypeStart.length := by rcases hr with rfl | rfl <;> rfl
  rw [hmarkup, List.append_assoc, List.append_assoc, List.singleton_append]
  refine scans_of_read (by simp) fun p hp => ?_
  have hbody : (p.skip doctypeStart.length).rest = d.content ++ '>' :: t := by
    rw [← hlen]
    exact rest_skip_append hp
  have hall := bne_of_not_mem (Doctype.not_mem_content hd)
  rw [read_doctype hr hp, readDoctype, hbody, takeWhile_append_cons hall rfl,
    Doctype.ofContent_content hd]
  refine ⟨rfl, ?_⟩
  have hskip : (p.skip doctypeStart.length).rest = (d.content ++ ['>']) ++ t := by
    rw [hbody, List.append_assoc, List.singleton_append]
  have h := rest_skip_append hskip
  rwa [List.length_append] at h

end Token

end MarkupForest
