import MarkupForest.Proofs.Outline.Rewrite

namespace MarkupForest

open Text Token

variable {dialect : Dialect} {a b : Attribute} {as : Attributes} {tag markup : String}
  {attributes : List Attribute} {p : Place}

def TokenAttribute.content (t : TokenAttribute) : Attribute := ⟨t.name, t.value⟩

def Attributes.readBack (dialect : Dialect) (as : Attributes) : List Attribute :=
  as.toList.filterMap fun a => (Attribute.writtenKey? dialect a.key).map fun key =>
    ⟨key, if Attribute.collapses dialect key a.value then none else some (a.value.getD "")⟩

namespace Attributes

theorem readBack_eq (dialect : Dialect) (as : Attributes) :
    as.readBack dialect =
      (as.toList.filterMap (·.respelt dialect)).map (·.collapsed dialect) := by
  rw [readBack, List.map_filterMap]
  refine List.filterMap_congr fun a _ => ?_
  rw [Attribute.respelt, Option.map_map]
  rfl

theorem writtenVerbatim_of_closed (h : dialect = .html → ∀ a ∈ as.toList, '>' ∉ a.key.toList) :
    ∀ b ∈ as.toList.filterMap (·.respelt dialect), b.WrittenVerbatim dialect := by
  intro b hb
  obtain ⟨a, ha, hab⟩ := List.mem_filterMap.mp hb
  exact Attribute.writtenVerbatim_respelt (fun hd => h hd a ha) hab

theorem toList_inTag (dialect : Dialect) (tag : String) (as : Attributes) :
    ("<" ++ tag ++ as.markup dialect ++ ">").toList = '<' :: (tag.toList ++
      (Label.attributes dialect (as.toList.filterMap (·.respelt dialect)) ++
        (tagEnd false ++ []))) := by
  simp [toList_markup, Label.attributes_respelt, tagEnd]

end Attributes

namespace Token

theorem unplaced_content {tas : List TokenAttribute}
    (h : tas.map TokenAttribute.unplaced = attributes.map (·.token dialect)) :
    tas.map TokenAttribute.content = attributes.map (·.collapsed dialect) := by
  have hview := congrArg (List.map TokenAttribute.content) h
  rwa [List.map_map, List.map_map] at hview

theorem startTag_of_unplaced
    (h : (tokens dialect markup).map unplaced =
      [.startTag tag (attributes.map (·.token dialect)) false nowhere]) :
    ∃ tas, tokens dialect markup = [.startTag tag tas false ⟨0, markup.utf8ByteSize⟩] ∧
      tas.map TokenAttribute.content = attributes.map (·.collapsed dialect) := by
  obtain ⟨q, hq, hend, hread⟩ := readsTo_scan dialect (Place.in_start markup.toList)
  have hcover : Cover 0 (tokens dialect markup) markup.utf8ByteSize := by
    rw [← width_toList]
    exact hread.cover hq hend
  obtain ⟨t, ht, hunplaced⟩ := List.map_eq_singleton_iff.mp h
  rw [ht] at hcover ⊢
  cases t with
  | startTag name tas selfClosing span =>
    simp only [unplaced, startTag.injEq] at hunplaced
    obtain ⟨rfl, htas, rfl, _⟩ := hunplaced
    obtain ⟨hstart, hstop⟩ := hcover
    refine ⟨tas, ?_, unplaced_content htas⟩
    rw [← hstart, ← show span.stop = markup.utf8ByteSize from hstop]
    rfl
  | _ => cases hunplaced

section Scans

variable {P : TokenAttribute → Prop} {name : String} {tas : List TokenAttribute} {alone : Bool}
  {span : Span}

theorem forall_of_mem_read (hP : ∀ q, ∀ a ∈ (readTagBody q).attributes, P a)
    (ht : .startTag name tas alone span ∈ (read dialect p).1) : ∀ a ∈ tas, P a := by
  have hread := reading dialect p
  generalize read dialect p = step at hread ht
  cases hread with
  | startTag =>
    have hall := hP ((p.skip 1).skip ((p.skip 1).rest.takeWhile isTagChar).length)
    rw [readStartTag] at ht
    dsimp only at ht
    split at ht
    · rcases List.mem_cons.mp ht with ht | ht
      · cases ht
        exact hall
      · -- raw text holds no start tag
        rcases List.mem_append.mp ht with ht | ht
        · split at ht <;> simp at ht
        · split at ht <;> simp at ht
    · cases List.mem_singleton.mp ht
      exact hall
  | _ => cases List.mem_singleton.mp ht

theorem forall_of_mem_scan (hP : ∀ q, ∀ a ∈ (readTagBody q).attributes, P a)
    (ht : .startTag name tas alone span ∈ scan dialect p) : ∀ a ∈ tas, P a := by
  fun_induction scan dialect p with
  | case1 => cases ht
  | case2 p hrest step ih =>
    rcases List.mem_append.mp ht with ht | ht
    · exact forall_of_mem_read hP ht
    · exact ih ht

theorem isKeyChar_of_mem_scan (ht : .startTag name tas alone span ∈ scan dialect p) :
    ∀ a ∈ tas, ∀ c ∈ a.name.toList, isKeyChar c = true :=
  forall_of_mem_scan isKeyChar_attributes ht

end Scans

theorem gt_not_mem_name {alone : Bool} {span : Span} {tas : List TokenAttribute}
    (h : tokens dialect markup = [.startTag tag tas alone span]) :
    ∀ b ∈ tas.map TokenAttribute.content, '>' ∉ b.key.toList := by
  intro b hb hgt
  obtain ⟨t, ht, rfl⟩ := List.mem_map.mp hb
  have hmem : .startTag tag tas alone span ∈ tokens dialect markup := h ▸ List.mem_cons_self
  exact absurd (isKeyChar_of_mem_scan hmem t ht _ hgt) (by decide)

end Token

theorem Attribute.gt_mem_written {key : String} (h : writtenKey? .html a.key = some key)
    (hgt : '>' ∈ a.key.toList) : '>' ∈ key.toList := by
  rcases (writtenKey?_cases h).2 with rfl | hform
  · exact hgt
  · rw [hform]
    exact List.mem_map.mpr ⟨'>', hgt, by decide⟩

theorem Attribute.exists_writtenKey? (h : a.key.toList ≠ []) :
    ∃ key, writtenKey? .html a.key = some key := by
  have hfits : ∀ c, fitsHtml (repair .html c) = true := by
    intro c
    rw [repair]
    split
    · assumption
    · decide
  have hkey : isKey .html (a.key.toList.map (repair .html)) = true := by
    simp [isKey, hfits, h]
  rw [writtenKey?]
  split
  · exact ⟨_, rfl⟩
  · exact ⟨_, if_pos hkey⟩

theorem attributes_stay_in_tag (dialect : Dialect) (as : Attributes) :
    (∃ tas, Token.tokens dialect ("<x" ++ as.markup dialect ++ ">") =
        [.startTag "x" tas false ⟨0, ("<x" ++ as.markup dialect ++ ">").utf8ByteSize⟩] ∧
      tas.map (fun t => ⟨t.name, t.value⟩) = as.readBack dialect) ↔
    (dialect = .html → ∀ a ∈ as.toList, '>' ∉ a.key.toList) := by
  constructor
  · rintro ⟨tas, htokens, hcontent⟩ rfl a ha hgt
    obtain ⟨key, hkey⟩ := Attribute.exists_writtenKey? (List.ne_nil_of_mem hgt)
    have hb : _ ∈ as.readBack .html := List.mem_filterMap.mpr ⟨a, ha, by rw [hkey]; rfl⟩
    rw [← hcontent] at hb
    exact Token.gt_not_mem_name htokens _ hb (Attribute.gt_mem_written hkey hgt)
  · intro hclosed
    have htag : Tag.Canonical dialect "x" := by cases dialect <;> decide
    have hscan := Token.scans_startTag (t := []) false htag (as.writtenVerbatim_of_closed hclosed)
      fun h => absurd h.2.2 (by decide)
    rw [← as.toList_inTag dialect "x"] at hscan
    obtain ⟨tas, htokens, hcontent⟩ := Token.startTag_of_unplaced hscan.map_tokens
    exact ⟨tas, htokens, hcontent.trans (as.readBack_eq dialect).symm⟩

-- In HTML a key ends the tag that it is written into, and the rest of it becomes text.
example : Token.tokens .html ("<x" ++ (Attributes.empty.put "a>b" (some "1")).markup .html ++ ">") =
    [.startTag "x" [⟨"a", none, ⟨3, 4⟩, ⟨4, 4⟩⟩] false ⟨0, 5⟩, .text "b=\x221\x22>" ⟨5, 11⟩] := by
  decide +kernel

end MarkupForest
