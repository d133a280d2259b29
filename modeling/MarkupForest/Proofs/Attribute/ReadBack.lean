import MarkupForest.Proofs.Attribute.UserData
import MarkupForest.Proofs.Attribute.TwoParts

namespace MarkupForest

open Edit Forest Text

variable {f g : Forest} {id x : NodeId} {as : Attributes} {key j k l name value : String}
  {resolve : Resolver}
  {s before : List Char} {p : CasePolicy}

namespace Text

theorem isBlank_toLower (c : Char) : isBlank c.toLower = isBlank c := by
  by_cases hascii : c.toNat < 0x80
  · exact ascii_induction (P := fun c => isBlank c.toLower = isBlank c) (by decide) hascii
  · rw [toLower_of_not_ascii hascii]

theorem Trimmed.of_sameLetters (h : sameLetters k l = true) (hl : Trimmed l.toList) :
    Trimmed k.toList := by
  have hmap : k.toList.map Char.toLower = l.toList.map Char.toLower := sameLetters_iff.mp h
  have hend : ∀ {a b : Option Char}, a.map Char.toLower = b.map Char.toLower →
      (∀ c ∈ b, isBlank c = false) → ∀ c ∈ a, isBlank c = false := by
    rintro a b hab hb c rfl
    obtain ⟨d, hd, hlow⟩ := Option.map_eq_some_iff.mp hab.symm
    rw [← isBlank_toLower, ← hlow, isBlank_toLower]
    exact hb d hd
  refine ⟨hend ?_ hl.1, hend ?_ hl.2⟩
  · rw [← List.head?_map, hmap, List.head?_map]
  · rw [← List.getLast?_map, hmap, List.getLast?_map]

theorem length_le_lowerAfter (before s : List Char) : s.length ≤ (lowerAfter before s).length := by
  induction s generalizing before with
  | nil => exact Nat.zero_le _
  | cons c s ih =>
    obtain ⟨d, piece, he, _⟩ := lowerAfter_cons before c s
    have hrest := ih (c :: before)
    rw [he, List.length_cons, List.length_cons, List.length_append]
    omega

theorem map_toLower_eq_lowerAfter_iff : s.map Char.toLower = lowerAfter before s ↔
    ∀ c ∈ s, 0x80 ≤ c.toNat → lowerChar c = c ∧ c ≠ 'İ' := by
  induction s generalizing before with
  | nil => simp [lowerAfter]
  | cons c s ih =>
    have hsigma : ¬ (lowerChar 'Σ' = 'Σ') := by decide +kernel
    rw [List.forall_mem_cons, List.map_cons, lowerAfter]
    by_cases hc : c = 'Σ'
    · subst hc
      rw [if_pos rfl, List.cons_eq_cons]
      refine iff_of_false (fun h => ?_) fun h => hsigma (h.1 (by decide)).1
      have hhead := h.1
      split at hhead
      · exact absurd hhead (by decide)
      · exact absurd hhead (by decide)
    rw [if_neg hc]
    by_cases hdot : c = 'İ'
    · subst hdot
      rw [if_pos rfl, List.cons_eq_cons]
      exact iff_of_false (fun h => absurd h.1 (by decide)) fun h => (h.1 (by decide)).2 rfl
    rw [if_neg hdot, List.cons_eq_cons, ih]
    refine and_congr_left fun _ => ?_
    by_cases hascii : c.toNat < 0x80
    · rw [lowerChar, if_pos hascii]
      exact iff_of_true rfl fun h => absurd hascii (Nat.not_lt.mpr h)
    · rw [toLower_of_not_ascii hascii, eq_comm]
      exact ⟨fun h _ => ⟨h, hdot⟩, fun h => (h (Nat.le_of_not_lt hascii)).1⟩

end Text

namespace CasePolicy

/-- The key as it is written differs from it in the case of ASCII letters at most. -/
structure KeepsLetters (p : CasePolicy) (key : String) : Prop where
  trimmed : Trimmed key.toList
  lowered : p.keepsAttributes = false →
    ∀ c ∈ key.toList, 0x80 ≤ c.toNat → lowerChar c = c ∧ c ≠ 'İ'

theorem trimmed_attributeName (p : CasePolicy) (key : String) :
    Trimmed (p.attributeName key).toList :=
  (normal_normal p.keepsAttributes key).trimmed

theorem attributeName_of_trimmed (h : Trimmed key.toList) :
    p.attributeName key = if p.keepsAttributes then key else lower key := by
  rw [attributeName, trim, h.trimChars_eq, String.ofList_toList]

theorem sameLetters_attributeName_iff :
    sameLetters key (p.attributeName key) = true ↔ p.KeepsLetters key := by
  have hform : ∀ ht : Trimmed key.toList, sameLetters key (p.attributeName key) = true ↔
      (p.keepsAttributes = false → ∀ c ∈ key.toList, 0x80 ≤ c.toNat →
          lowerChar c = c ∧ c ≠ 'İ') := by
    intro ht
    rw [attributeName_of_trimmed ht]
    split
    · next hcase => exact iff_of_true (sameLetters_refl key) fun h => absurd hcase (by simp [h])
    · next hfolds =>
      rw [sameLetters_iff, lowerAscii_lower, lower, String.toList_ofList, lowerAscii,
        map_toLower_eq_lowerAfter_iff]
      exact ⟨fun h _ => h, fun h => h (by simpa using hfolds)⟩
  constructor
  · intro h
    have ht := Trimmed.of_sameLetters h (p.trimmed_attributeName key)
    exact ⟨ht, (hform ht).mp h⟩
  · exact fun h => (hform h.trimmed).mpr h.lowered

end CasePolicy

theorem absoluteName?_eq_some (h : absoluteName? key = some name) :
    key.toList.head?.map Char.toLower = some 'a' ∧ name.toList = key.toList.drop 4 ∧
      4 < key.toList.length := by
  unfold absoluteName? at h
  dsimp only at h
  split at h
  · next hopens =>
    rw [Bool.and_eq_true, decide_eq_true_eq] at hopens
    refine ⟨?_, by rw [← Option.some.inj h, String.toList_ofList]; rfl, hopens.2⟩
    cases hkey : key.toList with
    | nil => simp [hkey] at hopens
    | cons c s =>
      rw [hkey, opensWith, Bool.and_eq_true, beq_iff_eq] at hopens
      exact congrArg some hopens.1.1.symm
  · cases h

theorem not_sameLetters_absoluteName (p : CasePolicy) (h : absoluteName? key = some name) :
    sameLetters name (p.attributeName key) = false := by
  obtain ⟨hhead, hname, hlong⟩ := absoluteName?_eq_some h
  rw [Bool.eq_false_iff]
  intro hsame
  have hlast := (Trimmed.of_sameLetters hsame (p.trimmed_attributeName key)).2
  have htrimmed : Trimmed key.toList := by
    refine ⟨fun c hc => ?_, fun c hc => hlast c ?_⟩
    · rw [show key.toList.head? = some c from hc, Option.map_some, Option.some_inj] at hhead
      rw [← isBlank_toLower, hhead]
      decide
    · rwa [hname, List.getLast?_drop, if_neg (Nat.not_le.mpr hlong)]
  have hlength := congrArg List.length (sameLetters_iff.mp hsame)
  rw [lowerAscii, lowerAscii, List.length_map, List.length_map, hname, List.length_drop,
    CasePolicy.attributeName_of_trimmed htrimmed] at hlength
  have hle := length_le_lowerAfter [] key.toList
  split at hlength
  · omega
  · rw [lower, String.toList_ofList] at hlength
    omega

namespace Attributes

theorem look_putAnyCase : (as.putAnyCase key (some value)).look j =
    if sameLetters j key then some value else as.look j := by
  rw [look, look, putAnyCase, set, has]
  cases hj : sameLetters j key with
  | true =>
    -- the two keys match the same entries
    have hboth :
        (Match.anyCase.holds j ·.key : Entry → Bool) = (Match.anyCase.holds key ·.key) := by
      funext e
      exact Bool.eq_iff_iff.mpr ⟨fun h => sameLetters_trans h hj,
        fun h => sameLetters_trans h (sameLetters_symm hj)⟩
    rw [if_pos rfl, find?, find?, hboth]
    cases hfind : as.entries.find? (Match.anyCase.holds key ·.key) with
    | some e =>
      rw [Option.isSome_some, if_pos rfl, find?_changeFirst_self fun _ _ => sameLetters_refl key,
        hfind]
      rfl
    | none =>
      rw [Option.isSome_none, if_neg Bool.false_ne_true, add, push, List.find?_append, hfind,
        Option.none_or, List.find?_cons_of_pos (by exact sameLetters_refl key)]
      rfl
  | false =>
    have hnew : Match.anyCase.holds j key = false := by
      rw [Match.holds, Bool.eq_false_iff]
      exact fun h => Bool.eq_false_iff.mp hj (sameLetters_symm h)
    rw [if_neg Bool.false_ne_true]
    congr 1
    split
    · refine find?_changeFirst_other fun e he => ⟨?_, hnew⟩
      rw [Match.holds, Bool.eq_false_iff]
      exact fun h => Bool.eq_false_iff.mp hj (sameLetters_trans (sameLetters_symm h) he)
    · simp [find?, add, push, hnew]

theorem find?_eraseP {p : Entry → Bool} (es : List Entry) :
    (es.eraseP p).find? p = (es.filter p)[1]? := by
  induction es with
  | nil => rfl
  | cons e es ih =>
    cases hp : p e with
    | true => rw [List.eraseP_cons_of_pos hp, List.filter_cons_of_pos hp, List.getElem?_cons_succ,
        ← List.head?_eq_getElem?, List.head?_filter]
    | false => rw [List.eraseP_cons_of_neg (by simp [hp]), List.filter_cons_of_neg (by simp [hp]),
        List.find?_cons_of_neg (by simp [hp]), ih]

def matching (as : Attributes) (key : String) : List Entry :=
  as.entries.filter (Match.anyCase.holds key ·.key)

theorem look_remove : (as.remove .anyCase key).look key =
    (as.matching key)[1]?.map (·.slot.shown) := by
  rw [look, remove, matching, ← find?_eraseP]
  split
  · rfl
  · next hnone =>
    have hmissing : ∀ e ∈ as.entries, ¬ Match.anyCase.holds key e.key = true := by
      simpa [has, find?] using hnone
    rw [List.eraseP_of_forall_not hmissing]
    rfl

end Attributes

theorem reads_of_look {v : String} (hx : x < f.size) (hne : key ≠ "")
    (hshown : isHiddenKey key = false) (h : (f.store x).look key = some v) :
    f.attributeValue resolve x key = .ok v ∧ f.hasAttribute resolve x key = true := by
  obtain ⟨n, _, hfind⟩ := find_of_lt hx
  have hhas : (f.store x).has .anyCase key = true := by rw [Attributes.has_eq, h]; rfl
  constructor
  · rw [attributeValue_eq, if_neg hne, if_neg (by simp [hshown]), hfind, Except.bind, if_pos hhas,
      Attributes.get_eq, h]
    rfl
  · rw [hasAttribute_eq, if_neg (by simp [hne, hshown]), hhas, Bool.or_true]

theorem reads_of_look_none (hx : x < f.size) (hne : key ≠ "") (hshown : isHiddenKey key = false)
    (habs : absoluteName? key = none) (h : (f.store x).look key = none) :
    f.attributeValue resolve x key = .ok "" ∧ f.hasAttribute resolve x key = false := by
  obtain ⟨n, _, hfind⟩ := find_of_lt hx
  have hhas : (f.store x).has .anyCase key = false := by rw [Attributes.has_eq, h]; rfl
  constructor
  · rw [attributeValue_eq, if_neg hne, if_neg (by simp [hshown]), hfind, Except.bind,
      if_neg (by simp [hhas]), habs]
  · rw [hasAttribute_eq, if_neg (by simp [hne, hshown]), habs, hhas]
    rfl

theorem writingKey_eq : f.writingKey id key =
    if (f.casePolicy id).attributeName key = "" then .error (.badArgument .emptyKey)
    else if isHiddenKey ((f.casePolicy id).attributeName key) then
      .error (.badArgument (.reservedKey ((f.casePolicy id).attributeName key)))
    else .ok ((f.casePolicy id).attributeName key) := by
  unfold writingKey
  dsimp only
  split
  · rfl
  · split <;> rfl

theorem setAttribute_eq_ok_iff : setAttribute id key value f = .ok () g ↔
    (f.childList? id).isSome ∧ (f.casePolicy id).attributeName key ≠ "" ∧
      isHiddenKey ((f.casePolicy id).attributeName key) = false ∧
      g = f.changeAttributes id
          (·.putAnyCase ((f.casePolicy id).attributeName key) (some value)) := by
  have hkey : f.writingKey id key = _ := writingKey_eq
  generalize (f.casePolicy id).attributeName key = k at hkey ⊢
  unfold setAttribute
  split at hkey
  · next hempty =>
    rw [bind_error (ask_error hkey)]
    exact iff_of_false nofun fun h => h.2.1 hempty
  · next hne =>
    split at hkey
    · next hhidden =>
      rw [bind_error (ask_error hkey)]
      exact iff_of_false nofun fun h => by simp [hhidden] at h
    · next hshown =>
      rw [bind_ok (ask_ok hkey)]
      by_cases hopen : (f.childList? id).isSome
      · rw [bind_ok (requireContainer_ok hopen), modify_eq]
        simp [hopen, hne, hshown, eq_comm]
      · cases hcheck : f.checkContainer id with
        | ok => exact absurd (checkContainer_eq_ok_iff.mp hcheck) hopen
        | error e =>
          rw [bind_error (requireContainer_error hcheck)]
          exact iff_of_false nofun fun h => hopen h.1

theorem sameBase_changeAttributes {u : Attributes → Attributes} (h : (f.childList? id).isSome)
    (hbase : (u (f.store id)).base? = (f.store id).base?) :
    SameBase f (f.changeAttributes id u) id := by
  have hsize : (f.changeAttributes id u).size = f.size := size_modify _ _ _
  have hid : id < f.size := by
    obtain ⟨l, hl⟩ := Option.isSome_iff_exists.mp h
    exact lt_of_childList? hl
  have hown : (f.changeAttributes id u).ownBase? = f.ownBase? := by
    funext y
    rw [Attributes.ownBase?_eq_base?, Attributes.ownBase?_eq_base?]
    by_cases hy : id = y
    · rw [← hy, store_changeAttributes h, hbase]
    · rw [store_changeAttributes_of_ne hy]
  have hlineage : (f.changeAttributes id u).lineage id = f.lineage id := by
    rw [lineage, lineage, hsize]
    exact climb_congr fun y _ => sameLinks_mapAttributes.parent y
  obtain ⟨n, _, hn⟩ := find_of_lt hid
  obtain ⟨m, _, hm⟩ := find_of_lt (hsize.symm ▸ hid)
  refine ⟨hsize, ?_⟩
  rw [baseUri, baseUri, hn, hm, hlineage, hown]
  rfl

theorem written_attribute_is_read_back (resolve : Resolver)
    (h : setAttribute id key value f = .ok () g) :
    (∀ j, sameLetters j ((f.casePolicy id).attributeName key) = true →
      g.attributeValue resolve id j = .ok value ∧ g.hasAttribute resolve id j = true) ∧
    ((f.casePolicy id).KeepsLetters key →
      g.attributeValue resolve id key = .ok value ∧ g.hasAttribute resolve id key = true) ∧
    (¬ (f.casePolicy id).KeepsLetters key →
      g.attributeValue resolve id key = f.attributeValue resolve id key ∧
        g.hasAttribute resolve id key = f.hasAttribute resolve id key) := by
  obtain ⟨hopen, hne, hshown, rfl⟩ := setAttribute_eq_ok_iff.mp h
  have hletters : sameLetters key ((f.casePolicy id).attributeName key) = true ↔
      (f.casePolicy id).KeepsLetters key := CasePolicy.sameLetters_attributeName_iff
  have hnames : ∀ name ∈ absoluteName? key,
      sameLetters name ((f.casePolicy id).attributeName key) = false :=
    fun _ hn => not_sameLetters_absoluteName _ hn
  generalize (f.casePolicy id).attributeName key = k at *
  have hstore := store_changeAttributes (u := (·.putAnyCase k (some value))) hopen
  have hlook (j : String) :
      ((f.changeAttributes id (·.putAnyCase k (some value))).store id).look j =
      if sameLetters j k then some value else (f.store id).look j := by
    rw [hstore, Attributes.look_putAnyCase]
  have hsame : SameBase f (f.changeAttributes id (·.putAnyCase k (some value))) id :=
    sameBase_changeAttributes hopen
      (congrArg Attributes.Sides.base (Attributes.sides_of_hidden (Attributes.hidden_set hshown)))
  obtain ⟨l, hl⟩ := Option.isSome_iff_exists.mp hopen
  have hid := lt_of_childList? hl
  generalize f.changeAttributes id (·.putAnyCase k (some value)) = g at hlook hsame
  have hwritten : ∀ j, sameLetters j k = true →
      g.attributeValue resolve id j = .ok value ∧ g.hasAttribute resolve id j = true := by
    intro j hj
    refine reads_of_look (hsame.size.symm ▸ hid) ?_ ((isHiddenKey_congr hj).trans hshown) ?_
    · rintro rfl
      have hempty : k.toList.map Char.toLower = [] := (sameLetters_iff.mp hj).symm
      exact hne (String.toList_eq_nil_iff.mp (List.map_eq_nil_iff.mp hempty))
    · rw [hlook, if_pos hj]
  refine ⟨hwritten, fun hs => hwritten key (hletters.mpr hs), fun hs => ?_⟩
  have hkey : (g.store id).look key = (f.store id).look key := by
    rw [hlook, if_neg fun hk => hs (hletters.mp hk)]
  have hname : ∀ name ∈ absoluteName? key, (g.store id).look name = (f.store id).look name := by
    intro name hn
    rw [hlook, hnames name hn, if_neg Bool.false_ne_true]
  exact ⟨hsame.attributeValue (fun _ => hkey) hname, hsame.hasAttribute (fun _ => hkey) hname⟩

theorem written_attribute_is_read_back_basedPair :
    Reachable basedPair ∧ ∃ g, setAttribute 1 "Title" "v" basedPair = .ok () g ∧
      g.attributeValue Url.resolve 1 "Title" = .ok "v" ∧
          g.hasAttribute Url.resolve 1 "Title" = true := by
  have hset : setAttribute 1 "Title" "v" basedPair = .ok () _ :=
    setAttribute_eq_ok_iff.mpr ⟨by decide, by decide +kernel, by decide +kernel, rfl⟩
  have hletters : (basedPair.casePolicy 1).KeepsLetters "Title" :=
    CasePolicy.sameLetters_attributeName_iff.mp (by decide +kernel)
  obtain ⟨-, hread, -⟩ := written_attribute_is_read_back Url.resolve hset
  exact ⟨reaches_runAll _, _, hset, hread hletters⟩

example : ((setAttribute 1 " É" "v").after basedPair).attributeValue Url.resolve 1 "É" = .ok "" ∧
    ((setAttribute 1 " É" "v").after basedPair).attributeValue Url.resolve 1 " é" = .ok "" ∧
    ((setAttribute 1 " É" "v").after basedPair).attributeValue Url.resolve 1 "é" = .ok "v" := by
  decide +kernel

theorem first_match_is_removed (resolve : Resolver) (h : (f.childList? id).isSome) (hne : key ≠ "")
    (hshown : isHiddenKey key = false) (habs : absoluteName? key = none) :
    ∃ g, removeAttribute id key f = .ok () g ∧ g.store id = (f.store id).remove .anyCase key ∧
      (((f.store id).matching key).length ≤ 1 →
        g.hasAttribute resolve id key = false ∧ g.attributeValue resolve id key = .ok "") ∧
      ∀ first second rest, (f.store id).matching key = first :: second :: rest →
        g.hasAttribute resolve id key = true ∧
            g.attributeValue resolve id key = .ok second.slot.shown := by
  have hstore : (f.changeExisting id (·.remove .anyCase key)).store id =
      (f.store id).remove .anyCase key := store_changeExisting rfl
  have hid : id < (f.changeExisting id (·.remove .anyCase key)).size := by
    obtain ⟨l, hl⟩ := Option.isSome_iff_exists.mp h
    rw [changeExisting, size_modify]
    exact lt_of_childList? hl
  have hlook : ((f.store id).remove .anyCase key).look key =
      ((f.store id).matching key)[1]?.map (·.slot.shown) := Attributes.look_remove
  rw [← hstore] at hlook
  refine ⟨_, removeAttribute_ok h hshown, hstore, fun hfew => ?_, fun first second rest hmany => ?_⟩
  · rw [List.getElem?_eq_none hfew] at hlook
    exact (reads_of_look_none hid hne hshown habs hlook).symm
  · rw [hmany] at hlook
    exact (reads_of_look hid hne hshown hlook).symm

def twoSpellings : Forest :=
  runAll Url.resolve (readFragment .xml) [.readDocument .xml "<a href=1 HREF=2></a>" ""] .empty

theorem first_match_is_removed_twoSpellings :
    (twoSpellings.childList? 1).isSome ∧ "href" ≠ "" ∧ isHiddenKey "href" = false ∧
      absoluteName? "href" = none ∧
      ∃ g, removeAttribute 1 "href" twoSpellings = .ok () g ∧
        g.hasAttribute Url.resolve 1 "href" = true ∧
        g.attributeValue Url.resolve 1 "href" = .ok "2" := by
  have hopen : (twoSpellings.childList? 1).isSome := by decide +kernel
  have hshown : isHiddenKey "href" = false := by decide
  have habs : absoluteName? "href" = none := by decide
  obtain ⟨g, hg, -, -, hmany⟩ := first_match_is_removed Url.resolve hopen (by decide) hshown habs
  have hmatching : (twoSpellings.store 1).matching "href" =
      [⟨"href", .text "1"⟩, ⟨"HREF", .text "2"⟩] := by decide +kernel
  exact ⟨hopen, by decide, hshown, habs, g, hg, hmany _ _ _ hmatching⟩

theorem removed_attribute_is_still_there :
    ¬ ∀ (resolve : Resolver) (f : Forest) (id : NodeId) (key : String), Reachable f →
      (f.childList? id).isSome → key ≠ "" → isHiddenKey key = false → absoluteName? key = none →
      ((removeAttribute id key).after f).hasAttribute resolve id key = false ∧
        ((removeAttribute id key).after f).attributeValue resolve id key = .ok "" := by
  intro h
  have hgone := h Url.resolve twoSpellings 1 "href" (reaches_runAll _) (by decide +kernel)
      (by decide) (by decide)
    (by decide)
  exact absurd hgone.1 (by decide +kernel)

end MarkupForest
