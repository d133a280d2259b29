import MarkupForest.Proofs.Outline.Canonical
import MarkupForest.Proofs.Token.Lexing
import MarkupForest.Proofs.Outline.Markup

namespace MarkupForest

open Text Token

variable {config : ReaderConfig} {dialect : Dialect} {a : Attribute} {as : List Attribute}
  {key name s t u v : List Char} {c : Char} {p q : Place} {alone : Bool} {tag : String}

theorem isKeyChar_iff : isKeyChar c = true ↔
    c ∉ [' ', '\t', '\n', '\x0c', '\r', '/', '>', '=', '\x22', '\x27'] := by
  simp [isKeyChar, isGap, and_assoc]

theorem isKeyChar_of_fits (hd : ∀ d ∈ [' ', '\t', '\n', '\x0c', '\r', '/', '=', '\x22', '\x27'],
    c ≠ d) (hc : c ≠ '>') : isKeyChar c = true := by
  rw [isKeyChar_iff]
  intro hm
  simp only [List.mem_cons, List.not_mem_nil, or_false] at hm hd
  grind

namespace Attribute

def token (dialect : Dialect) (a : Attribute) : TokenAttribute :=
  ⟨a.key, (a.collapsed dialect).value, nowhere, nowhere⟩

theorem fits_ne {d : Char} (hd : d ∈ [' ', '\t', '\n', '\x0c', '\r', '/', '=', '\x22', '\x27']) :
    fitsHtml d = false ∧ fitsXml d = false ∧ opensXml d = false := by
  simp only [List.mem_cons, List.not_mem_nil, or_false] at hd
  rcases hd with rfl | rfl | rfl | rfl | rfl | rfl | rfl | rfl | rfl <;> decide

theorem isKeyChar_of_isKey (h : isKey dialect key = true) (hgt : '>' ∉ key) :
    key ≠ [] ∧ ∀ c ∈ key, isKeyChar c = true := by
  cases dialect with
  | html =>
    simp only [isKey, Bool.and_eq_true, bne_iff_ne, List.all_eq_true] at h
    refine ⟨h.1, fun c hc => isKeyChar_of_fits (fun d hd => ?_) fun he => hgt (he ▸ hc)⟩
    rintro rfl
    exact absurd (h.2 _ hc) (by simp [(fits_ne hd).1])
  | xml =>
    cases key with
    | nil => cases h
    | cons k key =>
      simp only [isKey, Bool.and_eq_true, List.all_eq_true] at h
      refine ⟨List.cons_ne_nil k key, fun c hc => isKeyChar_of_fits (fun d hd => ?_)
        fun he => hgt (he ▸ hc)⟩
      rintro rfl
      rcases List.mem_cons.mp hc with rfl | hc
      · exact absurd h.1 (by simp [(fits_ne hd).2.2])
      · exact absurd (h.2 _ hc) (by simp [(fits_ne hd).2.1])

def WrittenVerbatim (dialect : Dialect) (a : Attribute) : Prop :=
  isKey dialect a.key.toList = true ∧ '>' ∉ a.key.toList

theorem Canonical.writtenVerbatim (h : a.Canonical config) : a.WrittenVerbatim config.dialect :=
  ⟨h.1, h.2.1⟩

theorem WrittenVerbatim.all_isKeyChar (h : a.WrittenVerbatim dialect) :
    a.key.toList ≠ [] ∧ ∀ c ∈ a.key.toList, isKeyChar c = true :=
  isKeyChar_of_isKey h.1 h.2

theorem WrittenVerbatim.exists_first (h : a.WrittenVerbatim dialect) :
    ∃ k key, a.key.toList = k :: key ∧ isKeyChar k = true ∧ isGap k = false ∧
      k ≠ '=' := by
  obtain ⟨hne, hkey⟩ := h.all_isKeyChar
  obtain ⟨k, key, hk⟩ := List.exists_cons_of_ne_nil hne
  have hkc := hkey k (hk ▸ List.mem_cons_self)
  have hnot := isKeyChar_iff.mp hkc
  simp only [List.mem_cons, not_or] at hnot
  exact ⟨k, key, hk, hkc, by simp [isGap, hnot], by simp [hnot]⟩

theorem toList_written (dialect : Dialect) (a : Attribute) :
    (written dialect a.key a.value).toList = a.key.toList ++
      if collapses dialect a.key a.value then []
      else '=' :: '\x22' ::
        (Reference.encode .quoted dialect (a.value.getD "").toList ++ ['\x22']) := by
  unfold written
  split
  · simp
  · simp [Reference.toList_escape]

end Attribute

theorem Label.attributes_cons (ha : a.WrittenVerbatim dialect) :
    Label.attributes dialect (a :: as) =
      ' ' :: ((Attribute.written dialect a.key a.value).toList ++
        Label.attributes dialect as) := by
  have hkey : Attribute.writtenKey? dialect a.key = some a.key := by
    rw [Attribute.writtenKey?, if_pos ha.1]
  rw [Label.attributes, List.flatMap_cons, hkey]
  rfl

namespace Token

theorem readTagBody_close (h : p.rest.dropWhile isGap = '>' :: t) :
    (readTagBody p).attributes = [] ∧ (readTagBody p).selfClosing = false ∧
      (readTagBody p).next.rest = t := by
  rw [← Place.rest_skipWhile] at h
  rw [readTagBody]
  split
  · next hq => simp [h] at hq
  · next c s hq =>
    rw [h] at hq
    cases hq
    simp [h]

theorem readTagBody_alone (h : p.rest.dropWhile isGap = '/' :: '>' :: t) :
    (readTagBody p).attributes = [] ∧ (readTagBody p).selfClosing = true ∧
      (readTagBody p).next.rest = t := by
  rw [← Place.rest_skipWhile] at h
  rw [readTagBody]
  split
  · next hq => simp [h] at hq
  · next c s hq =>
    rw [h] at hq
    cases hq
    simp [h]

theorem readTagBody_key (h : p.rest.dropWhile isGap = c :: s) (hc : isKeyChar c = true) :
    readTagBody p = { readTagBody (readAttribute (p.skipWhile isGap)).2 with
      attributes := (readAttribute (p.skipWhile isGap)).1 ::
        (readTagBody (readAttribute (p.skipWhile isGap)).2).attributes } := by
  rw [← Place.rest_skipWhile] at h
  have hgreater : c ≠ '>' := by
    rintro rfl
    exact absurd hc (by decide)
  have hslash : c ≠ '/' := by
    rintro rfl
    exact absurd hc (by decide)
  rw [readTagBody]
  split
  · next hq => simp [h] at hq
  · next d s hq =>
    rw [h] at hq
    cases hq
    rw [if_neg hgreater, if_neg fun hs => hslash hs.1, dif_pos hc]

theorem readAttribute_bare (hp : p.rest = key ++ c :: u) (hk : ∀ x ∈ key, isKeyChar x = true)
    (hc : isKeyChar c = false) (hu : ((c :: u).dropWhile isGap).head? ≠ some '=') :
    (readAttribute p).1.unplaced = ⟨String.ofList key, none, nowhere, nowhere⟩ ∧
      (readAttribute p).2.rest = c :: u := by
  have hname : p.rest.takeWhile isKeyChar = key := by
    rw [hp, takeWhile_append_cons hk hc]
  have hrest : (p.skip key.length).rest = c :: u := rest_skip_append hp
  unfold readAttribute
  dsimp only
  rw [hname, Place.rest_skipWhile, hrest, if_neg hu]
  exact ⟨rfl, hrest⟩

theorem readValue_quoted (hp : p.rest = '\x22' :: (v ++ '\x22' :: u)) (hv : '\x22' ∉ v) :
    (readValue p).raw = v ∧ (readValue p).next.rest = u := by
  have hraw : (v ++ '\x22' :: u).takeWhile (· != '\x22') = v :=
    takeWhile_append_cons (bne_of_not_mem hv) rfl
  unfold readValue
  split
  · next c s hs =>
    rw [hp] at hs
    cases hs
    have hquote : Doctype.isQuote '\x22' = true := rfl
    simp only [hquote, if_true, hraw]
    have hinner : (p.skip 1).rest = v ++ '\x22' :: u := by rw [Place.rest_skip, hp]; rfl
    refine ⟨trivial, ?_⟩
    rw [Place.rest_skip, rest_skip_append hinner]
    rfl
  · next hs =>
    rw [hp] at hs
    cases hs

theorem readAttribute_quoted (hp : p.rest = key ++ '=' :: '\x22' :: (v ++ '\x22' :: u))
    (hk : ∀ x ∈ key, isKeyChar x = true) (hv : '\x22' ∉ v) :
    (readAttribute p).1.unplaced =
        ⟨String.ofList key, some (String.ofList (Reference.decode v)), nowhere, nowhere⟩ ∧
      (readAttribute p).2.rest = u := by
  have hname : p.rest.takeWhile isKeyChar = key := by
    rw [hp, takeWhile_append_cons hk rfl]
  have hrest :
      ((p.skip key.length).skipWhile isGap).rest = '=' :: '\x22' :: (v ++ '\x22' :: u) := by
    rw [Place.rest_skipWhile, rest_skip_append hp]
    rfl
  have hvalue : ((((p.skip key.length).skipWhile isGap).skip 1).skipWhile isGap).rest =
      '\x22' :: (v ++ '\x22' :: u) := by
    rw [Place.rest_skipWhile, Place.rest_skip, hrest]
    rfl
  obtain ⟨hraw, hnext⟩ := readValue_quoted hvalue hv
  unfold readAttribute
  dsimp only
  rw [hname, hrest, List.head?_cons, if_pos rfl]
  simp only [TokenAttribute.unplaced, hraw]
  exact ⟨trivial, hnext⟩

def tagEnd (alone : Bool) : List Char := if alone then [' ', '/', '>'] else ['>']

theorem after_name (alone : Bool) (t : List Char) (has : ∀ a ∈ as, a.WrittenVerbatim dialect) :
    ∃ c u, Label.attributes dialect as ++ (tagEnd alone ++ t) = c :: u ∧
      (c = ' ' ∨ c = '>') ∧ ((c :: u).dropWhile isGap).head? ≠ some '=' := by
  cases as with
  | nil => cases alone <;> exact ⟨_, _, rfl, by simp, by simp [isGap]⟩
  | cons a as =>
    have ha := has a List.mem_cons_self
    obtain ⟨k, key, hk, _, hgap, heq⟩ := ha.exists_first
    rw [Label.attributes_cons ha, Attribute.toList_written, hk]
    refine ⟨' ', _, rfl, .inl rfl, ?_⟩
    rw [List.dropWhile_cons_of_pos rfl]
    simp [hgap, heq]

theorem readAttribute_written (ha : a.WrittenVerbatim dialect) (hc : c = ' ' ∨ c = '>')
    (hu : ((c :: u).dropWhile isGap).head? ≠ some '=')
    (hp : p.rest = (Attribute.written dialect a.key a.value).toList ++ c :: u) :
    (readAttribute p).1.unplaced = a.token dialect ∧ (readAttribute p).2.rest = c :: u := by
  have hkey := ha.all_isKeyChar.2
  rw [Attribute.toList_written] at hp
  unfold Attribute.token Attribute.collapsed
  by_cases hcoll : Attribute.collapses dialect a.key a.value = true
  · have hend : isKeyChar c = false := by rcases hc with rfl | rfl <;> rfl
    rw [if_pos hcoll, List.append_nil] at hp
    have h := readAttribute_bare hp hkey hend hu
    rw [String.ofList_toList] at h
    rwa [if_pos hcoll]
  · rw [if_neg hcoll, List.append_assoc] at hp
    have h := readAttribute_quoted (u := c :: u) (by simpa using hp) hkey
      Reference.quote_not_mem_encode
    rw [String.ofList_toList, Reference.decode_encode, String.ofList_toList] at h
    rwa [if_neg hcoll]

theorem readTagBody_attributes (has : ∀ a ∈ as, a.WrittenVerbatim dialect)
    (hp : p.rest = Label.attributes dialect as ++ (tagEnd alone ++ t)) :
    (readTagBody p).attributes.map TokenAttribute.unplaced = as.map (·.token dialect) ∧
      (readTagBody p).selfClosing = alone ∧ (readTagBody p).next.rest = t := by
  induction as generalizing p with
  | nil =>
    cases alone with
    | true =>
      have h : p.rest.dropWhile isGap = '/' :: '>' :: t := by rw [hp]; rfl
      simp [readTagBody_alone h]
    | false =>
      have h : p.rest.dropWhile isGap = '>' :: t := by rw [hp]; rfl
      simp [readTagBody_close h]
  | cons a as ih =>
    have ha := has a List.mem_cons_self
    have hrest :
        ∀ b ∈ as, b.WrittenVerbatim dialect := fun b hb => has b (List.mem_cons_of_mem a hb)
    obtain ⟨c, u, hu, hc, hvalue⟩ := after_name alone t hrest
    obtain ⟨k, key, hk, hkc, hgap, _⟩ := ha.exists_first
    have hdrop : p.rest.dropWhile isGap =
        (Attribute.written dialect a.key a.value).toList ++ c :: u := by
      rw [hp, Label.attributes_cons ha, List.cons_append, List.append_assoc, hu,
        List.dropWhile_cons_of_pos rfl, Attribute.toList_written, hk, List.append_assoc,
        List.cons_append, List.dropWhile_cons_of_neg (by simp [hgap])]
    have hhead : p.rest.dropWhile isGap = k :: (p.rest.dropWhile isGap).tail := by
      rw [hdrop, Attribute.toList_written, hk]
      rfl
    obtain ⟨hattribute, hnext⟩ := readAttribute_written (p := p.skipWhile isGap) ha hc hvalue
      (by rw [Place.rest_skipWhile, hdrop])
    obtain ⟨hattributes, hself, hend⟩ := ih hrest (hnext.trans hu.symm)
    rw [readTagBody_key hhead hkc]
    simp [hattribute, hattributes, hself, hend]

theorem startTag_parts (htag : Tag.Canonical dialect tag)
    (has : ∀ a ∈ as, a.WrittenVerbatim dialect) (hp : p.rest = '<' :: (tag.toList ++
      (Label.attributes dialect as ++ (tagEnd alone ++ t)))) :
    read dialect p = readStartTag dialect p ∧
      (p.skip 1).rest.takeWhile isTagChar = tag.toList ∧
      (readTagBody ((p.skip 1).skip tag.toList.length)).attributes.map TokenAttribute.unplaced =
        as.map (·.token dialect) ∧
      (readTagBody ((p.skip 1).skip tag.toList.length)).selfClosing = alone ∧
      (readTagBody ((p.skip 1).skip tag.toList.length)).next.rest = t := by
  obtain ⟨k, rest, hk, halpha⟩ := htag.exists_first
  obtain ⟨c, u, hu, hc, _⟩ := after_name alone t has
  have hinner : (p.skip 1).rest = tag.toList ++ (Label.attributes dialect as ++
      (tagEnd alone ++ t)) := by rw [Place.rest_skip, hp]; rfl
  have hend : isTagChar c = false := by rcases hc with rfl | rfl <;> rfl
  have hname : (p.skip 1).rest.takeWhile isTagChar = tag.toList := by
    rw [hinner, hu]
    exact takeWhile_append_cons htag.2.1 hend
  refine ⟨?_, hname, readTagBody_attributes has (rest_skip_append hinner)⟩
  rw [hk] at hp
  exact read_startTag halpha hp

theorem scans_startTag (alone : Bool) (htag : Tag.Canonical dialect tag)
    (has : ∀ a ∈ as, a.WrittenVerbatim dialect)
    (hraw : ¬ (dialect = .html ∧ alone = false ∧ Tag.isRawText tag = true)) :
    Scans dialect ('<' :: (tag.toList ++ (Label.attributes dialect as ++
        (tagEnd alone ++ t))))
      [.startTag tag (as.map (·.token dialect)) alone nowhere] t := by
  refine scans_of_read (List.cons_ne_nil _ _) fun p hp => ?_
  obtain ⟨hread, hname, hattributes, hself, hnext⟩ := startTag_parts htag has hp
  rw [hread, readStartTag]
  simp only [hname, String.ofList_toList, hself, if_neg hraw]
  exact ⟨by simp [unplaced, hattributes], hnext⟩

theorem closes_iff : closes key r = true ↔ ∃ s, r = '<' :: '/' :: s ∧ opensWith key s = true ∧
    ∀ c ∈ (s.drop key.length).head?, c = '>' ∨ c = '/' ∨ isGap c = true := by
  constructor
  · intro h
    unfold closes at h
    split at h
    · next s =>
      refine ⟨s, rfl, (Bool.and_eq_true_iff.mp h).1, fun c hc => ?_⟩
      have hend := (Bool.and_eq_true_iff.mp h).2
      cases hdrop : s.drop key.length with
      | nil => simp [hdrop] at hc
      | cons d rest =>
        rw [hdrop] at hc hend
        cases hc
        simpa [or_assoc] using hend
    · cases h
  · rintro ⟨s, rfl, hopens, hend⟩
    cases hdrop : s.drop key.length with
    | nil => simp [closes, hopens, hdrop]
    | cons d rest =>
      have hd := hend d (by rw [hdrop]; rfl)
      simpa [closes, hopens, hdrop, or_assoc] using hd

theorem opensWith_append (hkey : ∀ c ∈ key, c.toLower ≠ '<')
    (h : opensWith key (v ++ '<' :: u) = true) :
    key.length ≤ v.length ∧ opensWith key v = true := by
  induction key generalizing v with
  | nil => exact ⟨Nat.zero_le _, rfl⟩
  | cons k key ih =>
    cases v with
    | nil =>
      have hk := hkey k List.mem_cons_self
      simp only [List.nil_append, opensWith, Bool.and_eq_true, beq_iff_eq] at h
      exact absurd h.1 hk
    | cons c v =>
      simp only [List.cons_append, opensWith, Bool.and_eq_true] at h
      obtain ⟨hle, hv⟩ := ih (fun x hx => hkey x (List.mem_cons_of_mem k hx)) h.2
      refine ⟨Nat.succ_le_succ hle, ?_⟩
      rw [opensWith, h.1, hv]
      rfl

theorem opensWith_self_append (key u : List Char) : opensWith key (key ++ u) = true := by
  induction key with
  | nil => rfl
  | cons k key ih => simp [opensWith, ih]

theorem leading_closes (hkey : ∀ c ∈ key, c.toLower ≠ '<')
    (hs : ∀ v, v <:+ s → closes key v = true → v.length = key.length + 2) :
    leading (closes key) (s ++ '<' :: '/' :: (key ++ '>' :: t)) = s := by
  refine leading_append (fun v hv hne => ?_) (.inr ?_)
  · rw [Bool.eq_false_iff]
    intro hclosed
    obtain ⟨w, hw, hopens, hend⟩ := closes_iff.mp hclosed
    rcases v with _ | ⟨a, _ | ⟨b, v⟩⟩
    · exact hne rfl
    · simp at hw
    · simp only [List.cons_append, List.cons.injEq] at hw
      obtain ⟨rfl, rfl, rfl⟩ := hw
      obtain ⟨hle, hv'⟩ := opensWith_append hkey hopens
      rw [List.drop_append_of_le_length hle] at hend
      have hclosed' : closes key ('<' :: '/' :: v) = true := by
        refine closes_iff.mpr ⟨v, rfl, hv', fun c hc => hend c ?_⟩
        rw [List.head?_append, show (v.drop key.length).head? = some c from hc]
        rfl
      -- so the name ends with the text, and the end tag that follows does not go on with it
      have hlen : v.length = key.length := by simpa using hs _ hv hclosed'
      rw [List.drop_of_length_le (by omega)] at hend
      have h := hend '<' rfl
      revert h
      decide
  · refine closes_iff.mpr ⟨key ++ '>' :: t, rfl, opensWith_self_append key _, ?_⟩
    rw [List.drop_left]
    intro c hc
    exact .inl (Option.some.inj hc).symm

theorem toLower_ne_of_isTagChar (hc : isTagChar c = true) : c.toLower ≠ '<' :=
  ascii_induction (P := fun c => isTagChar c = true → c.toLower ≠ '<') (by decide) (isTagChar_lt hc)
    hc

theorem scans_rawElement (hd : config.dialect = .html) (htag : Tag.Canonical config.dialect tag)
    (has : ∀ a ∈ as, a.Canonical config) (hraw : Tag.isRawText tag = true)
    (hs : ∀ v, v <:+ s → closes tag.toList v = true → v.length = tag.toList.length + 2) :
    Scans config.dialect ('<' :: (tag.toList ++ (Label.attributes config.dialect as ++
        (tagEnd false ++ (s ++ '<' :: '/' :: (tag.toList ++ '>' :: t))))))
      (.startTag tag (as.map (·.token config.dialect)) false nowhere ::
        if s = [] then [] else [.rawText (String.ofList s) nowhere])
      ('<' :: '/' :: (tag.toList ++ '>' :: t)) := by
  refine scans_of_read (List.cons_ne_nil _ _) fun p hp => ?_
  obtain ⟨hread, hname, hattributes, hself, hnext⟩ :=
    startTag_parts htag (fun a ha => (has a ha).writtenVerbatim) hp
  have hlead := leading_closes (t := t) (fun c hc => toLower_ne_of_isTagChar (htag.2.1 c hc)) hs
  have hskip := rest_skip_append hnext
  rw [hread, readStartTag]
  simp only [hname, String.ofList_toList, hself, hd, hraw, and_self, if_true]
  simp only [readRawText, hnext, hlead, hskip]
  refine ⟨?_, trivial⟩
  rw [hd] at hattributes
  by_cases he : s = [] <;> simp [he, unplaced, hattributes]

end Token

end MarkupForest
