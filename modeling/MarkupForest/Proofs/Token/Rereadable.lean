import MarkupForest.Proofs.Text.Names
import MarkupForest.Proofs.Growth.Document
import MarkupForest.Proofs.Token.Tiling

namespace MarkupForest

open Text Token

variable {config : ReaderConfig} {m : Manner} {dialect : Dialect} {s t u key name : List Char}
  {c : Char} {p q : Place}

theorem opensWith_iff : opensWith key s = true ↔
    ∃ t u, s = t ++ u ∧ t.map Char.toLower = key.map Char.toLower := by
  induction key generalizing s with
  | nil => exact ⟨fun _ => ⟨[], s, rfl, rfl⟩, fun _ => rfl⟩
  | cons k key ih =>
    cases s with
    | nil =>
      refine ⟨fun h => (Bool.false_ne_true h).elim, ?_⟩
      rintro ⟨t, u, hs, hmap⟩
      rw [(List.append_eq_nil_iff.mp hs.symm).1] at hmap
      cases hmap
    | cons c s =>
      rw [opensWith, Bool.and_eq_true, beq_iff_eq, ih]
      constructor
      · rintro ⟨hc, t, u, rfl, hmap⟩
        exact ⟨c :: t, u, rfl, by rw [List.map_cons, List.map_cons, hc, hmap]⟩
      · rintro ⟨t, u, hs, hmap⟩
        cases t with
        | nil => cases hmap
        | cons d t =>
          rw [List.cons_append, List.cons.injEq] at hs
          rw [List.map_cons, List.map_cons, List.cons.injEq] at hmap
          exact ⟨hs.1 ▸ hmap.1.symm, t, u, hs.2, hmap.2⟩

theorem closes_iff_split : closes key s = true ↔
    ∃ t u, s = '<' :: '/' :: (t ++ u) ∧ t.map Char.toLower = key.map Char.toLower ∧
      ∀ c ∈ u.head?, c = '>' ∨ c = '/' ∨ isGap c = true := by
  have hdrop {t u : List Char} (h : t.map Char.toLower = key.map Char.toLower) :
      (t ++ u).drop key.length = u := by
    have hlen : t.length = key.length := by simpa using congrArg List.length h
    rw [← hlen, List.drop_left]
  rw [closes_iff]
  constructor
  · rintro ⟨r, rfl, hopens, hafter⟩
    obtain ⟨t, u, rfl, hmap⟩ := opensWith_iff.mp hopens
    rw [hdrop hmap] at hafter
    exact ⟨t, u, rfl, hmap, hafter⟩
  · rintro ⟨t, u, rfl, hmap, hafter⟩
    refine ⟨t ++ u, rfl, opensWith_iff.mpr ⟨t, u, rfl, hmap⟩, ?_⟩
    rwa [hdrop hmap]

theorem isTagChar_of_toLower (h : isTagChar c.toLower = true) :
    isTagChar c = true ∧ (c.toLower.isAlpha = true → c.isAlpha = true) := by
  by_cases hascii : c.toNat < 0x80
  · exact ascii_induction (P := fun c => isTagChar c.toLower = true → isTagChar c = true ∧
      (c.toLower.isAlpha = true → c.isAlpha = true)) (by decide) hascii h
  · have hcapital : inRanges capitals c = false := by
      rw [inRanges_eq_false_iff]
      intro b hb
      rw [List.mem_singleton.mp hb]
      exact .inr (by omega)
    rw [toLower_of_not_capital hcapital] at h ⊢
    exact ⟨h, id⟩

theorem gap_facts (hc : isGap c = true) :
    isTagChar c = false ∧ isBlank c = true ∧ c ∈ marks := by
  simp only [isGap, Bool.or_eq_true, beq_iff_eq] at hc
  rcases hc with (((rfl | rfl) | rfl) | rfl) | rfl <;> decide

theorem not_isTagChar (hc : c = '>' ∨ c = '/' ∨ isGap c = true) : isTagChar c = false := by
  rcases hc with rfl | rfl | hc
  · rfl
  · rfl
  · exact (gap_facts hc).1

theorem read_closing (dialect : Dialect) (hfirst : startsIn Char.isAlpha name = true)
    (hall : ∀ c ∈ name, isTagChar c = true) (h : closes name p.rest = true) :
    ∃ n span, (read dialect p).1 = [.endTag n span] ∧ (∀ c ∈ n.toList, isTagChar c = true) ∧
      n.toList.map Char.toLower = name.map Char.toLower := by
  obtain ⟨t, u, hr, hmap, hafter⟩ := closes_iff_split.mp h
  have htag : ∀ c ∈ t, isTagChar c = true := by
    intro c hc
    have hlow : c.toLower ∈ name.map Char.toLower := hmap ▸ List.mem_map_of_mem hc
    obtain ⟨d, hd, he⟩ := List.mem_map.mp hlow
    exact (isTagChar_of_toLower (he ▸ (tagChar_facts (hall d hd)).2.1)).1
  have htake : (t ++ u).takeWhile isTagChar = t := by
    rw [List.takeWhile_append_of_pos htag]
    cases u with
    | nil => simp
    | cons c u =>
      have hc := not_isTagChar (hafter c rfl)
      rw [List.takeWhile_cons_of_neg (by simp [hc]), List.append_nil]
  obtain ⟨d, rest, rfl⟩ : ∃ d rest, name = d :: rest := by
    cases name with
    | nil => cases hfirst
    | cons d rest => exact ⟨d, rest, rfl⟩
  cases t with
  | nil => cases hmap
  | cons c t =>
    have hd := tagChar_facts (hall d List.mem_cons_self)
    have hlow : c.toLower = d.toLower := (List.cons.inj hmap).1
    have hc : c.isAlpha = true :=
      (isTagChar_of_toLower (hlow ▸ hd.2.1)).2 (hlow ▸ hd.2.2.2.1 hfirst)
    have hbody : (p.skip endTagStart.length).rest = c :: t ++ u := by
      rw [Place.rest_skip, hr]
      rfl
    have hread : (readEndTag p).1 = .endTag (String.ofList (c :: t)) (p.upTo (readEndTag p).2) := by
      simp only [readEndTag, hbody, htake]
    refine ⟨String.ofList (c :: t), p.upTo (readEndTag p).2, ?_, ?_, ?_⟩
    · rw [read_endTag hc hr, hread]
    · rwa [String.toList_ofList]
    · rwa [String.toList_ofList]

theorem tagName_eq_of_sameLetters {n k : String} (hp : m.cases.keepsTags = false)
    (hn : ∀ c ∈ n.toList, isTagChar c = true) (hk : ∀ c ∈ k.toList, isTagChar c = true)
    (h : n.toList.map Char.toLower = k.toList.map Char.toLower) :
    m.cases.tagName n = m.cases.tagName k := by
  have hn := toList_normal_tag false hn
  have hk := toList_normal_tag false hk
  have he : (normal false n).toList = (normal false k).toList := by
    rw [hn, hk]
    exact h
  unfold CasePolicy.tagName
  rw [hp]
  exact String.toList_inj.mp he

theorem map_toLower_tagName {n : String} (p : CasePolicy)
    (hn : ∀ c ∈ n.toList, isTagChar c = true) :
    (p.tagName n).toList.map Char.toLower = n.toList.map Char.toLower := by
  have hlist : (p.tagName n).toList = _ := toList_normal_tag p.keepsTags hn
  rw [hlist]
  split
  · rfl
  · rw [List.map_map]
    exact List.map_congr_left fun c hc => (tagChar_facts (hn c hc)).2.2.2.2

theorem isRawText_tagName {n : String} (p : CasePolicy) (hn : ∀ c ∈ n.toList, isTagChar c = true) :
    Tag.isRawText (p.tagName n) = Tag.isRawText n := by
  have hsame : lowerAscii (p.tagName n) = lowerAscii n := map_toLower_tagName p hn
  unfold Tag.isRawText sameLetters
  rw [hsame]

theorem closes_tagName {n : String} (p : CasePolicy) (hn : ∀ c ∈ n.toList, isTagChar c = true) :
    closes (p.tagName n).toList s = closes n.toList s := by
  rw [Bool.eq_iff_iff, closes_iff_split, closes_iff_split]
  simp only [map_toLower_tagName p hn]

theorem stop_of_suffix_leading {stop : List Char → Bool} {v : List Char}
    (hv : v <:+ leading stop s) (hne : v ≠ []) : stop (v ++ pastLeading stop s) = false := by
  induction s with
  | nil => exact absurd (List.suffix_nil.mp hv) hne
  | cons c s ih =>
    rw [leading] at hv
    rw [pastLeading]
    split at hv
    · exact absurd (List.suffix_nil.mp hv) hne
    · next h =>
      rw [if_neg h]
      rcases List.suffix_cons_iff.mp hv with rfl | hv
      · rw [List.cons_append, leading_append_pastLeading]
        simpa using h
      · exact ih hv

theorem commentEnd_not_infix_leading : ¬ commentEnd <:+: leading commentEnd.isPrefixOf s := by
  intro h
  obtain ⟨v, hpre, hsuf⟩ := List.infix_iff_prefix_suffix.mp h
  have hne : v ≠ [] := by
    rintro rfl
    cases List.prefix_nil.mp hpre
  have hstop := stop_of_suffix_leading hsuf hne
  rw [Bool.eq_false_iff, ne_eq, List.isPrefixOf_iff_prefix] at hstop
  exact hstop (hpre.trans (List.prefix_append _ _))

theorem decode_ne_nil (hs : s ≠ []) : Reference.decode s ≠ [] := by
  obtain ⟨c, s, rfl⟩ := List.exists_cons_of_ne_nil hs
  rw [Reference.decode]
  split
  · split <;> exact List.cons_ne_nil _ _
  · exact List.cons_ne_nil _ _

namespace Label

/-- No two attributes are written under one key, and no id of a declaration holds its own quotes. -/
def CollisionFree (dialect : Dialect) : Label → Prop
  | .element _ as => ((as.filterMap (·.respelt dialect)).map Attribute.key).Nodup
  | .doctype d => '\x22' ∉ d.publicId.toList ∧ '\x22' ∉ d.systemId.toList
  | _ => True

instance (dialect : Dialect) (label : Label) : Decidable (label.CollisionFree dialect) := by
  unfold CollisionFree
  split <;> infer_instance

def Readable (config : ReaderConfig) : Label → Prop
  | .element tag as => Tag.Canonical config.dialect tag ∧
      (∀ a ∈ as.filterMap (·.respelt config.dialect), a.Canonical config) ∧
      ((as.filterMap (·.respelt config.dialect)).map Attribute.key).Nodup
  | .text s => s ≠ ""
  | .comment s => ¬ commentEnd <:+: s.toList
  | .doctype d => d.Canonical config
  | .data _ => False
  | .document _ _ _ => False

end Label

namespace Token

def CollisionFree (m : Manner) (t : Token) :
    Prop := ∀ body ∈ t.body? m, body.label.CollisionFree m.dialect

instance (m : Manner) (t : Token) : Decidable (t.CollisionFree m) :=
  match h : t.body? m with
  | none => .isTrue fun _ hb => by rw [h] at hb; cases hb
  | some body => decidable_of_iff (body.label.CollisionFree m.dialect) <| by simp [CollisionFree, h]

def Readable (config : ReaderConfig) (m : Manner) (t : Token) : Prop :=
  ∀ body ∈ t.body? m, body.label.Readable config

end Token

theorem tagName_tagName (p : CasePolicy) (n : String) : p.tagName (p.tagName n) = p.tagName n :=
  (normal_normal p.keepsTags n).eq_self

theorem not_mem_tagName {d : Char} {n : String} (p : CasePolicy) (hd : d ∈ marks)
    (h : d ∉ n.toList) : d ∉ (p.tagName n).toList := not_mem_normal hd h

theorem ofContent_of_tagName_empty (p : CasePolicy)
    (h : p.tagName (Doctype.ofContent s).name = "") :
    (Doctype.ofContent s).publicId = "" ∧ (Doctype.ofContent s).systemId = "" := by
  cases hs : trimChars s with
  | nil =>
    simp [Doctype.ofContent, hs, Doctype.identifiers, trimStart, opensWith, Doctype.publicWord,
      Doctype.systemWord]
  | cons c rest =>
    have hblank : isBlank c = false := (trimmed_trimChars s).1 c (by rw [hs]; rfl)
    have hgap : isGap c = false := by
      rw [Bool.eq_false_iff]
      intro hgap
      rw [(gap_facts hgap).2.1] at hblank
      cases hblank
    have hc : c ∈ (Doctype.ofContent s).name.toList := by
      simp [Doctype.ofContent, hs, hgap]
    exact absurd h (normal_ne_empty hc hblank)

theorem canonical_ofContent {d : Doctype} (hs : '>' ∉ s)
    (hd : d = { Doctype.ofContent s with name := config.cases.tagName (Doctype.ofContent s).name })
    (hfree : '\x22' ∉ d.publicId.toList ∧ '\x22' ∉ d.systemId.toList) : d.Canonical config := by
  obtain ⟨hname, hpublic, hsystem⟩ := ofContent_infix s
  have hgap : ∀ c ∈ (Doctype.ofContent s).name.toList, isGap c = false := by
    intro c hc
    simp only [Doctype.ofContent, String.toList_ofList] at hc
    simpa using List.mem_takeWhile_imp hc
  subst hd
  refine ⟨tagName_tagName _ _, fun c hc => ⟨?_, ?_⟩, fun c hc => ⟨?_, ?_⟩, fun h => ?_⟩
  · rw [Bool.eq_false_iff]
    intro h
    refine not_mem_tagName config.cases (gap_facts h).2.2 (fun hm => ?_) hc
    rw [hgap c hm] at h
    cases h
  · rintro rfl
    exact not_mem_tagName config.cases (by decide) (fun hm => hs (hname.subset hm)) hc
  · rintro rfl
    exact (List.mem_append.mp hc).elim hfree.1 hfree.2
  · rintro rfl
    rcases List.mem_append.mp hc with h | h
    · exact hs (hpublic.subset h)
    · exact hs (hsystem.subset h)
  · exact ofContent_of_tagName_empty config.cases h

theorem isKeyChar_attributes (p : Place) :
    ∀ a ∈ (readTagBody p).attributes, ∀ c ∈ a.name.toList, isKeyChar c = true := by
  have hname (q : Place) : ∀ c ∈ (readAttribute q).1.name.toList, isKeyChar c = true := by
    intro c hc
    have he : (readAttribute q).1.name = String.ofList (q.rest.takeWhile isKeyChar) := by
      unfold readAttribute
      dsimp only
      split <;> rfl
    rw [he, String.toList_ofList] at hc
    exact List.mem_takeWhile_imp hc
  fun_induction readTagBody p with
  | case4 p q c s h _ _ hc a body ih =>
    rintro b (_ | ⟨_, hb⟩)
    · exact hname q
    · exact ih b hb
  | case5 p q c s h _ _ hc ih => exact ih
  | _ => simp

theorem key_of_mem_entries (hm : m.lines = none) {as : List TokenAttribute} {e : Entry}
    (he : e ∈ (Growth.attributesOf m as).entries) :
    ∃ x ∈ as, e.key = m.cases.attributeName x.name := by
  rw [Growth.entries_attributesOf hm] at he
  obtain ⟨x, hx, rfl⟩ := List.mem_map.mp he
  exact ⟨x, (firsts_sublist _ as).subset hx, rfl⟩

theorem key_of_mem_attributesOf (hm : m.lines = none) {as : List TokenAttribute} {a : Attribute}
    (ha : a ∈ (Growth.attributesOf m as).toList) :
    ∃ x ∈ as, a.key = m.cases.attributeName x.name := by
  obtain ⟨e, he, rfl⟩ := List.mem_map.mp ha
  exact key_of_mem_entries hm (List.mem_filter.mp he).1

theorem readable_startTag (hm : m = ⟨config.cases, config.dialect, none⟩) (hstock : config.Stock)
    {n : String} {as : List TokenAttribute} {alone : Bool} {span : Span}
    (hfirst : startsIn Char.isAlpha n.toList = true) (hall : ∀ c ∈ n.toList, isTagChar c = true)
    (has : ∀ a ∈ as, ∀ c ∈ a.name.toList, isKeyChar c = true)
    (hfree : (Token.startTag n as alone span).CollisionFree m) :
    (Token.startTag n as alone span).Readable config m := by
  rintro body hbody
  have hkeys := hfree body hbody
  cases hbody
  have hgt : '>' ∈ marks := by decide
  refine ⟨?_, fun b hb => ?_, ?_⟩
  · rw [hm]
    exact canonical_tagName hstock hfirst hall
  · obtain ⟨a, ha, hab⟩ := List.mem_filterMap.mp hb
    have hkey : ∃ x ∈ as, a.key = m.cases.attributeName x.name := by
      split at ha
      · simp [Container.seen] at ha
      · exact key_of_mem_attributesOf (by rw [hm]) ha
    obtain ⟨x, hx, hkey⟩ := hkey
    rw [hm] at hkey
    refine Attribute.canonical_respelt ?_ ?_ hab
    · rw [hkey]
      exact normal_normal _ _
    · rw [hkey]
      refine not_mem_normal hgt fun hmem => ?_
      exact absurd (has x hx _ hmem) (by decide)
  · rw [hm] at hkeys
    rw [hm]
    exact hkeys

namespace Token

def opensRaw (m : Manner) : Token → Bool
  | .startTag n _ selfClosing _ =>
    m.dialect == .html && !selfClosing && Tag.isRawText (m.cases.tagName n)
  | _ => false

inductive RawContent (tag : String) : List Token → Prop
  | none : RawContent tag []
  | some {s : String} {span : Span} (h : (Outline.node (.data s) .nil .nil).IsRaw tag) :
    RawContent tag [.rawText s span]

inductive Rereadable (config : ReaderConfig) (m : Manner) : List Token → Prop
  | nil : Rereadable config m []
  | cons {t : Token} {ts : List Token} (ht : t.Readable config m) (hraw : t.opensRaw m = false)
    (h : Rereadable config m ts) : Rereadable config m (t :: ts)
  | raw {n stop : String} {as : List TokenAttribute} {span stopSpan : Span}
    {content ts : List Token}
    (ht : (Token.startTag n as false span).Readable config m)
    (hraw : (Token.startTag n as false span).opensRaw m = true)
    (hcontent : RawContent (m.cases.tagName n) content)
    (hstop : m.cases.tagName stop = m.cases.tagName n) (h : Rereadable config m ts) :
    Rereadable config m (.startTag n as false span :: (content ++ .endTag stop stopSpan :: ts))

theorem readable_text (hrest : p.rest ≠ []) : (readText p).1.Readable config m := by
  rintro body hbody
  have hraw : p.rest.take 1 ++ leading opensMarkup (p.rest.drop 1) ≠ [] := by simp [hrest]
  have hne := decode_ne_nil hraw
  cases hbody
  simpa [Body.label, Label.Readable] using hne

theorem readable_comment : (readComment p).1.Readable config m := by
  rintro body hbody
  cases hbody
  simp only [Body.label, Label.Readable, String.toList_ofList]
  exact commentEnd_not_infix_leading

theorem readable_bogusComment {n : Nat} : (readBogusComment n p).1.Readable config m := by
  rintro body hbody
  cases hbody
  simp only [Body.label, Label.Readable, String.toList_ofList]
  intro h
  have hgt := List.mem_takeWhile_imp (h.subset (show '>' ∈ commentEnd by decide))
  simp at hgt

theorem readable_doctype (hm : m = ⟨config.cases, config.dialect, none⟩)
    (hfree : (readDoctype p).1.CollisionFree m) : (readDoctype p).1.Readable config m := by
  rintro body hbody
  have hids := hfree body hbody
  cases hbody
  have hgt : '>' ∉ (p.skip doctypeStart.length).rest.takeWhile (· != '>') := by
    intro h
    simpa using List.mem_takeWhile_imp h
  subst hm
  exact canonical_ofContent hgt rfl hids

theorem isRaw_leading {n : String} (cases : CasePolicy) (hall : ∀ c ∈ n.toList, isTagChar c = true)
    (hne : leading (closes n.toList) s ≠ []) :
    (Outline.node (.data (String.ofList (leading (closes n.toList) s))) .nil .nil).IsRaw
      (cases.tagName n) := by
  refine ⟨by simpa using hne, fun t ht hclosed => ?_⟩
  rw [String.toList_ofList, List.mem_tails] at ht
  rw [closes_tagName cases hall] at hclosed
  have hlen : (cases.tagName n).toList.length = n.toList.length := by
    simpa using congrArg List.length (map_toLower_tagName cases hall)
  have htne : t ≠ [] := by
    rintro rfl
    cases hclosed
  have hopen := stop_of_suffix_leading ht htne
  obtain ⟨a, b, rfl, hmap, hafter⟩ := closes_iff_split.mp hclosed
  have ha : a.length = n.toList.length := by simpa using congrArg List.length hmap
  rw [hlen]
  cases b with
  | nil => simp [ha]
  | cons c b =>
    -- the end tag would close the text also with what follows it
    rw [Bool.eq_false_iff, ne_eq, closes_iff_split] at hopen
    have hlonger : '<' :: '/' :: (a ++ c :: b) ++ pastLeading (closes n.toList) s =
        '<' :: '/' :: (a ++ c :: (b ++ pastLeading (closes n.toList) s)) := by simp
    exact absurd ⟨a, _, hlonger, hmap, hafter⟩ hopen

theorem rawContent_leading {n : String} (cases : CasePolicy) (span : Span)
    (hall : ∀ c ∈ n.toList, isTagChar c = true) : RawContent (cases.tagName n)
      (if leading (closes n.toList) s = [] then []
        else [.rawText (String.ofList (leading (closes n.toList) s)) span]) := by
  split
  · exact .none
  · next hne => exact .some (isRaw_leading cases hall hne)

theorem scan_read (h : p.rest ≠ []) :
    scan dialect p = (read dialect p).1 ++ scan dialect (read dialect p).2 := by
  rw [scan, dif_neg h]

theorem Rereadable.of_endTag {n : String} {span : Span} {ts : List Token}
    (h : Rereadable config m (.endTag n span :: ts)) : Rereadable config m ts := by
  cases h with
  | cons _ _ h => exact h

variable (hm : m = ⟨config.cases, config.dialect, none⟩) (hstock : config.Stock)
include hm hstock

theorem rereadable_rawElement (hd : config.dialect = .html) {n : String} {as : List TokenAttribute}
    {span : Span} (hfirst : startsIn Char.isAlpha n.toList = true)
    (hall : ∀ c ∈ n.toList, isTagChar c = true) (hraw : Tag.isRawText n = true)
    (ht : (Token.startTag n as false span).Readable config m)
    (ih : Rereadable config m (scan config.dialect (readRawText n.toList p).2)) :
    Rereadable config m (.startTag n as false span ::
      ((readRawText n.toList p).1 ++ scan config.dialect (readRawText n.toList p).2)) := by
  have hfolds : m.cases.keepsTags = false := by
    rcases hstock with rfl | rfl
    · rw [hm]
      rfl
    · cases hd
  have hopens : (Token.startTag n as false span).opensRaw m = true := by
    simp [opensRaw, hm, hd, isRawText_tagName _ hall, hraw]
  have hcontent := rawContent_leading (s := p.rest) m.cases
    (p.upTo (p.skip (leading (closes n.toList) p.rest).length)) hall
  have hrest : (readRawText n.toList p).2.rest = pastLeading (closes n.toList) p.rest := by
    unfold readRawText
    rw [Place.rest_skip, drop_length_leading]
  by_cases hend : (readRawText n.toList p).2.rest = []
  · -- the end tag is supplied, and nothing is left
    have hnone : scan config.dialect (readRawText n.toList p).2 = [] := by rw [scan, dif_pos hend]
    rw [hnone, List.append_nil]
    unfold readRawText at hend ⊢
    simp only [if_pos hend, String.ofList_toList]
    exact .raw ht hopens hcontent rfl .nil
  · have hcloses : closes n.toList (readRawText n.toList p).2.rest = true := by
      rw [hrest] at hend ⊢
      exact (pastLeading_cases _ _).resolve_left hend
    obtain ⟨stop, stopSpan, hread, hstop, hsame⟩ :=
      read_closing config.dialect hfirst hall hcloses
    rw [scan_read hend, hread] at ih ⊢
    unfold readRawText at hend ⊢
    simp only [if_neg hend, List.append_nil]
    exact .raw ht hopens hcontent (tagName_eq_of_sameLetters hfolds hstop hall hsame)
      (Rereadable.of_endTag ih)

theorem rereadable_startTag (hc : c.isAlpha = true) (h : p.rest = '<' :: c :: s)
    (hfree : ∀ t ∈ (readStartTag config.dialect p).1, t.CollisionFree m)
    (ih : Rereadable config m (scan config.dialect (readStartTag config.dialect p).2)) :
    Rereadable config m ((readStartTag config.dialect p).1 ++
      scan config.dialect (readStartTag config.dialect p).2) := by
  have hinner : (p.skip 1).rest = c :: s := by
    rw [Place.rest_skip, h]
    rfl
  have hfirst : startsIn Char.isAlpha ((p.skip 1).rest.takeWhile isTagChar) = true := by
    rw [hinner, List.takeWhile_cons_of_pos (isTagChar_of_isAlpha hc)]
    exact hc
  have hall : ∀ x ∈ (p.skip 1).rest.takeWhile isTagChar, isTagChar x = true :=
    fun x hx => List.mem_takeWhile_imp hx
  unfold readStartTag at hfree ih ⊢
  dsimp only at hfree ih ⊢
  generalize (p.skip 1).rest.takeWhile isTagChar = name at hfirst hall hfree ih ⊢
  obtain ⟨n, rfl⟩ : ∃ n : String, name = n.toList := ⟨String.ofList name, by simp⟩
  have hkeys := isKeyChar_attributes ((p.skip 1).skip n.toList.length)
  simp only [String.ofList_toList] at hfree ih ⊢
  generalize readTagBody ((p.skip 1).skip n.toList.length) = body at hkeys hfree ih ⊢
  split at ih
  · next hraw =>
    rw [if_pos hraw] at hfree ⊢
    rw [hraw.2.1] at hfree ⊢
    have ht := readable_startTag hm hstock hfirst hall hkeys (hfree _ List.mem_cons_self)
    exact rereadable_rawElement hm hstock hraw.1 hfirst hall hraw.2.2 ht ih
  · next hraw =>
    rw [if_neg hraw] at hfree ⊢
    have ht := readable_startTag hm hstock hfirst hall hkeys (hfree _ List.mem_cons_self)
    refine .cons ht ?_ ih
    rw [Bool.eq_false_iff]
    intro hopens
    simp only [opensRaw, hm, Bool.and_eq_true, beq_iff_eq, Bool.not_eq_true',
      isRawText_tagName _ hall] at hopens
    exact hraw ⟨hopens.1.1, hopens.1.2, hopens.2⟩

theorem rereadable_scan (hfree : ∀ t ∈ scan config.dialect p, t.CollisionFree m) :
    Rereadable config m (scan config.dialect p) := by
  fun_induction scan config.dialect p with
  | case1 => exact .nil
  | case2 p hrest step ih =>
    have hread := reading config.dialect p
    rw [show read config.dialect p = step from rfl] at hread
    have hnow : ∀ t ∈ step.1, t.CollisionFree m := fun t ht => hfree t (List.mem_append_left _ ht)
    have hlater := ih fun t ht => hfree t (List.mem_append_right _ ht)
    generalize step = step at hread hnow hlater
    cases hread with
    | text => exact .cons (readable_text hrest) rfl hlater
    | comment => exact .cons readable_comment rfl hlater
    | doctype => exact .cons (readable_doctype hm (hnow _ List.mem_cons_self)) rfl hlater
    | bogusComment n => exact .cons readable_bogusComment rfl hlater
    | endTag => exact .cons (fun _ hbody => by cases hbody) rfl hlater
    | startTag hc h => exact rereadable_startTag hm hstock hc h hnow hlater

end Token

end MarkupForest
