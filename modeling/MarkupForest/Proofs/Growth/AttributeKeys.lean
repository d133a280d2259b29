import MarkupForest.Proofs.Copying.DeepClone
import MarkupForest.Proofs.Growth.TagAttributes
import MarkupForest.Proofs.Attribute.ReadBack

namespace MarkupForest

open Edit Forest Text

variable {config : ReaderConfig} {m : Manner} {markup baseUri : String} {f g : Forest} {x : NodeId}
  {as : List TokenAttribute} {s : Attributes} {e : Entry} {key : String} {place : AttributeRange}

namespace Text

theorem normal_eq_empty_iff {keeps : Bool} {name : String} :
    normal keeps name = "" ↔ ∀ c ∈ name.toList, isBlank c = true := by
  constructor
  · intro h c hc
    by_contra hblank
    exact normal_ne_empty hc (Bool.eq_false_iff.mpr hblank) h
  · intro h
    have hstart : trimStart name.toList = [] := List.dropWhile_eq_nil_iff.mpr h
    have htrim : trim name = "" := by
      rw [trim, trimChars, hstart]
      rfl
    rw [normal, htrim]
    split <;> rfl

end Text

theorem CasePolicy.attributeName_attributeName (p : CasePolicy) (name : String) :
    p.attributeName (p.attributeName name) = p.attributeName name :=
  (normal_normal p.keepsAttributes name).eq_self

namespace Token

theorem isGap_of_isKeyChar {c : Char} (h : isKeyChar c = true) : isGap c = false := by
  rw [Bool.eq_false_iff]
  intro hgap
  simp [isKeyChar, hgap] at h

theorem name_ne_empty_attributes (p : Place) :
    ∀ a ∈ (readTagBody p).attributes, a.name ≠ "" := by
  have hname (q : Place) :
      (readAttribute q).1.name = String.ofList (q.rest.takeWhile isKeyChar) := by
    unfold readAttribute
    dsimp only
    split <;> rfl
  fun_induction readTagBody p with
  | case4 p q c s h _ _ hc a body ih =>
    rintro b (_ | ⟨_, hb⟩)
    · rw [hname, h, List.takeWhile_cons_of_pos hc, ne_eq, ← String.toList_inj, String.toList_ofList]
      exact List.cons_ne_nil _ _
    · exact ih b hb
  | case5 p q c s h _ _ hc ih => exact ih
  | _ => simp

end Token

namespace Attributes

def shownKeys (s : Attributes) : List String := s.toList.map Attribute.key

theorem mem_shownKeys_iff (hkey : isHiddenKey key = false) :
    key ∈ s.shownKeys ↔ s.has .exact key = true := by
  rw [has, find?, List.find?_isSome, shownKeys, toList, List.map_map, List.mem_map]
  constructor
  · rintro ⟨e, he, rfl⟩
    exact ⟨e, (mem_visible.mp he).1, beq_self_eq_true _⟩
  · rintro ⟨e, he, hfound⟩
    have hsame : e.key = key := eq_of_beq hfound
    exact ⟨e, mem_visible.mpr ⟨he, (congrArg isHiddenKey hsame).trans hkey⟩, hsame⟩

theorem key_of_mem_hidden_mark (h : ∀ e ∈ s.hidden, e.key = rangesKey) :
    ∀ e ∈ (s.mark key place).hidden, e.key = rangesKey := by
  unfold mark
  split
  · intro e he
    obtain ⟨he, hhidden⟩ := List.mem_filter.mp he
    rw [setSourceRange_eq] at he
    rcases mem_upsert he with he | ⟨_, _, _, rfl⟩ | rfl
    · exact h e (List.mem_filter.mpr ⟨he, hhidden⟩)
    · rfl
    · rfl
  · exact h

end Attributes

namespace Growth

variable (has : ∀ a ∈ as, '/' ∉ a.name.toList)
include has

theorem hidden_attributesOf_placeless : (attributesOf m.placeless as).hidden = [] := by
  rw [Attributes.hidden, List.filter_eq_nil_iff]
  exact fun e he => by simp [(shown_attributesOf_placeless has e he).1]

theorem key_of_mem_hidden (he : e ∈ (attributesOf m as).hidden) :
    m.lines.isSome = true ∧ e.key = Attributes.rangesKey := by
  cases hl : m.lines with
  | none =>
    have hnone := hidden_attributesOf_placeless (m := m) has
    rw [show m.placeless = m by rw [Manner.placeless, ← hl]] at hnone
    rw [hnone] at he
    cases he
  | some lines =>
    refine ⟨rfl, ?_⟩
    rw [attributesOf_eq_foldl hl] at he
    have hbase : ∀ e ∈ (attributesOf m.placeless as).hidden, e.key = Attributes.rangesKey := by
      intro e he
      rw [hidden_attributesOf_placeless has] at he
      cases he
    exact List.foldlRecOn as _ (motive := fun s : Attributes => ∀ e ∈ s.hidden,
      e.key = Attributes.rangesKey) hbase
        (fun _ hs _ _ => Attributes.key_of_mem_hidden_mark hs) e he

theorem mem_shownKeys_attributesOf : key ∈ (attributesOf m as).shownKeys ↔
    ∃ a ∈ as, m.cases.attributeName a.name = key := by
  constructor
  · intro h
    obtain ⟨b, hb, rfl⟩ := List.mem_map.mp h
    rw [Attributes.toList, visible_attributesOf has, List.map_map] at hb
    obtain ⟨a, ha, rfl⟩ := List.mem_map.mp hb
    exact ⟨a, (firsts_sublist _ as).subset ha, rfl⟩
  · rintro ⟨a, ha, rfl⟩
    rw [Attributes.mem_shownKeys_iff (m.cases.isHiddenKey_attributeName (has a ha))]
    exact has_attributesOf has ha

end Growth

theorem Token.kind_of_body? {t : Token} {body : Body} (h : t.body? m = some body) :
    body.kind ≠ .document := by
  cases t <;> cases h <;> exact nofun

theorem Token.innermost_bounds (m : Manner) (config : ReaderConfig) (baseUri : String)
    (hf : f.WellFormed) (ts : List Token) : f.size ≤ Token.innermost m f.size ts ∧
      Token.innermost m f.size ts < f.size + 1 + Token.nodeCount m ts := by
  have hbeside := (Growth.beside_atDocument config baseUri hf).run (m := m) ts
  have hlt := hbeside.current_lt
  rw [Growth.size_run, Growth.size_atDocument] at hlt
  rw [← Growth.current_run m config baseUri f ts]
  exact ⟨hbeside.current.1, hlt⟩

namespace Planted

variable (hg : Planted config markup baseUri f g) (hf : f.WellFormed)
include hg

theorem get?_document : ∃ n inner, g.get? f.size = some n ∧
    n.body = .document config.cases ⟨config.dialect⟩ inner := by
  obtain ⟨b, hb, hhollow⟩ := hg.document
  obtain ⟨n, hn, he⟩ := Option.map_eq_some_iff.mp hb
  have hbody : n.body = b := congrArg Prod.snd he
  cases b with
  | document cases output inner =>
    injection hhollow with hcases houtput
    exact ⟨n, inner, hn, by rw [hbody, hcases, houtput]⟩
  | _ => cases hhollow

include hf

theorem get?_below (hx : f.size < x) (hlt : x < g.size) :
    ∃ n p, g.get? x = some n ∧ n.kind ≠ .document ∧ n.parent = some p ∧ f.size ≤ p ∧ p < x := by
  obtain ⟨k, rfl⟩ := Nat.exists_eq_add_of_le hx
  have hk := Nat.lt_of_add_lt_add_left (Nat.lt_of_lt_of_eq hlt hg.size)
  obtain ⟨before, t, after, body, hts, hbody, rfl⟩ := Token.exists_of_lt_nodeCount hk
  obtain ⟨b, hb, hhollow⟩ := hg.node before t after body hts hbody
  obtain ⟨hle, hbelow⟩ := Token.innermost_bounds (config.manner markup) config baseUri hf before
  obtain ⟨n, hn, he⟩ := Option.map_eq_some_iff.mp hb
  have hkind : n.kind = body.kind := by
    rw [← hhollow, Body.hollow, Body.kind_mapContainer]
    exact congrArg (fun e => e.2.kind) he
  exact ⟨n, _, hn, hkind ▸ Token.kind_of_body? hbody, congrArg Prod.fst he, hle, hbelow⟩

theorem ownerDocument?_eq (hw : g.WellFormed) (hx : f.size ≤ x) (hlt : x < g.size) :
    g.ownerDocument? x = some f.size := by
  induction x using Nat.strong_induction_on with
  | _ x ih =>
    rcases Nat.lt_or_eq_of_le hx with hnew | rfl
    · obtain ⟨n, p, hn, hkind, hparent, hle, hbelow⟩ := hg.get?_below hf hnew hlt
      have hdoc : g.isDocument x = false := by
        rw [isDocument_of_get? hn]
        exact beq_false_of_ne hkind
      have hp : g.parent? x = some p := by rw [parent?, hn, Option.bind_some, hparent]
      rw [hw.ownerDocument?_child hdoc hp]
      exact ih p hbelow hle (Nat.lt_trans hbelow hlt)
    · obtain ⟨n, inner, hn, hbody⟩ := hg.get?_document
      refine ownerDocument?_self ?_
      rw [isDocument_of_get? hn, Node.isDocument, Node.kind, hbody]
      rfl

theorem rules_eq (hw : g.WellFormed) (hx : f.size ≤ x) (hlt : x < g.size) :
    g.rules x = (config.cases, ⟨config.dialect⟩) := by
  obtain ⟨n, inner, hn, hbody⟩ := hg.get?_document
  exact rules_of_some (hg.ownerDocument?_eq hf hw hx hlt) hn hbody

end Planted

theorem elements_of_document (h : Reachable f) (config : ReaderConfig) (markup baseUri : String) :
    ∃ g ids, readDocument config markup baseUri f = .ok f.size g ∧ g.descendants f.size = .ok ids ∧
      ∀ x ∈ ids, g.isElement x = true → g.casePolicy x = config.cases ∧
        ∃ before n as alone span after,
          Token.tokens config.dialect markup = before ++ .startTag n as alone span :: after ∧
            x = f.size + 1 + Token.nodeCount (config.manner markup) before ∧
            .startTag n as alone span ∈ Token.tokens config.dialect markup ∧
            g.store x = Growth.attributesOf (config.manner markup) as := by
  have hg : Planted config markup baseUri f (f.plant config markup baseUri) :=
    planted_plant h.wellFormed
  have hw := (h.wellFormed.plant config markup baseUri).1
  refine ⟨_, _, rfl, hg.order, fun x hx he => ?_⟩
  rw [List.mem_range'_1] at hx
  have hlt : x < (f.plant config markup baseUri).size :=
    Nat.lt_of_lt_of_eq hx.2 (Nat.add_sub_of_le hg.old.size_le)
  refine ⟨congrArg Prod.fst (hg.rules_eq h.wellFormed hw hx.1 hlt), ?_⟩
  obtain ⟨before, n, as, alone, span, after, hts, hplace⟩ := hg.element hx.1 hlt he
  refine ⟨before, n, as, alone, span, after, hts, hplace, ?_, hplace ▸ hg.store_startTag hts⟩
  rw [hts]
  exact List.mem_append_right before List.mem_cons_self

/-- The keys of element `x` are the normalized names in its start tag. -/
structure KeysFromNames (config : ReaderConfig) (as : List TokenAttribute)
    (g : Forest) (x : NodeId) : Prop where
  keys : ∀ key, key ∈ (g.store x).shownKeys ↔
    ∃ a ∈ as, config.cases.attributeName a.name = key
  shown : ∀ a ∈ as, isHiddenKey (config.cases.attributeName a.name) = false
  hidden : ∀ e ∈ (g.store x).hidden, config.tracksPlaces = true ∧ e.key = Attributes.rangesKey
  named : ∀ a ∈ as, a.name ≠ "" ∧ ∀ c ∈ a.name.toList, isGap c = false
  blank : ∀ a ∈ as, config.cases.attributeName a.name = "" ↔ ∀ c ∈ a.name.toList, isBlank c = true
  accepted : ∀ key ∈ (g.store x).shownKeys, g.writingKey x key =
    if key = "" then .error (.badArgument .emptyKey) else .ok key

theorem keysFromNames_of_store {n : String} {alone : Bool} {span : Span}
    (hstore : g.store x = Growth.attributesOf (config.manner markup) as)
    (hcases : g.casePolicy x = config.cases)
    (hmem : .startTag n as alone span ∈ Token.tokens config.dialect markup) :
    KeysFromNames config as g x := by
  have has : ∀ a ∈ as, '/' ∉ a.name.toList := Token.slash_not_mem_name hmem
  have hshown : ∀ a ∈ as, isHiddenKey (config.cases.attributeName a.name) = false :=
    fun a ha => config.cases.isHiddenKey_attributeName (has a ha)
  have hkeys : ∀ key, key ∈ (g.store x).shownKeys ↔
      ∃ a ∈ as, config.cases.attributeName a.name = key := by
    rw [hstore]
    exact fun key => Growth.mem_shownKeys_attributesOf (m := config.manner markup) has
  constructor
  · exact hkeys
  · exact hshown
  · intro e he
    rw [hstore] at he
    obtain ⟨hlines, hkey⟩ := Growth.key_of_mem_hidden has he
    refine ⟨?_, hkey⟩
    by_contra hoff
    rw [ReaderConfig.manner, if_neg hoff] at hlines
    cases hlines
  · intro a ha
    refine ⟨Token.forall_of_mem_scan Token.name_ne_empty_attributes hmem a ha, fun c hc => ?_⟩
    exact Token.isGap_of_isKeyChar (Token.isKeyChar_of_mem_scan hmem a ha c hc)
  · exact fun a ha => normal_eq_empty_iff
  · intro key hkey
    obtain ⟨a, ha, rfl⟩ := (hkeys key).mp hkey
    rw [writingKey_eq, hcases, CasePolicy.attributeName_attributeName, hshown a ha,
      if_neg (show ¬ false = true from Bool.false_ne_true)]

theorem KeysFromNames.writingKey_of_gaps (h : KeysFromNames config as g x)
    (has : ∀ a ∈ as, a.name.toList <:+: markup.toList)
    (hgaps : ∀ c ∈ markup.toList, isBlank c = true → isGap c = true)
    (hkey : key ∈ (g.store x).shownKeys) : g.writingKey x key = .ok key := by
  rw [h.accepted key hkey, if_neg]
  rintro rfl
  obtain ⟨a, ha, hempty⟩ := (h.keys "").mp hkey
  obtain ⟨hname, hcut⟩ := h.named a ha
  have hchars : a.name.toList ≠ [] := fun hnil => hname (String.toList_eq_nil_iff.mp hnil)
  obtain ⟨c, hc⟩ := List.exists_mem_of_ne_nil _ hchars
  have hgap := hgaps c ((has a ha).subset hc) ((h.blank a ha).mp hempty c hc)
  rw [hcut c hc] at hgap
  cases hgap

theorem read_keys_could_be_written (h : Reachable f) (config : ReaderConfig)
    (markup baseUri : String) :
    ∃ g ids, readDocument config markup baseUri f = .ok f.size g ∧ g.descendants f.size = .ok ids ∧
      ∀ x ∈ ids, g.isElement x = true → ∃ before n as alone span after,
        Token.tokens config.dialect markup = before ++ .startTag n as alone span :: after ∧
          x = f.size + 1 + Token.nodeCount (config.manner markup) before ∧
            KeysFromNames config as g x ∧
          ((∀ c ∈ markup.toList, isBlank c = true → isGap c = true) →
            ∀ key ∈ (g.store x).shownKeys, g.writingKey x key = .ok key) := by
  obtain ⟨g, ids, hread, hids, hall⟩ := elements_of_document h config markup baseUri
  refine ⟨g, ids, hread, hids, fun x hx he => ?_⟩
  obtain ⟨hcases, before, n, as, alone, span, after, hts, hplace, hmem, hstore⟩ := hall x hx he
  have hnamed : KeysFromNames config as g x := keysFromNames_of_store hstore hcases hmem
  refine ⟨before, n, as, alone, span, after, hts, hplace, hnamed, fun hgaps key hkey => ?_⟩
  refine hnamed.writingKey_of_gaps (fun a ha => ?_) hgaps hkey
  exact Span.infix_of_slice? (Token.faithful_of_mem hmem a ha).1

theorem read_keys_could_be_written_twoLists : Reachable twoLists ∧ ∃ g ids,
    readDocument (.tracking .html true) "<p \u00a0=1 b>" "" twoLists = .ok 6 g ∧
      g.descendants 6 = .ok ids ∧
      (∀ x ∈ ids, g.isElement x = true → ∃ before n as alone span after,
        Token.tokens .html "<p \u00a0=1 b>" = before ++ .startTag n as alone span :: after ∧
          x = 7 + Token.nodeCount
            (ReaderConfig.manner (.tracking .html true) "<p \u00a0=1 b>") before ∧
          KeysFromNames (.tracking .html true) as g x ∧
          ((∀ c ∈ "<p \u00a0=1 b>".toList, isBlank c = true → isGap c = true) →
            ∀ key ∈ (g.store x).shownKeys, g.writingKey x key = .ok key)) ∧
      7 ∈ ids ∧ g.isElement 7 = true ∧ (g.store 7).shownKeys = ["", "b"] ∧
      (g.writingKey 7 "").toOption = none ∧ (g.writingKey 7 "b").toOption = some "b" := by
  have h : Reachable twoLists := reaches_runAll _
  obtain ⟨g, ids, hread, hids, hall⟩ :=
    read_keys_could_be_written h (.tracking .html true) "<p \u00a0=1 b>" ""
  refine ⟨h, g, ids, hread, hids, hall, ?_⟩
  cases hread
  have he : (twoLists.plant (.tracking .html true) "<p \u00a0=1 b>" "").descendants 6 =
      .ok [6, 7] := by
    decide +kernel
  cases he.symm.trans hids
  decide +kernel

end MarkupForest
