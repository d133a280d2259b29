import MarkupForest.Proofs.Attribute.Deduplication
import MarkupForest.Proofs.Growth.RawText
import MarkupForest.Proofs.Attribute.TwoParts
import MarkupForest.Proofs.Growth.RangeTracking

namespace MarkupForest

open Edit Forest Text

variable {config : ReaderConfig} {m : Manner} {markup baseUri : String} {f g : Forest} {x : NodeId}
  {as : List TokenAttribute} {a : TokenAttribute} {s : Attributes} {e : Entry} {key : String}
  {place : AttributeRange} {lines : LineIndex}

namespace CasePolicy

theorem isHiddenKey_attributeName (p : CasePolicy) {n : String} (hn : '/' ∉ n.toList) :
    isHiddenKey (p.attributeName n) = false := by
  have hslash : '/' ∉ (p.attributeName n).toList := not_mem_normal (by decide) hn
  rw [← Bool.not_eq_true, isHiddenKey_iff]
  exact fun h => hslash (List.mem_of_mem_head? h.1)

end CasePolicy

def TokenAttribute.range (lines : LineIndex) (a : TokenAttribute) : AttributeRange :=
  ⟨lines.spanRange a.nameSpan, lines.spanRange a.valueSpan⟩

theorem TokenAttribute.Faithful.isTracked (h : a.Faithful markup.toList)
    (hlong : markup.utf8ByteSize < Position.nowhere) (lines : LineIndex) :
    (a.range lines).isTracked = true := by
  have hstart := Span.start_le_of_slice? h.1
  rw [width_toList] at hstart
  exact bne_iff_ne.mpr (Nat.ne_of_lt (Nat.lt_of_le_of_lt hstart hlong))

theorem Token.faithful_of_mem {n : String} {alone : Bool} {span : Span}
    (h : Token.startTag n as alone span ∈ Token.tokens config.dialect markup) :
    ∀ a ∈ as, a.Faithful markup.toList := by
  obtain ⟨q, hq, hend, hread⟩ := Token.readsTo_scan config.dialect (Place.in_start markup.toList)
  obtain ⟨piece, _, hsays⟩ := hread.faithful hq hend _ h
  exact hsays.2.1

namespace Attributes

def mark (s : Attributes) (key : String) (place : AttributeRange) : Attributes :=
  if s.has .exact key && !(s.sourceRange key).isTracked then s.setSourceRange key place else s

structure PlacesTracked (s : Attributes) : Prop where
  wellFormed : s.WellFormed
  tracked : ∀ key, ∀ place ∈ s.range? key, place.isTracked = true

theorem placesTracked_of_shown (h : ∀ e ∈ s.entries, e.isHidden = false ∧ e.IsText) :
    s.PlacesTracked ∧ ∀ key, s.range? key = none := by
  have hhidden : s.hidden = [] := by
    rw [hidden, List.filter_eq_nil_iff]
    exact fun e he => by simp [(h e he).1]
  have hnone : s.find? .exact rangesKey = none := by
    rw [← find?_hidden (by decide), hhidden]
    rfl
  have hrange : ∀ key, s.range? key = none := fun key => by rw [range?, hnone]
  refine ⟨⟨⟨fun e he => (h e (mem_visible.mp he).1).2, ?_, ?_⟩, ?_⟩, hrange⟩
  · simp [hhidden]
  · simp [hhidden]
  · simp [hrange]

theorem visible_mark : (s.mark key place).visible = s.visible := by
  unfold mark
  split
  · exact SideChange.visible_run (s := .sourceRange key place)
  · rfl

theorem WellFormed.range?_setSourceRange (hs : s.WellFormed) :
    (s.setSourceRange key place).range? = Function.update s.range? key (some place) :=
  congrArg Sides.ranges (SideChange.sides_run hs (.sourceRange key place))

theorem PlacesTracked.range?_mark (hs : s.PlacesTracked)
    (hkey : s.has .exact key = true) (k : String) :
    (s.mark key place).range? k = (s.range? k).or (if key == k then some place else none) := by
  unfold mark
  rw [hkey, sourceRange_eq, if_pos hkey, Bool.true_and]
  cases hr : s.range? key with
  | some r =>
    -- what is there is tracked
    rw [Option.getD_some, hs.tracked key r hr, if_neg (by simp)]
    cases hk : key == k with
    | true => rw [← eq_of_beq hk, hr, Option.some_or]
    | false => simp
  | none =>
    rw [Option.getD_none, if_pos (by decide), hs.wellFormed.range?_setSourceRange,
      Function.update_apply]
    cases hk : key == k with
    | true => rw [← eq_of_beq hk, if_pos rfl, hr, Option.none_or, if_pos rfl]
    | false => simp [Ne.symm (ne_of_beq_false hk)]

theorem PlacesTracked.mark (hs : s.PlacesTracked) (hkey : s.has .exact key = true)
    (hplace : place.isTracked = true) : (s.mark key place).PlacesTracked where
  wellFormed := by
    unfold Attributes.mark
    split
    · exact SideChange.wellFormed_run (s := .sourceRange key place) hs.wellFormed
    · exact hs.wellFormed
  tracked k r hr := by
    rw [hs.range?_mark hkey] at hr
    rcases Option.or_eq_some_iff.mp hr with hr | ⟨_, hr⟩
    · exact hs.tracked k r hr
    · split at hr
      · cases hr
        exact hplace
      · cases hr

theorem PlacesTracked.range?_foldl {α : Type} {key : α → String}
    {place : α → AttributeRange} {l : List α}
    (hs : s.PlacesTracked)
      (hkeys : ∀ a ∈ l, isHiddenKey (key a) = false ∧ s.has .exact (key a) = true)
    (hplace : ∀ a ∈ l, (place a).isTracked = true) (k : String) :
    (l.foldl (fun s a => s.mark (key a) (place a)) s).range? k =
      (s.range? k).or ((l.find? (key · == k)).map place) := by
  induction l generalizing s with
  | nil => simp
  | cons a l ih =>
    obtain ⟨ha, hl⟩ := List.forall_mem_cons.mp hkeys
    have hmarked := hs.mark ha.2 (hplace a List.mem_cons_self)
    have hsame : (s.mark (key a) (place a)).alone = s.alone :=
      congrArg (Attributes.mk · 0) visible_mark
    have hthere : ∀ b ∈ l, isHiddenKey (key b) = false ∧
        (s.mark (key a) (place a)).has .exact (key b) = true := by
      intro b hb
      obtain ⟨hshown, hhas⟩ := hl b hb
      refine ⟨hshown, ?_⟩
      rwa [← has_alone hshown, hsame, has_alone hshown]
    rw [List.foldl_cons, ih hmarked hthere fun b hb => hplace b (List.mem_cons_of_mem a hb),
      hs.range?_mark ha.2, Option.or_assoc]
    cases hk : key a == k with
    | true => simp [hk]
    | false => simp [hk]

end Attributes

namespace Growth

open Attributes

theorem attributesOf_nil : attributesOf m [] = .empty := by
  unfold attributesOf
  cases m.lines <;> rfl

theorem attributesOf_eq_foldl (hl : m.lines = some lines) (as : List TokenAttribute) :
    attributesOf m as = as.foldl (fun s a =>
      s.mark (m.cases.attributeName a.name) (a.range lines)) (attributesOf m.placeless as) := by
  unfold attributesOf
  simp only [hl, Manner.lines_placeless, Manner.cases_placeless, List.foldl_map]
  rfl

section Slashless

variable (has : ∀ a ∈ as, '/' ∉ a.name.toList)
include has

theorem shown_attributesOf_placeless :
    ∀ e ∈ (attributesOf m.placeless as).entries, e.isHidden = false ∧ e.IsText := by
  intro e he
  rw [entries_attributesOf Manner.lines_placeless] at he
  obtain ⟨a, ha, rfl⟩ := List.mem_map.mp he
  exact ⟨m.cases.isHiddenKey_attributeName (has a ((firsts_sublist _ as).subset ha)), rfl⟩

theorem visible_attributesOf : (attributesOf m as).visible =
    (firsts m.cases.sameKey as).map fun a => ⟨m.cases.attributeName a.name, .text a.value⟩ := by
  have hshown : (attributesOf m.placeless as).visible = (attributesOf m.placeless as).entries :=
    List.filter_eq_self.mpr fun e he => by simp [(shown_attributesOf_placeless has e he).1]
  rw [← visible_unplaced, unplaced_attributesOf has, hshown,
    entries_attributesOf Manner.lines_placeless]
  rfl

theorem has_attributesOf (ha : a ∈ as) :
    (attributesOf m as).has .exact (m.cases.attributeName a.name) = true := by
  have hany := any_firsts m.cases.sameKey (fun _ _ _ h h' =>
    beq_iff_eq.mpr ((eq_of_beq h).trans (eq_of_beq h'))) as a
  have hself : as.any (m.cases.sameKey · a) = true :=
    List.any_eq_true.mpr ⟨a, ha, beq_self_eq_true _⟩
  rw [hself, List.any_eq_true] at hany
  obtain ⟨b, hb, hkey⟩ := hany
  rw [← has_alone (m.cases.isHiddenKey_attributeName (has a ha))]
  refine List.find?_isSome.mpr ⟨⟨m.cases.attributeName b.name, .text b.value⟩, ?_, hkey⟩
  show _ ∈ (attributesOf m as).visible
  rw [visible_attributesOf has]
  exact List.mem_map.mpr ⟨b, hb, rfl⟩

theorem range?_attributesOf (htracked : ∀ lines, ∀ a ∈ as, (a.range lines).isTracked = true)
    (key : String) : (attributesOf m as).range? key = m.lines.bind fun lines =>
      (as.find? (m.cases.attributeName ·.name == key)).map (·.range lines) := by
  obtain ⟨hmarked, hnone⟩ := placesTracked_of_shown (shown_attributesOf_placeless (m := m) has)
  cases hl : m.lines with
  | none =>
    rw [show m = m.placeless by rw [Manner.placeless, ← hl], hnone]
    rfl
  | some lines =>
    rw [attributesOf_eq_foldl hl, hmarked.range?_foldl (fun a ha => ?_) (htracked lines), hnone,
      Option.none_or]
    · rfl
    · exact ⟨m.cases.isHiddenKey_attributeName (has a ha),
        has_attributesOf (m := m.placeless) has ha⟩

end Slashless

end Growth

theorem store_of_hung? {q : Option NodeId} {tag : String} {c : Container}
    (h : g.hung? x = some (q, .element tag c)) : g.store x = c.attributes.getD .empty := by
  obtain ⟨n, hn, he⟩ := Option.map_eq_some_iff.mp h
  have hbody : n.body = .element tag c := congrArg Prod.snd he
  rw [store, hn, Option.bind_some, Node.attributes?, hbody]
  rfl

theorem Planted.store_startTag {before after : List Token} {n : String} {alone : Bool} {span : Span}
    (hg : Planted config markup baseUri f g)
    (hts : Token.tokens config.dialect markup = before ++ .startTag n as alone span :: after) :
    g.store (f.size + 1 + Token.nodeCount (config.manner markup) before) =
      Growth.attributesOf (config.manner markup) as := by
  obtain ⟨b, hb, hhollow⟩ := hg.node before _ after _ hts rfl
  cases b with
  | element tag c =>
    have hattributes : c.attributes = if as = [] then none else
        some (Growth.attributesOf (config.manner markup) as) := by
      injection hhollow with _ hc
      exact congrArg Container.attributes hc
    rw [store_of_hung? hb, hattributes]
    split
    · next hnil => rw [hnil, Growth.attributesOf_nil, Option.getD_none]
    · rfl
  | _ => cases hhollow

theorem Planted.element (hg : Planted config markup baseUri f g) (hx : f.size ≤ x)
    (hlt : x < g.size) (he : g.isElement x = true) :
    ∃ before n as alone span after,
      Token.tokens config.dialect markup = before ++ .startTag n as alone span :: after ∧
        x = f.size + 1 + Token.nodeCount (config.manner markup) before := by
  rw [isElement_eq_hung?] at he
  rcases Nat.lt_or_eq_of_le hx with hnew | rfl
  · obtain ⟨k, rfl⟩ := Nat.exists_eq_add_of_le hnew
    have hk := Nat.lt_of_add_lt_add_left (Nat.lt_of_lt_of_eq hlt hg.size)
    obtain ⟨before, t, after, body, hts, hbody, rfl⟩ := Token.exists_of_lt_nodeCount hk
    obtain ⟨b, hb, hhollow⟩ := hg.node before t after body hts hbody
    rw [hb] at he
    cases b with
    | element tag c =>
      obtain ⟨n, as, alone, span, rfl, _⟩ :=
        startTag_of_body? (hbody.trans (congrArg some hhollow.symm))
      exact ⟨before, n, as, alone, span, after, hts, rfl⟩
    | _ => cases he
  · -- the document itself is no element
    obtain ⟨b, hb, hhollow⟩ := hg.document
    rw [hb] at he
    cases b with
    | element tag c => cases hhollow
    | _ => cases he

/-- Element `x` has the attributes `as` of its start tag, the first of each key, with ranges. -/
structure HasTagAttributes (config : ReaderConfig) (markup : String)
    (as : List TokenAttribute) (g : Forest) (x : NodeId) : Prop where
  list : (g.store x).toList = (firsts config.cases.sameKey as).map fun a =>
    ⟨config.cases.attributeName a.name, a.value⟩
  placed : config.tracksPlaces = true → ∀ a ∈ firsts config.cases.sameKey as,
    g.attributeRange x (config.cases.attributeName a.name) = .ok (a.range (.ofText markup)) ∧
      (a.range (.ofText markup)).isTracked = true
  unplaced : ∀ key,
    (config.tracksPlaces = true → ∀ a ∈ as, config.cases.attributeName a.name ≠ key) →
      g.attributeRange x key = .ok .untracked

theorem hasTagAttributes_of_store (hx : x < g.size)
    (hstore : g.store x = Growth.attributesOf (config.manner markup) as)
    (has : ∀ a ∈ as, '/' ∉ a.name.toList)
    (htracked : ∀ lines, ∀ a ∈ as, (a.range lines).isTracked = true) :
    HasTagAttributes config markup as g x := by
  have hlist : (g.store x).toList = (firsts config.cases.sameKey as).map fun a =>
      ⟨config.cases.attributeName a.name, a.value⟩ := by
    rw [hstore, Attributes.toList, Growth.visible_attributesOf has, List.map_map]
    rfl
  have hrange : ∀ key, (g.store x).range? key = (config.manner markup).lines.bind fun lines =>
      (as.find? (config.cases.attributeName ·.name == key)).map (·.range lines) := by
    rw [hstore]
    exact Growth.range?_attributesOf (m := config.manner markup) has htracked
  refine ⟨hlist, fun hon a ha => ?_, fun key hkey => ?_⟩
  · have hmem := (firsts_sublist _ as).subset ha
    have hfound : as.find? (config.cases.sameKey · a) = some a :=
      find?_of_mem_firsts (fun _ => beq_self_eq_true _) ha
    have hplace : (g.store x).range? (config.cases.attributeName a.name) =
        some (a.range (.ofText markup)) := by
      rw [hrange, ReaderConfig.manner, if_pos hon, Option.bind_some]
      exact congrArg (Option.map _) hfound
    have hthere : (g.store x).has .exact (config.cases.attributeName a.name) = true := by
      rw [hstore]
      exact Growth.has_attributesOf (m := config.manner markup) has hmem
    refine ⟨?_, htracked _ a hmem⟩
    rw [attributeRange_eq hx, Attributes.sourceRange_eq, if_pos hthere, hplace, Option.getD_some]
  · have hnone : (g.store x).range? key = none := by
      rw [hrange, ReaderConfig.manner]
      split
      · next hon =>
        rw [Option.bind_some, List.find?_eq_none.mpr, Option.map_none]
        exact fun a ha h => hkey hon a ha (eq_of_beq h)
      · rfl
    rw [attributeRange_eq hx, Attributes.sourceRange_eq, hnone, Option.getD_none, ite_self]

theorem first_of_each_key_is_read (h : Reachable f) (config : ReaderConfig)
    (markup baseUri : String)
    (hlong : markup.utf8ByteSize < Position.nowhere) :
    ∃ g ids, readDocument config markup baseUri f = .ok f.size g ∧ g.descendants f.size = .ok ids ∧
      ∀ x ∈ ids, g.isElement x = true → ∃ before n as alone span after,
        Token.tokens config.dialect markup = before ++ .startTag n as alone span :: after ∧
          x = f.size + 1 + Token.nodeCount (config.manner markup) before ∧
          HasTagAttributes config markup as g x := by
  have hg : Planted config markup baseUri f (f.plant config markup baseUri) :=
    planted_plant h.wellFormed
  refine ⟨_, _, rfl, hg.order, fun x hx he => ?_⟩
  rw [List.mem_range'_1] at hx
  have hlt : x < (f.plant config markup baseUri).size :=
    Nat.lt_of_lt_of_eq hx.2 (Nat.add_sub_of_le hg.old.size_le)
  obtain ⟨before, n, as, alone, span, after, hts, hplace⟩ := hg.element hx.1 hlt he
  have hmem : Token.startTag n as alone span ∈ Token.tokens config.dialect markup := by
    rw [hts]
    exact List.mem_append_right before List.mem_cons_self
  exact ⟨before, n, as, alone, span, after, hts, hplace,
    hasTagAttributes_of_store hlt (hplace ▸ hg.store_startTag hts) (Token.slash_not_mem_name hmem)
      fun lines a ha => (Token.faithful_of_mem hmem a ha).isTracked hlong lines⟩

theorem first_of_each_key_is_read_twoLists :
    Reachable twoLists ∧ "<p ID=a class=b id=c><br ID>".utf8ByteSize < Position.nowhere ∧ ∃ g ids,
      readDocument (.tracking .html true) "<p ID=a class=b id=c><br ID>" "" twoLists = .ok 6 g ∧
        g.descendants 6 = .ok ids ∧
        (∀ x ∈ ids, g.isElement x = true → ∃ before n as alone span after,
          Token.tokens .html "<p ID=a class=b id=c><br ID>" =
              before ++ .startTag n as alone span :: after ∧
            x = 7 + Token.nodeCount
              (ReaderConfig.manner (.tracking .html true) "<p ID=a class=b id=c><br ID>") before ∧
            HasTagAttributes (.tracking .html true) "<p ID=a class=b id=c><br ID>" as g x) ∧
        (7 ∈ ids ∧ g.isElement 7 = true ∧
          (g.store 7).toList = [⟨"id", some "a"⟩, ⟨"class", some "b"⟩]) ∧
        8 ∈ ids ∧ g.isElement 8 = true ∧ (g.store 8).toList = [⟨"id", none⟩] := by
  have h : Reachable twoLists := reaches_runAll _
  have hlong : "<p ID=a class=b id=c><br ID>".utf8ByteSize < Position.nowhere := by decide
  obtain ⟨g, ids, hread, hids, hall⟩ :=
    first_of_each_key_is_read h (.tracking .html true) "<p ID=a class=b id=c><br ID>" "" hlong
  refine ⟨h, hlong, g, ids, hread, hids, hall, ?_⟩
  cases hread
  have he :
      (twoLists.plant (.tracking .html true) "<p ID=a class=b id=c><br ID>" "").descendants 6 =
      .ok [6, 7, 8] := by
    decide +kernel
  cases he.symm.trans hids
  decide +kernel

example : ((empty.plant (.tracking .xml true) "<p ID=a id=b>" "").store 1).toList =
    [⟨"ID", some "a"⟩, ⟨"id", some "b"⟩] := by
  decide +kernel

end MarkupForest
