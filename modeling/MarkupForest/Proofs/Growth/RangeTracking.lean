import MarkupForest.Proofs.Attribute.TagMarkup
import MarkupForest.Proofs.Attribute.HiddenEntries
import MarkupForest.Proofs.Token.Rereadable
import MarkupForest.Proofs.Outline.Markup

namespace MarkupForest

open Edit Text Attributes

variable {as : Attributes} {n : Node} {f g : Forest} {x p c : NodeId} {m : Manner} {t : Token}
  {base : Nat}

namespace Attributes

def unplaced (as : Attributes) : Attributes :=
  ⟨as.entries.filter (·.key != rangesKey), as.changes - as.entries.countP (·.key == rangesKey)⟩

theorem unplaced_eq (h : ∀ e ∈ as.entries, e.key ≠ rangesKey) : as.unplaced = as := by
  have hfilter : as.entries.filter (·.key != rangesKey) = as.entries :=
    List.filter_eq_self.mpr fun e he => bne_iff_ne.mpr (h e he)
  have hcount : as.entries.countP (·.key == rangesKey) = 0 :=
    List.countP_eq_zero.mpr fun e he => by simpa using h e he
  rw [unplaced, hfilter, hcount]
  rfl

theorem unplaced_setSourceRange (key : String) (range : AttributeRange) :
    (as.setSourceRange key range).unplaced = as.unplaced := by
  rw [setSourceRange_eq, upsert]
  split
  · -- the entry is rewritten under its key
    have hkeys :
        (as.changeHidden rangesKey (overRanges (·.insert key range))).entries.map Entry.key =
        as.entries.map Entry.key := keys_changeFirst fun _ _ => rfl
    have hcount := congrArg (List.countP (· == rangesKey)) hkeys
    rw [List.countP_map, List.countP_map] at hcount
    have hfilter : (as.changeHidden rangesKey (overRanges (·.insert key range))).entries.filter
        (·.key != rangesKey) = as.entries.filter (·.key != rangesKey) :=
      filter_changeFirst_of_neg fun e he => by simpa using he
    rw [unplaced, unplaced, hfilter]
    exact congrArg (fun n => Attributes.mk _ (as.changes - n)) hcount
  · simp [unplaced, push]

theorem unplaced_foldl {α : Type} {when : Attributes → α → Bool} {key : α → String}
    {range : α → AttributeRange} (l : List α) (as : Attributes) :
    (l.foldl
      (fun as a => if when as a then as.setSourceRange (key a) (range a) else as) as).unplaced =
      as.unplaced := by
  induction l generalizing as with
  | nil => rfl
  | cons a l ih =>
    rw [List.foldl_cons, ih]
    split
    · exact unplaced_setSourceRange _ _
    · rfl

@[simp] theorem visible_unplaced : as.unplaced.visible = as.visible := by
  refine List.filter_filter.trans (List.filter_congr fun e _ => ?_)
  cases h : (!e.isHidden) with
  | false => rfl
  | true =>
    rw [Bool.true_and, bne_iff_ne]
    intro hkey
    rw [Entry.isHidden, hkey] at h
    cases h

@[simp] theorem toList_unplaced : as.unplaced.toList = as.toList := by simp [toList]

end Attributes

namespace Node

def unplaced (n : Node) : Node :=
  { n.mapAttributes (Option.map Attributes.unplaced) with ranges := none }

@[simp] theorem label_unplaced : n.unplaced.body.label = n.body.label := by
  have hseen : ∀ c : Container,
      { c with attributes := c.attributes.map Attributes.unplaced }.seen = c.seen := by
    rintro ⟨children, attributes⟩
    cases attributes with
    | none => rfl
    | some as => exact toList_unplaced
  cases n with
  | mk body =>
    cases body with
    | document cases output c => exact congrArg (Label.document cases output) (hseen c)
    | element tag c => exact congrArg (Label.element tag) (hseen c)
    | _ => rfl

@[simp] theorem childIds_unplaced : n.unplaced.childIds = n.childIds := by
  cases n with
  | mk body => cases body <;> rfl

theorem unplaced_mapChildren (u : ChildList → ChildList) :
    (n.mapChildren u).unplaced = n.unplaced.mapChildren u := by
  cases n with
  | mk body => cases body <;> rfl

end Node

namespace Forest

structure AddsPlaces (base : Nat) (f g : Forest) : Prop where
  old : ∀ x, x < base → f.get? x = g.get? x
  new : ∀ x, base ≤ x → (f.get? x).map Node.unplaced = g.get? x

namespace AddsPlaces

theorem refl (f : Forest) : AddsPlaces f.size f f where
  old _ _ := rfl
  new x hx := by rw [get?_of_size_le hx]; rfl

variable (h : AddsPlaces base f g)
include h

theorem eq_of {α : Type} {q : Option Node → α} (hq : ∀ n : Node, q (some n.unplaced) = q (some n))
    (x : NodeId) : q (f.get? x) = q (g.get? x) := by
  by_cases hx : x < base
  · rw [h.old x hx]
  · rw [← h.new x (Nat.le_of_not_lt hx)]
    cases f.get? x with
    | none => rfl
    | some n => exact (hq n).symm

theorem parent?_eq (x : NodeId) : f.parent? x = g.parent? x :=
  h.eq_of (q := (·.bind Node.parent)) (fun _ => rfl) x

theorem leaf?_eq (x : NodeId) : f.leaf? x = g.leaf? x :=
  h.eq_of (q := Option.map fun n : Node => (n.body.label, n.childIds)) (fun n => by simp) x

theorem size_eq : f.size = g.size := size_congr h.leaf?_eq

theorem outerMarkup_eq (x : NodeId) : f.outerMarkup x = g.outerMarkup x :=
  outerMarkup_congr h.leaf?_eq h.parent?_eq

theorem childIds_eq (x : NodeId) : f.childIds x = g.childIds x := childIds_congr h.leaf?_eq x

theorem modify {u : Node → Node} (hu : ∀ n : Node, (u n).unplaced = u n.unplaced) :
    AddsPlaces base (f.modify x u) (g.modify x u) where
  old y hy := by rw [get?_modify, get?_modify, h.old y hy]
  new y hy := by
    rw [get?_modify, get?_modify, ← h.new y hy]
    split
    · rw [Option.map_map, Option.map_map]
      exact congrArg (fun v => Option.map v _) (funext hu)
    · rfl

theorem setParent {q : Option NodeId} : AddsPlaces base (f.setParent x q) (g.setParent x q) :=
  h.modify fun _ => rfl

theorem setIndex {i : Nat} : AddsPlaces base (f.setIndex x i) (g.setIndex x i) :=
  h.modify fun _ => rfl

theorem modify_places {u : Node → Node} (hx : base ≤ x)
    (hu : ∀ n : Node, (u n).unplaced = n.unplaced) : AddsPlaces base (f.modify x u) g where
  old y hy := by
    rw [get?_modify, if_neg (Nat.ne_of_gt (Nat.lt_of_lt_of_le hy hx)), h.old y hy]
  new y hy := by
    rw [get?_modify, ← h.new y hy]
    split
    · rw [Option.map_map]
      exact congrArg (fun v => Option.map v _) (funext hu)
    · rfl

theorem setRanges {start stop : SourceRange} (hx : base ≤ x) :
    AddsPlaces base (f.setRanges x start stop) g :=
  h.modify_places hx fun _ => rfl

theorem setEndRange {stop : SourceRange} (hx : base ≤ x) :
    AddsPlaces base (f.setEndRange x stop) g :=
  h.modify_places hx fun _ => rfl

theorem push {m : Node} (hbase : base ≤ f.size) (hn : n.unplaced = m) :
    AddsPlaces base (f.push n) (g.push m) where
  old y hy := by
    have hne : y ≠ f.size := Nat.ne_of_lt (Nat.lt_of_lt_of_le hy hbase)
    rw [get?_push, get?_push, ← h.size_eq, if_neg hne, if_neg hne, h.old y hy]
  new y hy := by
    rw [get?_push, get?_push, ← h.new y hy, ← h.size_eq, ← hn]
    split <;> rfl

theorem attach : AddsPlaces base (f.attach p c) (g.attach p c) := by
  unfold Forest.attach
  rw [h.childIds_eq]
  have hlist : AddsPlaces base (f.changeChildren p (·.push c)) (g.changeChildren p (·.push c)) :=
    h.modify fun _ => Node.unplaced_mapChildren _
  exact hlist.setIndex.setParent

theorem endAt {offset : Nat} {ids : List (NodeId × String)} (hids : ∀ e ∈ ids, base ≤ e.1) :
    AddsPlaces base (Growth.endAt m offset ids f) g :=
  Growth.endAt_ind (P := (AddsPlaces base · g)) h fun e he _ _ hk => hk.setEndRange (hids e he)

end AddsPlaces

end Forest

namespace Manner

def placeless (m : Manner) : Manner := { m with lines := none }

@[simp] theorem cases_placeless : m.placeless.cases = m.cases := rfl

@[simp] theorem dialect_placeless : m.placeless.dialect = m.dialect := rfl

@[simp] theorem lines_placeless : m.placeless.lines = none := rfl

end Manner

def Token.attributes : Token → List TokenAttribute
  | .startTag _ as _ _ => as
  | _ => []

namespace Growth

open Forest

theorem unplaced_attributesOf {as : List TokenAttribute} (has : ∀ a ∈ as, '/' ∉ a.name.toList) :
    (attributesOf m as).unplaced = attributesOf m.placeless as := by
  -- no name in the source is that of the entry which holds the places
  have hkept : (attributesOf m.placeless as).unplaced = attributesOf m.placeless as := by
    refine unplaced_eq fun e he hkey => ?_
    obtain ⟨a, ha, hname⟩ := key_of_mem_entries (m := m.placeless) rfl he
    have hslash : '/' ∉ (m.placeless.cases.attributeName a.name).toList :=
      not_mem_normal (by decide) (has a ha)
    rw [← hname, hkey] at hslash
    exact hslash (by decide)
  rcases hm : m.lines with _ | lines
  · rw [show m = m.placeless by rw [Manner.placeless, ← hm]]
    exact hkept
  · refine Eq.trans ?_ hkept
    rw [attributesOf, hm]
    exact unplaced_foldl _ _

structure Lockstep (base : Nat) (g k : Growth) : Prop where
  forest : AddsPlaces base g.forest k.forest
  root : g.root = k.root
  opened : g.opened = k.opened
  new : base ≤ g.forest.size
  openedNew : ∀ e ∈ g.opened, base ≤ e.1

namespace Lockstep

variable {g k : Growth} (h : Lockstep base g k)
include h

theorem current : g.current = k.current := by
  unfold Growth.current
  rw [h.opened, h.root]

theorem grow {body body' : Body} {span : Span}
    (hbody : (Node.ofBody body).unplaced = .ofBody body') :
    Lockstep base (g.grow m body span) (k.grow m.placeless body' span) := by
  have hhang : AddsPlaces base ((g.forest.push (.ofBody body)).attach g.current g.forest.size)
      ((k.forest.push (.ofBody body')).attach k.current k.forest.size) := by
    rw [h.current, ← h.forest.size_eq]
    exact (h.forest.push h.new hbody).attach
  refine ⟨?_, h.root, h.opened, ?_, h.openedNew⟩
  · show AddsPlaces base (g.grow m body span).forest
      ((k.forest.push (.ofBody body')).attach k.current k.forest.size)
    unfold Growth.grow
    cases m.lines with
    | none => exact hhang
    | some lines => exact hhang.setRanges h.new
  · rw [size_grow]
    exact Nat.le_succ_of_le h.new

theorem endAt (offset : Nat) (ids : List (NodeId × String)) (hids : ∀ e ∈ ids, base ≤ e.1) :
    Lockstep base { g with forest := Growth.endAt m offset ids g.forest } k where
  forest := h.forest.endAt hids
  root := h.root
  opened := h.opened
  new := by
    rw [size_endAt]
    exact h.new
  openedNew := h.openedNew

theorem startTag {name : String} {as : List TokenAttribute} {alone : Bool} {span : Span}
    (has : ∀ a ∈ as, '/' ∉ a.name.toList) :
    Lockstep base (g.startTag m name as alone span)
        (k.startTag m.placeless name as alone span) := by
  have hbody : (Node.ofBody (.element (m.cases.tagName name)
      ⟨none, if as = [] then none else some (attributesOf m as)⟩)).unplaced =
        .ofBody (.element (m.cases.tagName name)
          ⟨none, if as = [] then none else some (attributesOf m.placeless as)⟩) := by
    split
    · rfl
    · rw [← unplaced_attributesOf has]
      rfl
  have hgrow : Lockstep base (g.grow m _ span) (k.grow m.placeless _ span) := h.grow hbody
  unfold Growth.startTag
  simp only [Manner.cases_placeless, Manner.dialect_placeless, ← h.forest.size_eq]
  split
  · refine hgrow.endAt span.stop [(g.forest.size, m.cases.tagName name)] fun e he => ?_
    rw [List.mem_singleton.mp he]
    exact h.new
  · refine ⟨hgrow.forest, h.root, ?_, hgrow.new, fun e he => ?_⟩
    · exact congrArg (_ :: ·) h.opened
    · rcases List.mem_cons.mp he with rfl | he
      · exact h.new
      · exact h.openedNew e he

theorem endTag {name : String} {span : Span} :
    Lockstep base (g.endTag m name span) (k.endTag m.placeless name span) := by
  unfold Growth.endTag
  dsimp only [Manner.cases_placeless, Manner.lines_placeless]
  rw [← h.opened]
  cases hdrop : g.opened.dropWhile (·.2 != m.cases.tagName name) with
  | nil => exact h
  | cons e outer =>
    have hsub : ∀ x ∈ e :: outer, base ≤ x.1 := fun x hx =>
      h.openedNew x ((List.dropWhile_suffix _).subset (hdrop ▸ hx))
    have hend := h.endAt (m := m) span.start (g.opened.takeWhile (·.2 != m.cases.tagName name))
      fun x hx => h.openedNew x ((List.takeWhile_prefix _).subset hx)
    have houter : ∀ x ∈ outer, base ≤ x.1 := fun x hx => hsub x (List.mem_cons_of_mem e hx)
    cases m.lines with
    | none => exact ⟨hend.forest, h.root, rfl, hend.new, houter⟩
    | some lines =>
      refine ⟨hend.forest.setEndRange (hsub e List.mem_cons_self), h.root, rfl, ?_, houter⟩
      show base ≤ (Forest.setEndRange _ _ _).size
      rw [setEndRange, size_modify]
      exact hend.new

theorem step {t : Token} (ht : ∀ a ∈ t.attributes, '/' ∉ a.name.toList) :
    Lockstep base (g.step m t) (k.step m.placeless t) := by
  cases t with
  | startTag name as alone span => exact h.startTag ht
  | endTag name span => exact h.endTag
  | _ => exact h.grow rfl

theorem run {ts : List Token} (hts : ∀ t ∈ ts, ∀ a ∈ t.attributes, '/' ∉ a.name.toList) :
    Lockstep base (ts.foldl (Growth.step m) g) (ts.foldl (Growth.step m.placeless) k) := by
  induction ts generalizing g k with
  | nil => exact h
  | cons t ts ih =>
    exact ih (h.step (hts t List.mem_cons_self)) fun t' ht' => hts t' (List.mem_cons_of_mem t ht')

theorem finish {offset : Nat} : AddsPlaces base (g.finish m offset) (k.finish m.placeless offset) :=
  h.forest.endAt h.openedNew

end Lockstep

end Growth

theorem Token.slash_not_mem_name {dialect : Dialect} {markup : String}
    (ht : t ∈ tokens dialect markup) : ∀ a ∈ t.attributes, '/' ∉ a.name.toList := by
  cases t with
  | startTag name as alone span =>
    exact fun a ha hslash => absurd (isKeyChar_of_mem_scan ht a ha _ hslash) (by decide)
  | _ => exact fun a ha => nomatch ha

namespace Forest

variable {config : ReaderConfig} {context : Option NodeId} {markup uri : String}

theorem addsPlaces_grow (f : Forest) (cases : CasePolicy) (dialect : Dialect) (root : NodeId)
    (markup : String) :
    AddsPlaces f.size (f.grow cases dialect true root markup)
        (f.grow cases dialect false root markup) := by
  have hstart : Growth.Lockstep f.size (.start f root) (.start f root) :=
    ⟨.refl f, rfl, rfl, Nat.le_refl _, by simp [Growth.start]⟩
  exact (hstart.run (m := ⟨cases, dialect, some (.ofText markup)⟩)
    fun t ht => Token.slash_not_mem_name ht).finish

theorem addsPlaces_plant : AddsPlaces (f.size + 1) (f.plant (config.tracking true) markup uri)
    (f.plant (config.tracking false) markup uri) := by
  have h := addsPlaces_grow (f.push (documentNode config.cases ⟨config.dialect⟩ uri))
    config.cases config.dialect f.size markup
  rwa [size_push] at h

theorem addsPlaces_withFragment :
    AddsPlaces (f.size + 1) (f.withFragment (config.tracking true) context markup uri)
      (f.withFragment (config.tracking false) context markup uri) := by
  have hground : (f.fragmentGround uri).size = f.size + 1 := by
    unfold fragmentGround
    dsimp only
    split <;> simp [changeAttributes]
  have h := addsPlaces_grow (f.fragmentGround uri) (f.fragmentRules config context).1
    (f.fragmentRules config context).2.dialect f.size markup
  rwa [hground] at h

/-- Forests that differ in the source ranges of nodes from number `base` on. -/
structure SameButPlaces (base : Nat) (f g : Forest) : Prop extends AddsPlaces base f g where
  size : f.size = g.size
  parent : ∀ x, f.parent? x = g.parent? x
  leaf : ∀ x, f.leaf? x = g.leaf? x
  markup : ∀ x, f.outerMarkup x = g.outerMarkup x

theorem AddsPlaces.same (h : AddsPlaces base f g) : SameButPlaces base f g :=
  ⟨h, h.size_eq, h.parent?_eq, h.leaf?_eq, h.outerMarkup_eq⟩

end Forest

open Forest

theorem tracking_adds_only_places (h : Reachable f) (config : ReaderConfig) (markup uri : String) :
    (∃ on off, readDocument (config.tracking true) markup uri f = .ok f.size on ∧
      readDocument (config.tracking false) markup uri f = .ok f.size off ∧
      SameButPlaces (f.size + 1) on off) ∧
    (∀ context : Option NodeId, (∀ c ∈ context, c < f.size) → ∃ ids on off,
      readFragment (config.tracking true) markup context uri f = .ok ids on ∧
      readFragment (config.tracking false) markup context uri f = .ok ids off ∧
      SameButPlaces (f.size + 1) on off) ∧
    ∀ c, f.size ≤ c → ∀ on, readFragment (config.tracking on) markup (some c) uri f =
      .error (.noSuchNode c) f := by
  have hf := h.wellFormed
  refine ⟨⟨_, _, rfl, rfl, addsPlaces_plant.same⟩, fun context hcontext => ?_,
    fun c hc on => readFragment_missing hc⟩
  have hplaces : AddsPlaces (f.size + 1) (f.withFragment (config.tracking true) context markup uri)
      (f.withFragment (config.tracking false) context markup uri) := addsPlaces_withFragment
  refine ⟨_, _, _, readFragment_ok (config.tracking true) markup uri hf hcontext, ?_, hplaces.same⟩
  rw [hplaces.childIds_eq]
  exact readFragment_ok (config.tracking false) markup uri hf hcontext

theorem tracking_adds_only_places_twoLists :
    Reachable twoLists ∧
    (∃ on off, readDocument (.tracking .html true) "<p id=a ID=b><br></i>c" "" twoLists = .ok 6 on ∧
      readDocument (.tracking .html false) "<p id=a ID=b><br></i>c" "" twoLists = .ok 6 off ∧
      SameButPlaces 7 on off) ∧
    ∃ ids on off,
      readFragment (.tracking .html true) "<p id=a ID=b><br></i>c"
        (some 2) "" twoLists = .ok ids on ∧
      readFragment (.tracking .html false) "<p id=a ID=b><br></i>c" (some 2) "" twoLists =
        .ok ids off ∧
      SameButPlaces 7 on off := by
  have h : Reachable twoLists := reaches_runAll _
  obtain ⟨hdocument, hfragment, -⟩ :=
    tracking_adds_only_places h .html "<p id=a ID=b><br></i>c" ""
  exact ⟨h, hdocument, hfragment (some 2) (by decide)⟩

example :
    (((empty.plant (.tracking .html true) "<p id=a>" "").get? 1).bind Node.attributes?).map
      (·.entries.map Entry.key) = some ["id", Attributes.rangesKey] ∧
    (((empty.plant (.tracking .html false) "<p id=a>" "").get? 1).bind Node.attributes?).map
      (·.entries.map Entry.key) = some ["id"] := by
  decide +kernel

end MarkupForest
