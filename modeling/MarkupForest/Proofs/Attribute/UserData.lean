import MarkupForest.Proofs.Attribute.HiddenEntries
import MarkupForest.Proofs.Operation.Reachable
import MarkupForest.Proofs.Attribute.NodeStore
import MarkupForest.Proofs.Outline.Markup

namespace MarkupForest

open Edit Text

variable {as : Attributes} {e : Entry} {key : String} {value : Option Datum} {m : Attributes.Match}

namespace Attributes

def reachesData (key : String) : Bool := Match.anyCase.holds key userDataKey

def withoutData (as : Attributes) : Attributes := ⟨as.entries.filter (·.key != userDataKey), 0⟩

theorem key_ne_of_visible (h : (!e.isHidden) = true) : (e.key != userDataKey) = true := by
  rw [bne_iff_ne]
  intro hkey
  rw [Entry.isHidden, hkey] at h
  cases h

@[simp] theorem visible_withoutData : as.withoutData.visible = as.visible := by
  refine List.filter_filter.trans (List.filter_congr fun e _ => ?_)
  cases h : (!e.isHidden) with
  | true => simp [key_ne_of_visible h]
  | false => simp

@[simp] theorem toList_withoutData : as.withoutData.toList = as.toList := by simp [toList]

@[simp] theorem size_withoutData : as.withoutData.size = as.size := by simp [size]

theorem find?_withoutData (h : m.holds key userDataKey = false) :
    as.withoutData.find? m key = as.find? m key := by
  refine find?_filter_of_pos fun e he => ?_
  rw [bne_iff_ne]
  intro hkey
  rw [hkey, h] at he
  cases he

theorem withoutData_setUserData : (as.setUserData key value).withoutData = as.withoutData := by
  rw [setUserData_eq]
  split
  · rfl
  · refine congrArg (Attributes.mk · 0) ?_
    rw [upsert]
    split
    · refine filter_changeFirst_of_neg fun e he => ?_
      rw [eq_of_beq he]
      decide
    · simp [push]

def look (as : Attributes) (key : String) : Option String :=
  (as.find? .anyCase key).map (·.slot.shown)

theorem has_eq : as.has .anyCase key = (as.look key).isSome := by simp [has, look]

theorem get_eq : as.get .anyCase key = (as.look key).getD "" := by
  rw [get, look]
  cases as.find? .anyCase key <;> rfl

/-- A lookup under the key of the data itself has found something already. -/
def MissesNewData (as : Attributes) (key : String) : Prop :=
  reachesData key = true → (as.look key).isSome = true

instance : Decidable (as.MissesNewData key) :=
  inferInstanceAs (Decidable (reachesData key = true → (as.look key).isSome = true))

theorem shown_overUserData {u : Dict Datum → Dict Datum} (s : Slot) :
    (overUserData u s).shown = s.shown := by
  cases s <;> rfl

theorem look_setUserData {dataKey : String} (h : value.isSome = true → as.MissesNewData key) :
    (as.setUserData dataKey value).look key = as.look key := by
  cases hreach : reachesData key with
  | false => rw [look, find?_setUserData hreach, look]
  | true =>
    rw [setUserData_eq]
    split
    · rfl
    · next hchange =>
      rw [upsert]
      split
      · exact map_find?_changeFirst (fun _ => rfl) fun e => shown_overUserData e.slot
      · next hnew =>
        have hvalue : value.isSome = true :=
          Option.isSome_iff_ne_none.mpr fun hnone =>
            hchange ⟨by simpa [hasUserData] using hnew, hnone⟩
        obtain ⟨e, he⟩ := Option.isSome_iff_exists.mp
          (Option.isSome_map.symm.trans (h hvalue hreach))
        have hfound : as.entries.find? (Match.anyCase.holds key ·.key) = some e := he
        rw [look, look, push, find?, find?, List.find?_append, hfound]
        rfl

theorem look_setUserData_of_reachesData {dataKey : String} {v : Datum}
    (hreach : reachesData key = true) (hnone : as.look key = none) :
    (as.setUserData dataKey (some v)).look key = some "" := by
  have hmissing : as.find? .anyCase key = none := Option.map_eq_none_iff.mp hnone
  have hfind : as.entries.find? (Match.anyCase.holds key ·.key) = none := hmissing
  have hnew : as.has .exact userDataKey = false := by
    rw [has, Option.isSome_eq_false_iff, Option.isNone_iff_eq_none, find?, List.find?_eq_none]
    intro e he hexact
    rw [List.find?_eq_none] at hfind
    exact hfind e he (eq_of_beq hexact ▸ hreach)
  have hholds : Match.anyCase.holds key userDataKey = true := hreach
  rw [setUserData_eq, if_neg (by simp), upsert, if_neg (by simp [hnew])]
  simp [push, look, find?, hfind, hholds, Slot.shown, Slot.text?]

end Attributes

theorem reachesData_of_shown (h : isHiddenKey key = false) :
    Attributes.reachesData key = false := by
  rw [Bool.eq_false_iff]
  intro hreach
  have hhidden := isHiddenKey_of_holds hreach
  rw [h] at hhidden
  cases hhidden

namespace Node

variable {n : Node}

def withoutData (n : Node) : Node := n.mapAttributes fun as => some (as.getD .empty).withoutData

theorem container?_withoutData : n.withoutData.body.container? =
    n.body.container?.map fun c =>
        { c with attributes := some (c.attributes.getD .empty).withoutData } :=
  Body.container?_mapContainer ..

@[simp] theorem childIds_withoutData : n.withoutData.childIds = n.childIds := by
  rw [childIds, childIds, container?_withoutData]
  cases n.body.container? <;> rfl

theorem attributes?_withoutData :
    n.withoutData.attributes? = n.body.container?.map fun c =>
        (c.attributes.getD .empty).withoutData := by
  rw [attributes?, container?_withoutData]
  cases n.body.container? <;> rfl

@[simp] theorem label_withoutData : n.withoutData.body.label = n.body.label := by
  have hseen : ∀ c : Container,
      { c with attributes := some (c.attributes.getD .empty).withoutData }.seen = c.seen := by
    rintro ⟨children, attributes⟩
    cases attributes <;> exact Attributes.toList_withoutData
  cases n with
  | mk body =>
    cases body with
    | document cases output c => exact congrArg (Label.document cases output) (hseen c)
    | element tag c => exact congrArg (Label.element tag) (hseen c)
    | _ => rfl

theorem withoutData_mapAttributes {u : Attributes → Attributes}
    (h : ∀ as, (u as).withoutData = as.withoutData) :
    (n.mapAttributes fun as => some (u (as.getD .empty))).withoutData = n.withoutData := by
  cases n with
  | mk body => cases body <;> simp [withoutData, mapAttributes, Body.mapContainer, h]

end Node

namespace Forest

variable {f g : Forest} {id x : NodeId} {resolve : Resolver}

def withoutData (f : Forest) : Forest := ⟨f.nodes.map Node.withoutData⟩

@[simp] theorem size_withoutData : f.withoutData.size = f.size := by simp [withoutData, size]

theorem get?_withoutData : f.withoutData.get? x = (f.get? x).map Node.withoutData := by
  simp [withoutData, get?]

theorem withoutData_changeAttributes {u : Attributes → Attributes}
    (h : ∀ as, (u as).withoutData = as.withoutData) :
    (f.changeAttributes id u).withoutData = f.withoutData := by
  refine ext fun x => ?_
  rw [get?_withoutData, get?_withoutData, changeAttributes, get?_modify]
  split
  · cases f.get? x with
    | none => rfl
    | some n => exact congrArg some (Node.withoutData_mapAttributes h)
  · rfl

theorem find_withoutData : f.withoutData.find x = (f.find x).map Node.withoutData := by
  rw [find, find, get?_withoutData]
  cases f.get? x <;> rfl

@[simp] theorem parent?_withoutData : f.withoutData.parent? x = f.parent? x := by
  rw [parent?, parent?, get?_withoutData]
  cases f.get? x <;> rfl

@[simp] theorem lineage_withoutData : f.withoutData.lineage x = f.lineage x := by
  rw [lineage, lineage, size_withoutData]
  exact climb_congr fun _ _ => parent?_withoutData

theorem leaf?_withoutData (f : Forest) (x : NodeId) : f.withoutData.leaf? x = f.leaf? x := by
  rw [leaf?, leaf?, get?_withoutData, Option.map_map]
  exact congrArg (fun v => Option.map v _) (funext fun n => by simp)

@[simp] theorem outputRules_withoutData : f.withoutData.outputRules x = f.outputRules x :=
  congrArg Prod.snd (rules_congr (leaf?_withoutData f) fun _ => parent?_withoutData)

@[simp] theorem children_withoutData : f.withoutData.children x = f.children x := by
  rw [children, children, find_withoutData]
  cases f.find x <;> simp [Except.map, bind, Except.bind]

@[simp] theorem writeTo_withoutData {dialect : Dialect} {out : String} :
    f.withoutData.writeTo dialect x out = f.writeTo dialect x out :=
  writeTo_congr (leaf?_withoutData f)

@[simp] theorem outerMarkup_withoutData : f.withoutData.outerMarkup x = f.outerMarkup x := by
  simp [outerMarkup, write]

@[simp] theorem innerMarkup_withoutData : f.withoutData.innerMarkup x = f.innerMarkup x := by
  simp [innerMarkup]

@[simp] theorem store_withoutData : f.withoutData.store x = (f.store x).withoutData := by
  rw [store, store, get?_withoutData]
  cases f.get? x with
  | none => rfl
  | some n =>
    rw [Option.map_some, Option.bind_some, Option.bind_some, Node.attributes?_withoutData,
      Node.attributes?]
    cases n.body.container? <;> rfl

@[simp] theorem attributeCount_withoutData :
    f.withoutData.attributeCount x = f.attributeCount x := by
  simp [attributeCount_eq]

@[simp] theorem baseUri_withoutData : f.withoutData.baseUri x = f.baseUri x := by
  have hown : f.withoutData.ownBase? = f.ownBase? := by
    funext y
    have hapart : Attributes.Match.exact.holds Attributes.baseUriKey Attributes.userDataKey =
        false := by decide
    rw [ownBase?_eq, ownBase?_eq, store_withoutData, Attributes.has, Attributes.has, Attributes.get,
      Attributes.get, Attributes.find?_withoutData hapart]
  rw [baseUri, baseUri, find_withoutData, lineage_withoutData, hown]
  cases f.find x <;> rfl

structure SameBase (f g : Forest) (x : NodeId) : Prop where
  size : g.size = f.size
  base : g.baseUri x = f.baseUri x

theorem sameBase_of_withoutData (h : g.withoutData = f.withoutData) : SameBase f g x where
  size := by rw [← size_withoutData, h, size_withoutData]
  base := by rw [← baseUri_withoutData, h, baseUri_withoutData]

namespace SameBase

variable (h : SameBase f g x)
include h

theorem find_bind {α : Type} {e : Except TreeError α} :
    ((g.find x).bind fun _ => e) = (f.find x).bind fun _ => e := by
  by_cases hx : x < f.size
  · obtain ⟨n, _, hn⟩ := find_of_lt hx
    obtain ⟨m, _, hm⟩ := find_of_lt (h.size ▸ hx)
    rw [hn, hm]
    rfl
  · have hle := Nat.le_of_not_lt hx
    rw [find_of_size_le hle, find_of_size_le (h.size ▸ hle)]

theorem absoluteUrl (hlook : (g.store x).look key = (f.store x).look key) :
    g.absoluteUrl resolve x key = f.absoluteUrl resolve x key := by
  simp only [absoluteUrl_eq, Attributes.has_eq, Attributes.get_eq, hlook, h.base, h.find_bind]

theorem attributeValue
    (hlook : isHiddenKey key = false → (g.store x).look key = (f.store x).look key)
    (hname : ∀ name ∈ absoluteName? key, (g.store x).look name = (f.store x).look name) :
    g.attributeValue resolve x key = f.attributeValue resolve x key := by
  rw [attributeValue_eq, attributeValue_eq]
  cases hkey : isHiddenKey key with
  | true => rfl
  | false =>
    simp only [Attributes.has_eq, Attributes.get_eq, hlook hkey]
    cases habs : absoluteName? key with
    | none => simp only [h.find_bind]
    | some name => simp only [h.absoluteUrl (hname name habs), h.find_bind]

theorem hasAttribute
    (hlook : isHiddenKey key = false → (g.store x).look key = (f.store x).look key)
    (hname : ∀ name ∈ absoluteName? key, (g.store x).look name = (f.store x).look name) :
    g.hasAttribute resolve x key = f.hasAttribute resolve x key := by
  rw [hasAttribute_eq, hasAttribute_eq]
  cases hkey : isHiddenKey key with
  | true => simp
  | false =>
    simp only [Attributes.has_eq, hlook hkey]
    cases habs : absoluteName? key with
    | none => rfl
    | some name => simp only [h.absoluteUrl (hname name habs), hname name habs]

end SameBase

theorem find_bind_congr {α : Type} {e : Except TreeError α} (h : g.withoutData = f.withoutData) :
    ((g.find x).bind fun _ => e) = (f.find x).bind fun _ => e :=
  (sameBase_of_withoutData h).find_bind

theorem absoluteUrl_congr (h : g.withoutData = f.withoutData)
    (hlook : (g.store x).look key = (f.store x).look key) :
    g.absoluteUrl resolve x key = f.absoluteUrl resolve x key :=
  (sameBase_of_withoutData h).absoluteUrl hlook

theorem attributeValue_congr (h : g.withoutData = f.withoutData)
    (hlook : isHiddenKey key = false → (g.store x).look key = (f.store x).look key)
    (hname : ∀ name ∈ absoluteName? key, (g.store x).look name = (f.store x).look name) :
    g.attributeValue resolve x key = f.attributeValue resolve x key :=
  (sameBase_of_withoutData h).attributeValue hlook hname

theorem hasAttribute_congr (h : g.withoutData = f.withoutData)
    (hlook : isHiddenKey key = false → (g.store x).look key = (f.store x).look key)
    (hname : ∀ name ∈ absoluteName? key, (g.store x).look name = (f.store x).look name) :
    g.hasAttribute resolve x key = f.hasAttribute resolve x key :=
  (sameBase_of_withoutData h).hasAttribute hlook hname

theorem setUserData_bears (h : (f.childList? id).isSome) (dataKey : String)
    (value : Option Datum) :
    ∃ g, setUserData id dataKey value f = .ok () g ∧ g.withoutData = f.withoutData ∧
      g.store id = (f.store id).setUserData dataKey value ∧
      ∀ x, x ≠ id → g.store x = f.store x := by
  rcases setUserData_ok h dataKey value with he | ⟨he, rfl, hnone⟩
  · exact ⟨_, he, withoutData_changeAttributes fun _ => Attributes.withoutData_setUserData,
      store_changeAttributes h, fun x hx => store_changeAttributes_of_ne hx.symm⟩
  · refine ⟨f, he, rfl, ?_, fun _ _ => rfl⟩
    rw [store, hnone]
    rfl

theorem absoluteUrl_first_data {dataKey : String} {v : Datum} (h : (f.childList? id).isSome)
    (hsame : g.withoutData = f.withoutData)
    (hstore : g.store id = (f.store id).setUserData dataKey (some v))
    (hmisses : ¬ (f.store id).MissesNewData key) :
    f.absoluteUrl resolve id key = .ok "" ∧
      g.absoluteUrl resolve id key = (f.baseUri id).map (resolve · "") := by
  obtain ⟨hreach, hnone⟩ : Attributes.reachesData key = true ∧ (f.store id).look key = none := by
    simpa [Attributes.MissesNewData] using hmisses
  have hkey : key ≠ "" := by
    rintro rfl
    exact absurd hreach (by decide)
  obtain ⟨l, hl⟩ := Option.isSome_iff_exists.mp h
  obtain ⟨n, _, hfind⟩ := find_of_lt (lt_of_childList? hl)
  have hbase : g.baseUri id = f.baseUri id := by
    rw [← baseUri_withoutData, hsame, baseUri_withoutData]
  have hlook : (g.store id).look key = some "" := by
    rw [hstore, Attributes.look_setUserData_of_reachesData hreach hnone]
  constructor
  · rw [absoluteUrl_eq, if_neg hkey, hfind, Attributes.has_eq, hnone]
    rfl
  · rw [absoluteUrl_eq, if_neg hkey, find_bind_congr hsame, hfind, Attributes.has_eq,
      Attributes.get_eq, hlook, hbase]
    rfl

end Forest

theorem user_data_stays_unseen {f : Forest} {id : NodeId} (h : (f.childList? id).isSome)
    (dataKey : String) (value : Option Datum) :
    ∃ g, setUserData id dataKey value f = .ok () g ∧
      (∀ (resolve : Resolver) (x : NodeId),
        (∀ key, (∀ name ∈ Forest.absoluteName? key, x = id → value.isSome = true →
            (f.store x).MissesNewData name) →
          g.attributeValue resolve x key = f.attributeValue resolve x key ∧
            g.hasAttribute resolve x key = f.hasAttribute resolve x key) ∧
        (∀ key, (x = id → value.isSome = true → (f.store x).MissesNewData key) →
          g.absoluteUrl resolve x key = f.absoluteUrl resolve x key) ∧
        g.attributeCount x = f.attributeCount x ∧
        (g.store x).toList = (f.store x).toList ∧
        g.outerMarkup x = f.outerMarkup x ∧ g.innerMarkup x = f.innerMarkup x) ∧
      ∀ resolve key, ¬ (f.store id).MissesNewData key → value.isSome = true →
        f.absoluteUrl resolve id key = .ok "" ∧
          g.absoluteUrl resolve id key = (f.baseUri id).map (resolve · "") := by
  obtain ⟨g, hg, hsame, hstore, hothers⟩ := Forest.setUserData_bears h dataKey value
  have hlook : ∀ x key, (x = id → value.isSome = true → (f.store x).MissesNewData key) →
      (g.store x).look key = (f.store x).look key := by
    intro x key hmisses
    by_cases hx : x = id
    · subst hx
      rw [hstore, Attributes.look_setUserData (hmisses rfl)]
    · rw [hothers x hx]
  have hshown : ∀ x key, isHiddenKey key = false → (g.store x).look key = (f.store x).look key := by
    intro x key hkey
    exact hlook x key fun _ _ hreach => absurd (reachesData_of_shown hkey) (by simp [hreach])
  refine ⟨g, hg,
    fun resolve x => ⟨fun key hkey => ⟨?_, ?_⟩, fun key hkey => ?_, ?_, ?_, ?_, ?_⟩, ?_⟩
  · exact Forest.attributeValue_congr hsame (hshown x key) fun name hn =>
      hlook x name (hkey name hn)
  · exact Forest.hasAttribute_congr hsame (hshown x key) fun name hn =>
      hlook x name (hkey name hn)
  · exact Forest.absoluteUrl_congr hsame (hlook x key hkey)
  · rw [← Forest.attributeCount_withoutData, hsame, Forest.attributeCount_withoutData]
  · rw [← Attributes.toList_withoutData, ← Forest.store_withoutData, hsame,
      Forest.store_withoutData, Attributes.toList_withoutData]
  · rw [← Forest.outerMarkup_withoutData, hsame, Forest.outerMarkup_withoutData]
  · rw [← Forest.innerMarkup_withoutData, hsame, Forest.innerMarkup_withoutData]
  · intro resolve key hmisses hvalue
    obtain ⟨v, rfl⟩ := Option.isSome_iff_exists.mp hvalue
    exact Forest.absoluteUrl_first_data h hsame hstore hmisses

def basedPair : Forest :=
  runAll Url.resolve (readFragment .html)
    [.createDocument .folded ⟨.html⟩ "a:/b", .createElement "p", .restructure (.appendChild 0 1),
      .setAttribute 1 "id" "x"] .empty

theorem user_data_stays_unseen_basedPair :
    Reachable basedPair ∧ (basedPair.childList? 1).isSome ∧
      (∃ g, setUserData 1 "k" (some .null) basedPair = .ok () g ∧
        g.attributeValue Url.resolve 1 "ID" = .ok "x" ∧
        g.attributeValue Url.resolve 1 "/nodetree.userdata" = .ok "" ∧
        g.outerMarkup 1 = .ok "<p id=\"x\"></p>" ∧
        basedPair.absoluteUrl Url.resolve 1 "/nodetree.userdata" = .ok "" ∧
        g.absoluteUrl Url.resolve 1 "/nodetree.userdata" = .ok "a:/b") ∧
      ∃ g, setUserData 1 "k" none basedPair = .ok () g ∧
        g.absoluteUrl Url.resolve 1 "/nodetree.userdata" = .ok "" := by
  have hopen : (basedPair.childList? 1).isSome := by decide
  obtain ⟨g, hg, hsame, hleak⟩ := user_data_stays_unseen hopen "k" (some .null)
  obtain ⟨g', hg', hsame', -⟩ := user_data_stays_unseen hopen "k" none
  obtain ⟨hreads, _, _, _, hmarkup, _⟩ := hsame Url.resolve 1
  refine ⟨reaches_runAll _, hopen, ⟨g, hg, ?_, ?_, ?_, ?_⟩, g', hg', ?_⟩
  · exact (hreads "ID" (by decide)).1.trans (by decide)
  · exact (hreads "/nodetree.userdata" (by decide)).1.trans (by decide)
  · exact hmarkup.trans (by decide)
  · obtain ⟨hbefore, hafter⟩ := hleak Url.resolve "/nodetree.userdata" (by decide) rfl
    exact ⟨hbefore, hafter.trans (by decide)⟩
  · exact ((hsame' Url.resolve 1).2.1 "/nodetree.userdata" nofun).trans (by decide)

end MarkupForest
