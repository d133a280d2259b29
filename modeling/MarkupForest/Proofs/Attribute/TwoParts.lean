import MarkupForest.Proofs.Attribute.HiddenEntries
import MarkupForest.Proofs.Attribute.NodeStore
import Mathlib.Logic.Function.Basic

namespace MarkupForest

open Edit Forest

variable {as bs : Attributes} {e : Entry} {es : List Entry} {key : String}

namespace Entry

def IsText (e : Entry) : Prop := e.slot = .text e.slot.text?

def IsSide (e : Entry) : Prop :=
  match e.slot with
  | .userData _ => e.key = Attributes.userDataKey
  | .ranges _ => e.key = Attributes.rangesKey
  | .text _ => e.key = Attributes.baseUriKey

end Entry

namespace Attributes

def ofList (l : List Attribute) : Attributes := ⟨l.map fun a => ⟨a.key, .text a.value⟩, 0⟩

inductive Change where
  | add (key : String) (value : Option String)
  | put (key : String) (value : Option String)
  | putAnyCase (key : String) (value : Option String)
  | putBoolean (key : String) (on : Bool)
  | putAttribute (a : Attribute)
  | remove (m : Match) (key : String)
  | foldKeys
  | deduplicate (m : Match)
  | removeVisible (key : String)
  | clear

namespace Change

def run : Change → Attributes → Attributes
  | .add key value, as => as.add key value
  | .put key value, as => as.put key value
  | .putAnyCase key value, as => as.putAnyCase key value
  | .putBoolean key on, as => as.putBoolean key on
  | .putAttribute a, as => as.putAttribute a
  | .remove m key, as => as.remove m key
  | .foldKeys, as => as.foldKeys
  | .deduplicate m, as => (as.deduplicate m).1
  | .removeVisible key, as => if isHiddenKey key then as else as.remove .anyCase key
  | .clear, as => as.clear

def runAll (cs : List Change) (as : Attributes) : Attributes := cs.foldl (fun as c => c.run as) as

def answer : Change → Attributes → Option Nat
  | .deduplicate m, as => some (as.deduplicate m).2
  | _, _ => none

def key? : Change → Option String
  | .add key _ | .put key _ | .putAnyCase key _ | .putBoolean key _ | .remove _ key => some key
  | .putAttribute a => some a.key
  | .foldKeys | .deduplicate _ | .removeVisible _ | .clear => none

def OnShownKeys (c : Change) : Prop := ∀ key ∈ c.key?, isHiddenKey key = false

instance (c : Change) : Decidable c.OnShownKeys :=
  inferInstanceAs (Decidable (∀ key ∈ c.key?, isHiddenKey key = false))

end Change

inductive SideChange where
  | userData (key : String) (value : Option Datum)
  | sourceRange (key : String) (range : AttributeRange)
  | base (uri : String)

structure Sides where
  userData : String → Option Datum
  ranges : String → Option AttributeRange
  base : Option String

def Sides.none : Sides := ⟨fun _ => .none, fun _ => .none, .none⟩

def range? (as : Attributes) (key : String) : Option AttributeRange :=
  match as.find? .exact rangesKey with
  | some ⟨_, .ranges d⟩ => d.get? key
  | _ => none

def base? (as : Attributes) : Option String :=
  if as.has .exact baseUriKey then some (as.get .exact baseUriKey) else none

def sides (as : Attributes) : Sides := ⟨as.userData?, as.range?, as.base?⟩

theorem sourceRange_eq : as.sourceRange key =
    if as.has .exact key then (as.range? key).getD .untracked else .untracked := by
  rw [sourceRange, range?]
  cases as.find? .exact rangesKey with
  | none => rfl
  | some e =>
    cases e with
    | mk k slot => cases slot <;> rfl

theorem ownBase?_eq_base? {f : Forest} {id : NodeId} : f.ownBase? id = (f.store id).base? :=
  ownBase?_eq

namespace SideChange

def run : SideChange → Attributes → Attributes
  | .userData key value, as => as.setUserData key value
  | .sourceRange key range, as => as.setSourceRange key range
  | .base uri, as => as.put baseUriKey (some uri)

def act : SideChange → Sides → Sides
  | .userData key value, s => { s with userData := Function.update s.userData key value }
  | .sourceRange key range, s => { s with ranges := Function.update s.ranges key (some range) }
  | .base uri, s => { s with base := some uri }

def actAll (cs : List SideChange) (s : Sides) : Sides := cs.foldl (fun s c => c.act s) s

end SideChange

inductive Step where
  | seen (c : Change)
  | side (s : SideChange)

namespace Step

def run : Step → Attributes → Attributes
  | .seen c => c.run
  | .side s => s.run

def runAll (steps : List Step) (as : Attributes) : Attributes :=
  steps.foldl (fun as step => step.run as) as

def change? : Step → Option Change
  | .seen c => some c
  | .side _ => none

def sideChange? : Step → Option SideChange
  | .seen _ => none
  | .side s => some s

def OnShownKeys : Step → Prop
  | .seen c => c.OnShownKeys
  | .side _ => True

instance : (s : Step) → Decidable s.OnShownKeys
  | .seen c => inferInstanceAs (Decidable c.OnShownKeys)
  | .side _ => .isTrue trivial

/-- A step changes one part of the store as if the other were not there. -/
def ActsOnOnePart (as : Attributes) : Step → Prop
  | .seen c =>
    (c.run as).toList = (c.run (ofList as.toList)).toList ∧
      c.answer as = c.answer (ofList as.toList) ∧
      (c.run as).hidden = as.hidden ∧ (c.run as).sides = as.sides
  | .side s => (s.run as).toList = as.toList ∧ (s.run as).sides = s.act as.sides

def edit (id : NodeId) : Step → Edit Unit
  | .side (.base uri) => setBaseUri id uri
  | .side (.userData key value) => MarkupForest.setUserData id key value
  | .seen (.removeVisible key) => removeAttribute id key
  | .seen .clear => clearAttributes id
  | s => do
    let as ← openAttributes id
    modify (·.changeAttributes id fun _ => s.run as)

end Step

structure Observations where
  size : Nat
  isEmpty : Bool
  list : List Attribute
  dataset : List (String × String)
  markup : Dialect → String

def observations (as : Attributes) : Observations :=
  ⟨as.size, as.isEmpty, as.toList, as.dataset, (as.markup ·)⟩

structure WellFormed (as : Attributes) : Prop where
  texts : ∀ e ∈ as.visible, e.IsText
  side : ∀ e ∈ as.hidden, e.IsSide
  nodup : (as.hidden.map Entry.key).Nodup

theorem wellFormed_empty : empty.WellFormed := ⟨nofun, nofun, .nil⟩

def sideKeys : List String := [userDataKey, rangesKey, baseUriKey]

theorem isHiddenKey_of_mem_sideKeys (h : key ∈ sideKeys) : isHiddenKey key = true := by
  have hall : ∀ key ∈ sideKeys, isHiddenKey key = true := by decide
  exact hall key h

theorem holds_sideKeys {m : Match} {k l : String} (hk : k ∈ sideKeys) (hl : l ∈ sideKeys)
    (h : k ≠ l) : m.holds l k = false := by
  have hall : ∀ m : Match, ∀ k ∈ sideKeys, ∀ l ∈ sideKeys, k ≠ l → m.holds l k = false := by
    intro m
    cases m <;> decide
  exact hall m k hk l hl h

end Attributes

namespace Entry.IsSide

open Attributes

theorem mem_sideKeys (h : e.IsSide) : e.key ∈ sideKeys := by
  cases e with
  | mk key slot =>
    cases slot with
    | userData d => exact List.mem_cons.mpr (.inl h)
    | ranges d => exact List.mem_cons_of_mem _ (List.mem_cons.mpr (.inl h))
    | text v => exact List.mem_cons_of_mem _ (List.mem_cons_of_mem _ (List.mem_singleton.mpr h))

theorem userData (h : e.IsSide) (hk : e.key = userDataKey) : ∃ d, e.slot = .userData d := by
  cases e with
  | mk key slot =>
    cases slot with
    | userData d => exact ⟨d, rfl⟩
    | ranges d => exact absurd (h.symm.trans hk) (by decide)
    | text v => exact absurd (h.symm.trans hk) (by decide)

theorem ranges (h : e.IsSide) (hk : e.key = rangesKey) : ∃ d, e.slot = .ranges d := by
  cases e with
  | mk key slot =>
    cases slot with
    | userData d => exact absurd (h.symm.trans hk) (by decide)
    | ranges d => exact ⟨d, rfl⟩
    | text v => exact absurd (h.symm.trans hk) (by decide)

end Entry.IsSide

namespace Attributes

theorem WellFormed.alone_eq (hs : as.WellFormed) : as.alone = ofList as.toList := by
  refine congrArg (Attributes.mk · 0) (Eq.symm ?_)
  rw [toList, List.map_map]
  refine (List.map_congr_left fun e he => ?_).trans (List.map_id _)
  have htext : e.slot = .text e.slot.text? := hs.texts e he
  cases e with
  | mk key slot => exact congrArg (Entry.mk key) htext.symm

namespace Change

variable {c : Change}

theorem visible_run_eq (hc : c.OnShownKeys) : (c.run as).visible = (c.run as.alone).entries := by
  cases c with
  | add key value => exact visible_push (hc key rfl)
  | put key value | putAnyCase key value => exact visible_set (hc key rfl)
  | putAttribute a => exact visible_set (hc a.key rfl)
  | putBoolean key on =>
    cases on with
    | true => exact visible_set (hc key rfl)
    | false => exact visible_remove (hc key rfl)
  | remove m key => exact visible_remove (hc key rfl)
  | foldKeys => exact visible_foldKeys
  | deduplicate m => exact visible_deduplicate
  | removeVisible key =>
    cases hkey : isHiddenKey key with
    | true =>
      simp only [run, hkey, if_true]
      rfl
    | false => simpa [run, hkey] using visible_remove hkey
  | clear => exact visible_clear

theorem visible_run (hc : c.OnShownKeys) (h : as.alone = bs.alone) :
    (c.run as).visible = (c.run bs).visible := by
  rw [visible_run_eq hc, visible_run_eq hc, h]

theorem hidden_run (hc : c.OnShownKeys) (hs : as.WellFormed) : (c.run as).hidden = as.hidden := by
  cases c with
  | add key value => exact hidden_push (hc key rfl)
  | put key value | putAnyCase key value => exact hidden_set (hc key rfl)
  | putAttribute a => exact hidden_set (hc a.key rfl)
  | putBoolean key on =>
    cases on with
    | true => exact hidden_set (hc key rfl)
    | false => exact hidden_remove (hc key rfl)
  | remove m key => exact hidden_remove (hc key rfl)
  | foldKeys => exact hidden_foldKeys
  | deduplicate m =>
    refine hidden_deduplicate (hs.nodup.imp_of_mem fun hk hl hne => ?_)
    obtain ⟨d, hd, rfl⟩ := List.mem_map.mp hk
    obtain ⟨e, he, rfl⟩ := List.mem_map.mp hl
    exact holds_sideKeys (hs.side d hd).mem_sideKeys (hs.side e he).mem_sideKeys hne
  | removeVisible key =>
    cases hkey : isHiddenKey key with
    | true => simp [run, hkey]
    | false => simpa [run, hkey] using hidden_remove hkey
  | clear => exact hidden_clear

theorem answer_run (hs : as.WellFormed) : c.answer as = c.answer as.alone := by
  cases c with
  | deduplicate m =>
    have hc : (deduplicate m).OnShownKeys := nofun
    have hvisible : (as.deduplicate m).1.visible = (as.alone.deduplicate m).1.entries :=
      visible_run_eq hc
    have hhidden : (as.deduplicate m).1.hidden = as.hidden := hidden_run hc hs
    have hbefore := List.length_eq_length_filter_add (l := as.entries) Entry.isHidden
    have hafter := List.length_eq_length_filter_add (l := (as.deduplicate m).1.entries)
      Entry.isHidden
    refine congrArg some ?_
    show as.entries.length - (as.deduplicate m).1.entries.length =
      as.visible.length - (as.alone.deduplicate m).1.entries.length
    rw [← hvisible, hbefore, hafter]
    show as.hidden.length + as.visible.length -
      ((as.deduplicate m).1.hidden.length + (as.deduplicate m).1.visible.length) = _
    rw [hhidden]
    omega
  | _ => rfl

section Slots

variable {P : Slot → Prop} (hP : ∀ v, P (.text v)) (h : ∀ e ∈ as.entries, P e.slot)
include hP h

theorem slots_add {value : Option String} : ∀ e ∈ (as.add key value).entries, P e.slot := by
  intro e he
  rcases List.mem_append.mp he with he | he
  · exact h e he
  · rw [List.mem_singleton.mp he]
    exact hP value

theorem slots_set {m : Match} {value : Option String} :
    ∀ e ∈ (as.set m key value).entries, P e.slot := by
  rw [set]
  split
  · intro e he
    rcases mem_changeFirst he with he | ⟨_, _, _, rfl⟩
    · exact h e he
    · exact hP value
  · exact slots_add hP h

omit hP in
theorem slots_remove {m : Match} : ∀ e ∈ (as.remove m key).entries, P e.slot := by
  intro e he
  rw [Attributes.remove] at he
  split at he
  · exact h e (List.mem_of_mem_eraseP he)
  · exact h e he

theorem slots_run : ∀ e ∈ (c.run as).entries, P e.slot := by
  cases c with
  | put key value | putAnyCase key value => exact slots_set hP h
  | putAttribute a => exact slots_set hP h
  | remove m key => exact slots_remove h
  | putBoolean key on =>
    cases on with
    | true => exact slots_set hP h
    | false => exact slots_remove h
  | removeVisible key =>
    rw [run]
    split
    · exact h
    · exact slots_remove h
  | clear => exact fun e he => h e (List.mem_of_mem_filter he)
  | deduplicate m => exact fun e he => h e (firstOfEach_sublist.subset he)
  | add key value => exact slots_add hP h
  | foldKeys =>
    intro e he
    obtain ⟨d, hd, rfl⟩ := List.mem_map.mp he
    split
    · exact h d hd
    · exact h d hd

end Slots

theorem wellFormed_run (hc : c.OnShownKeys) (hs : as.WellFormed) : (c.run as).WellFormed := by
  have hhidden := hidden_run hc hs
  constructor
  · rw [visible_run_eq hc]
    exact slots_run (P := fun slot => slot = .text slot.text?) (fun _ => rfl) hs.texts
  · rw [hhidden]
    exact hs.side
  · rw [hhidden]
    exact hs.nodup

end Change

theorem WellFormed.upsert {f : Slot → Slot} {new : Slot} (hs : as.WellFormed)
    (hkey : key ∈ sideKeys)
    (hf : ∀ slot, Entry.IsSide ⟨key, slot⟩ → Entry.IsSide ⟨key, f slot⟩)
    (hnew : Entry.IsSide ⟨key, new⟩) : (as.upsert key f new).WellFormed := by
  have hhidden := isHiddenKey_of_mem_sideKeys hkey
  constructor
  · rw [visible_upsert hhidden]
    exact hs.texts
  · rw [hidden_upsert hhidden]
    intro e he
    rcases mem_upsert he with he | ⟨d, hd, rfl, rfl⟩ | rfl
    · exact hs.side e he
    · exact hf d.slot (hs.side d hd)
    · exact hnew
  · rw [hidden_upsert hhidden]
    exact nodup_upsert hs.nodup

namespace SideChange

variable {s : SideChange}

theorem run_cases (s : SideChange) (as : Attributes) : s.run as = as ∨
    ∃ key ∈ sideKeys, ∃ f new, s.run as = as.upsert key f new ∧
      (∀ slot, Entry.IsSide ⟨key, slot⟩ → Entry.IsSide ⟨key, f slot⟩) ∧
      Entry.IsSide ⟨key, new⟩ := by
  cases s with
  | userData key value =>
    rw [run, setUserData_eq]
    split
    · exact .inl rfl
    · refine .inr ⟨userDataKey, by decide, _, _, rfl, fun slot h => ?_, rfl⟩
      cases slot <;> exact h
  | sourceRange key range =>
    refine .inr ⟨rangesKey, by decide, _, _, setSourceRange_eq as key range, fun slot h => ?_, rfl⟩
    cases slot <;> exact h
  | base uri =>
    exact .inr ⟨baseUriKey, by decide, _, _, put_eq as baseUriKey (some uri), fun _ _ => rfl, rfl⟩

theorem visible_run : (s.run as).visible = as.visible := by
  rcases run_cases s as with h | ⟨key, hkey, f, new, h, _⟩
  · rw [h]
  · rw [h, visible_upsert (isHiddenKey_of_mem_sideKeys hkey)]

theorem wellFormed_run (hs : as.WellFormed) : (s.run as).WellFormed := by
  rcases run_cases s as with h | ⟨key, hkey, f, new, h, hf, hnew⟩
  · rwa [h]
  · rw [h]
    exact hs.upsert hkey hf hnew

end SideChange

def userMap (as : Attributes) : Dict Datum :=
  match as.find? .exact userDataKey with
  | some ⟨_, .userData d⟩ => d
  | _ => .empty

def rangeMap (as : Attributes) : Dict AttributeRange :=
  match as.find? .exact rangesKey with
  | some ⟨_, .ranges d⟩ => d
  | _ => .empty

theorem userData?_eq : as.userData? key = as.userMap.get? key := by
  rw [userData?, userMap]
  split <;> simp_all

theorem range?_eq : as.range? key = as.rangeMap.get? key := by
  rw [range?, rangeMap]
  split <;> simp_all

theorem base?_eq : as.base? = (as.find? .exact baseUriKey).map (·.slot.shown) := by
  rw [base?, has, get]
  cases as.find? .exact baseUriKey <;> rfl

theorem sides_eq : as.sides = ⟨as.userMap.get?, as.rangeMap.get?, as.base?⟩ := by
  rw [sides]
  congr 1
  · exact funext fun _ => userData?_eq
  · exact funext fun _ => range?_eq

theorem userMap_congr (h : as.find? .exact userDataKey = bs.find? .exact userDataKey) :
    as.userMap = bs.userMap := by
  rw [userMap, userMap, h]

theorem rangeMap_congr (h : as.find? .exact rangesKey = bs.find? .exact rangesKey) :
    as.rangeMap = bs.rangeMap := by
  rw [rangeMap, rangeMap, h]

theorem base?_congr (h : as.find? .exact baseUriKey = bs.find? .exact baseUriKey) :
    as.base? = bs.base? := by
  rw [base?_eq, base?_eq, h]

theorem find?_hidden (hkey : isHiddenKey key = true) :
    as.hidden.find? (·.key == key) = as.find? .exact key :=
  find?_filter_of_pos fun _ he => (congrArg isHiddenKey (eq_of_beq he)).trans hkey

theorem sides_of_hidden (h : as.hidden = bs.hidden) : as.sides = bs.sides := by
  have hfind : ∀ key ∈ sideKeys, as.find? .exact key = bs.find? .exact key := by
    intro key hkey
    rw [← find?_hidden (isHiddenKey_of_mem_sideKeys hkey), h,
      find?_hidden (isHiddenKey_of_mem_sideKeys hkey)]
  rw [sides_eq, sides_eq, userMap_congr (hfind _ (by decide)),
    rangeMap_congr (hfind _ (by decide)), base?_congr (hfind _ (by decide))]

theorem WellFormed.find?_side (hs : as.WellFormed) (hkey : isHiddenKey key = true)
    (h : as.find? .exact key = some e) : e.key = key ∧ e.IsSide := by
  rw [← find?_hidden hkey] at h
  have hfound : (e.key == key) = true := List.find?_some (p := fun e : Entry => e.key == key) h
  exact ⟨eq_of_beq hfound, hs.side e (List.mem_of_find?_eq_some h)⟩

theorem get?_written {value : Option Datum} {d : Dict Datum} :
    (written key value d).get? = Function.update d.get? key value := by
  funext k
  cases value with
  | none => simp [written, Dict.get?_erase, Function.update_apply, eq_comm]
  | some v => simp [written, Dict.get?_insert, Function.update_apply, eq_comm]

theorem WellFormed.userMap_setUserData {value : Option Datum} (hs : as.WellFormed) :
    (as.setUserData key value).userMap = written key value as.userMap := by
  cases hfind : as.find? .exact userDataKey with
  | none =>
    have hempty : as.userMap = .empty := by rw [userMap, hfind]
    rw [hempty, setUserData_eq]
    split
    · next h =>
      rw [hempty, h.2]
      rfl
    · rw [userMap, find?_upsert_self, hfind]
      rfl
  | some e =>
    obtain ⟨hkey, hside⟩ := hs.find?_side rfl hfind
    obtain ⟨d, hd⟩ := hside.userData hkey
    have hhas : as.hasUserData = true := congrArg Option.isSome hfind
    rw [setUserData_eq, if_neg (by simp [hhas]), userMap, userMap, find?_upsert_self, hfind]
    cases e
    cases hd
    rfl

theorem WellFormed.rangeMap_setSourceRange {range : AttributeRange} (hs : as.WellFormed) :
    (as.setSourceRange key range).rangeMap = as.rangeMap.insert key range := by
  rw [setSourceRange_eq, rangeMap, rangeMap, find?_upsert_self]
  cases hfind : as.find? .exact rangesKey with
  | none => rfl
  | some e =>
    obtain ⟨hkey, hside⟩ := hs.find?_side rfl hfind
    obtain ⟨d, hd⟩ := hside.ranges hkey
    cases e
    cases hd
    rfl

theorem base?_put_baseUriKey {uri : String} :
    (as.put baseUriKey (some uri)).base? = some uri := by
  rw [base?_eq, put_eq, find?_upsert_self]
  cases as.find? .exact baseUriKey <;> rfl

theorem SideChange.sides_run (hs : as.WellFormed) (s : SideChange) :
    (s.run as).sides = s.act as.sides := by
  rw [sides_eq, sides_eq]
  cases s with
  | userData key value =>
    have hrange : (as.setUserData key value).rangeMap = as.rangeMap :=
      rangeMap_congr (find?_setUserData (by decide))
    have hbase : (as.setUserData key value).base? = as.base? :=
      base?_congr (find?_setUserData (by decide))
    rw [run, act, hs.userMap_setUserData, hrange, hbase, get?_written]
  | sourceRange key range =>
    have huser : (as.setSourceRange key range).userMap = as.userMap :=
      userMap_congr (setSourceRange_eq as key range ▸ find?_upsert_other (by decide))
    have hbase : (as.setSourceRange key range).base? = as.base? :=
      base?_congr (setSourceRange_eq as key range ▸ find?_upsert_other (by decide))
    rw [run, act, hs.rangeMap_setSourceRange, huser, hbase]
    congr 1
    funext k
    simp [Dict.get?_insert, Function.update_apply, eq_comm]
  | base uri =>
    have huser : (as.put baseUriKey (some uri)).userMap = as.userMap :=
      userMap_congr (put_eq as baseUriKey (some uri) ▸ find?_upsert_other (by decide))
    have hrange : (as.put baseUriKey (some uri)).rangeMap = as.rangeMap :=
      rangeMap_congr (put_eq as baseUriKey (some uri) ▸ find?_upsert_other (by decide))
    rw [run, act, base?_put_baseUriKey, huser, hrange]

theorem WellFormed.apart (hs : as.WellFormed) {s : Step} (hshown : s.OnShownKeys) :
    s.ActsOnOnePart as := by
  cases s with
  | seen c =>
    have halone := hs.alone_eq
    have hsame : as.alone = (ofList as.toList).alone := by rw [← halone, alone_alone]
    have hhidden := c.hidden_run hshown hs
    exact ⟨congrArg (List.map Entry.toAttribute) (c.visible_run hshown hsame),
      halone ▸ c.answer_run hs, hhidden, sides_of_hidden hhidden⟩
  | side s => exact ⟨congrArg (List.map Entry.toAttribute) s.visible_run, s.sides_run hs⟩

theorem WellFormed.step (hs : as.WellFormed) {s : Step} (hshown : s.OnShownKeys) :
    (s.run as).WellFormed := by
  cases s with
  | seen c => exact c.wellFormed_run hshown hs
  | side s => exact s.wellFormed_run hs

theorem wellFormed_runAll {steps : List Step} (hs : as.WellFormed)
    (h : ∀ s ∈ steps, s.OnShownKeys) :
    (Step.runAll steps as).WellFormed := by
  induction steps generalizing as with
  | nil => exact hs
  | cons s steps ih =>
    exact ih (hs.step (h s List.mem_cons_self)) fun t ht => h t (List.mem_cons_of_mem s ht)

theorem runAll_actsOnOnePart {steps : List Step} (hs : as.WellFormed) (hv : as.alone = bs.alone)
    (h : ∀ s ∈ steps, s.OnShownKeys) :
    (Step.runAll steps as).alone = (Change.runAll (steps.filterMap Step.change?) bs).alone ∧
      (Step.runAll steps as).sides =
        SideChange.actAll (steps.filterMap Step.sideChange?) as.sides := by
  induction steps generalizing as bs with
  | nil => exact ⟨hv, rfl⟩
  | cons s steps ih =>
    have hshown := h s List.mem_cons_self
    have hrest : ∀ t ∈ steps, t.OnShownKeys := fun t ht => h t (List.mem_cons_of_mem s ht)
    have hparts := hs.apart hshown
    cases s with
    | seen c =>
      have hvisible : (c.run as).alone = (c.run bs).alone :=
        congrArg (Attributes.mk · 0) (c.visible_run hshown hv)
      obtain ⟨hseen, hside⟩ := ih (hs.step hshown) hvisible hrest
      exact ⟨hseen, hside.trans (congrArg _ hparts.2.2.2)⟩
    | side s =>
      have hvisible : (s.run as).alone = bs.alone := by rw [alone, s.visible_run, ← hv, alone]
      obtain ⟨hseen, hside⟩ := ih (hs.step hshown) hvisible hrest
      exact ⟨hseen, hside.trans (congrArg _ hparts.2)⟩

theorem toList_ofList : (ofList as.toList).toList = as.toList := by
  rw [toList, visible, ofList, List.filter_map, List.filter_eq_self.mpr, List.map_map]
  · exact List.map_id _
  · intro a ha
    simp [Entry.isHidden, shown_of_mem_toList ha]

theorem size_eq : as.size = as.toList.length := (List.length_map _).symm

theorem observations_congr (h : as.toList = bs.toList) : as.observations = bs.observations := by
  simp only [observations, isEmpty, size_eq, dataset, markup, h]

end Attributes

namespace Attributes.Step

variable {f : Forest} {id : NodeId}

theorem opened_ok (h : (f.childList? id).isSome) (u : Attributes → Attributes) :
    ∃ g, (do
        let as ← openAttributes id
        modify (·.changeAttributes id fun _ => u as) : Edit Unit) f = .ok () g ∧
      (g.childList? id).isSome ∧ g.store id = u (f.store id) := by
  have hopen : ((f.changeAttributes id fun as => as).childList? id).isSome := by simpa using h
  refine ⟨(f.changeAttributes id fun as => as).changeAttributes id fun _ => u (f.store id), ?_, ?_,
    store_changeAttributes hopen⟩
  · rw [bind_ok (openAttributes_ok h), modify_eq]
  · simpa using h

theorem edit_ok (h : (f.childList? id).isSome) (s : Step) :
    ∃ g, s.edit id f = .ok () g ∧ (g.childList? id).isSome ∧
      g.store id = s.run (f.store id) := by
  cases s with
  | side s =>
    cases s with
    | base uri => exact ⟨_, setBaseUri_ok h, by simpa using h, store_changeAttributes h⟩
    | userData key value =>
      rcases setUserData_ok h key value with he | ⟨he, rfl, hnone⟩
      · exact ⟨_, he, by simpa using h, store_changeAttributes h⟩
      · exact ⟨f, he, h, by
          rw [store, hnone]
          rfl⟩
    | sourceRange key range => exact opened_ok h _
  | seen c =>
    cases c with
    | removeVisible key =>
      cases hkey : isHiddenKey key with
      | true =>
        refine ⟨f, ?_, h, ?_⟩
        · rw [edit, removeAttribute, if_pos hkey]
          rfl
        · simp [run, Change.run, hkey]
      | false =>
        refine ⟨_, removeAttribute_ok h hkey, by simpa using h, ?_⟩
        rw [store_changeExisting rfl]
        simp [run, Change.run, hkey]
    | clear => exact ⟨_, clearAttributes_ok h, by simpa using h, store_changeExisting rfl⟩
    | add _ _ | put _ _ | putAnyCase _ _ | putBoolean _ _ | putAttribute _ | remove _ _
    | foldKeys | deduplicate _ => exact opened_ok h _

theorem edits_ok (h : (f.childList? id).isSome) (steps : List Step) :
    ∃ g, steps.forM (Step.edit id) f = .ok () g ∧ g.store id = runAll steps (f.store id) := by
  induction steps generalizing f with
  | nil => exact ⟨f, rfl, rfl⟩
  | cons s steps ih =>
    obtain ⟨g, hg, hopen, hstore⟩ := edit_ok h s
    obtain ⟨k, hk, hall⟩ := ih hopen
    refine ⟨k, ?_, ?_⟩
    · rw [forM_cons, bind_ok hg, hk]
    · rw [hall, hstore]
      rfl

end Attributes.Step

theorem store_is_two_parts (steps : List Attributes.Step) (h : ∀ s ∈ steps, s.OnShownKeys) :
    (Attributes.Step.runAll steps .empty).toList =
        (Attributes.Change.runAll (steps.filterMap Attributes.Step.change?) .empty).toList ∧
      (Attributes.Step.runAll steps .empty).sides =
        Attributes.SideChange.actAll (steps.filterMap Attributes.Step.sideChange?) .none ∧
      (∀ s : Attributes.Step, s.OnShownKeys →
        s.ActsOnOnePart (Attributes.Step.runAll steps .empty)) ∧
      (Attributes.Step.runAll steps .empty).observations =
        (Attributes.ofList (Attributes.Step.runAll steps .empty).toList).observations ∧
      ∀ (f : Forest) (id : NodeId), (f.childList? id).isSome → f.store id = .empty →
        ∃ g, steps.forM (Attributes.Step.edit id) f = .ok () g ∧
          g.store id = Attributes.Step.runAll steps .empty := by
  have hwf := Attributes.wellFormed_runAll Attributes.wellFormed_empty h
  obtain ⟨hseen, hside⟩ := Attributes.runAll_actsOnOnePart Attributes.wellFormed_empty rfl h
  refine ⟨?_, hside, fun s hs => hwf.apart hs,
    Attributes.observations_congr Attributes.toList_ofList.symm, fun f id hopen hstore => ?_⟩
  · have hvisible : (Attributes.Step.runAll steps .empty).visible =
        (Attributes.Change.runAll (steps.filterMap Attributes.Step.change?) .empty).visible :=
      congrArg Attributes.entries hseen
    rw [Attributes.toList, Attributes.toList, hvisible]
  · obtain ⟨g, hg, hrun⟩ := Attributes.Step.edits_ok hopen steps
    exact ⟨g, hg, hrun.trans (by rw [hstore])⟩

def mixedSteps : List Attributes.Step :=
  [.side (.userData "k" (some (.int 1))), .seen (.add "a" (some "1")),
    .side (.sourceRange "a" .untracked), .seen (.add "A" none), .side (.base "u"),
    .seen (.put "b" (some "2")), .seen .foldKeys, .side (.userData "k" (some (.int 2))),
    .seen (.deduplicate .exact)]

theorem store_is_two_parts_mixedSteps : (∀ s ∈ mixedSteps, s.OnShownKeys) ∧
    (Attributes.Step.runAll mixedSteps .empty).toList = [⟨"a", some "1"⟩, ⟨"b", some "2"⟩] ∧
      (Attributes.Step.runAll mixedSteps .empty).sides.userData "k" = some (.int 2) := by
  have hshown : ∀ s ∈ mixedSteps, s.OnShownKeys := by decide
  obtain ⟨hseen, hside, _⟩ := store_is_two_parts mixedSteps hshown
  refine ⟨hshown, hseen.trans (by decide), ?_⟩
  rw [hside]
  decide

end MarkupForest
