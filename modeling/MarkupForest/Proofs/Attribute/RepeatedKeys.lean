import MarkupForest.Proofs.Edit.Failure
import MarkupForest.Proofs.Attribute.Merge
import MarkupForest.Proofs.Growth.AttributeKeys

namespace MarkupForest

open Edit Forest Text

variable {config : ReaderConfig} {m : Manner} {f g : Forest} {id x : NodeId} {p : CasePolicy}
  {as : List TokenAttribute} {s : Attributes} {key k : String} {value : Option String}

namespace Attributes

theorem shownKeys_putAnyCase (hkey : isHiddenKey key = false) :
    (s.putAnyCase key value).shownKeys = putFirst (sameLetters · key) key s.shownKeys := by
  rw [shownKeys, putAnyCase, toList_set hkey]
  exact map_putFirst fun _ => rfl

theorem shownKeys_sublist {t : Attributes} (h : t.entries.Sublist s.entries) :
    t.shownKeys.Sublist s.shownKeys :=
  ((h.filter _).map _).map _

theorem shownKeys_remove_sublist {m : Match} : (s.remove m key).shownKeys.Sublist s.shownKeys := by
  rw [remove]
  split
  · exact shownKeys_sublist List.eraseP_sublist
  · exact List.Sublist.refl _

structure Unrepeated (s : Attributes) : Prop where
  keys : s.shownKeys.Nodup
  written : ∀ dialect : Dialect,
    (s.shownKeys.filter fun key => Attribute.writtenKey? dialect key = some key).Nodup

theorem unrepeated_iff : s.Unrepeated ↔ s.shownKeys.Nodup :=
  ⟨fun h => h.keys, fun h => ⟨h, fun _ => h.filter _⟩⟩

/-- The key is there, but another that matches it in any case stands before it. -/
def Shadowed (s : Attributes) (key : String) : Prop :=
  key ∈ s.shownKeys ∧ s.shownKeys.find? (sameLetters · key) ≠ some key

theorem unrepeated_putAnyCase_iff (hs : s.Unrepeated) (hkey : isHiddenKey key = false) :
    (s.putAnyCase key value).Unrepeated ↔ ¬ s.Shadowed key := by
  have hself : sameLetters key key = true := sameLetters_refl key
  rw [unrepeated_iff, shownKeys_putAnyCase hkey,
    nodup_putFirst_iff (p := (sameLetters · key)) hself hs.keys, Shadowed, not_and_not_right]

def Unmatched (s : Attributes) : Prop := s.shownKeys.Pairwise fun k l => sameLetters k l = false

theorem Unmatched.unrepeated (hs : s.Unmatched) : s.Unrepeated := by
  refine unrepeated_iff.mpr (hs.imp fun h hsame => ?_)
  rw [hsame, sameLetters_refl] at h
  cases h

theorem unmatched_putFirst {l : List String} (h : l.Pairwise fun j k => sameLetters j k = false) :
    (putFirst (sameLetters · key) key l).Pairwise fun j k => sameLetters j k = false := by
  induction l with
  | nil => exact List.pairwise_singleton _ _
  | cons j l ih =>
    obtain ⟨hj, hl⟩ := List.pairwise_cons.mp h
    rw [putFirst]
    cases hfits : sameLetters j key with
    | true =>
      rw [if_pos rfl]
      refine List.pairwise_cons.mpr ⟨fun k hk => ?_, hl⟩
      -- what matches the new key would match the one that it takes the place of
      rw [Bool.eq_false_iff]
      intro hmatch
      exact Bool.false_ne_true ((hj k hk).symm.trans (sameLetters_trans hfits hmatch))
    | false =>
      rw [if_neg Bool.false_ne_true]
      refine List.pairwise_cons.mpr ⟨fun k hk => ?_, ih hl⟩
      rcases mem_putFirst hk with rfl | hk
      · exact hfits
      · exact hj k hk

end Attributes

inductive AttributeEdit where
  | set (key value : String)
  | setBoolean (key : String) (on : Bool)
  | remove (key : String)
  | clear

def CasePolicy.accepted? (p : CasePolicy) (key : String) : Option String :=
  if p.attributeName key = "" ∨ isHiddenKey (p.attributeName key) = true then none
  else some (p.attributeName key)

theorem CasePolicy.isHiddenKey_accepted? (h : p.accepted? key = some k) :
    isHiddenKey k = false := by
  rw [accepted?] at h
  split at h
  · cases h
  · next hfits =>
    cases h
    exact Bool.eq_false_iff.mpr (not_or.mp hfits).2

namespace AttributeEdit

open Attributes

def edit (id : NodeId) : AttributeEdit → Edit Unit
  | set key value => setAttribute id key value
  | setBoolean key on => setBooleanAttribute id key on
  | remove key => removeAttribute id key
  | clear => clearAttributes id

def act (p : CasePolicy) : AttributeEdit → Attributes → Attributes
  | set key value, s => (p.accepted? key).elim s fun k => s.putAnyCase k (some value)
  | setBoolean key on, s => (p.accepted? key).elim s fun k => s.putBoolean k on
  | remove key, s => if isHiddenKey key then s else s.remove .anyCase key
  | clear, s => s.clear

def written? (p : CasePolicy) : AttributeEdit → Option String
  | set key _ | setBoolean key true => p.accepted? key
  | setBoolean _ false | remove _ | clear => none

variable {e : AttributeEdit}

theorem act_cases (p : CasePolicy) (e : AttributeEdit) (s : Attributes) :
    (∃ k value, e.written? p = some k ∧ isHiddenKey k = false ∧
      e.act p s = s.putAnyCase k value) ∨
      e.written? p = none ∧ (e.act p s).shownKeys.Sublist s.shownKeys := by
  cases e with
  | set key value =>
    rw [written?, act]
    cases hkey : p.accepted? key with
    | some k => exact .inl ⟨k, some value, rfl, p.isHiddenKey_accepted? hkey, rfl⟩
    | none => exact .inr ⟨rfl, List.Sublist.refl _⟩
  | setBoolean key on =>
    cases on with
    | true =>
      rw [written?, act]
      cases hkey : p.accepted? key with
      | some k => exact .inl ⟨k, none, rfl, p.isHiddenKey_accepted? hkey, rfl⟩
      | none => exact .inr ⟨rfl, List.Sublist.refl _⟩
    | false =>
      refine .inr ⟨rfl, ?_⟩
      rw [act]
      cases p.accepted? key with
      | some k => exact shownKeys_remove_sublist
      | none => exact List.Sublist.refl _
  | remove key =>
    refine .inr ⟨rfl, ?_⟩
    rw [act]
    split
    · exact List.Sublist.refl _
    · exact shownKeys_remove_sublist
  | clear => exact .inr ⟨rfl, shownKeys_sublist List.filter_sublist⟩

theorem unrepeated_act_iff (hs : s.Unrepeated) :
    (e.act p s).Unrepeated ↔ ∀ k ∈ e.written? p, ¬ s.Shadowed k := by
  obtain ⟨k, value, hwritten, hkey, hact⟩ | ⟨hwritten, hrest⟩ := act_cases p e s
  · rw [hact, unrepeated_putAnyCase_iff hs hkey, hwritten]
    exact ⟨fun h j hj => Option.some.inj hj ▸ h, fun h => h k rfl⟩
  · rw [hwritten]
    exact iff_of_true (unrepeated_iff.mpr (hs.keys.sublist hrest)) nofun

theorem unmatched_act (hs : s.Unmatched) : (e.act p s).Unmatched := by
  obtain ⟨k, value, -, hkey, hact⟩ | ⟨-, hrest⟩ := act_cases p e s
  · rw [hact, Unmatched, shownKeys_putAnyCase hkey]
    exact unmatched_putFirst hs
  · exact List.Pairwise.sublist hrest hs

def actAll (p : CasePolicy) (edits : List AttributeEdit) (s : Attributes) : Attributes :=
  edits.foldl (fun s e => e.act p s) s

theorem unrepeated_actAll_iff {edits : List AttributeEdit} (hs : s.Unrepeated) :
    (∀ done, done <+: edits → (actAll p done s).Unrepeated) ↔
      ∀ done e, done ++ [e] <+: edits → ∀ k ∈ e.written? p, ¬ (actAll p done s).Shadowed k := by
  induction edits generalizing s with
  | nil =>
    refine iff_of_true (fun done hdone => ?_) fun done e hdone => ?_
    · rw [List.prefix_nil.mp hdone]
      exact hs
    · exact absurd (List.prefix_nil.mp hdone) (List.append_ne_nil_of_right_ne_nil _ nofun)
  | cons first edits ih =>
    constructor
    · intro h done e hdone
      have hnext : (first.act p s).Unrepeated :=
        h [first] ((List.prefix_cons_inj first).mpr List.nil_prefix)
      cases done with
      | nil =>
        obtain ⟨rfl, -⟩ := List.cons_prefix_cons.mp hdone
        exact (unrepeated_act_iff hs).mp hnext
      | cons d done =>
        obtain ⟨rfl, hrest⟩ := List.cons_prefix_cons.mp hdone
        exact (ih hnext).mp (fun l hl => h (d :: l) ((List.prefix_cons_inj d).mpr hl)) done e hrest
    · intro h done hdone
      have hnext : (first.act p s).Unrepeated := (unrepeated_act_iff hs).mpr
        (h [] first ((List.prefix_cons_inj first).mpr List.nil_prefix))
      cases done with
      | nil => exact hs
      | cons d done =>
        obtain ⟨rfl, hrest⟩ := List.cons_prefix_cons.mp hdone
        exact (ih hnext).mpr
          (fun l e hl => h (d :: l) e ((List.prefix_cons_inj d).mpr hl)) done hrest

theorem unmatched_actAll (hs : s.Unmatched) (edits : List AttributeEdit) :
    (actAll p edits s).Unmatched := by
  induction edits generalizing s with
  | nil => exact hs
  | cons e edits ih => exact ih (unmatched_act hs)

end AttributeEdit

theorem rules_mapAttributes (f : Forest) (id x : NodeId)
    (u : Option Attributes → Option Attributes) :
    (f.modify id (Node.mapAttributes u)).rules x = f.rules x := by
  have hbody : ∀ y, ((f.modify id (Node.mapAttributes u)).get? y = f.get? y) ∨
      ∃ n, f.get? y = some n ∧
        (f.modify id (Node.mapAttributes u)).get? y = some (n.mapAttributes u) := by
    intro y
    rw [get?_modify]
    split
    · cases f.get? y with
      | none => exact .inl rfl
      | some n => exact .inr ⟨n, rfl, rfl⟩
    · exact .inl rfl
  have hdoc : (f.modify id (Node.mapAttributes u)).isDocument = f.isDocument := by
    funext y
    rw [isDocument, isDocument]
    obtain hsame | ⟨n, hn, hchanged⟩ := hbody y
    · rw [hsame]
    · rw [hn, hchanged]
      exact congrArg (· == Kind.document) (Body.kind_mapContainer ..)
  have howner : (f.modify id (Node.mapAttributes u)).ownerDocument? x = f.ownerDocument? x := by
    have hlineage : (f.modify id (Node.mapAttributes u)).lineage x = f.lineage x := by
      rw [lineage, lineage, size_modify]
      exact climb_congr fun y _ => sameLinks_mapAttributes.parent y
    rw [ownerDocument?, ownerDocument?, hlineage, hdoc]
  rw [rules, rules, howner]
  cases f.ownerDocument? x with
  | none => rfl
  | some d =>
    rw [Option.bind_some, Option.bind_some]
    obtain hsame | ⟨⟨body, _, _, _⟩, hn, hchanged⟩ := hbody d
    · rw [hsame]
    · rw [hn, hchanged]
      cases body <;> rfl

theorem toOption_writingKey : (f.writingKey id key).toOption = (f.casePolicy id).accepted? key := by
  rw [writingKey_eq, CasePolicy.accepted?]
  by_cases hempty : (f.casePolicy id).attributeName key = ""
  · rw [if_pos hempty, if_pos (.inl hempty)]
    rfl
  · rw [if_neg hempty]
    by_cases hhidden : isHiddenKey ((f.casePolicy id).attributeName key) = true
    · rw [if_pos hhidden, if_pos (.inr hhidden)]
      rfl
    · rw [if_neg hhidden, if_neg (not_or.mpr ⟨hempty, hhidden⟩)]
      rfl

namespace AttributeEdit

theorem after_writing (h : (f.childList? id).isSome) (u : String → Attributes → Attributes) :
    (do
        let key ← ask (·.writingKey id key)
        requireContainer id
        modify (·.changeAttributes id (u key)) : Edit Unit).after f =
      ((f.casePolicy id).accepted? key).elim f fun k => f.changeAttributes id (u k) := by
  rw [← toOption_writingKey]
  cases hkey : f.writingKey id key with
  | error e => exact after_error (bind_error (ask_error hkey))
  | ok k =>
    refine after_ok (a := ()) ?_
    rw [bind_ok (ask_ok hkey), bind_ok (requireContainer_ok h), modify_eq]
    rfl

theorem after_edit (h : (f.childList? id).isSome) (e : AttributeEdit) :
    (((e.edit id).after f).childList? id).isSome ∧
      ((e.edit id).after f).casePolicy id = f.casePolicy id ∧
      ((e.edit id).after f).store id = e.act (f.casePolicy id) (f.store id) := by
  have hwriting : ∀ (key : String) (u : String → Attributes → Attributes) (g : Forest),
      g = ((f.casePolicy id).accepted? key).elim f (fun k => f.changeAttributes id (u k)) →
      (g.childList? id).isSome ∧ g.casePolicy id = f.casePolicy id ∧
        g.store id = ((f.casePolicy id).accepted? key).elim (f.store id) fun k =>
          u k (f.store id) := by
    rintro key u g rfl
    cases (f.casePolicy id).accepted? key with
    | none => exact ⟨h, rfl, rfl⟩
    | some k =>
      refine ⟨?_, congrArg Prod.fst (rules_mapAttributes f id id _), store_changeAttributes h⟩
      rwa [Option.elim_some, childList?_changeAttributes]
  have hexisting : ∀ (u : Attributes → Attributes) (g : Forest), u .empty = .empty →
      g = f.changeExisting id u → (g.childList? id).isSome ∧ g.casePolicy id = f.casePolicy id ∧
        g.store id = u (f.store id) := by
    rintro u g hu rfl
    refine ⟨?_, congrArg Prod.fst (rules_mapAttributes f id id _), store_changeExisting hu⟩
    rwa [childList?_changeExisting]
  cases e with
  | set key value => exact hwriting key _ _ (after_writing h fun k => (·.putAnyCase k (some value)))
  | setBoolean key on => exact hwriting key _ _ (after_writing h fun k => (·.putBoolean k on))
  | remove key =>
    cases hkey : isHiddenKey key with
    | true =>
      have hnone : (removeAttribute id key).after f = f := by
        rw [removeAttribute, if_pos hkey]
        rfl
      rw [edit, hnone, act, if_pos hkey]
      exact ⟨h, rfl, rfl⟩
    | false =>
      rw [edit, act, if_neg (by simp [hkey])]
      exact hexisting (·.remove .anyCase key) _ rfl (after_ok (removeAttribute_ok h hkey))
  | clear => exact hexisting _ _ rfl (after_ok (clearAttributes_ok h))

def editAll (id : NodeId) (edits : List AttributeEdit) (f : Forest) : Forest :=
  edits.foldl (fun f e => (e.edit id).after f) f

theorem store_editAll (h : (f.childList? id).isSome) (edits : List AttributeEdit) :
    (editAll id edits f).store id = actAll (f.casePolicy id) edits (f.store id) := by
  induction edits generalizing f with
  | nil => rfl
  | cons e edits ih =>
    obtain ⟨hopen, hrules, hstore⟩ := after_edit h e
    exact (ih hopen).trans (by rw [hrules, hstore]; rfl)

end AttributeEdit

section Slashless

variable (has : ∀ a ∈ as, '/' ∉ a.name.toList)
include has

theorem Growth.unrepeated_attributesOf : (attributesOf m as).Unrepeated := by
  rw [Attributes.unrepeated_iff, Attributes.shownKeys, Attributes.toList, visible_attributesOf has,
    List.map_map, List.map_map]
  refine List.pairwise_map.mpr ((pairwise_firsts m.cases.sameKey as).imp fun h hsame => ?_)
  exact ne_of_beq_false h hsame

theorem Growth.unmatched_attributesOf (hfolds : m.cases.keepsAttributes = false) :
    (attributesOf m as).Unmatched := by
  rw [Attributes.Unmatched, Attributes.shownKeys, Attributes.toList, visible_attributesOf has,
    List.map_map, List.map_map]
  refine List.pairwise_map.mpr ((pairwise_firsts m.cases.sameKey as).imp fun {a b} h => ?_)
  have hmatch := m.cases.holds_attributeName a.name b.name
  rw [CasePolicy.keyMatch, hfolds, if_neg Bool.false_ne_true] at hmatch
  exact hmatch.trans h

end Slashless

open AttributeEdit

theorem keys_repeat_iff_shadowed (h : Reachable f) (config : ReaderConfig)
    (markup baseUri : String) :
    ∃ g ids, readDocument config markup baseUri f = .ok f.size g ∧ g.descendants f.size = .ok ids ∧
      ∀ x ∈ ids, g.isElement x = true → ∀ edits : List AttributeEdit,
        ((∀ done, done <+: edits → ((editAll x done g).store x).Unrepeated) ↔
          ∀ done e, done ++ [e] <+: edits → ∀ key ∈ e.written? config.cases,
            ¬ ((editAll x done g).store x).Shadowed key) ∧
        (config.cases.keepsAttributes = false ∨ (g.store x).Unmatched →
          ((editAll x edits g).store x).Unmatched ∧ ((editAll x edits g).store x).Unrepeated) := by
  obtain ⟨g, ids, hread, hids, hall⟩ := elements_of_document h config markup baseUri
  refine ⟨g, ids, hread, hids, fun x hx he edits => ?_⟩
  obtain ⟨hcases, -, n, as, alone, span, -, -, -, hmem, hstore⟩ := hall x hx he
  have has : ∀ a ∈ as, '/' ∉ a.name.toList := Token.slash_not_mem_name hmem
  have hrun : ∀ done, (editAll x done g).store x = actAll config.cases done (g.store x) := by
    intro done
    rw [store_editAll (isSome_childList?_of_isElement he), hcases]
  simp only [hrun]
  constructor
  · refine unrepeated_actAll_iff ?_
    rw [hstore]
    exact Growth.unrepeated_attributesOf has
  · intro hclear
    have hunmatched : (g.store x).Unmatched := by
      rcases hclear with hfolds | hunmatched
      · rw [hstore]
        exact Growth.unmatched_attributesOf has hfolds
      · exact hunmatched
    have hafter := unmatched_actAll (p := config.cases) hunmatched edits
    exact ⟨hafter, hafter.unrepeated⟩

theorem keys_repeat_iff_shadowed_twoLists : Reachable twoLists ∧ ∃ g ids,
    readDocument .xml "<a href=1 HREF=2></a>" "" twoLists = .ok 6 g ∧ g.descendants 6 = .ok ids ∧
      (∀ x ∈ ids, g.isElement x = true → ∀ edits : List AttributeEdit,
        ((∀ done, done <+: edits → ((editAll x done g).store x).Unrepeated) ↔
          ∀ done e, done ++ [e] <+: edits → ∀ key ∈ e.written? .exact,
            ¬ ((editAll x done g).store x).Shadowed key) ∧
        (CasePolicy.exact.keepsAttributes = false ∨ (g.store x).Unmatched →
          ((editAll x edits g).store x).Unmatched ∧
            ((editAll x edits g).store x).Unrepeated)) ∧
      7 ∈ ids ∧ g.isElement 7 = true ∧ (g.store 7).shownKeys = ["href", "HREF"] ∧
      (g.store 7).Shadowed "HREF" ∧
      ((editAll 7 [.set "HREF" "3"] g).store 7).toList =
        [⟨"HREF", some "3"⟩, ⟨"HREF", some "2"⟩] := by
  have h : Reachable twoLists := reaches_runAll _
  obtain ⟨g, ids, hread, hids, hall⟩ :=
    keys_repeat_iff_shadowed h .xml "<a href=1 HREF=2></a>" ""
  refine ⟨h, g, ids, hread, hids, hall, ?_⟩
  cases hread
  have he : (twoLists.plant .xml "<a href=1 HREF=2></a>" "").descendants 6 = .ok [6, 7] := by
    decide +kernel
  cases he.symm.trans hids
  unfold Attributes.Shadowed
  decide +kernel

end MarkupForest
