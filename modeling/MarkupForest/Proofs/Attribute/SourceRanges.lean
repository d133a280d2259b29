import MarkupForest.Proofs.Attribute.Merge
import MarkupForest.Proofs.Attribute.ConcurrentChange

namespace MarkupForest

open Attributes

variable {as bs : Attributes} {key k : String} {l n : Nat}

namespace Attributes

theorem find?_remove_other (h : key ≠ k) :
    (as.remove .exact key).find? .exact k = as.find? .exact k := by
  rw [remove]
  split
  · refine find?_eraseP_other fun e he => beq_false_of_ne ?_
    rw [eq_of_beq he]
    exact h
  · rfl

theorem has_put (as : Attributes) (key : String) (value : Option String) :
    (as.put key value).has .exact key = true := by
  rw [put_eq, has, find?_upsert_self]
  rfl

theorem range?_congr (h : as.find? .exact rangesKey = bs.find? .exact rangesKey) :
    as.range? = bs.range? := by
  funext key
  rw [range?, range?, h]

theorem range?_renewed (value : Option String) (h : key ≠ rangesKey) :
    ((as.remove .exact key).put key value).range? = as.range? := by
  have hother : Match.exact.holds rangesKey key = false := beq_false_of_ne h
  refine range?_congr ?_
  rw [put_eq, find?_upsert_other hother, find?_remove_other h]

theorem sourceRange_renewed (as : Attributes) (key : String) (value : Option String) :
    ((as.remove .exact key).put key value).sourceRange key =
      if key = rangesKey then .untracked else (as.range? key).getD .untracked := by
  rw [sourceRange_eq, if_pos (has_put _ key value)]
  by_cases hkey : key = rangesKey
  · subst hkey
    have hfind : ((as.remove .exact rangesKey).put rangesKey value).find? .exact rangesKey =
        some ⟨rangesKey, .text value⟩ := by
      rw [put_eq, find?_upsert_self]
      cases (as.remove .exact rangesKey).find? .exact rangesKey <;> rfl
    rw [if_pos rfl, range?, hfind]
    rfl
  · rw [if_neg hkey, range?_renewed value hkey]

theorem range?_of_hidden (h : as.hidden = bs.hidden) : as.range? = bs.range? :=
  congrArg Sides.ranges (sides_of_hidden h)

theorem merge_eq_runAll (as incoming : Attributes) :
    ∃ steps : List Step, (∀ s ∈ steps, s.OnShownKeys) ∧
        as.merge incoming = Step.runAll steps as := by
  have hshown : ∀ a ∈ incoming.toList, ∀ key ∈ some a.key, isHiddenKey key = false := by
    intro a ha key hkey
    cases hkey
    exact shown_of_mem_toList ha
  rw [merge]
  split
  · refine ⟨incoming.toList.map fun a => .seen (.add a.key a.value), ?_, ?_⟩
    · intro s hs
      obtain ⟨a, ha, rfl⟩ := List.mem_map.mp hs
      exact hshown a ha
    · rw [Step.runAll, List.foldl_map]
      rfl
  · refine ⟨incoming.toList.map fun a => .seen (.putAttribute a), ?_, ?_⟩
    · intro s hs
      obtain ⟨a, ha, rfl⟩ := List.mem_map.mp hs
      exact hshown a ha
    · rw [Step.runAll, List.foldl_map]
      rfl

theorem WellFormed.merge (hs : as.WellFormed) (incoming : Attributes) :
    (as.merge incoming).WellFormed := by
  obtain ⟨steps, hplain, hrun⟩ := merge_eq_runAll as incoming
  rw [hrun]
  exact wellFormed_runAll hs hplain

def Work.OnShownKeys : Work → Prop
  | .step s => s.OnShownKeys
  | .merge _ => True

instance : (w : Work) → Decidable w.OnShownKeys
  | .step s => inferInstanceAs (Decidable s.OnShownKeys)
  | .merge _ => .isTrue trivial

def Work.placed? (key : String) : Work → Option AttributeRange
  | .step (.side (.sourceRange k r)) => if k = key then some r else none
  | _ => none

theorem WellFormed.work (hs : as.WellFormed) {w : Work} (hplain : w.OnShownKeys) :
    (w.run as).WellFormed := by
  cases w with
  | step s => exact hs.step hplain
  | merge incoming => exact hs.merge incoming

theorem WellFormed.range?_work (hs : as.WellFormed) {w : Work} (hplain : w.OnShownKeys) :
    (w.run as).range? key = (w.placed? key).or (as.range? key) := by
  cases w with
  | merge incoming => exact congrFun (range?_of_hidden (hidden_merge as incoming)) key
  | step s =>
    cases s with
    | seen c => exact congrFun (range?_of_hidden (c.hidden_run hplain hs)) key
    | side s =>
      have hact : (s.run as).range? = (s.act as.sides).ranges :=
        congrArg Sides.ranges (s.sides_run hs)
      cases s with
      | userData _ _ | base _ => exact congrFun hact key
      | sourceRange k r =>
        have hranges : (as.setSourceRange k r).range? = Function.update as.range? k (some r) := hact
        rw [Work.run, Step.run, SideChange.run, hranges, Work.placed?]
        by_cases hk : k = key
        · rw [hk, if_pos rfl, Function.update_self]
          rfl
        · rw [if_neg hk, Function.update_of_ne (Ne.symm hk)]
          rfl

theorem hidden_eraseIdx (h : as.keys[l]? = some key) (hkey : isHiddenKey key = false) :
    hidden ⟨as.entries.eraseIdx l, n⟩ = as.hidden := by
  rw [keys, List.getElem?_map] at h
  obtain ⟨e, he, rfl⟩ := Option.map_eq_some_iff.mp h
  obtain ⟨hl, hat⟩ := List.getElem?_eq_some_iff.mp he
  have hsplit : as.entries = as.entries.take l ++ e :: as.entries.drop (l + 1) := by
    rw [← hat, ← List.drop_eq_getElem_cons hl, List.take_append_drop]
  have hgone : ¬ e.isHidden = true := fun h => Bool.false_ne_true (hkey.symm.trans h)
  rw [hidden, hidden, List.eraseIdx_eq_take_drop_succ, List.filter_append]
  conv => rhs; rw [hsplit, List.filter_append, List.filter_cons_of_neg hgone]

theorem WellFormed.eraseIdx (hs : as.WellFormed) (h : as.keys[l]? = some key)
    (hkey : isHiddenKey key = false) : WellFormed ⟨as.entries.eraseIdx l, n⟩ := by
  have hhidden := hidden_eraseIdx (n := n) h hkey
  constructor
  · intro e he
    obtain ⟨he, hshown⟩ := mem_visible.mp he
    exact hs.texts e (mem_visible.mpr ⟨List.mem_of_mem_eraseIdx he, hshown⟩)
  · rw [hhidden]
    exact hs.side
  · rw [hhidden]
    exact hs.nodup

theorem Respelled.isHiddenKey (h : Respelled key k) (hkey : isHiddenKey key = false) :
    isHiddenKey k = false := by
  rcases h with rfl | hletters
  · exact isHiddenKey_lower hkey
  · rw [← isHiddenKey_congr hletters]
    exact hkey

theorem Counted.keys_at (h : as.Counted bs) (hsame : bs.changes = as.changes)
    (hl : as.keys[l]? = some key) : ∃ k, bs.keys[l]? = some k ∧ Respelled key k := by
  have hsize := h.changes_le.2.mp hsame
  cases h with
  | kept keys count =>
    obtain ⟨hlt, rfl⟩ := List.getElem?_eq_some_iff.mp hl
    have hlt' : l < bs.keys.length := keys.length_eq ▸ hlt
    exact ⟨bs.keys[l], List.getElem?_eq_getElem hlt', keys.get hlt hlt'⟩
  | appended h =>
    obtain ⟨new, hkeys, hcount⟩ := h
    have hnone : new = [] := List.length_eq_zero_iff.mp (by omega)
    rw [hkeys, hnone, List.append_nil]
    exact ⟨key, hl, .refl key⟩
  | shrunk rest count =>
    rw [Attributes.keys, rest.eq_of_length hsize]
    exact ⟨key, hl, .refl key⟩

end Attributes

namespace Cursor

variable {c : Cursor} {t : State} {k : Call}

def LastVisitedShown (as : Attributes) (c : Cursor) : Prop :=
  c.expected = as.changes → ∀ l ∈ c.last, ∃ key, as.keys[l]? = some key ∧ isHiddenKey key = false

theorem LastVisitedShown.counted (h : LastVisitedShown as c) (hc : InBounds as c)
    (hcount : as.Counted bs) :
    LastVisitedShown bs c := by
  intro hstep l hl
  have hsame : bs.changes = as.changes := by
    have := hc.expected_le
    have := hcount.changes_le.1
    omega
  obtain ⟨key, hkey, hshown⟩ := h (hstep.trans hsame) l hl
  obtain ⟨k, hk, hrespelled⟩ := hcount.keys_at hsame hkey
  exact ⟨k, hk, hrespelled.isHiddenKey hshown⟩

theorem LastVisitedShown.call (h : LastVisitedShown t.store t.cursor) :
    LastVisitedShown (t.call k).2.store (t.call k).2.cursor := by
  by_cases hstep : t.cursor.expected = t.store.changes
  · obtain ⟨c, r, hcall, -, -, hlast⟩ | hcall | ⟨l, hl, hcall⟩ := call_cases (k := k) hstep
    · rw [hcall]
      intro _ l hl
      rcases hlast l hl with hl | ⟨e, he, hshown⟩
      · exact h hstep l hl
      · exact ⟨e.key, by rw [keys, List.getElem?_map, he]; rfl, hshown⟩
    · rw [hcall]
      exact h
    · rw [hcall]
      intro _ l hl
      cases hl
  · rw [call_late hstep]
    exact h

def Act.OnShownKeys : Act → Prop
  | .work w => w.OnShownKeys
  | _ => True

instance : (a : Act) → Decidable a.OnShownKeys
  | .work w => inferInstanceAs (Decidable w.OnShownKeys)
  | .make | .copy _ | .call _ _ => .isTrue trivial

def Act.placed? (key : String) : Act → Option AttributeRange
  | .work w => w.placed? key
  | _ => none

namespace Session

variable {s : Session} {a : Act} {past : List Act}

def placed? (key : String) (past : List Act) : Option AttributeRange :=
  past.findSome? (Act.placed? key)

structure Invariant (s : Session) : Prop where
  store : s.store.WellFormed
  behind : s.AllInBounds
  shown : ∀ c ∈ s.cursors, LastVisitedShown s.store c

theorem invariant_start (hs : as.WellFormed) : (after as []).Invariant := ⟨hs, nofun, nofun⟩

theorem Invariant.act (h : s.Invariant) (hplain : a.OnShownKeys) : (s.act a).Invariant := by
  refine ⟨?_, h.behind.act a, ?_⟩
  · cases a with
    | work w => exact h.store.work hplain
    | make | copy j => exact h.store
    | call j k =>
      rw [Session.act]
      cases hc : s.cursors[j]? with
      | none =>
        rw [call_none hc]
        exact h.store
      | some c =>
        rw [call_some hc]
        obtain hsame | ⟨hstep, l, hl, herased⟩ := store_call ⟨s.store, c⟩ k
        · rw [hsame]
          exact h.store
        · obtain ⟨key, hkey, hshown⟩ := h.shown c (List.mem_of_getElem? hc) hstep l hl
          rw [herased]
          exact h.store.eraseIdx hkey hshown
  · intro c hc
    have hcount := h.behind.counted_act a
    -- a cursor that was there before and was not called
    have hleft : c ∈ s.cursors → LastVisitedShown (s.act a).store c := fun hc =>
      (h.shown c hc).counted (h.behind c hc) hcount
    cases a with
    | work w => exact hleft hc
    | make =>
      rcases List.mem_append.mp hc with hc | hc
      · exact hleft hc
      · cases List.mem_singleton.mp hc
        intro _ l hl
        cases hl
    | copy j =>
      rcases List.mem_append.mp hc with hc | hc
      · exact hleft hc
      · exact hleft (List.mem_of_getElem? (Option.mem_toList.mp hc))
    | call j k =>
      cases hd : s.cursors[j]? with
      | none =>
        rw [Session.act, call_none hd] at hc
        exact hleft hc
      | some d =>
        rw [Session.act, call_some hd] at hc hleft ⊢
        rcases List.mem_or_eq_of_mem_set hc with hc | rfl
        · exact hleft hc
        · exact LastVisitedShown.call (t := ⟨s.store, d⟩) (h.shown d (List.mem_of_getElem? hd))

theorem invariant_after (hs : as.WellFormed) (h : ∀ a ∈ past, a.OnShownKeys) :
    (after as past).Invariant := by
  induction past with
  | nil => exact invariant_start hs
  | cons a past ih =>
    obtain ⟨ha, hpast⟩ := List.forall_mem_cons.mp h
    exact (ih hpast).act ha

theorem Invariant.range?_act (h : s.Invariant) (hplain : a.OnShownKeys) :
    (s.act a).store.range? key = (a.placed? key).or (s.store.range? key) := by
  cases a with
  | work w => exact h.store.range?_work hplain
  | make | copy j => rfl
  | call j k =>
    rw [Session.act]
    cases hc : s.cursors[j]? with
    | none =>
      rw [call_none hc]
      rfl
    | some c =>
      rw [call_some hc]
      obtain hsame | ⟨hstep, l, hl, herased⟩ := store_call ⟨s.store, c⟩ k
      · rw [hsame]
        rfl
      · obtain ⟨shown, hkey, hshown⟩ := h.shown c (List.mem_of_getElem? hc) hstep l hl
        rw [herased]
        exact congrFun (range?_of_hidden (hidden_eraseIdx hkey hshown)) key

theorem range?_after (hs : as.WellFormed) (h : ∀ a ∈ past, a.OnShownKeys) :
    (after as past).store.range? key = (placed? key past).or (as.range? key) := by
  induction past with
  | nil => rfl
  | cons a past ih =>
    obtain ⟨ha, hpast⟩ := List.forall_mem_cons.mp h
    rw [after, (invariant_after hs hpast).range?_act ha, ih hpast, ← Option.or_assoc,
      placed?, placed?,
      List.findSome?_cons]
    cases a.placed? key <;> rfl

end Session

end Cursor

open Cursor.Session

theorem places_outlive_attributes (as : Attributes) (key : String) (value : Option String) :
    ((as.remove .exact key).put key value).sourceRange key =
        (if key = rangesKey then .untracked else (as.range? key).getD .untracked) ∧
      (as.has .exact key → key ≠ rangesKey →
        ((as.remove .exact key).put key value).sourceRange key = as.sourceRange key) ∧
      (as.WellFormed → ∀ past : List Cursor.Act, (∀ a ∈ past, a.OnShownKeys) →
        (after as past).store.sourceRange key =
          if (after as past).store.has .exact key then
            ((placed? key past).or (as.range? key)).getD .untracked
          else .untracked) := by
  refine ⟨sourceRange_renewed as key value, fun hhas hkey => ?_, fun hs past h => ?_⟩
  · rw [sourceRange_renewed, if_neg hkey, sourceRange_eq, if_pos hhas]
  · rw [sourceRange_eq, range?_after hs h]

def firstPlaces : AttributeRange :=
  ⟨⟨⟨3, 1, 4⟩, ⟨4, 1, 5⟩⟩, ⟨⟨5, 1, 6⟩, ⟨6, 1, 7⟩⟩⟩

def placedOne : Attributes := (Attributes.empty.add "k" (some "1")).setSourceRange "k" firstPlaces

def takingItsPlace : List Cursor.Act :=
  [.work (.merge ⟨[⟨"k", .text (some "3")⟩], 0⟩), .call 0 .remove, .call 0 .next, .make]

theorem wellFormed_placedOne : placedOne.WellFormed := by
  have hadd : (Step.seen (.add "k" (some "1"))).OnShownKeys := by decide
  have hplace : (Step.side (.sourceRange "k" firstPlaces)).OnShownKeys := trivial
  exact (wellFormed_empty.step hadd).step hplace

theorem places_outlive_attributes_placedOne :
    placedOne.has .exact "k" = true ∧ "k" ≠ rangesKey ∧ placedOne.WellFormed ∧
      (∀ a ∈ takingItsPlace, a.OnShownKeys) ∧ placedOne.sourceRange "k" = firstPlaces ∧
      ((placedOne.remove .exact "k").put "k" (some "2")).sourceRange "k" = firstPlaces ∧
      (after placedOne takingItsPlace).store.toList = [⟨"k", some "3"⟩] ∧
      (after placedOne takingItsPlace).store.sourceRange "k" = firstPlaces := by
  have hhas : placedOne.has .exact "k" = true := by decide
  have hkey : "k" ≠ rangesKey := by decide
  have hplaced : placedOne.sourceRange "k" = firstPlaces := by decide
  have hplain : ∀ a ∈ takingItsPlace, a.OnShownKeys := by decide
  obtain ⟨-, hrenewed, hlater⟩ := places_outlive_attributes placedOne "k" (some "2")
  refine ⟨hhas, hkey, wellFormed_placedOne, hplain, hplaced, (hrenewed hhas hkey).trans hplaced,
    by decide, (hlater wellFormed_placedOne takingItsPlace hplain).trans ?_⟩
  decide

end MarkupForest
