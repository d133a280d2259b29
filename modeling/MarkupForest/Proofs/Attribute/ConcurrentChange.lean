import MarkupForest.Proofs.Attribute.CursorReads
import MarkupForest.Proofs.Attribute.TwoParts

namespace MarkupForest

variable {as bs cs : Attributes} {c : Cursor} {key : String} {slot : Slot}

namespace Attributes

inductive Work where
  | step (s : Step)
  | merge (incoming : Attributes)

def Work.run : Work → Attributes → Attributes
  | .step s => s.run
  | .merge incoming => (·.merge incoming)

def keys (as : Attributes) : List String := as.entries.map Entry.key

def Appended (as bs : Attributes) : Prop :=
  ∃ new, bs.keys = as.keys ++ new ∧ bs.changes = as.changes + new.length

def Respelled (key key' : String) : Prop :=
  key' = Text.lower key ∨ Text.sameLetters key key' = true

inductive Counted (as bs : Attributes) : Prop
  | kept (keys : List.Forall₂ Respelled as.keys bs.keys) (count : bs.changes = as.changes)
  | appended (h : as.Appended bs)
  | shrunk (rest : bs.entries.Sublist as.entries)
    (count : bs.changes + bs.entries.length = as.changes + as.entries.length)

theorem length_keys : as.keys.length = as.entries.length := List.length_map _

theorem Appended.refl (as : Attributes) : as.Appended as := ⟨[], (List.append_nil _).symm, rfl⟩

theorem Appended.trans (h : as.Appended bs) (h' : bs.Appended cs) : as.Appended cs := by
  obtain ⟨new, hkeys, hcount⟩ := h
  obtain ⟨more, hkeys', hcount'⟩ := h'
  refine ⟨new ++ more, by rw [hkeys', hkeys, List.append_assoc], ?_⟩
  rw [hcount', hcount, List.length_append, Nat.add_assoc]

namespace Counted

theorem refl (as : Attributes) : as.Counted as := .appended (.refl as)

theorem changes_le (h : as.Counted bs) : as.changes ≤ bs.changes ∧
    (bs.changes = as.changes ↔ bs.entries.length = as.entries.length) := by
  cases h with
  | kept keys count =>
    have hsize := keys.length_eq
    rw [length_keys, length_keys] at hsize
    exact ⟨Nat.le_of_eq count.symm, by simp [hsize, count]⟩
  | appended h =>
    obtain ⟨new, hkeys, hcount⟩ := h
    have hsize := congrArg List.length hkeys
    rw [List.length_append, length_keys, length_keys] at hsize
    omega
  | shrunk rest count =>
    have hsize := rest.length_le
    omega

end Counted

theorem appended_push : as.Appended (as.push key slot) := ⟨[key], by simp [keys, push], rfl⟩

theorem Respelled.refl (key : String) : Respelled key key := .inr (Text.sameLetters_refl key)

theorem Respelled.of_holds {m : Match} {key' : String} (h : m.holds key' key = true) :
    Respelled key key' := by
  cases m with
  | exact =>
    cases eq_of_beq h
    exact .refl _
  | anyCase => exact .inr h

theorem respelled_changeFirst {p : Entry → Bool} {g : Entry → Entry}
    (h : ∀ e, p e = true → Respelled e.key (g e).key) (es : List Entry) :
    List.Forall₂ Respelled (es.map Entry.key) ((changeFirst p g es).map Entry.key) := by
  induction es with
  | nil => exact .nil
  | cons e es ih =>
    rw [changeFirst]
    split
    · next he => exact .cons (h e he) (List.forall₂_same.mpr fun key _ => .refl key)
    · exact .cons (.refl e.key) ih

theorem counted_set (m : Match) (key : String) (value : Option String) :
    as.Counted (as.set m key value) := by
  rw [set]
  split
  · refine .kept (respelled_changeFirst ?_ as.entries) rfl
    exact fun e he => .of_holds he
  · exact .appended appended_push

theorem appended_put (key : String) (value : Option String) : as.Appended (as.put key value) := by
  rw [put, set]
  split
  · refine ⟨[], ?_, rfl⟩
    rw [List.append_nil]
    exact keys_changeFirst fun e he => (eq_of_beq he).symm
  · exact appended_push

theorem appended_foldl {α : Type} {f : Attributes → α → Attributes}
    (h : ∀ (s : Attributes) (a : α), s.Appended (f s a))
    (l : List α) (as : Attributes) : as.Appended (l.foldl f as) :=
  List.foldlRecOn l f (.refl as) fun s hs a _ => hs.trans (h s a)

theorem appended_merge (incoming : Attributes) : as.Appended (as.merge incoming) := by
  rw [merge]
  split
  · exact appended_foldl (fun _ _ => appended_push) _ _
  · exact appended_foldl (fun _ (a : Attribute) => appended_put a.key a.value) _ _

theorem counted_remove (m : Match) (key : String) : as.Counted (as.remove m key) := by
  rw [remove]
  split
  · next hhas =>
    obtain ⟨e, he⟩ := Option.isSome_iff_exists.mp hhas
    have hmem : e ∈ as.entries := List.mem_of_find?_eq_some he
    have hsize := List.length_eraseP_of_mem hmem (List.find?_some he)
    have hpos := List.length_pos_of_mem hmem
    refine .shrunk List.eraseP_sublist ?_
    simp only [hsize]
    omega
  · exact .refl as

theorem counted_foldKeys : as.Counted as.foldKeys := by
  refine .kept ?_ rfl
  rw [keys, keys, foldKeys, List.map_map, List.forall₂_map_left_iff, List.forall₂_map_right_iff,
    List.forall₂_same]
  intro e _
  rw [Function.comp_apply]
  split
  · exact .refl e.key
  · exact .inl rfl

theorem counted_deduplicate (m : Match) : as.Counted (as.deduplicate m).1 := by
  have hrest : (firstOfEach m [] as.entries).Sublist as.entries := firstOfEach_sublist
  have hsize := hrest.length_le
  refine .shrunk hrest ?_
  simp only [deduplicate]
  omega

theorem counted_clear : as.Counted as.clear := by
  have hsize := List.length_eq_length_filter_add (l := as.entries) Entry.isHidden
  refine .shrunk List.filter_sublist ?_
  simp only [clear, size, visible]
  omega

theorem appended_upsert (key : String) (f : Slot → Slot) (new : Slot) :
    as.Appended (as.upsert key f new) := by
  rw [upsert]
  split
  · refine ⟨[], ?_, rfl⟩
    rw [List.append_nil]
    exact keys_changeFirst fun _ _ => rfl
  · exact appended_push

theorem counted_change (c : Change) : as.Counted (c.run as) := by
  cases c with
  | add key value => exact .appended appended_push
  | put key value | putAnyCase key value => exact counted_set _ key value
  | putAttribute a => exact counted_set _ a.key a.value
  | putBoolean key on =>
    cases on with
    | true => exact counted_set _ key none
    | false => exact counted_remove _ key
  | remove m key => exact counted_remove m key
  | foldKeys => exact counted_foldKeys
  | deduplicate m => exact counted_deduplicate m
  | removeVisible key =>
    rw [Change.run]
    split
    · exact .refl as
    · exact counted_remove _ key
  | clear => exact counted_clear

theorem counted_sideChange (s : SideChange) : as.Counted (s.run as) := by
  cases s with
  | userData key value =>
    rw [SideChange.run, setUserData_eq]
    split
    · exact .refl as
    · exact .appended (appended_upsert _ _ _)
  | sourceRange key range =>
    rw [SideChange.run, setSourceRange_eq]
    exact .appended (appended_upsert _ _ _)
  | base uri => exact counted_set _ _ _

theorem counted_work (w : Work) : as.Counted (w.run as) := by
  cases w with
  | step s =>
    cases s with
    | seen c => exact counted_change c
    | side s => exact counted_sideChange s
  | merge incoming => exact .appended (appended_merge incoming)

end Attributes

namespace Cursor

open Attributes

inductive Act where
  | work (w : Work)
  | make
  | copy (cursor : Nat)
  | call (cursor : Nat) (c : Call)

structure Session where
  store : Attributes
  cursors : List Cursor

namespace Session

def call (cursor : Nat) (k : Call) (s : Session) : Option (Except TreeError Reply) × Session :=
  match s.cursors[cursor]? with
  | some c =>
    let (r, t) := State.call k ⟨s.store, c⟩
    (some r, ⟨t.store, s.cursors.set cursor t.cursor⟩)
  | none => (none, s)

def act : Act → Session → Session
  | .work w, s => { s with store := w.run s.store }
  | .make, s => { s with cursors := s.cursors ++ [.ofAttributes s.store] }
  | .copy cursor, s => { s with cursors := s.cursors ++ s.cursors[cursor]?.toList }
  | .call cursor k, s => (s.call cursor k).2

/-- The latest act comes first. -/
def after (as : Attributes) : List Act → Session
  | [] => ⟨as, []⟩
  | a :: past => (after as past).act a

/-- How many acts had been done when the cursor was last in step with its store. -/
def inStep (as : Attributes) : List Act → Nat → Nat
  | [], _ => 0
  | .work _ :: past, i => inStep as past i
  | .make :: past, i =>
    if i = (after as past).cursors.length then past.length + 1 else inStep as past i
  | .copy j :: past, i => inStep as past (if i = (after as past).cursors.length then j else i)
  | .call j k :: past, i =>
    if j = i ∧ ((after as past).call i k).1 = some (.ok .removed) then past.length + 1
    else inStep as past i

end Session

section Calls

variable {t : State} {k : Call}

structure InBounds (as : Attributes) (c : Cursor) : Prop where
  expected_le : c.expected ≤ as.changes
  last_lt : c.expected = as.changes → ∀ l ∈ c.last, l < as.entries.length

theorem InBounds.counted (h : InBounds as c) (hcount : as.Counted bs) : InBounds bs c := by
  obtain ⟨hle, hkept⟩ := hcount.changes_le
  refine ⟨h.expected_le.trans hle, fun hc l hl => ?_⟩
  have hsame : bs.changes = as.changes := by have := h.expected_le; omega
  rw [hkept.mp hsame]
  exact h.last_lt (hc.trans hsame) l hl

theorem store_call (t : State) (k : Call) : (t.call k).2.store = t.store ∨
    t.cursor.expected = t.store.changes ∧ ∃ l ∈ t.cursor.last,
      (t.call k).2.store = ⟨t.store.entries.eraseIdx l, t.store.changes + 1⟩ := by
  by_cases hstep : t.cursor.expected = t.store.changes
  · obtain ⟨c, r, hcall, -⟩ | hcall | ⟨l, hl, hcall⟩ := call_cases (k := k) hstep
    · exact .inl (by rw [hcall])
    · exact .inl (by rw [hcall])
    · exact .inr ⟨hstep, l, hl, by rw [hcall]⟩
  · exact .inl (by rw [call_late hstep])

theorem counted_call (h : InBounds t.store t.cursor) : t.store.Counted (t.call k).2.store := by
  obtain hsame | ⟨hstep, l, hl, herased⟩ := store_call t k
  · rw [hsame]
    exact .refl _
  · have hlt := h.last_lt hstep l hl
    rw [herased]
    refine .shrunk (List.eraseIdx_sublist ..) ?_
    simp only [List.length_eraseIdx_of_lt hlt]
    omega

theorem inBounds_call (h : InBounds t.store t.cursor) :
    InBounds (t.call k).2.store (t.call k).2.cursor := by
  by_cases hstep : t.cursor.expected = t.store.changes
  · obtain ⟨c, r, hcall, -, hexpected, hlast⟩ | hcall | ⟨l, hl, hcall⟩ := call_cases (k := k) hstep
    · rw [hcall]
      refine ⟨hexpected.trans_le h.expected_le, fun _ l hl => ?_⟩
      rcases hlast l hl with hl | ⟨e, he, -⟩
      · exact h.last_lt hstep l hl
      · exact (List.getElem?_eq_some_iff.mp he).1
    · rw [hcall]
      exact h
    · rw [hcall]
      exact ⟨Nat.le_refl _, nofun⟩
  · rw [call_late hstep]
    exact h

theorem call_concurrent_iff :
    (t.call k).1 = .error .concurrentChange ↔ t.cursor.expected ≠ t.store.changes := by
  by_cases hstep : t.cursor.expected = t.store.changes
  · obtain ⟨c, r, hcall, -⟩ | hcall | ⟨l, hl, hcall⟩ := call_cases (k := k) hstep <;>
      simp [hcall, hstep]
  · simp [call_late hstep, hstep]

theorem call_expected (t : State) (k : Call) :
    (t.call k).1 = .ok .removed ∧ (t.call k).2.cursor.expected = (t.call k).2.store.changes ∨
      (t.call k).1 ≠ .ok .removed ∧ (t.call k).2.cursor.expected = t.cursor.expected := by
  by_cases hstep : t.cursor.expected = t.store.changes
  · obtain ⟨c, r, hcall, hr, hexpected, -⟩ | hcall | ⟨l, hl, hcall⟩ := call_cases (k := k) hstep
    · exact .inr ⟨by simpa [hcall] using hr, by rw [hcall]; exact hexpected⟩
    · exact .inr ⟨by simp [hcall], by rw [hcall]⟩
    · exact .inl ⟨by rw [hcall], by rw [hcall]⟩
  · exact .inr ⟨by simp [call_late hstep], by rw [call_late hstep]⟩

end Calls

namespace Session

section Runs

variable {s : Session} {i : Nat} {k : Call} {past earlier : List Act}

theorem call_some (h : s.cursors[i]? = some c) :
    s.call i k = (some (State.call k ⟨s.store, c⟩).1,
      ⟨(State.call k ⟨s.store, c⟩).2.store,
          s.cursors.set i (State.call k ⟨s.store, c⟩).2.cursor⟩) := by
  rw [call, h]

theorem call_none (h : s.cursors[i]? = none) : s.call i k = (none, s) := by rw [call, h]

theorem call_failed {x : TreeError} (h : (s.call i k).1 = some (.error x)) :
    (s.call i k).2 = s := by
  cases hc : s.cursors[i]? with
  | none => rw [call_none hc]
  | some c =>
    rw [call_some hc] at h ⊢
    rw [State.call_error (Option.some.inj h)]
    have hsame : s.cursors.set i c = s.cursors := by
      obtain ⟨hi, rfl⟩ := List.getElem?_eq_some_iff.mp hc
      exact List.set_getElem_self hi
    rw [hsame]

def AllInBounds (s : Session) : Prop := ∀ c ∈ s.cursors, InBounds s.store c

theorem AllInBounds.counted_act (h : s.AllInBounds) (a : Act) :
    s.store.Counted (s.act a).store := by
  cases a with
  | work w => exact counted_work w
  | make | copy j => exact .refl _
  | call j k =>
    rw [act]
    cases hc : s.cursors[j]? with
    | none =>
      rw [call_none hc]
      exact .refl _
    | some c =>
      rw [call_some hc]
      exact counted_call (t := ⟨s.store, c⟩) (h c (List.mem_of_getElem? hc))

theorem AllInBounds.act (h : s.AllInBounds) (a : Act) : (s.act a).AllInBounds := by
  intro c hc
  cases a with
  | work w => exact (h c hc).counted (counted_work w)
  | make =>
    rcases List.mem_append.mp hc with hc | hc
    · exact h c hc
    · cases List.mem_singleton.mp hc
      exact ⟨Nat.le_refl _, nofun⟩
  | copy j =>
    rcases List.mem_append.mp hc with hc | hc
    · exact h c hc
    · exact h c (List.mem_of_getElem? (Option.mem_toList.mp hc))
  | call j k =>
    cases hd : s.cursors[j]? with
    | none =>
      rw [Session.act, call_none hd] at hc ⊢
      exact h c hc
    | some d =>
      have hbounds := h d (List.mem_of_getElem? hd)
      rw [Session.act, call_some hd] at hc ⊢
      rcases List.mem_or_eq_of_mem_set hc with hc | rfl
      · exact (h c hc).counted (counted_call (t := ⟨s.store, d⟩) hbounds)
      · exact inBounds_call (t := ⟨s.store, d⟩) hbounds

theorem allInBounds_after (as : Attributes) (past : List Act) : (after as past).AllInBounds := by
  induction past with
  | nil => nofun
  | cons a past ih => exact ih.act a

theorem counted_after (as : Attributes) (a : Act) (past : List Act) :
    (after as past).store.Counted (after as (a :: past)).store :=
  (allInBounds_after as past).counted_act a

theorem changes_le_after (as : Attributes) (h : earlier <:+ past) :
    (after as earlier).store.changes ≤ (after as past).store.changes := by
  induction past with
  | nil => cases List.suffix_nil.mp h; exact Nat.le_refl _
  | cons a past ih =>
    rcases List.suffix_cons_iff.mp h with rfl | h
    · exact Nat.le_refl _
    · exact (ih h).trans (counted_after as a past).changes_le.1

theorem was_or_came {l : List Cursor} (new : Option Cursor) (h : (l ++ new.toList)[i]? = some c) :
    i ≠ l.length ∧ l[i]? = some c ∨ i = l.length ∧ new = some c := by
  rw [List.getElem?_append] at h
  split at h
  · next hi => exact .inl ⟨Nat.ne_of_lt hi, h⟩
  · next hi =>
    cases new with
    | none => simp at h
    | some d =>
      obtain ⟨hlt, rfl⟩ := List.getElem?_eq_some_iff.mp h
      rw [Option.toList_some, List.length_singleton] at hlt
      exact .inr ⟨by omega, by simp⟩

theorem expected_eq (h : (after as past).cursors[i]? = some c) :
    ∃ earlier, earlier <:+ past ∧ earlier.length = inStep as past i ∧
      c.expected = (after as earlier).store.changes := by
  induction past generalizing i c with
  | nil => simp [after] at h
  | cons a past ih =>
    -- a cursor that the act left alone, or copied, is in step with what it was
    have hleft : ∀ {j d}, (after as past).cursors[j]? = some d → c.expected = d.expected →
        ∃ earlier, earlier <:+ a :: past ∧ earlier.length = inStep as past j ∧
          c.expected = (after as earlier).store.changes := by
      intro j d hj hd
      obtain ⟨earlier, hsuffix, hlength, hexpected⟩ := ih hj
      exact ⟨earlier, hsuffix.trans (List.suffix_cons a past), hlength, hd.trans hexpected⟩
    cases a with
    | work w => exact hleft h rfl
    | make =>
      rcases was_or_came (some _) h with ⟨hi, hold⟩ | ⟨hi, hnew⟩
      · rw [inStep, if_neg hi]
        exact hleft hold rfl
      · cases hnew
        exact ⟨_, List.suffix_refl _, by rw [inStep, if_pos hi, List.length_cons], rfl⟩
    | copy j =>
      rcases was_or_came _ h with ⟨hi, hold⟩ | ⟨hi, hnew⟩
      · rw [inStep, if_neg hi]
        exact hleft hold rfl
      · rw [inStep, if_pos hi]
        exact hleft hnew rfl
    | call j k =>
      rw [after, act] at h
      by_cases hj : j = i
      · subst hj
        cases hd : (after as past).cursors[j]? with
        | none =>
          rw [call_none hd, hd] at h
          cases h
        | some d =>
          have hstep := call_expected ⟨(after as past).store, d⟩ k
          obtain ⟨hlt, -⟩ := List.getElem?_eq_some_iff.mp hd
          rw [call_some hd, List.getElem?_set_self hlt] at h
          cases h
          rw [inStep, call_some hd]
          rcases hstep with ⟨hremoved, hexpected⟩ | ⟨hother, hexpected⟩
          · refine ⟨.call j k :: past, List.suffix_refl _, ?_, ?_⟩
            · rw [if_pos ⟨rfl, congrArg some hremoved⟩, List.length_cons]
            · rw [after, act, call_some hd]
              exact hexpected
          · rw [if_neg fun h => hother (Option.some.inj h.2)]
            exact hleft hd hexpected
      · rw [inStep, if_neg fun h => hj h.1]
        cases hd : (after as past).cursors[j]? with
        | none =>
          rw [call_none hd] at h
          exact hleft h rfl
        | some d =>
          rw [call_some hd, List.getElem?_set_ne hj] at h
          exact hleft h rfl

def ChangedSince (as : Attributes) (past : List Act) (n : Nat) : Prop :=
  ∃ a rest, a :: rest <:+ past ∧ n ≤ rest.length ∧
    (after as (a :: rest)).store.entries.length ≠ (after as rest).store.entries.length

theorem changedSince_iff (h : earlier <:+ past) :
    ChangedSince as past earlier.length ↔
      (after as earlier).store.changes ≠ (after as past).store.changes := by
  induction past with
  | nil =>
    cases List.suffix_nil.mp h
    refine iff_of_false ?_ fun h => h rfl
    rintro ⟨a, rest, hsuffix, -⟩
    cases List.suffix_nil.mp hsuffix
  | cons a past ih =>
    rcases List.suffix_cons_iff.mp h with rfl | h
    · refine iff_of_false ?_ fun h => h rfl
      rintro ⟨b, rest, hsuffix, hlength, -⟩
      have hle := hsuffix.length_le
      rw [List.length_cons] at hle hlength
      rw [List.length_cons] at hle
      omega
    · obtain ⟨hle, hsize⟩ := (counted_after as a past).changes_le
      have hbefore := changes_le_after as h
      have hsplit : ChangedSince as (a :: past) earlier.length ↔
          (after as (a :: past)).store.entries.length ≠ (after as past).store.entries.length ∨
            ChangedSince as past earlier.length := by
        constructor
        · rintro ⟨b, rest, hsuffix, hlength, hchanged⟩
          rcases List.suffix_cons_iff.mp hsuffix with heq | hsuffix
          · cases heq
            exact .inl hchanged
          · exact .inr ⟨b, rest, hsuffix, hlength, hchanged⟩
        · rintro (hchanged | ⟨b, rest, hsuffix, hlength, hchanged⟩)
          · exact ⟨a, past, List.suffix_refl _, h.length_le, hchanged⟩
          · exact ⟨b, rest, hsuffix.trans (List.suffix_cons a past), hlength, hchanged⟩
      rw [hsplit, ih h]
      omega

theorem concurrentChange_iff (h : (after as past).cursors[i]? = some c) (k : Call) :
    (((after as past).call i k).1 = some (.error .concurrentChange) ↔
      ChangedSince as past (inStep as past i)) ∧
    (∀ x, ((after as past).call i k).1 = some (.error x) →
      ((after as past).call i k).2 = after as past) ∧
    ∀ a, (after as past).store.Counted (after as (a :: past)).store := by
  obtain ⟨earlier, hsuffix, hlength, hexpected⟩ := expected_eq h
  refine ⟨?_, fun x => call_failed, fun a => counted_after as a past⟩
  rw [call_some h, Option.some_inj, call_concurrent_iff, ← hlength, changedSince_iff hsuffix,
    hexpected]

def comingAndGoing : List Act :=
  [.work (.step (.seen (.remove .exact "c"))), .work (.step (.seen (.add "c" none))), .copy 0,
    .call 0 .remove, .call 0 .next, .make]

theorem concurrentChange_iff_comingAndGoing : let as : Attributes :=
  ⟨[⟨"a", .text none⟩, ⟨"b", .text (some "1")⟩], 0⟩
    (after as comingAndGoing).cursors[1]? = some ⟨1, 0, none⟩ ∧
      inStep as comingAndGoing 1 = 3 ∧
      ((after as comingAndGoing).call 1 .next).1 = some (.error .concurrentChange) ∧
      ((after as comingAndGoing).call 1 .next).2 = after as comingAndGoing := by
  intro as
  have hcursor : (after as comingAndGoing).cursors[1]? = some ⟨1, 0, none⟩ := by decide
  have hstep : inStep as comingAndGoing 1 = 3 := by decide
  obtain ⟨hiff, hfailed, -⟩ := concurrentChange_iff hcursor .next
  have hreply := hiff.mpr ⟨_, _, List.suffix_refl _, by decide, by decide⟩
  exact ⟨hcursor, hstep, hreply, hfailed _ hreply⟩

end Runs

end Session

end Cursor

end MarkupForest
