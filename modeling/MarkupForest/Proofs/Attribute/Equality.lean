import MarkupForest.Proofs.Growth.StartTagStore
import MarkupForest.Proofs.Attribute.ConcurrentChange
import Mathlib.Data.Fintype.EquivFin
import Mathlib.Data.List.Duplicate
import Mathlib.Data.Multiset.MapFold

namespace MarkupForest

namespace Dict

variable {α : Type} {d e : Dict α} {key : String} {value : α} {es : List (String × α)}

theorem find_eq_some_iff (h : es.Pairwise fun x y => x.1 < y.1) :
    find key es = some value ↔ (key, value) ∈ es := by
  induction es with
  | nil => simp [find]
  | cons e es ih =>
    obtain ⟨k, a⟩ := e
    obtain ⟨hall, hes⟩ := List.pairwise_cons.mp h
    rw [find, List.mem_cons, Prod.mk.injEq]
    split
    · next hk =>
      subst hk
      have hlater : (k, value) ∉ es := fun hx => String.lt_irrefl k (hall _ hx)
      simp [hlater, eq_comm]
    · next hk => rw [ih hes, or_iff_right (fun hx => hk hx.1.symm)]

theorem nodup_entries (d : Dict α) : d.entries.Nodup := by
  refine d.rising.imp ?_
  rintro x _ hlt rfl
  exact String.lt_irrefl x.1 hlt

theorem eq_of_get? (h : d.get? = e.get?) : d = e := by
  have hmem : ∀ x, x ∈ d.entries ↔ x ∈ e.entries := by
    intro x
    rw [← find_eq_some_iff d.rising, ← find_eq_some_iff e.rising]
    exact iff_of_eq (congrArg (· = some x.2) (congrFun h x.1))
  have hperm := (List.perm_ext_iff_of_nodup d.nodup_entries e.nodup_entries).mpr hmem
  have hlist := hperm.eq_of_pairwise (fun _ _ _ _ hlt hgt => absurd hgt (String.lt_asymm hlt))
    d.rising e.rising
  cases d
  cases e
  cases hlist
  rfl

end Dict

inductive Content where
  | text (value : Option String)
  | userData (data : String → Option Datum)
  | ranges (ranges : String → Option AttributeRange)

namespace Slot

variable {s t : Slot}

def content : Slot → Content
  | .text v => .text v
  | .userData d => .userData d.get?
  | .ranges d => .ranges d.get?

theorem eq_of_content (h : s.content = t.content) : s = t := by
  cases s with
  | text v =>
    cases t with
    | text w =>
      cases h
      rfl
    | userData e | ranges e => cases h
  | userData d =>
    cases t with
    | userData e => rw [Dict.eq_of_get? (Content.userData.inj h)]
    | text w | ranges e => cases h
  | ranges d =>
    cases t with
    | ranges e => rw [Dict.eq_of_get? (Content.ranges.inj h)]
    | text w | userData e => cases h

end Slot

def Entry.told (e : Entry) : String × Content := (e.key, e.slot.content)

namespace Attributes

variable {as bs : Attributes} {e : Entry} {es : List Entry} {key : String} {slot : Slot}
  {seen : List String}

def contents (as : Attributes) : Multiset (String × Content) := (as.entries.map Entry.told : List _)

/-- The stores that can come about. -/
inductive Constructible : Attributes → Prop
  | empty : Constructible .empty
  | copy {as : Attributes} : Constructible as → Constructible as.copy
  | work {as : Attributes} (w : Work) : Constructible as → Constructible (w.run as)
  | call {as : Attributes} (c : Cursor) (k : Cursor.Call) :
      Constructible as → Constructible (Cursor.State.call k ⟨as, c⟩).2.store

def Unambiguous (as : Attributes) : Prop :=
  ∀ d ∈ as.entries, ∀ e ∈ as.entries, d.key = e.key → d = e

instance (as : Attributes) : Decidable as.Unambiguous :=
  inferInstanceAs (Decidable (∀ d ∈ as.entries, ∀ e ∈ as.entries, d.key = e.key → d = e))

theorem told_injective : Function.Injective Entry.told := by
  intro d e h
  obtain ⟨hkey, hcontent⟩ := Prod.mk.inj h
  cases d
  cases e
  cases hkey
  cases Slot.eq_of_content hcontent
  rfl

theorem contents_subset_iff : as.contents ⊆ bs.contents ↔ as.entries ⊆ bs.entries := by
  constructor
  · intro h e he
    obtain ⟨d, hd, htold⟩ := List.mem_map.mp (h (List.mem_map_of_mem he))
    rwa [← told_injective htold]
  · exact fun h => List.map_subset _ h

theorem contents_eq_iff : as.contents = bs.contents ↔ as.entries.Perm bs.entries := by
  rw [contents, contents, Multiset.coe_eq_coe]
  exact List.map_perm_map_iff told_injective

theorem mem_firstOfEach : e ∈ firstOfEach .exact seen es ↔
    e.key ∉ seen ∧ es.find? (·.key == e.key) = some e := by
  induction es generalizing seen with
  | nil => simp [firstOfEach]
  | cons d es ih =>
    have hseen : seen.any (Match.exact.holds d.key) = true ↔ d.key ∈ seen := by
      simp [Match.holds]
    rw [firstOfEach]
    split
    · next h =>
      rw [ih]
      refine and_congr_right fun he => ?_
      have hne : d.key ≠ e.key := fun heq => he (heq ▸ hseen.mp h)
      rw [List.find?_cons_of_neg (by simpa using hne)]
    · next h =>
      have hd := mt hseen.mpr h
      rw [List.mem_cons, ih]
      by_cases hkey : d.key = e.key
      · rw [List.find?_cons_of_pos (by simpa using hkey)]
        simp [← hkey, hd, eq_comm]
      · have hne : e ≠ d := fun heq => hkey (congrArg Entry.key heq.symm)
        rw [List.find?_cons_of_neg (by simpa using hkey)]
        simp [hne, Ne.symm hkey]

theorem mem_deduplicate_exact :
    e ∈ (as.deduplicate .exact).1.entries ↔ as.find? .exact e.key = some e :=
  mem_firstOfEach.trans (and_iff_right List.not_mem_nil)

theorem agrees_iff : as.agrees bs = true ↔ as.entries.length = bs.entries.length ∧
    as.entries ⊆ (bs.deduplicate .exact).1.entries := by
  simp only [agrees, Bool.and_eq_true, beq_iff_eq, List.all_eq_true, List.subset_def,
    mem_deduplicate_exact]

theorem perm_of_agrees (hdistinct : as.entries.Nodup) (h : as.agrees bs = true) :
    as.entries.Perm bs.entries := by
  obtain ⟨hsize, hfirst⟩ := agrees_iff.mp h
  have hsubset := List.Subset.trans hfirst firstOfEach_sublist.subset
  exact (List.subperm_of_subset hdistinct hsubset).perm_of_length_le hsize.ge

theorem unambiguous_of_nodup (h : as.keys.Nodup) : as.Unambiguous :=
  fun _ hd _ he hkey => List.inj_on_of_nodup_map h hd he hkey

namespace Unambiguous

theorem mono (h : as.Unambiguous) (hsubset : bs.entries ⊆ as.entries) : bs.Unambiguous :=
  fun d hd e he => h d (hsubset hd) e (hsubset he)

theorem push (h : as.Unambiguous) (hfresh : key ∉ as.keys) : (as.push key slot).Unambiguous := by
  have hold : ∀ {d}, d ∈ as.entries → d.key ≠ key := fun hd hkey =>
    hfresh (hkey ▸ List.mem_map_of_mem hd)
  intro d hd e he hkey
  rcases List.mem_append.mp hd with hd | hd
  · rcases List.mem_append.mp he with he | he
    · exact h d hd e he hkey
    · cases List.mem_singleton.mp he
      exact absurd hkey (hold hd)
  · rcases List.mem_append.mp he with he | he
    · cases List.mem_singleton.mp hd
      exact absurd hkey.symm (hold he)
    · rw [List.mem_singleton.mp hd, List.mem_singleton.mp he]

theorem find?_eq (h : as.Unambiguous) (he : e ∈ as.entries) :
    as.find? .exact e.key = some e := by
  cases hfind : as.entries.find? (·.key == e.key) with
  | none => exact absurd (beq_self_eq_true e.key) (List.find?_eq_none.mp hfind e he)
  | some d =>
    have hkey := List.find?_some hfind
    exact hfind.trans
      (congrArg some (h d (List.mem_of_find?_eq_some hfind) e he (eq_of_beq hkey)))

theorem agrees (h : bs.Unambiguous) (hsize : as.entries.length = bs.entries.length)
    (hsubset : as.entries ⊆ bs.entries) : as.agrees bs = true :=
  agrees_iff.mpr ⟨hsize, fun _ he => mem_deduplicate_exact.mpr (h.find?_eq (hsubset he))⟩

theorem exists_twice (h : as.Unambiguous) (hkeys : ¬ as.keys.Nodup) :
    ∃ d, [d, d].Sublist as.entries := by
  obtain ⟨key, hkey⟩ := List.exists_duplicate_iff_not_nodup.mpr hkeys
  obtain ⟨l, hl, hmap⟩ := List.sublist_map_iff.mp (List.duplicate_iff_sublist.mp hkey)
  obtain ⟨d, l, rfl, rfl, hmap⟩ := List.map_eq_cons_iff.mp hmap.symm
  obtain ⟨e, l, rfl, hsame, hmap⟩ := List.map_eq_cons_iff.mp hmap
  cases List.map_eq_nil_iff.mp hmap
  have hde : d = e := h d (hl.subset (by simp)) e (hl.subset (by simp)) hsame.symm
  exact ⟨d, hde ▸ hl⟩

theorem subset_eraseP {d : Entry} (h : as.Unambiguous) (htwice : [d, d].Sublist as.entries) :
    as.entries ⊆ as.entries.eraseP (·.key == d.key) := by
  have hleft : [d].Sublist (as.entries.eraseP (·.key == d.key)) := by
    simpa using htwice.eraseP (p := (·.key == d.key))
  intro e he
  by_cases hkey : e.key = d.key
  · rw [h e he d (htwice.subset List.mem_cons_self) hkey]
    exact hleft.subset List.mem_cons_self
  · exact (List.mem_eraseP_of_neg (by simpa using hkey)).mpr he

end Unambiguous

theorem agrees_copy_iff : as.agrees as.copy = true ↔ as.Unambiguous := by
  constructor
  · intro h d hd e he hkey
    have hfirst := (agrees_iff.mp h).2
    have hd' := mem_deduplicate_exact.mp (hfirst hd)
    rw [hkey, mem_deduplicate_exact.mp (hfirst he)] at hd'
    exact (Option.some.inj hd').symm
  · intro h
    have hcopy : as.copy.Unambiguous := h
    exact hcopy.agrees rfl (List.Subset.refl _)

theorem agrees_iff_perm (h : as.keys.Nodup) :
    as.agrees bs = true ↔ as.entries.Perm bs.entries := by
  constructor
  · exact perm_of_agrees h.of_map
  · intro hperm
    have hb : bs.keys.Nodup := (hperm.map Entry.key).nodup_iff.mp h
    exact (unambiguous_of_nodup hb).agrees hperm.length_eq hperm.subset

theorem Unambiguous.exists_agrees (h : as.Unambiguous) (ha : Constructible as)
    (hkeys : ¬ as.keys.Nodup) :
    ∃ bs, Constructible bs ∧ as.agrees bs = true ∧ ¬ as.entries.Perm bs.entries := by
  obtain ⟨d, htwice⟩ := h.exists_twice hkeys
  obtain ⟨fresh, hfresh⟩ := Infinite.exists_notMem_finset as.keys.toFinset
  rw [List.mem_toFinset] at hfresh
  have hd : d ∈ as.entries := htwice.subset List.mem_cons_self
  have hless : (as.copy.remove .exact d.key).entries = as.entries.eraseP (·.key == d.key) := by
    have hfind : as.copy.find? .exact d.key = some d := h.find?_eq hd
    rw [remove, if_pos (by rw [has, hfind]; rfl)]
    rfl
  have hsub : (as.copy.remove .exact d.key).entries ⊆ as.entries :=
    hless ▸ List.eraseP_subset
  refine ⟨(as.copy.remove .exact d.key).add fresh none,
    .work (.step (.seen (.add fresh none))) (.work (.step (.seen (.remove .exact d.key))) ha.copy),
    ?_, fun hperm => ?_⟩
  · have hfresh' : fresh ∉ (as.copy.remove .exact d.key).keys :=
      fun hin => hfresh (List.map_subset Entry.key hsub hin)
    refine ((h.mono hsub).push hfresh').agrees ?_ ?_
    · have hsize := List.length_eraseP_of_mem (p := (·.key == d.key)) hd (beq_self_eq_true d.key)
      have hpos := List.length_pos_of_mem hd
      simp only [Attributes.push, List.length_append, List.length_singleton, hless, hsize]
      omega
    · exact fun e he => List.mem_append_left _ (hless ▸ h.subset_eraseP htwice he)
  · have hin : (⟨fresh, .text none⟩ : Entry) ∈ as.entries :=
      hperm.mem_iff.mpr (List.mem_append_right _ List.mem_cons_self)
    exact hfresh (List.mem_map_of_mem hin)

end Attributes

open Attributes

variable {as : Attributes}

theorem stores_are_compared_by_first_entries (h : Constructible as) :
    (∀ bs, as.agrees bs = true ↔ as.contents.card = bs.contents.card ∧
      as.contents ⊆ (bs.deduplicate .exact).1.contents) ∧
    (as.keys.Nodup ↔ ∀ bs, Constructible bs → (as.agrees bs = true ↔ as.contents = bs.contents)) ∧
    (as.agrees as.copy = true ↔ as.Unambiguous) ∧
    ∀ bs, as.keys.Nodup → bs.keys.Nodup → as.agrees bs = bs.agrees as := by
  refine ⟨fun bs => ?_, ⟨fun hkeys bs _ => ?_, fun hall => ?_⟩, agrees_copy_iff,
    fun bs hkeys hkeys' => ?_⟩
  · rw [agrees_iff, contents_subset_iff]
    simp [contents]
  · rw [agrees_iff_perm hkeys, contents_eq_iff]
  · have hcopy := (hall as.copy h.copy).mpr rfl
    by_contra hkeys
    obtain ⟨bs, hb, hagrees, hnot⟩ := (agrees_copy_iff.mp hcopy).exists_agrees h hkeys
    exact hnot (contents_eq_iff.mp ((hall bs hb).mp hagrees))
  · rw [Bool.eq_iff_iff, agrees_iff_perm hkeys, agrees_iff_perm hkeys']
    exact List.perm_comm

def keyTwice (v w : String) : Attributes := (empty.add "k" (some v)).add "k" (some w)

theorem constructible_keyTwice (v w : String) : Constructible (keyTwice v w) :=
  .work (.step (.seen (.add "k" (some w)))) (.work (.step (.seen (.add "k" (some v)))) .empty)

theorem stores_are_compared_by_first_entries_keyTwice :
    Constructible (keyTwice "1" "2") ∧ (keyTwice "1" "2").agrees (keyTwice "1" "2").copy = false ∧
      (keyTwice "1" "1").agrees (keyTwice "1" "1").copy = true ∧
      ∃ bs, Constructible bs ∧ ¬ ((keyTwice "1" "1").agrees bs = true ↔
        (keyTwice "1" "1").contents = bs.contents) := by
  obtain ⟨_, _, hcopy, _⟩ := stores_are_compared_by_first_entries (constructible_keyTwice "1" "2")
  obtain ⟨_, hexact, hcopy', _⟩ :=
      stores_are_compared_by_first_entries (constructible_keyTwice "1" "1")
  have hdiffer : ¬ (keyTwice "1" "2").Unambiguous := by decide
  have hsame : (keyTwice "1" "1").Unambiguous := by decide
  have hrepeated : ¬ (keyTwice "1" "1").keys.Nodup := by decide
  refine ⟨constructible_keyTwice "1" "2", ?_, hcopy'.mpr hsame, ?_⟩
  · exact Bool.eq_false_iff.mpr (mt hcopy.mp hdiffer)
  · by_contra hnone
    push Not at hnone
    exact hrepeated (hexact.mpr hnone)

example : (keyTwice "1" "1").agrees ((empty.add "k" (some "1")).add "j" none) = true ∧
    ((empty.add "k" (some "1")).add "j" none).agrees (keyTwice "1" "1") = false := by
  decide

end MarkupForest
