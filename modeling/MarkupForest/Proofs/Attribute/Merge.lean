import MarkupForest.Proofs.Attribute.HiddenEntries

namespace MarkupForest

variable {a b : Attribute} {l r : List Attribute} {as : Attributes} {key : String}
  {value : Option String} {m : Attributes.Match}

section PutFirst

variable {α β : Type} {p : α → Bool} {q : β → Bool} {w : α → β} {x y : α} {xs : List α}

def putFirst (p : α → Bool) (x : α) : List α → List α
  | [] => [x]
  | y :: ys => if p y then x :: ys else y :: putFirst p x ys

theorem putFirst_of_none (h : ∀ y ∈ xs, p y = false) : putFirst p x xs = xs ++ [x] := by
  induction xs with
  | nil => rfl
  | cons y ys ih =>
    obtain ⟨hy, hys⟩ := List.forall_mem_cons.mp h
    rw [putFirst, hy, if_neg Bool.false_ne_true, ih hys, List.cons_append]

theorem map_putFirst (h : ∀ y, q (w y) = p y) :
    (putFirst p x xs).map w = putFirst q (w x) (xs.map w) := by
  induction xs with
  | nil => rfl
  | cons y ys ih =>
    rw [List.map_cons, putFirst, putFirst, h, ← ih]
    split <;> rfl

theorem mem_putFirst (h : y ∈ putFirst p x xs) : y = x ∨ y ∈ xs := by
  induction xs with
  | nil => exact .inl (List.mem_singleton.mp h)
  | cons z zs ih =>
    rw [putFirst] at h
    split at h
    · rcases List.mem_cons.mp h with rfl | h
      · exact .inl rfl
      · exact .inr (List.mem_cons_of_mem z h)
    · rcases List.mem_cons.mp h with rfl | h
      · exact .inr List.mem_cons_self
      · exact (ih h).imp id (List.mem_cons_of_mem z)

theorem nodup_putFirst_iff (hx : p x = true) (h : xs.Nodup) :
    (putFirst p x xs).Nodup ↔ (x ∈ xs → xs.find? p = some x) := by
  induction xs with
  | nil => exact iff_of_true (List.nodup_singleton x) nofun
  | cons y ys ih =>
    obtain ⟨hy, hys⟩ := List.nodup_cons.mp h
    rw [putFirst]
    cases hp : p y with
    | true =>
      rw [if_pos rfl, List.nodup_cons, and_iff_left hys, List.find?_cons_of_pos hp, Option.some_inj]
      constructor
      · intro hfresh hmem
        exact ((List.mem_cons.mp hmem).resolve_right hfresh).symm
      · intro hfirst hmem
        exact hy (hfirst (List.mem_cons_of_mem y hmem) ▸ hmem)
    | false =>
      have hne : x ≠ y := by
        rintro rfl
        rw [hx] at hp
        cases hp
      have hnew : y ∉ putFirst p x ys := fun hmem =>
        (mem_putFirst hmem).elim (fun h => hne h.symm) hy
      rw [if_neg Bool.false_ne_true, List.nodup_cons, and_iff_right hnew, ih hys,
        List.find?_cons_of_neg (by simp [hp]), List.mem_cons, or_iff_right hne]

end PutFirst

namespace Attribute

def putIn (l : List Attribute) (a : Attribute) : List Attribute := putFirst (·.key == a.key) a l

theorem keys_putIn (l : List Attribute) (a : Attribute) :
    (putIn l a).map Attribute.key = putFirst (· == a.key) a.key (l.map Attribute.key) :=
  map_putFirst fun _ => rfl

theorem nodup_putIn (h : (l.map Attribute.key).Nodup) : ((putIn l a).map Attribute.key).Nodup := by
  have hself : (a.key == a.key) = true := beq_self_eq_true a.key
  rw [keys_putIn]
  refine (nodup_putFirst_iff (p := (· == a.key)) hself h).mpr fun hmem => ?_
  have hsome : ((l.map Attribute.key).find? (· == a.key)).isSome = true :=
    List.find?_isSome.mpr ⟨a.key, hmem, hself⟩
  obtain ⟨k, hk⟩ := Option.isSome_iff_exists.mp hsome
  have hsame : (k == a.key) = true := List.find?_some (p := (· == a.key)) hk
  rw [hk, eq_of_beq hsame]

theorem nodup_foldl_putIn (h : (l.map Attribute.key).Nodup) :
    ((r.foldl putIn l).map Attribute.key).Nodup := by
  induction r generalizing l with
  | nil => exact h
  | cons a r ih => exact ih (nodup_putIn h)

theorem foldl_putIn_of_nodup (h : ((l ++ r).map Attribute.key).Nodup) :
    r.foldl putIn l = l ++ r := by
  induction r generalizing l with
  | nil => exact (List.append_nil l).symm
  | cons a r ih =>
    have hnext : l ++ a :: r = (l ++ [a]) ++ r := (List.append_assoc l [a] r).symm
    have hfresh : ∀ b ∈ l, (b.key == a.key) = false := by
      rw [List.map_append, List.map_cons] at h
      intro b hb
      exact beq_false_of_ne ((List.nodup_append.mp h).2.2 _ (List.mem_map_of_mem hb) _
        List.mem_cons_self)
    rw [List.foldl_cons, putIn, putFirst_of_none hfresh, ih (hnext ▸ h), hnext]

theorem foldl_putIn_nil_iff : l.foldl putIn [] = l ↔ (l.map Attribute.key).Nodup := by
  constructor
  · intro h
    rw [← h]
    exact nodup_foldl_putIn .nil
  · exact fun h => foldl_putIn_of_nodup h

theorem foldl_concat (l r : List Attribute) : r.foldl (fun l a => l ++ [a]) l = l ++ r := by
  induction r generalizing l with
  | nil => exact (List.append_nil l).symm
  | cons a r ih => rw [List.foldl_cons, ih, List.append_assoc, List.singleton_append]

end Attribute

namespace Attributes

open Attribute

theorem entries_set (es : List Entry) : ((⟨es, 0⟩ : Attributes).set m key value).entries =
    putFirst (m.holds key ·.key) ⟨key, .text value⟩ es := by
  rw [set, has]
  induction es with
  | nil => rfl
  | cons e es ih =>
    rw [putFirst]
    cases he : m.holds key e.key with
    | true =>
      have hfind : (⟨e :: es, 0⟩ : Attributes).find? m key = some e := List.find?_cons_of_pos he
      rw [hfind, Option.isSome_some, if_pos rfl, if_pos rfl, changeFirst, if_pos he]
    | false =>
      have hfind : (⟨e :: es, 0⟩ : Attributes).find? m key = (⟨es, 0⟩ : Attributes).find? m key :=
        List.find?_cons_of_neg (by simp [he])
      rw [if_neg Bool.false_ne_true, ← ih, hfind]
      by_cases hhas : ((⟨es, 0⟩ : Attributes).find? m key).isSome = true
      · rw [if_pos hhas, if_pos hhas, changeFirst, if_neg (by simp [he])]
      · rw [if_neg hhas, if_neg hhas]
        rfl

theorem toList_add (ha : isHiddenKey a.key = false) :
    (as.add a.key a.value).toList = as.toList ++ [a] := by
  rw [toList, add, visible_push ha, List.map_append]
  rfl

theorem toList_set (hkey : isHiddenKey key = false) : (as.set m key value).toList =
    putFirst (m.holds key ·.key) ⟨key, value⟩ as.toList := by
  rw [toList, visible_set hkey, alone, entries_set]
  exact map_putFirst fun _ => rfl

section Rows

variable {f : Attributes → Attribute → Attributes} {g : List Attribute → Attribute → List Attribute}

theorem toList_foldl (h : ∀ s a, isHiddenKey a.key = false → (f s a).toList = g s.toList a)
    (hl : ∀ a ∈ l, isHiddenKey a.key = false) : (l.foldl f as).toList = l.foldl g as.toList := by
  induction l generalizing as with
  | nil => rfl
  | cons a l ih =>
    obtain ⟨ha, hl⟩ := List.forall_mem_cons.mp hl
    rw [List.foldl_cons, List.foldl_cons, ih hl, h as a ha]

theorem hidden_foldl (h : ∀ s a, isHiddenKey a.key = false → (f s a).hidden = s.hidden)
    (hl : ∀ a ∈ l, isHiddenKey a.key = false) : (l.foldl f as).hidden = as.hidden := by
  induction l generalizing as with
  | nil => rfl
  | cons a l ih =>
    obtain ⟨ha, hl⟩ := List.forall_mem_cons.mp hl
    exact (ih hl).trans (h as a ha)

end Rows

theorem toList_merge (as incoming : Attributes) : (as.merge incoming).toList =
    if as.entries = [] then incoming.toList else incoming.toList.foldl putIn as.toList := by
  have hshown : ∀ a ∈ incoming.toList, isHiddenKey a.key = false := fun a ha =>
    shown_of_mem_toList ha
  rw [merge]
  split
  · next hnone =>
    have hempty : as.toList = [] := by rw [toList, visible, hnone]; rfl
    have hadd : ∀ (s : Attributes) (a : Attribute), isHiddenKey a.key = false →
        (s.add a.key a.value).toList = s.toList ++ [a] := fun _ _ ha => toList_add ha
    rw [toList_foldl (g := fun l a => l ++ [a]) hadd hshown, foldl_concat, hempty, List.nil_append]
  · exact toList_foldl (g := putIn) (fun _ _ ha => toList_set ha) hshown

theorem hidden_merge (as incoming : Attributes) : (as.merge incoming).hidden = as.hidden := by
  have hshown : ∀ a ∈ incoming.toList, isHiddenKey a.key = false := fun a ha =>
    shown_of_mem_toList ha
  rw [merge]
  split
  · exact hidden_foldl (fun _ _ ha => hidden_push ha) hshown
  · exact hidden_foldl (fun _ _ ha => hidden_set ha) hshown

end Attributes

open Attributes

theorem merged_stores_look_alike_iff {as as' bs bs' : Attributes} (ha : as.toList = as'.toList)
    (hb : bs.toList = bs'.toList) :
    ((as.merge bs).toList = (as'.merge bs').toList ↔
      ((as.entries = [] ↔ as'.entries = []) ∨ (bs.toList.map Attribute.key).Nodup)) ∧
    (as.merge bs).hidden = as.hidden ∧ (as'.merge bs').hidden = as'.hidden := by
  refine ⟨?_, hidden_merge as bs, hidden_merge as' bs'⟩
  have hnone : ∀ s : Attributes, s.entries = [] → s.toList = [] := by
    intro s hs
    rw [toList, visible, hs]
    rfl
  rw [toList_merge, toList_merge, ← ha, ← hb]
  by_cases h : as.entries = []
  · rw [if_pos h, hnone as h]
    by_cases h' : as'.entries = []
    · rw [if_pos h']
      exact iff_of_true rfl (.inl (iff_of_true h h'))
    · rw [if_neg h', eq_comm, Attribute.foldl_putIn_nil_iff]
      exact (or_iff_right fun hsame => h' (hsame.mp h)).symm
  · rw [if_neg h]
    by_cases h' : as'.entries = []
    · rw [if_pos h', ha, hnone as' h', Attribute.foldl_putIn_nil_iff]
      exact (or_iff_right fun hsame => h (hsame.mpr h')).symm
    · rw [if_neg h']
      exact iff_of_true rfl (.inl (iff_of_false h h'))

def twoUnderOne : Attributes := (Attributes.empty.add "k" (some "1")).add "k" (some "2")

def dataAlone : Attributes := Attributes.empty.setUserData "d" (some (.int 1))

theorem merged_stores_look_alike_iff_dataAlone :
    Attributes.empty.toList = dataAlone.toList ∧ dataAlone.isEmpty = true ∧
      (Attributes.empty.merge twoUnderOne).toList ≠ (dataAlone.merge twoUnderOne).toList ∧
      (dataAlone.merge twoUnderOne).hidden = dataAlone.hidden := by
  have hsame : Attributes.empty.toList = dataAlone.toList := by decide
  obtain ⟨hiff, -, hhidden⟩ := merged_stores_look_alike_iff hsame (rfl : twoUnderOne.toList = _)
  refine ⟨hsame, by decide, fun halike => ?_, hhidden⟩
  rcases hiff.mp halike with hnone | hnodup
  · exact absurd (hnone.mp rfl) (by decide)
  · exact absurd hnodup (by decide)

end MarkupForest
