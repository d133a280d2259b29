import MarkupForest.Attribute.Store
import Mathlib.Data.List.Basic
import Mathlib.Data.List.Induction

namespace MarkupForest

open Text

section Firsts

variable {α β : Type} {like : α → α → Bool} {l : List α} {a : α}

def repeats (like : α → α → Bool) (l : List α) (x : α × Nat) : Bool := (l.take x.2).any (like · x.1)

def firsts (like : α → α → Bool) (l : List α) : List α :=
  (l.zipIdx.filter (!repeats like l ·)).map Prod.fst

theorem firsts_concat (like : α → α → Bool) (l : List α) (a : α) :
    firsts like (l ++ [a]) = firsts like l ++ if l.any (like · a) then [] else [a] := by
  have hold :
      l.zipIdx.filter (!repeats like (l ++ [a]) ·) = l.zipIdx.filter (!repeats like l ·) := by
    refine List.filter_congr fun x hx => ?_
    have hlt := List.snd_lt_of_mem_zipIdx hx
    rw [repeats, repeats, List.take_append_of_le_length (by omega)]
  have hnew : repeats like (l ++ [a]) (a, l.length) = l.any (like · a) := by
    rw [repeats, List.take_left]
  rw [firsts, List.zipIdx_append, List.filter_append, hold, List.map_append, ← firsts,
    List.zipIdx_singleton, Nat.zero_add, List.filter_singleton, hnew]
  cases l.any (like · a) <;> rfl

theorem firsts_map (f : β → α) (l : List β) :
    firsts like (l.map f) = (firsts (fun a b => like (f a) (f b)) l).map f := by
  induction l using List.reverseRecOn with
  | nil => rfl
  | append_singleton l a ih =>
    rw [List.map_append, List.map_singleton, firsts_concat, firsts_concat, ih, List.map_append,
      List.any_map]
    congr 1
    exact (apply_ite (List.map f) _ [] [a]).symm

theorem firsts_sublist (like : α → α → Bool) (l : List α) : (firsts like l).Sublist l := by
  have h := (List.filter_sublist (p := (!repeats like l ·)) (l := l.zipIdx)).map Prod.fst
  rwa [List.zipIdx_map_fst] at h

theorem pairwise_firsts (like : α → α → Bool) (l : List α) :
    (firsts like l).Pairwise fun b a => like b a = false := by
  induction l using List.reverseRecOn with
  | nil => exact .nil
  | append_singleton l a ih =>
    rw [firsts_concat]
    split
    · rwa [List.append_nil]
    · next h =>
      refine List.pairwise_append.mpr ⟨ih, List.pairwise_singleton _ _, fun b hb c hc => ?_⟩
      rw [List.mem_singleton.mp hc, ← Bool.not_eq_true]
      exact fun hlike => h (List.any_eq_true.mpr ⟨b, (firsts_sublist like l).subset hb, hlike⟩)

theorem firsts_of_pairwise (h : l.Pairwise fun b a => like b a = false) : firsts like l = l := by
  induction l using List.reverseRecOn with
  | nil => rfl
  | append_singleton l a ih =>
    obtain ⟨hl, -, hlast⟩ := List.pairwise_append.mp h
    have hnone : l.any (like · a) = false :=
      List.any_eq_false.mpr fun b hb => by simp [hlast b hb a (List.mem_singleton.mpr rfl)]
    rw [firsts_concat, ih hl, hnone, if_neg Bool.false_ne_true]

theorem any_firsts (like : α → α → Bool)
    (htrans : ∀ a b c, like a b = true → like b c = true → like a c = true) (l : List α) (c : α) :
    (firsts like l).any (like · c) = l.any (like · c) := by
  induction l using List.reverseRecOn with
  | nil => rfl
  | append_singleton l b ih =>
    rw [firsts_concat, List.any_append, List.any_append, ih]
    split
    · next h =>
      obtain ⟨a, ha, hab⟩ := List.any_eq_true.mp h
      cases hbc : like b c with
      | false => simp [hbc]
      | true =>
        have hac : l.any (like · c) = true := List.any_eq_true.mpr ⟨a, ha, htrans a b c hab hbc⟩
        rw [hac, Bool.true_or, Bool.true_or]
    · rfl

theorem find?_of_mem_firsts (hrefl : ∀ a, like a a = true) (h : a ∈ firsts like l) :
    l.find? (like · a) = some a := by
  induction l using List.reverseRecOn with
  | nil => cases h
  | append_singleton l b ih =>
    rw [firsts_concat] at h
    rw [List.find?_append]
    rcases List.mem_append.mp h with h | h
    · rw [ih h, Option.some_or]
    · split at h
      · cases h
      · next hnone =>
        cases List.mem_singleton.mp h
        have hbefore : l.find? (like · a) = none := by
          rw [List.find?_eq_none]
          exact fun d hd hlike => hnone (List.any_eq_true.mpr ⟨d, hd, hlike⟩)
        rw [hbefore, Option.none_or, List.find?_cons_of_pos (by exact hrefl a)]

theorem length_firsts (like : α → α → Bool) (l : List α) :
    l.length - (firsts like l).length = l.zipIdx.countP (repeats like l) := by
  have hall := List.length_eq_countP_add_countP (repeats like l) (l := l.zipIdx)
  have hkept : (firsts like l).length = l.zipIdx.countP (!repeats like l ·) := by
    rw [firsts, List.length_map, List.countP_eq_length_filter]
  rw [List.length_zipIdx] at hall
  simp only [Bool.not_eq_true, Bool.decide_eq_false] at hall
  omega

end Firsts

namespace Attributes

variable {as : Attributes} {m : Match} {k l key : String} {e : Entry} {es : List Entry}
  {seen : List String} {n : Nat}

def Match.repeated (m : Match) (earlier e : Entry) : Bool := m.holds e.key earlier.key

theorem Match.holds_trans {j : String} (hjk : m.holds k j = true) (hkl : m.holds l k = true) :
    m.holds l j = true := by
  cases m with
  | exact => exact beq_iff_eq.mpr ((eq_of_beq hjk).trans (eq_of_beq hkl))
  | anyCase => exact sameLetters_trans hjk hkl

theorem firstOfEach_sublist : (firstOfEach m seen es).Sublist es := by
  induction es generalizing seen with
  | nil => exact List.Sublist.slnil
  | cons e es ih =>
    rw [firstOfEach]
    split
    · exact ih.cons e
    · exact ih.cons_cons e

theorem firstOfEach_concat : firstOfEach m seen (es ++ [e]) = firstOfEach m seen es ++
    if (seen ++ (firstOfEach m seen es).map Entry.key).any (m.holds e.key) then [] else [e] := by
  induction es generalizing seen with
  | nil => simp [firstOfEach]
  | cons d es ih =>
    rw [List.cons_append, firstOfEach, firstOfEach]
    split
    · exact ih
    · rw [ih, List.map_cons, List.append_assoc]
      rfl

theorem firstOfEach_eq_firsts (m : Match) (es : List Entry) :
    firstOfEach m [] es = firsts m.repeated es := by
  induction es using List.reverseRecOn with
  | nil => rfl
  | append_singleton es e ih =>
    have hany : ((firsts m.repeated es).map Entry.key).any (m.holds e.key) =
        es.any (m.repeated · e) := by
      rw [List.any_map]
      exact any_firsts m.repeated (fun _ _ _ => Match.holds_trans) es e
    rw [firstOfEach_concat, firsts_concat, ih, List.nil_append, hany]

theorem deduplicate_eq (as : Attributes) (m : Match) : as.deduplicate m =
    (⟨firsts m.repeated as.entries,
      as.changes + as.entries.zipIdx.countP (repeats m.repeated as.entries)⟩,
        as.entries.zipIdx.countP (repeats m.repeated as.entries)) := by
  simp only [deduplicate, firstOfEach_eq_firsts, length_firsts]

def eraseAt (as : Attributes) (i : Nat) : Attributes := ⟨as.entries.eraseIdx i, as.changes + 1⟩

def strike (m : Match) (key : String) (as : Attributes) (j : Nat) : Attributes :=
  if h : j < as.entries.length then
    if m.holds as.entries[j].key key then strike m key (as.eraseAt j) j
    else strike m key as (j + 1)
  else as
termination_by as.entries.length - j
decreasing_by
  · simp only [eraseAt, List.length_eraseIdx, if_pos h]
    omega
  · omega

theorem strike_append (pre : List Entry) :
    strike m key ⟨pre ++ es, n⟩ pre.length =
      ⟨pre ++ es.filter fun e => !m.holds e.key key, n + es.countP fun e => m.holds e.key key⟩ := by
  induction es generalizing pre n with
  | nil => simp [strike]
  | cons e es ih =>
    have hlt : pre.length < (pre ++ e :: es).length := by simp
    rw [strike, dif_pos hlt, List.getElem_append_right (Nat.le_refl _)]
    simp only [Nat.sub_self, List.getElem_cons_zero]
    cases he : m.holds e.key key with
    | true =>
      have herase : eraseAt ⟨pre ++ e :: es, n⟩ pre.length = ⟨pre ++ es, n + 1⟩ := by
        simp [eraseAt, List.eraseIdx_append_of_length_le]
      rw [if_pos rfl, herase, ih]
      simp [he, Nat.add_assoc, Nat.add_comm 1]
    | false =>
      have hnext := ih (n := n) (pre ++ [e])
      rw [List.append_assoc, List.length_append] at hnext
      rw [if_neg (by simp)]
      refine hnext.trans ?_
      simp [he]

theorem length_strike_le (m : Match) (key : String) (as : Attributes) (j : Nat) :
    (strike m key as j).entries.length ≤ as.entries.length := by
  fun_induction strike m key as j with
  | case1 as j hj _ ih =>
    refine Nat.le_trans ih ?_
    simp only [eraseAt, List.length_eraseIdx, if_pos hj]
    omega
  | case2 as j hj _ ih => exact ih
  | case3 => exact Nat.le_refl _

def strikeAll (m : Match) (as : Attributes) (i : Nat) : Attributes :=
  if h : i < as.entries.length then
    strikeAll m (strike m as.entries[i].key as (i + 1)) (i + 1)
  else as
termination_by as.entries.length - i
decreasing_by
  have := length_strike_le m as.entries[i].key as (i + 1)
  omega

theorem firstOfEach_cons_seen : firstOfEach m (k :: seen) es =
    firstOfEach m seen (es.filter fun e => !m.holds e.key k) := by
  induction es generalizing seen with
  | nil => rfl
  | cons e es ih =>
    cases he : m.holds e.key k with
    | true => simp [firstOfEach, he, ih]
    | false =>
      have hrest : firstOfEach m (k :: seen ++ [e.key]) es =
          firstOfEach m (seen ++ [e.key]) (es.filter fun e => !m.holds e.key k) := ih
      simp only [firstOfEach, List.any_cons, he, Bool.false_or, List.filter_cons, Bool.not_false,
        if_true, ih, hrest]

theorem strikeAll_append (pre : List Entry) :
    strikeAll m ⟨pre ++ es, n⟩ pre.length =
      ⟨pre ++ firstOfEach m [] es, n + (es.length - (firstOfEach m [] es).length)⟩ := by
  induction hlen : es.length using Nat.strongRecOn generalizing es pre n with
  | _ size ih =>
    cases es with
    | nil => simp [strikeAll, firstOfEach, ← hlen]
    | cons e es =>
      -- the entries after the first that its key does not match are fewer
      let rest := es.filter fun d => !m.holds d.key e.key
      have hsize : es.length = (es.countP fun d => m.holds d.key e.key) + rest.length := by
        have h := List.length_eq_countP_add_countP (fun d => m.holds d.key e.key) (l := es)
        simpa [rest, List.countP_eq_length_filter] using h
      have hlt : pre.length < (pre ++ e :: es).length := by simp
      have hstruck : strike m e.key ⟨pre ++ e :: es, n⟩ (pre.length + 1) =
          ⟨(pre ++ [e]) ++ rest, n + es.countP fun d => m.holds d.key e.key⟩ := by
        have h : strike m e.key ⟨(pre ++ [e]) ++ es, n⟩ (pre ++ [e]).length = _ :=
          strike_append (pre ++ [e])
        rwa [List.append_assoc, List.length_append] at h
      have hfirst : firstOfEach m [] (e :: es) = e :: firstOfEach m [] rest := by
        rw [← firstOfEach_cons_seen]
        rfl
      have hnext := ih rest.length (by rw [← hlen, List.length_cons]; omega)
        (n := n + es.countP fun d => m.holds d.key e.key) (pre ++ [e]) rfl
      rw [List.length_append, List.length_singleton] at hnext
      have hless : (firstOfEach m [] rest).length ≤ rest.length := firstOfEach_sublist.length_le
      rw [strikeAll, dif_pos hlt, List.getElem_append_right (Nat.le_refl _)]
      simp only [Nat.sub_self, List.getElem_cons_zero]
      rw [hstruck, hnext, hfirst, List.append_assoc, ← hlen, List.length_cons, List.length_cons]
      congr 1
      omega

theorem strikeAll_eq (as : Attributes) (m : Match) : strikeAll m as 0 = (as.deduplicate m).1 :=
  strikeAll_append []

end Attributes

theorem repeated_keys_are_dropped (as : Attributes) (m : Attributes.Match) :
    (as.deduplicate m).1.entries = firsts m.repeated as.entries ∧
      (as.deduplicate m).2 = as.entries.zipIdx.countP (repeats m.repeated as.entries) ∧
      (as.deduplicate m).1.entries.Pairwise (fun d e => m.holds e.key d.key = false) ∧
      (as.deduplicate m).1.deduplicate m = ((as.deduplicate m).1, 0) ∧
      Attributes.strikeAll m as 0 = (as.deduplicate m).1 := by
  have hapart := pairwise_firsts m.repeated as.entries
  refine ⟨by rw [Attributes.deduplicate_eq], by rw [Attributes.deduplicate_eq], ?_, ?_,
    Attributes.strikeAll_eq as m⟩
  · rw [Attributes.deduplicate_eq]
    exact hapart
  · have hnone := length_firsts m.repeated (firsts m.repeated as.entries)
    rw [firsts_of_pairwise hapart, Nat.sub_self] at hnone
    rw [Attributes.deduplicate_eq (as.deduplicate m).1]
    simp only [Attributes.deduplicate_eq as, firsts_of_pairwise hapart, ← hnone,
      Nat.add_zero]

example : firsts Attributes.Match.exact.repeated
      [⟨"href", .text "1"⟩, ⟨"HREF", .text "2"⟩, ⟨"href", .text none⟩] =
        [⟨"href", .text "1"⟩, ⟨"HREF", .text "2"⟩] ∧
    firsts Attributes.Match.anyCase.repeated
      [⟨"href", .text "1"⟩, ⟨"HREF", .text "2"⟩, ⟨"href", .text none⟩] =
        [⟨"href", .text "1"⟩] := by
  decide

end MarkupForest
