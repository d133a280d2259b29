import MarkupForest.Source.LineIndex
import Mathlib.Data.List.Nodup

namespace MarkupForest

namespace LineIndex

variable {a : Array Nat} {c : Char} {x y l lo hi i j offset later : Nat} {source : String}
  {answer : Except Nat Nat}

def feedsBelow (source : String) (offset : Nat) : List Nat :=
  (source.toUTF8.data.toList.take offset).findIdxs (· == 0x0a)

def lineStart (source : String) (offset : Nat) : Nat :=
  match (feedsBelow source offset).getLast? with
  | some feed => feed + 1
  | none => 0

/-- The answers that a binary search may give. -/
inductive Sought (a : Array Nat) (x : Nat) : Except Nat Nat → Prop
  | found {i : Nat} : a[i]? = some x → Sought a x (.ok i)
  | missing {i : Nat} : i ≤ a.size →
      (∀ j y, a[j]? = some y → (j < i → y < x) ∧ (i ≤ j → x < y)) → Sought a x (.error i)

def less? (m n : Nat) : Option Nat := if n ≤ m then some (m - n) else none

def succ? (n : Nat) : Option Nat := if n < Position.nowhere then some (n + 1) else none

def pointed? : Except Nat Nat → Option Nat
  | .ok exact => some exact
  | .error next => less? next 1

/-- No position where the computation leaves the 64-bit numbers. -/
def position? (index : LineIndex) (offset : Nat) (answer : Except Nat Nat) : Option Position := do
  let line ← pointed? answer
  let start ← index.starts[line]?
  return ⟨offset, ← succ? line, ← succ? (← less? offset start)⟩

structure LastAtMost (a : Array Nat) (x l : Nat) : Prop where
  entry : ∃ y, a[l]? = some y ∧ y ≤ x
  next : ∀ y, a[l + 1]? = some y → x < y

theorem lastAtMost_spec (hlt : lo < hi) (hsize : hi ≤ a.size) (hlo : a.getD lo 0 ≤ x)
    (hhi : ∀ y, a[hi]? = some y → x < y) : LastAtMost a x (lastAtMost a x lo hi) := by
  fun_induction lastAtMost a x lo hi with
  | case1 lo hi hle =>
    obtain rfl : hi = lo + 1 := by omega
    rw [Array.getD_eq_getD_getElem?, Array.getElem?_eq_getElem (by omega)] at hlo
    exact ⟨⟨a[lo], Array.getElem?_eq_getElem (by omega), hlo⟩, hhi⟩
  | case2 lo hi hle mid hmid ih => exact ih (by omega) hsize hmid hhi
  | case3 lo hi hle mid hmid ih =>
    refine ih (by omega) (by omega) hlo fun y hy => ?_
    rw [Array.getD_eq_getD_getElem?, hy] at hmid
    exact Nat.lt_of_not_le hmid

theorem feed_not_mem_encode (hc : c ≠ '\n') : 0x0a ∉ String.utf8EncodeChar c := by
  have hval : c.val.toNat ≠ 10 := fun h => hc (Char.ext (UInt32.toNat_inj.mp h))
  have hbyte : ∀ {n}, (0x0a : UInt8) = UInt8.ofNat n → 10 = n % 256 := fun h => by
    simpa [← UInt8.toNat_inj] using h
  intro h
  unfold String.utf8EncodeChar at h
  simp only at h
  -- but for the form of one byte, all bytes are at least 128
  split at h
  · have := hbyte (List.mem_singleton.mp h)
    omega
  · split at h
    · simp only [List.mem_cons, List.not_mem_nil, or_false] at h
      rcases h with h | h <;> have := hbyte h <;> omega
    · split at h <;> simp only [List.mem_cons, List.not_mem_nil, or_false] at h
      · rcases h with h | h | h <;> have := hbyte h <;> omega
      · rcases h with h | h | h | h <;> have := hbyte h <;> omega

theorem lineStartsFrom_eq (k : Nat) (s : List Char) : lineStartsFrom k s =
    ((s.flatMap String.utf8EncodeChar).findIdxs (· == 0x0a) k).map (· + 1) := by
  induction s generalizing k with
  | nil => rfl
  | cons c s ih =>
    rw [List.flatMap_cons, List.findIdxs_append, String.length_utf8EncodeChar, lineStartsFrom, ih]
    split
    · next hc =>
      subst hc
      rfl
    · next hc =>
      have hnone : (String.utf8EncodeChar c).findIdxs (· == 0x0a) k = [] := by
        rw [List.findIdxs_eq_nil_iff]
        intro b hb
        rw [beq_eq_false_iff_ne]
        rintro rfl
        exact feed_not_mem_encode hc hb
      rw [hnone, List.nil_append]

def feeds (source : String) : List Nat := source.toUTF8.data.toList.findIdxs (· == 0x0a)

theorem starts_ofText : (ofText source).starts = (0 :: (feeds source).map (· + 1)).toArray := by
  have hbytes : source.toUTF8.data.toList = source.toList.flatMap String.utf8EncodeChar := by
    have h := String.toByteArray_ofList (l := source.toList)
    rw [String.ofList_toList] at h
    rw [String.toUTF8, h, List.utf8Encode, List.data_toByteArray]
  rw [ofText, lineStartsFrom_eq, feeds, hbytes]

theorem mem_feedsBelow : i ∈ feedsBelow source offset ↔ i < offset ∧ i ∈ feeds source := by
  simp only [feedsBelow, feeds, List.mem_findIdxs_iff_exists_getElem_pos, List.length_take,
    Nat.lt_min, List.getElem_take]
  exact ⟨fun ⟨⟨hlt, hlen⟩, h⟩ => ⟨hlt, hlen, h⟩, fun ⟨hlt, hlen, h⟩ => ⟨⟨hlt, hlen⟩, h⟩⟩

theorem feedsBelow_isPrefix : feedsBelow source offset <+: feeds source := by
  rw [feedsBelow, List.findIdxs_take]
  exact List.take_prefix _ _

theorem rising_feeds : (feeds source).Pairwise (· < ·) := List.pairwise_findIdxs

theorem getElem_feeds_lt_iff (hj : j < (feeds source).length) :
    (feeds source)[j] < offset ↔ j < (feedsBelow source offset).length := by
  constructor
  · intro hlt
    obtain ⟨i, hi, heq⟩ := List.getElem_of_mem
      (mem_feedsBelow.mpr ⟨hlt, List.getElem_mem hj⟩)
    rw [feedsBelow_isPrefix.getElem] at heq
    exact ((List.Nodup.getElem_inj_iff List.nodup_findIdxs).mp heq) ▸ hi
  · intro hlt
    have hmem := List.getElem_mem hlt
    rw [feedsBelow_isPrefix.getElem] at hmem
    exact (mem_feedsBelow.mp hmem).1

theorem getElem?_starts_zero : (ofText source).starts[0]? = some 0 := by
  rw [starts_ofText]
  rfl

theorem getElem?_starts_succ :
    (ofText source).starts[i + 1]? = (feeds source)[i]?.map (· + 1) := by
  rw [starts_ofText, List.getElem?_toArray, List.getElem?_cons_succ, List.getElem?_map]

theorem LastAtMost.eq_length (h : LastAtMost (ofText source).starts offset l) :
    l = (feedsBelow source offset).length := by
  obtain ⟨⟨y, hy, hle⟩, hnext⟩ := h
  apply Nat.le_antisymm
  · cases l with
    | zero => exact Nat.zero_le _
    | succ l =>
      rw [getElem?_starts_succ, Option.map_eq_some_iff] at hy
      obtain ⟨feed, hfeed, rfl⟩ := hy
      obtain ⟨hl, rfl⟩ := List.getElem?_eq_some_iff.mp hfeed
      exact (getElem_feeds_lt_iff hl).mp hle
  · by_contra hlt
    have hl := Nat.lt_of_lt_of_le (Nat.lt_of_not_le hlt) feedsBelow_isPrefix.length_le
    have hfeed := (getElem_feeds_lt_iff hl).mpr (Nat.lt_of_not_le hlt)
    have hstart := hnext ((feeds source)[l] + 1) (by
      rw [getElem?_starts_succ, List.getElem?_eq_getElem hl, Option.map_some])
    omega

theorem getElem?_starts_length :
    (ofText source).starts[(feedsBelow source offset).length]? =
      some (lineStart source offset) := by
  unfold lineStart
  cases hlast : (feedsBelow source offset).getLast? with
  | none =>
    rw [List.getLast?_eq_none_iff.mp hlast]
    exact getElem?_starts_zero
  | some feed =>
    obtain ⟨before, hsplit⟩ := List.getLast?_eq_some_iff.mp hlast
    have hlt : before.length < (feedsBelow source offset).length := by simp [hsplit]
    have hfeed : (feeds source)[before.length]? = some feed := by
      rw [List.getElem?_eq_getElem (Nat.lt_of_lt_of_le hlt feedsBelow_isPrefix.length_le),
        ← feedsBelow_isPrefix.getElem hlt]
      simp [hsplit]
    rw [hsplit, List.length_append, List.length_singleton, getElem?_starts_succ, hfeed,
      Option.map_some]

theorem lineStart_le : lineStart source offset ≤ offset := by
  unfold lineStart
  split
  · next feed hlast => exact (mem_feedsBelow.mp (List.mem_of_getLast? hlast)).1
  · exact Nat.zero_le _

theorem length_feedsBelow_le : (feedsBelow source offset).length ≤ offset := by
  rw [feedsBelow, List.length_findIdxs]
  exact Nat.le_trans List.countP_le_length (List.length_take_le _ _)

theorem lastAtMost_starts : LastAtMost (ofText source).starts offset
    (lastAtMost (ofText source).starts offset 0 (ofText source).starts.size) := by
  have hzero : (ofText source).starts[0]? = some 0 := getElem?_starts_zero
  have hsize := (Array.getElem?_eq_some_iff.mp hzero).1
  refine lastAtMost_spec hsize (Nat.le_refl _) ?_ (by simp)
  rw [Array.getD_eq_getD_getElem?, hzero, Option.getD_some]
  exact Nat.zero_le offset

theorem position_eq : (ofText source).position offset =
    ⟨offset, 1 + (feedsBelow source offset).length, 1 + (offset - lineStart source offset)⟩ := by
  simp only [position, lastAtMost_starts.eq_length, Array.getD_eq_getD_getElem?,
    getElem?_starts_length, Option.getD_some]
  rw [Nat.add_comm, Nat.add_comm _ 1]

theorem starts_lt (hij : i < j) (hx : (ofText source).starts[i]? = some x)
    (hy : (ofText source).starts[j]? = some y) : x < y := by
  have hrising : (0 :: (feeds source).map (· + 1)).Pairwise (· < ·) :=
    .cons (by simp) (List.pairwise_map.mpr (rising_feeds.imp Nat.succ_lt_succ))
  rw [starts_ofText, List.getElem?_toArray] at hx hy
  obtain ⟨hi, rfl⟩ := List.getElem?_eq_some_iff.mp hx
  obtain ⟨hj, rfl⟩ := List.getElem?_eq_some_iff.mp hy
  exact List.pairwise_iff_getElem.mp hrising i j hi hj hij

theorem Sought.lastAtMost (h : Sought (ofText source).starts offset answer) :
    ∃ l, pointed? answer = some l ∧ LastAtMost (ofText source).starts offset l := by
  cases h with
  | @found i hi =>
    exact ⟨i, rfl, ⟨offset, hi, Nat.le_refl _⟩, fun y hy => starts_lt (Nat.lt_succ_self i) hi hy⟩
  | @missing i hi hall =>
    have hpos : 0 < i := by
      by_contra hzero
      exact Nat.not_lt_zero _ ((hall 0 0 getElem?_starts_zero).2 (Nat.le_of_not_lt hzero))
    obtain ⟨i, rfl⟩ := Nat.exists_eq_succ_of_ne_zero (Nat.ne_of_gt hpos)
    have hentry : (ofText source).starts[i]? = some (ofText source).starts[i] :=
      Array.getElem?_eq_getElem hi
    refine ⟨i, by rw [pointed?, less?, if_pos (Nat.succ_le_of_lt hpos), Nat.succ_sub_one],
      ⟨_, hentry, ?_⟩, fun y hy => ?_⟩
    · exact Nat.le_of_lt ((hall i _ hentry).1 (Nat.lt_succ_self i))
    · exact (hall (i + 1) y hy).2 (Nat.le_refl _)

theorem LastAtMost.exists_sought (h : LastAtMost (ofText source).starts offset l) :
    ∃ answer, Sought (ofText source).starts offset answer := by
  obtain ⟨⟨y, hy, hle⟩, hnext⟩ := h
  rcases Nat.eq_or_lt_of_le hle with rfl | hlt
  · exact ⟨.ok l, .found hy⟩
  · refine ⟨.error (l + 1), .missing (Array.getElem?_eq_some_iff.mp hy).1 fun j z hz => ⟨?_, ?_⟩⟩
    · intro hj
      rcases Nat.eq_or_lt_of_le (Nat.le_of_lt_succ hj) with rfl | hj
      · rwa [← Option.some_inj.mp (hy.symm.trans hz)]
      · exact Nat.lt_trans (starts_lt hj hz hy) hlt
    · intro hj
      rcases Nat.eq_or_lt_of_le hj with rfl | hj
      · exact hnext z hz
      · have hl : l + 1 < (ofText source).starts.size :=
          Nat.lt_trans hj (Array.getElem?_eq_some_iff.mp hz).1
        have hentry := Array.getElem?_eq_getElem hl
        exact Nat.lt_trans (hnext _ hentry) (starts_lt hj hentry hz)

theorem position?_eq (hfit : offset < Position.nowhere)
    (h : Sought (ofText source).starts offset answer) :
    (ofText source).position? offset answer = some ((ofText source).position offset) := by
  obtain ⟨l, hl, hlast⟩ := h.lastAtMost
  obtain rfl := hlast.eq_length
  have hline : succ? (feedsBelow source offset).length =
      some (1 + (feedsBelow source offset).length) := by
    rw [succ?, if_pos (Nat.lt_of_le_of_lt length_feedsBelow_le hfit), Nat.add_comm]
  have hcolumn : less? offset (lineStart source offset) =
      some (offset - lineStart source offset) := if_pos lineStart_le
  have hcolumn' : succ? (offset - lineStart source offset) =
      some (1 + (offset - lineStart source offset)) := by
    rw [succ?, if_pos (Nat.lt_of_le_of_lt (Nat.sub_le _ _) hfit), Nat.add_comm]
  simp only [position?, hl, getElem?_starts_length, hline, hcolumn, hcolumn', position_eq,
    Option.bind_eq_bind, Option.bind_some, Option.pure_def]

theorem feedsBelow_prefix_later (hle : offset ≤ later) :
    feedsBelow source offset <+: feedsBelow source later := by
  refine List.prefix_of_prefix_length_le feedsBelow_isPrefix feedsBelow_isPrefix ?_
  rw [feedsBelow, feedsBelow, List.length_findIdxs, List.length_findIdxs]
  exact (List.take_prefix_take_left hle).sublist.countP_le

theorem position_lt (hlt : offset < later) :
    ((ofText source).position offset).line < ((ofText source).position later).line ∨
      ((ofText source).position offset).line = ((ofText source).position later).line ∧
      ((ofText source).position offset).column < ((ofText source).position later).column := by
  simp only [position_eq]
  have hprefix : feedsBelow source offset <+: feedsBelow source later :=
    feedsBelow_prefix_later (Nat.le_of_lt hlt)
  rcases Nat.eq_or_lt_of_le hprefix.length_le with hlen | hmore
  · have hsame := hprefix.eq_of_length hlen
    have hstart : lineStart source later = lineStart source offset := by
      rw [lineStart, lineStart, hsame]
    have hle : lineStart source offset ≤ offset := lineStart_le
    rw [hsame, hstart]
    exact .inr ⟨rfl, by omega⟩
  · exact .inl (by omega)

theorem positions_count_feeds (source : String) {offset : Nat} (h : offset < Position.nowhere) :
    (ofText source).position offset =
      ⟨offset, 1 + (feedsBelow source offset).length, 1 + (offset - lineStart source offset)⟩ ∧
    lineStart source offset ≤ offset ∧
    (∃ answer, Sought (ofText source).starts offset answer) ∧
    (∀ answer, Sought (ofText source).starts offset answer →
      (ofText source).position? offset answer = some ((ofText source).position offset)) ∧
    ∀ later, offset < later →
      ((ofText source).position offset).line < ((ofText source).position later).line ∨
      ((ofText source).position offset).line = ((ofText source).position later).line ∧
        ((ofText source).position offset).column < ((ofText source).position later).column :=
  ⟨position_eq, lineStart_le, lastAtMost_starts.exists_sought, fun _ => position?_eq h,
    fun _ => position_lt⟩

theorem positions_count_feeds_pastEnd :
    9 < Position.nowhere ∧ (ofText "ab\ncd\n\nx").position 9 = ⟨9, 4, 3⟩ ∧
      (ofText "ab\ncd\n\nx").position? 9 (.error 4) = some ⟨9, 4, 3⟩ := by
  have hfit : 9 < Position.nowhere := by decide
  obtain ⟨hposition, _, _, hsearch, _⟩ := positions_count_feeds "ab\ncd\n\nx" hfit
  have hfeeds : feedsBelow "ab\ncd\n\nx" 9 = [2, 5, 6] := by decide
  have hplace : (ofText "ab\ncd\n\nx").position 9 = ⟨9, 4, 3⟩ := by
    rw [hposition, lineStart, hfeeds]
    rfl
  have hbefore : ∀ y ∈ (ofText "ab\ncd\n\nx").starts, y < 9 := by decide
  refine ⟨hfit, hplace, hplace ▸ hsearch (.error 4) (.missing (by decide) fun j y hy => ⟨?_, ?_⟩)⟩
  · exact fun _ => hbefore y (Array.mem_of_getElem? hy)
  · intro hj
    exact absurd (Array.getElem?_eq_some_iff.mp hy).1 (Nat.not_lt.mpr hj)

end LineIndex

end MarkupForest
