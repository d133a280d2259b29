import MarkupForest.Text.Place
import Mathlib.Data.List.Infix

namespace MarkupForest

open Text

variable {source piece s t : List Char} {p q : Place} {n m : Nat} {f : Char → Bool}

namespace Text

def fromByte? : Nat → List Char → Option (List Char)
  | 0, s => some s
  | _ + 1, [] => none
  | n + 1, c :: s => if c.utf8Size ≤ n + 1 then fromByte? (n + 1 - c.utf8Size) s else none

def untilByte? : Nat → List Char → Option (List Char)
  | 0, _ => some []
  | _ + 1, [] => none
  | n + 1, c :: s =>
    if c.utf8Size ≤ n + 1 then (untilByte? (n + 1 - c.utf8Size) s).map (c :: ·) else none

theorem width_cons_succ (c : Char) (s : List Char) :
    ∃ n, width (c :: s) = n + 1 ∧ c.utf8Size ≤ n + 1 ∧ n + 1 - c.utf8Size = width s := by
  have hpos := c.utf8Size_pos
  refine ⟨c.utf8Size - 1 + width s, ?_, ?_, ?_⟩
  · rw [width_cons]
    omega
  · omega
  · omega

theorem fromByte?_width (s t : List Char) : fromByte? (width s) (s ++ t) = some t := by
  induction s with
  | nil => simp [fromByte?]
  | cons c s ih =>
    obtain ⟨n, hn, hle, hrest⟩ := width_cons_succ c s
    rw [hn, List.cons_append, fromByte?, if_pos hle, hrest, ih]

theorem untilByte?_width (s t : List Char) : untilByte? (width s) (s ++ t) = some s := by
  induction s with
  | nil => simp [untilByte?]
  | cons c s ih =>
    obtain ⟨n, hn, hle, hrest⟩ := width_cons_succ c s
    rw [hn, List.cons_append, untilByte?, if_pos hle, hrest, ih, Option.map_some]

theorem width_toList (s : String) : width s.toList = s.utf8ByteSize := by
  suffices h : ∀ l : List Char, width l = (String.ofList l).utf8ByteSize by
    rw [h, String.ofList_toList]
  intro l
  induction l with
  | nil => rfl
  | cons c l ih =>
    rw [width_cons, ih, String.ofList_cons, String.utf8ByteSize_append,
      String.utf8ByteSize_singleton]

theorem width_pos (hs : s ≠ []) : 0 < width s := by
  obtain ⟨c, t, rfl⟩ := List.exists_cons_of_ne_nil hs
  have hpos := c.utf8Size_pos
  rw [width_cons]
  omega

theorem le_width_of_fromByte? (h : fromByte? n s = some t) : n ≤ width s := by
  induction s generalizing n with
  | nil =>
    cases n with
    | zero => exact Nat.zero_le _
    | succ n => cases h
  | cons c s ih =>
    cases n with
    | zero => exact Nat.zero_le _
    | succ n =>
      rw [fromByte?] at h
      split at h
      · have hrest := ih h
        rw [width_cons]
        omega
      · cases h

theorem fromByte?_isSuffix (h : fromByte? n s = some t) : t <:+ s := by
  induction s generalizing n with
  | nil =>
    cases n with
    | zero =>
      cases h
      exact List.suffix_rfl
    | succ n => cases h
  | cons c s ih =>
    cases n with
    | zero =>
      cases h
      exact List.suffix_rfl
    | succ n =>
      rw [fromByte?] at h
      split at h
      · exact (ih h).trans (List.suffix_cons c s)
      · cases h

theorem untilByte?_isPrefix (h : untilByte? n s = some t) : t <+: s := by
  induction s generalizing n t with
  | nil =>
    cases n with
    | zero =>
      cases h
      exact List.prefix_rfl
    | succ n => cases h
  | cons c s ih =>
    cases n with
    | zero =>
      cases h
      exact List.nil_prefix
    | succ n =>
      rw [untilByte?] at h
      split at h
      · obtain ⟨t, ht, rfl⟩ := Option.map_eq_some_iff.mp h
        exact (List.prefix_cons_inj c).mpr (ih ht)
      · cases h

end Text

namespace Span

def slice? (source : List Char) (span : Span) : Option (List Char) :=
  if span.start ≤ span.stop then
    (fromByte? span.start source).bind (untilByte? (span.stop - span.start))
  else none

theorem slice?_append (s piece t : List Char) :
    Span.slice? (s ++ (piece ++ t)) ⟨width s, width s + width piece⟩ = some piece := by
  have hlen : width s + width piece - width s = width piece := Nat.add_sub_cancel_left _ _
  rw [slice?, if_pos (Nat.le_add_right _ _), fromByte?_width, Option.bind_some, hlen,
    untilByte?_width]

theorem start_le_of_slice? {span : Span} (h : span.slice? source = some piece) :
    span.start ≤ width source := by
  rw [slice?] at h
  split at h
  · obtain ⟨t, ht, _⟩ := Option.bind_eq_some_iff.mp h
    exact le_width_of_fromByte? ht
  · cases h

theorem infix_of_slice? {span : Span} (h : span.slice? source = some piece) :
    piece <:+: source := by
  rw [slice?] at h
  split at h
  · obtain ⟨t, ht, hpiece⟩ := Option.bind_eq_some_iff.mp h
    exact (untilByte?_isPrefix hpiece).isInfix.trans (fromByte?_isSuffix ht).isInfix
  · cases h

example :
    Span.slice? ['a', 'é', 'b'] ⟨1, 3⟩ = some ['é'] ∧ Span.slice? ['a', 'é', 'b'] ⟨1, 2⟩ = none ∧
    Span.slice? ['a', 'é', 'b'] ⟨3, 5⟩ = none := by decide

def InOrder : Nat → List Span → Nat → Prop
  | start, [], stop => start ≤ stop
  | start, s :: spans, stop => start ≤ s.start ∧ s.start ≤ s.stop ∧ InOrder s.stop spans stop

theorem InOrder.start_le {spans : List Span} (h : InOrder n spans m) {k : Nat} (hk : k ≤ n) :
    InOrder k spans m := by
  cases spans with
  | nil => exact Nat.le_trans hk h
  | cons s spans => exact ⟨Nat.le_trans hk h.1, h.2⟩

theorem InOrder.append {spans more : List Span} {k : Nat} (h : InOrder n spans k)
    (h' : InOrder k more m) : InOrder n (spans ++ more) m := by
  induction spans generalizing n with
  | nil => exact h'.start_le h
  | cons s spans ih => exact ⟨h.1, h.2.1, ih h.2.2⟩

end Span

namespace Text.Place

def In (source : List Char) (p : Place) : Prop :=
  ∃ before, source = before ++ p.rest ∧ p.offset = width before

theorem in_start (source : List Char) : (start source).In source := ⟨[], rfl, rfl⟩

theorem In.skip (hp : p.In source) (n : Nat) : (p.skip n).In source := by
  obtain ⟨before, hsource, hoffset⟩ := hp
  refine ⟨before ++ p.rest.take n, ?_, ?_⟩
  · rw [List.append_assoc, rest_skip, List.take_append_drop, hsource]
  · rw [width_append, ← hoffset]
    rfl

theorem In.offset_eq (hp : p.In source) (h : p.rest = []) : p.offset = width source := by
  obtain ⟨before, hsource, hoffset⟩ := hp
  rw [hoffset, hsource, h, List.append_nil]

theorem In.slice?_skip (hp : p.In source) (n : Nat) :
    (p.upTo (p.skip n)).slice? source = some (p.rest.take n) := by
  obtain ⟨before, hsource, hoffset⟩ := hp
  have hcut := Span.slice?_append before (p.rest.take n) (p.rest.drop n)
  rwa [List.take_append_drop, ← hsource, ← hoffset] at hcut

theorem In.slice?_of_isPrefix (hp : p.In source) (h : piece <+: p.rest) :
    (p.upTo (p.skip piece.length)).slice? source = some piece := by
  rw [hp.slice?_skip, ← List.prefix_iff_eq_take.mp h]

def Ahead (p q : Place) : Prop := ∃ n, q = p.skip n

theorem skip_skip (n m : Nat) (p : Place) : (p.skip n).skip m = p.skip (n + m) := by
  simp only [skip, List.drop_drop, List.take_add, width_append, Nat.add_assoc]

@[simp] theorem skip_zero (p : Place) : p.skip 0 = p := rfl

theorem Ahead.refl (p : Place) : p.Ahead p := ⟨0, rfl⟩

theorem ahead_skip (n : Nat) (p : Place) : p.Ahead (p.skip n) := ⟨n, rfl⟩

theorem ahead_skipWhile (f : Char → Bool) (p : Place) : p.Ahead (p.skipWhile f) := ahead_skip _ p

theorem Ahead.trans {r : Place} (h : p.Ahead q) (h' : q.Ahead r) : p.Ahead r := by
  obtain ⟨n, rfl⟩ := h
  obtain ⟨m, rfl⟩ := h'
  exact ⟨n + m, skip_skip n m p⟩

theorem Ahead.offset_le (h : p.Ahead q) : p.offset ≤ q.offset := by
  obtain ⟨n, rfl⟩ := h
  exact Nat.le_add_right _ _

theorem In.ahead (hp : p.In source) (h : p.Ahead q) : q.In source := by
  obtain ⟨n, rfl⟩ := h
  exact hp.skip n

theorem offset_lt_skip (h : p.rest ≠ []) (n : Nat) : p.offset < (p.skip (n + 1)).offset := by
  have hpos : 0 < width (p.rest.take (n + 1)) := width_pos (by simpa using h)
  exact Nat.lt_add_of_pos_right hpos

end Text.Place

end MarkupForest
