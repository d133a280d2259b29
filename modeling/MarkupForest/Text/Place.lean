import MarkupForest.Source.Position

namespace MarkupForest.Text

def width : List Char → Nat
  | [] => 0
  | c :: s => c.utf8Size + width s

@[simp] theorem width_nil : width [] = 0 := rfl

@[simp] theorem width_cons (c : Char) (s : List Char) : width (c :: s) = c.utf8Size + width s :=
  rfl

@[simp] theorem width_append (s t : List Char) : width (s ++ t) = width s + width t := by
  induction s with
  | nil => exact (Nat.zero_add _).symm
  | cons c s ih => rw [List.cons_append, width_cons, width_cons, ih, Nat.add_assoc]

def leading (stop : List Char → Bool) : List Char → List Char
  | [] => []
  | c :: s => if stop (c :: s) then [] else c :: leading stop s

def pastLeading (stop : List Char → Bool) : List Char → List Char
  | [] => []
  | c :: s => if stop (c :: s) then c :: s else pastLeading stop s

theorem leading_append_pastLeading (stop : List Char → Bool) (s : List Char) :
    leading stop s ++ pastLeading stop s = s := by
  induction s with
  | nil => rfl
  | cons c s ih =>
      unfold leading pastLeading
      split
      · rfl
      · simp [ih]

theorem drop_length_leading (stop : List Char → Bool) (s : List Char) :
    s.drop (leading stop s).length = pastLeading stop s := by
  induction s with
  | nil => rfl
  | cons c s ih =>
      unfold leading pastLeading
      split
      · rfl
      · simpa using ih

def startsIn (p : Char → Bool) : List Char → Bool
  | [] => false
  | c :: _ => p c

structure Place where
  offset : Nat
  rest : List Char
  deriving DecidableEq, Repr

namespace Place

def start (s : List Char) : Place := ⟨0, s⟩

def skip (n : Nat) (p : Place) : Place :=
  ⟨p.offset + width (p.rest.take n), p.rest.drop n⟩

@[simp] theorem rest_skip (n : Nat) (p : Place) : (p.skip n).rest = p.rest.drop n := rfl

theorem length_rest_skip (n : Nat) (p : Place) : (p.skip n).rest.length = p.rest.length - n :=
  List.length_drop

theorem length_rest_skip_le (n : Nat) (p : Place) :
    (p.skip n).rest.length ≤ p.rest.length := by
  rw [length_rest_skip]
  exact Nat.sub_le _ _

def skipWhile (f : Char → Bool) (p : Place) : Place :=
  p.skip (p.rest.takeWhile f).length

theorem length_rest_skipWhile_le (f : Char → Bool) (p : Place) :
    (p.skipWhile f).rest.length ≤ p.rest.length :=
  length_rest_skip_le _ p

theorem rest_skipWhile (f : Char → Bool) (p : Place) :
    (p.skipWhile f).rest = p.rest.dropWhile f := by
  simp only [skipWhile, rest_skip]
  generalize p.rest = s
  induction s with
  | nil => rfl
  | cons c s ih => by_cases h : f c = true <;> simp [h, ih]

def upTo (p q : Place) : Span := ⟨p.offset, q.offset⟩

end Place

end MarkupForest.Text
