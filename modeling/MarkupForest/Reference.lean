import MarkupForest.Settings
import MarkupForest.Text.Place

namespace MarkupForest

inductive Spot where
  | content
  | quoted
  deriving DecidableEq, Repr

namespace Reference

def spell (spot : Spot) (dialect : Dialect) (c : Char) : List Char :=
  if c = '&' then ['&', 'a', 'm', 'p', ';']
  else if c = '\u00a0' then
    match dialect with
    | .html => ['&', 'n', 'b', 's', 'p', ';']
    | .xml => ['&', '#', 'x', 'a', '0', ';']
  else if c = '<' ∧ (spot = .content ∨ dialect = .xml) then ['&', 'l', 't', ';']
  else if c = '>' ∧ spot = .content then ['&', 'g', 't', ';']
  else if c = '\x22' ∧ spot = .quoted then ['&', 'q', 'u', 'o', 't', ';']
  else [c]

def encode (spot : Spot) (dialect : Dialect) (s : List Char) : List Char :=
  s.flatMap (spell spot dialect)

def escape (spot : Spot) (dialect : Dialect) (s : String) : String :=
  String.ofList (encode spot dialect s.toList)

def named : List (List Char × Char) := [
  (['a', 'm', 'p'], '&'),
  (['l', 't'], '<'),
  (['g', 't'], '>'),
  (['q', 'u', 'o', 't'], '\x22'),
  (['a', 'p', 'o', 's'], '\x27'),
  (['n', 'b', 's', 'p'], '\u00a0'),
  (['c', 'o', 'p', 'y'], '©'),
  (['r', 'e', 'g'], '®'),
  (['t', 'r', 'a', 'd', 'e'], '™'),
  (['h', 'e', 'l', 'l', 'i', 'p'], '…'),
  (['m', 'd', 'a', 's', 'h'], '—'),
  (['n', 'd', 'a', 's', 'h'], '–'),
  (['l', 'a', 'q', 'u', 'o'], '«'),
  (['r', 'a', 'q', 'u', 'o'], '»')]

def nameValue? (name : List Char) : Option Char :=
  (named.find? (·.1 == name)).map (·.2)

def digit? (base : Nat) (c : Char) : Option Nat :=
  let d :=
    if '0' ≤ c ∧ c ≤ '9' then c.toNat - '0'.toNat
    else if 'a' ≤ c ∧ c ≤ 'f' then c.toNat - 'a'.toNat + 10
    else if 'A' ≤ c ∧ c ≤ 'F' then c.toNat - 'A'.toNat + 10
    else base
  if d < base then some d else none

def digitsFrom? (base n : Nat) : List Char → Option Nat
  | [] => some n
  | c :: s => match digit? base c with
    | some d => digitsFrom? base (n * base + d) s
    | none => none

def digits? (base : Nat) (s : List Char) : Option Nat :=
  if s = [] then none else digitsFrom? base 0 s

def number? (base : Nat) : List Char → Option Nat
  | '+' :: s => digits? base s
  | s => digits? base s

def scalar? (n : Nat) : Option Char := if n.isValidChar then some (Char.ofNat n) else none

def value? : List Char → Option Char
  | '#' :: 'x' :: s => (number? 16 s).bind scalar?
  | '#' :: 'X' :: s => (number? 16 s).bind scalar?
  | '#' :: s => (number? 10 s).bind scalar?
  | s => nameValue? s

def reach : Nat := 12

def read? (s : List Char) : Option (Char × List Char) :=
  let body := s.takeWhile (· != ';')
  match s.dropWhile (· != ';') with
  | [] => none
  | _ :: rest =>
    if reach < Text.width body + 1 then none
    else (value? body).map (·, rest)

theorem length_of_read? {s rest : List Char} {c : Char} (h : read? s = some (c, rest)) :
    rest.length < s.length := by
  have hs :=
      congrArg List.length (List.takeWhile_append_dropWhile (p := fun c => c != ';') (l := s))
  simp only [List.length_append] at hs
  unfold read? at h
  split at h
  · simp at h
  · next d r hd =>
    rw [hd] at hs
    dsimp only at h
    split at h
    · simp at h
    · obtain ⟨_, _, he⟩ := Option.map_eq_some_iff.1 h
      cases he
      simp only [List.length_cons] at hs
      omega

def decode : List Char → List Char
  | [] => []
  | c :: s =>
    if c = '&' then
      match _h : read? s with
      | some (d, rest) => d :: decode rest
      | none => '&' :: decode s
    else c :: decode s
termination_by s => s.length
decreasing_by
  · have := length_of_read? _h
    simp only [List.length_cons]
    omega
  · exact Nat.lt_succ_self _
  · exact Nat.lt_succ_self _

def unescape (s : String) : String := String.ofList (decode s.toList)

end Reference

end MarkupForest
