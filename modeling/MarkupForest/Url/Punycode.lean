namespace MarkupForest.Url.Punycode

def digit? (c : Char) : Option Nat :=
  if 'a' ≤ c ∧ c ≤ 'z' then some (c.toNat - 'a'.toNat)
  else if 'A' ≤ c ∧ c ≤ 'Z' then some (c.toNat - 'A'.toNat)
  else if '0' ≤ c ∧ c ≤ '9' then some (c.toNat - '0'.toNat + 26)
  else none

def threshold (k bias : Nat) : Nat :=
  if k ≤ bias then 1 else if bias + 26 ≤ k then 26 else k - bias

def greatest : Nat := 0xffffffff

def readNumber (bias k weight i : Nat) : List Char → Option (Nat × List Char)
  | [] => none
  | c :: s =>
    match digit? c with
    | none => none
    | some d =>
      let t := threshold k bias
      let i := i + d * weight
      if greatest < i then none
      else if d < t then some (i, s)
      else if greatest < weight * (36 - t) then none
      else readNumber bias (k + 36) (weight * (36 - t)) i s

theorem length_of_readNumber {bias k weight i : Nat} {s : List Char} {r : Nat × List Char}
    (h : readNumber bias k weight i s = some r) : r.2.length < s.length := by
  induction s generalizing k weight i with
  | nil => simp [readNumber] at h
  | cons c s ih =>
      unfold readNumber at h
      split at h
      · simp at h
      · dsimp only at h
        split at h
        · simp at h
        · split at h
          · cases h
            exact Nat.lt_succ_self _
          · split at h
            · simp at h
            · exact Nat.lt_succ_of_lt (ih h)

def shrink (delta k : Nat) : Nat × Nat :=
  if 455 < delta then shrink (delta / 35) (k + 36) else (delta, k)
termination_by delta
decreasing_by exact Nat.div_lt_self (by omega) (by omega)

def adapt (delta size : Nat) (first : Bool) : Nat :=
  let delta := if first then delta / 700 else delta / 2
  let (delta, k) := shrink (delta + delta / size) 0
  k + 36 * delta / (delta + 38)

/-- A number counts on from the place after the last character that was put in, round the text. -/
def insertAll (bias char i : Nat) (text : List Char) (s : List Char) : Option (List Char) :=
  match s with
  | [] => some text
  | c :: rest =>
    match _h : readNumber bias 36 1 i (c :: rest) with
    | none => none
    | some (n, left) =>
      let size := text.length + 1
      let char' := char + n / size
      if char'.isValidChar then
        insertAll (adapt (n - i) size (i == 0)) char' (n % size + 1)
          (text.insertIdx (n % size) (Char.ofNat char')) left
      else none
termination_by s.length
decreasing_by exact length_of_readNumber _h

def decode? (s : List Char) : Option (List Char) :=
  match s.reverse.dropWhile (· != '-') with
  | [] => insertAll 72 0x80 0 [] s
  | _ :: [] => none
  | _ :: plain => insertAll 72 0x80 0 plain.reverse (s.reverse.takeWhile (· != '-')).reverse

def digitChar (d : Nat) : Char :=
  .ofNat (if d < 26 then 'a'.toNat + d else '0'.toNat + (d - 26))

theorem threshold_pos (k bias : Nat) : 0 < threshold k bias := by
  unfold threshold
  split
  · exact Nat.one_pos
  · split <;> omega

def writeNumber (bias k n : Nat) : List Char :=
  let t := threshold k bias
  if n < t then [digitChar n]
  else digitChar (t + (n - t) % (36 - t)) :: writeNumber bias (k + 36) ((n - t) / (36 - t))
termination_by n
decreasing_by
  have ht := threshold_pos k bias
  calc (n - threshold k bias) / (36 - threshold k bias)
      ≤ n - threshold k bias := Nat.div_le_self _ _
    _ < n := by omega

structure Writer where
  bias : Nat
  delta : Nat
  size : Nat
  text : List Char

def Writer.pass (plain char : Nat) (w : Writer) (c : Char) : Writer :=
  if c.toNat < char then { w with delta := w.delta + 1 }
  else if c.toNat = char then
    { bias := adapt w.delta (w.size + 1) (w.size == plain)
      delta := 0
      size := w.size + 1
      text := w.text ++ writeNumber w.bias 36 w.delta }
  else w

-- `char` is the character up to which the text has been written.
def writeAll (s : List Char) (plain char : Nat) (w : Writer) : List Nat → Writer
  | [] => w
  | next :: later =>
    let w := s.foldl (Writer.pass plain next)
      { w with delta := w.delta + (next - char) * (w.size + 1) }
    writeAll s plain (next + 1) { w with delta := w.delta + 1 } later

def isPlain (c : Char) : Bool := c.toNat < 0x80

def encode (s : List Char) : List Char :=
  let plain := s.filter isPlain
  let others := ((s.filter (!isPlain ·)).map Char.toNat).mergeSort.eraseDups
  (writeAll s plain.length 0x80
    { bias := 72
      delta := 0
      size := plain.length
      text := if plain = [] then [] else plain ++ ['-'] } others).text

end MarkupForest.Url.Punycode
