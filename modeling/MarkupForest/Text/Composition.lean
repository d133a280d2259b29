import MarkupForest.Text.CompositionTable

namespace MarkupForest.Text

def combiningClass (c : Char) : Nat :=
  match combiningClasses.find? fun r => r.first ≤ c.toNat && c.toNat ≤ r.last with
  | some r => r.combiningClass
  | none => 0

namespace Hangul

def syllables : Nat := 0xac00
def leads : Nat := 0x1100
def vowels : Nat := 0x1161

def tails : Nat := 0x11a7

def split? (c : Char) : Option (Char × Char) :=
  let n := c.toNat - syllables
  if c.toNat < syllables || 11172 ≤ n then none
  else if n % 28 = 0 then
    some (.ofNat (leads + n / 588), .ofNat (vowels + n % 588 / 28))
  else some (.ofNat (c.toNat - n % 28), .ofNat (tails + n % 28))

def join? (a b : Char) : Option Char :=
  let lead := a.toNat - leads
  let vowel := b.toNat - vowels
  let syllable := a.toNat - syllables
  let tail := b.toNat - tails
  if leads ≤ a.toNat && lead < 19 && vowels ≤ b.toNat && vowel < 21 then
    some (.ofNat (syllables + (lead * 21 + vowel) * 28))
  else if syllables ≤ a.toNat && syllable < 11172 && syllable % 28 = 0 && tails < b.toNat &&
      tail < 28 then
    some (.ofNat (a.toNat + tail))
  else none

end Hangul

def split? (c : Char) : Option (Char × Char) :=
  (Hangul.split? c).or
    ((composites.find? (·.whole == c.toNat)).map fun k => (.ofNat k.first, .ofNat k.second))

def join? (a b : Char) : Option Char :=
  (Hangul.join? a b).or
    ((composites.find? fun k => k.first == a.toNat && k.second == b.toNat).map (.ofNat ·.whole))

def takeApart : Nat → Char → List Char
  | 0, c => [c]
  | n + 1, c => match split? c with
    | some (a, b) => takeApart n a ++ [b]
    | none => [c]

def settle (c : Char) : List Char → List Char
  | [] => [c]
  | d :: s =>
    if combiningClass d ≠ 0 ∧
      combiningClass d < combiningClass c then d :: settle c s else c :: d :: s

/-- No character can be taken apart more than three times. -/
def decomposed (s : List Char) : List Char := (s.flatMap (takeApart 3)).foldr settle []

def joinAll (base : Char) (held : List Char) (last : Nat) : List Char → List Char
  | [] => base :: held
  | c :: s =>
    let k := combiningClass c
    match if held = [] || last < k then join? base c else none with
    | some whole => joinAll whole held last s
    | none =>
      if k = 0 then base :: held ++ joinAll c [] 0 s
      else joinAll base (held ++ [c]) k s

def composed (s : List Char) : List Char :=
  match decomposed s with
  | [] => []
  | c :: s => joinAll c [] 0 s

end MarkupForest.Text
