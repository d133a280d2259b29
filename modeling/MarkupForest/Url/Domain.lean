import MarkupForest.Text.Blank
import MarkupForest.Text.Composition
import MarkupForest.Text.Lowercase
import MarkupForest.Text.Parts
import MarkupForest.Url.DomainTable
import MarkupForest.Url.MappingTable
import MarkupForest.Url.Punycode

namespace MarkupForest.Url.Domain

open Text (inRanges)

def isAllowed (c : Char) : Bool := inRanges allowedRanges c || inRanges allowedBeyondRanges c

def MappedRun.form? (r : MappedRun) (c : Char) : Option (List Char) :=
  if r.first ≤ c.toNat then (Text.parts (· == ' ') r.forms.toList)[c.toNat - r.first]? else none

-- Letters of some scripts are allowed although they have lower-case forms.
def mappedChar (c : Char) : List Char :=
  if isAllowed c then [c]
  else if inRanges ignoredRanges c then []
  else (mappedRuns.findSome? (·.form? c)).getD [Text.lowerChar c]

def mapped (s : List Char) : List Char := Text.composed (s.flatMap mappedChar)

def isMark (c : Char) : Bool := inRanges nonspacingRanges c || inRanges spacingMarkRanges c

def isTransparent (c : Char) : Bool := inRanges nonspacingRanges c || inRanges transparentRanges c

def isVirama (c : Char) : Bool := Text.combiningClass c == 9

def meets (ranges : List (Nat × Nat)) (s : List Char) : Bool :=
  match s.dropWhile fun c => !inRanges ranges c && isTransparent c with
  | [] => false
  | c :: _ => inRanges ranges c

def nonJoiner : Char := '\u200c'
def joiner : Char := '\u200d'

/-- `before` is given from its end to its front. -/
def joinersFit (before : List Char) : List Char → Bool
  | [] => true
  | c :: s =>
    let fits :=
      if c = nonJoiner || c = joiner then
        before.head?.any isVirama ||
          (c = nonJoiner && meets joinsNextRanges before && meets joinsPreviousRanges s)
      else true
    fits && joinersFit (c :: before) s

def isLabel (s : List Char) : Bool :=
  s.length ≤ 1000 && s.all isAllowed && Text.composed s == s &&
    !s.head?.any isMark && joinersFit [] s

def isEncoded (s : List Char) : Bool := ['x', 'n', '-', '-'].isPrefixOf s

def readLabel? (s : List Char) : Option (List Char) :=
  if isEncoded s then
    if s.getLast? = some '-' || 2004 < s.length || !s.all Punycode.isPlain then none
    else (Punycode.decode? (s.drop 4)).filter isLabel
  else if s.all Punycode.isPlain || isLabel s then some s
  else none

def written (s : List Char) : List Char :=
  if s.all Punycode.isPlain then s else ['x', 'n', '-', '-'] ++ Punycode.encode s

inductive Direction where
  | left
  | right
  | arabicNumber
  | europeanNumber
  | nonspacing
  | neutral
  deriving DecidableEq, Repr

namespace Direction

def of (c : Char) : Direction :=
  if inRanges rightwardRanges c then .right
  else if inRanges arabicNumberRanges c then .arabicNumber
  else if inRanges europeanNumberRanges c then .europeanNumber
  else if inRanges nonspacingRanges c then .nonspacing
  else if inRanges neutralRanges c then .neutral
  else .left

def agree : List Direction → Bool
  | [] => true
  | .left :: ds =>
    let ds := (ds.reverse.dropWhile (· == .nonspacing)).reverse
    ds.all (fun d => d != .right && d != .arabicNumber) &&
      ds.getLast?.all fun d => d == .left || d == .europeanNumber
  | .right :: ds =>
    let ds := (ds.reverse.dropWhile (· == .nonspacing)).reverse
    ds.all (· != .left) && !(ds.contains .arabicNumber && ds.contains .europeanNumber) &&
      ds.getLast?.all fun d => d == .right || d == .arabicNumber || d == .europeanNumber
  | _ => false

def isRightward (d : Direction) : Bool := d == .right || d == .arabicNumber

end Direction

def standsForItself (s : List Char) : Bool := !isEncoded s && s.all Punycode.isPlain

-- Once one label is written from right to left, all have to agree in their directions.
def agree (texts : List (List Char)) : Bool :=
  let ds := texts.map (·.map Direction.of)
  !ds.any (·.any Direction.isRightward) || ds.all Direction.agree

def toAscii? (s : List Char) : Option (List Char) := do
  let labels := Text.parts (· == '.') (mapped s)
  let texts ← labels.mapM readLabel?
  if labels.all standsForItself || agree texts then
    some (['.'].intercalate (labels.map written))
  else none

end MarkupForest.Url.Domain
