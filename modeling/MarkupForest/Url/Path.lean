import MarkupForest.Url.Basic

namespace MarkupForest.Url.Path

def isDrive : List Char → Bool
  | [c, d] => c.isAlpha && (d == ':' || d == '|')
  | _ => false

def isPlainDrive : List Char → Bool
  | [c, d] => c.isAlpha && d == ':'
  | _ => false

def startsWithDrive : List Char → Bool
  | c :: d :: s =>
    isDrive [c, d] && match s with
      | [] => true
      | e :: _ => e == '/' || e == '\\' || e == '?' || e == '#'
  | _ => false

def lastSegment (path : List Char) : List Char := (path.reverse.takeWhile (· != '/')).reverse

def upToLastSlash (path : List Char) : List Char := (path.reverse.dropWhile (· != '/')).reverse

def pop (kind : SchemeKind) (path : List Char) : List Char :=
  if kind = .file && isPlainDrive (lastSegment path) then path else upToLastSlash path

def yieldsSlash (path : List Char) : Bool :=
  let before := path.dropLast
  before.contains '/' && !startsWithDrive (lastSegment before ++ ['/'])

def isSingleDot (s : List Char) : Bool :=
  s.map Char.toLower ∈ [['.'], ['%', '2', 'e']]

def isDoubleDot (s : List Char) : Bool :=
  s.map Char.toLower ∈ [['.', '.'], ['.', '%', '2', 'e'], ['%', '2', 'e', '.'],
    ['%', '2', 'e', '%', '2', 'e']]

def endWithSlash (path : List Char) : List Char :=
  if path.getLast? = some '/' then path else path ++ ['/']

structure Reading where
  path : List Char
  keepsHost : Bool

def up (kind : SchemeKind) (path : List Char) (slash : Bool) : List Char :=
  let path := if path.getLast? = some '/' && yieldsSlash path then path.dropLast else path
  let path := pop kind path
  if slash then endWithSlash path else path

def isStray (c : Char) : Bool := c == '\t' || c == '\n' || c == '\r'

def bare (s : List Char) : List Char := s.filter (!isStray ·)

structure Draft where
  front : List Char
  segment : List Char

/-- After a drive letter that stands alone comes a slash, and the segment begins one character
later. -/
def Draft.add (kind : SchemeKind) (d : Draft) (piece : List Char) : Draft :=
  let path := d.front ++ d.segment
  let written := encode inPath piece
  if piece = [] then d
  else if kind = .file && isPlainDrive (path.drop 1) then
    let path := path ++ '/' :: written
    ⟨path.take (d.front.length + 1), path.drop (d.front.length + 1)⟩
  else { d with segment := d.segment ++ written }

def step (kind : SchemeKind) (r : Reading) (segment : List Char) (slash : Bool) : Reading :=
  let ⟨front, written⟩ := (Text.parts isStray segment).foldl (Draft.add kind) ⟨r.path, []⟩
  let close := if slash then ['/'] else []
  if isDoubleDot written then { r with path := up kind front slash }
  else if isSingleDot written then { r with path := endWithSlash front }
  else if kind = .file && front.length = 1 && isDrive written then
    ⟨front ++ written.take 1 ++ ':' :: close, false⟩
  else { r with path := front ++ written ++ close }

def isSlash (kind : SchemeKind) (c : Char) : Bool := c == '/' || (kind.isSpecial && c == '\\')

def steps (kind : SchemeKind) (r : Reading) (segment : List Char) : List Char → Reading
  | [] => step kind r segment false
  | c :: s =>
    if isSlash kind c then steps kind (step kind r segment true) [] s
    else steps kind r (segment ++ [c]) s

def isTail (c : Char) : Bool := c == '?' || c == '#'

def read (kind : SchemeKind) (keepsHost : Bool) (path input : List Char) : Reading × List Char :=
  let r := steps kind ⟨path, keepsHost⟩ [] (input.takeWhile (!isTail ·))
  let done := if kind = .file then { r with path := '/' :: r.path.dropWhile (· == '/') } else r
  (done, bare (input.dropWhile (!isTail ·)))

end MarkupForest.Url.Path
