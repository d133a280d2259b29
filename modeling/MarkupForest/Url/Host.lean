import MarkupForest.Url.Domain
import MarkupForest.Url.Percent

namespace MarkupForest.Url

inductive Host where
  | name (s : List Char)
  | ipv4 (address : Nat)
  | ipv6 (pieces : List Nat)
  deriving DecidableEq, Repr

namespace Host

def valueIn? (base : Nat) (s : List Char) : Option Nat :=
  s.foldl (fun n c => match n, hexValue? c with
    | some n, some d => if d < base then some (n * base + d) else none
    | _, _ => none) (some 0)

def addressPart? : List Char → Option Nat
  | [] => none
  | '0' :: 'x' :: s => valueIn? 16 s
  | '0' :: c :: s => valueIn? 8 (c :: s)
  | s => valueIn? 10 s

def labels (s : List Char) : List (List Char) :=
  let parts := Text.parts (· == '.') s
  if parts.getLast? = some [] then parts.dropLast else parts

def endsInNumber (s : List Char) : Bool :=
  match (labels s).getLast? with
  | none => false
  | some last => (last != [] && last.all Char.isDigit) || (addressPart? last).isSome

def ipv4? (s : List Char) : Option Nat := do
  let parts ← (labels s).mapM addressPart?
  let last ← parts.getLast?
  let front := parts.dropLast
  let room := 1 <<< (8 * (4 - front.length))
  if 3 < front.length || room ≤ last || front.any (255 < ·) then none
  else some (front.foldl (fun n byte => n * 256 + byte) 0 * room + last)

def pieceDigits (s : List Char) : List Char :=
  (s.take 4).takeWhile fun c => (hexValue? c).isSome

def byte? (s : List Char) : Option Nat :=
  if s = [] || !s.all Char.isDigit || (1 < s.length && s.head? == some '0') then none
  else (valueIn? 10 s).filter (· ≤ 255)

def dotted? (s : List Char) : Option (List Nat) :=
  match (Text.parts (· == '.') s).map byte? with
  | [some a, some b, some c, some d] => some [a * 256 + b, c * 256 + d]
  | _ => none

def pieces? (done : List Nat) (gap : Option Nat) (s : List Char) : Option (List Nat × Option Nat) :=
  match s with
  | [] => some (done, gap)
  | ':' :: r =>
    if done.length = 8 || gap.isSome then none
    else pieces? (done ++ [0]) (some (done.length + 1)) r
  | s =>
    let digits := pieceDigits s
    if done.length = 8 then none
    else match _h : s.drop digits.length with
      | [] => (valueIn? 16 digits).map fun v => (done ++ [v], gap)
      | '.' :: _ =>
        if digits = [] || 6 < done.length then none
        else (dotted? s).map fun ps => (done ++ ps, gap)
      | ':' :: r =>
        if r = [] then none
        else match valueIn? 16 digits with
          | some v => pieces? (done ++ [v]) gap r
          | none => none
      | _ => none
termination_by s.length
decreasing_by
  · exact Nat.lt_succ_self _
  · have h := congrArg List.length _h
    rw [List.length_drop, List.length_cons] at h
    omega

def ipv6? (s : List Char) : Option (List Nat) := do
  let (done, gap) ← match s with
    | ':' :: ':' :: r => pieces? [0] (some 1) r
    | ':' :: _ => none
    | s => if s.length < 2 then none else pieces? [] none s
  match gap with
  | some g => some (done.take g ++ List.replicate (8 - done.length) 0 ++ done.drop g)
  | none => if done.length = 8 then some done else none

def decimal (n : Nat) : List Char := Nat.toDigits 10 n

def ipv4Text (n : Nat) : List Char :=
  decimal (n >>> 24) ++ '.' :: decimal ((n >>> 16) % 256) ++ '.' :: decimal ((n >>> 8) % 256) ++
    '.' :: decimal (n % 256)

def longestZeros (i : Nat) (best : Nat × Nat) : List Nat → Nat × Nat
  | [] => best
  | n :: ns =>
    let run := ((n :: ns).takeWhile (· == 0)).length
    longestZeros (i + 1) (if best.2 < run then (i, run) else best) ns

def piecesText (ns : List Nat) : List Char :=
  [':'].intercalate (ns.map (Nat.toDigits 16))

def ipv6Text (ns : List Nat) : List Char :=
  let run := longestZeros 0 (0, 0) ns
  if run.2 < 2 then piecesText ns
  else piecesText (ns.take run.1) ++ [':', ':'] ++ piecesText (ns.drop (run.1 + run.2))

def text : Host → List Char
  | .name s => s
  | .ipv4 n => ipv4Text n
  | .ipv6 ns => '[' :: ipv6Text ns ++ [']']

def isForbidden (c : Char) : Bool :=
  c == '\x00' || c == '\t' || c == '\n' || c == '\r' || c == ' ' || c == '#' || c == '/' ||
    c == ':' || c == '<' || c == '>' || c == '?' || c == '@' || c == '[' || c == '\\' || c == ']' ||
    c == '^' || c == '|'

def isForbiddenInDomain (c : Char) : Bool :=
  isForbidden c || c.toNat ≤ 0x1f || c == '%' || c.toNat == 0x7f

def bracketed? (s : List Char) : Option Host :=
  if s.getLast? = some ']' then (ipv6? s.dropLast).map .ipv6 else none

def ofDomain? (s : List Char) : Option Host :=
  match s with
  | '[' :: r => bracketed? r
  | s => do
    let domain ← Domain.toAscii? (← decode? s)
    if domain = [] || domain.any isForbiddenInDomain then none
    else if endsInNumber domain then (ipv4? domain).map .ipv4
    else some (.name domain)

def ofText? (s : List Char) : Option Host :=
  match s with
  | '[' :: r => bracketed? r
  | s => if s.any isForbidden then none else some (.name (encode inControls s))

end Host

end MarkupForest.Url
