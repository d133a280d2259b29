namespace MarkupForest

inductive Json where
  | null
  | bool (b : Bool)
  | number (written : List Char)
  | string (written : List Char)
  | array (items : List Json)
  | object (fields : List (List Char × Json))
  deriving Repr

namespace Json

def isSpace (c : Char) : Bool := c == ' ' || c == '\t' || c == '\n' || c == '\r'

def skipSpace (s : List Char) : List Char := s.dropWhile isSpace

def isHex (c : Char) : Bool :=
  c.isDigit || ('a' ≤ c && c ≤ 'f') || ('A' ≤ c && c ≤ 'F')

def stringBody? : List Char → Option (List Char × List Char)
  | [] => none
  | '\x22' :: s => some ([], s)
  | '\\' :: 'u' :: a :: b :: c :: d :: s =>
    if [a, b, c, d].all isHex then
      (stringBody? s).map fun (w, r) => (['\\', 'u', a, b, c, d] ++ w, r)
    else none
  | '\\' :: e :: s =>
    if e ∈ ['\x22', '\\', '/', 'b', 'f', 'n', 'r', 't'] then
      (stringBody? s).map fun (w, r) => ('\\' :: e :: w, r)
    else none
  | c :: s =>
    if c.toNat < 0x20 || c == '\\' then none
    else (stringBody? s).map fun (w, r) => (c :: w, r)

def digits? (s : List Char) : Option (List Char × List Char) :=
  let ds := s.takeWhile Char.isDigit
  if ds = [] then none else some (ds, s.drop ds.length)

def wholePart? : List Char → Option (List Char × List Char)
  | '0' :: s => if s.head?.any Char.isDigit then none else some (['0'], s)
  | s => digits? s

def fractionPart? : List Char → Option (List Char × List Char)
  | '.' :: s => (digits? s).map fun (ds, r) => ('.' :: ds, r)
  | s => some ([], s)

def exponentPart? : List Char → Option (List Char × List Char)
  | c :: s =>
    if c == 'e' || c == 'E' then
      let sign := s.takeWhile fun d => d == '+' || d == '-'
      if 1 < sign.length then none
      else (digits? (s.drop sign.length)).map fun (ds, r) => (c :: sign ++ ds, r)
    else some ([], c :: s)
  | [] => some ([], [])

def number? (s : List Char) : Option (List Char × List Char) := do
  let (minus, s) := match s with
    | '-' :: s => (['-'], s)
    | s => ([], s)
  let (whole, s) ← wholePart? s
  let (fraction, s) ← fractionPart? s
  let (exponent, s) ← exponentPart? s
  return (minus ++ whole ++ fraction ++ exponent, s)

mutual

def value? : Nat → List Char → Option (Json × List Char)
  | 0, _ => none
  | n + 1, s => match skipSpace s with
    | '\x22' :: s => (stringBody? s).map fun (w, r) => (.string w, r)
    | '[' :: s => match skipSpace s with
      | ']' :: r => some (.array [], r)
      | s => items? n s
    | '\x7b' :: s => match skipSpace s with
      | '\x7d' :: r => some (.object [], r)
      | s => fields? n s
    | 'n' :: 'u' :: 'l' :: 'l' :: r => some (.null, r)
    | 't' :: 'r' :: 'u' :: 'e' :: r => some (.bool true, r)
    | 'f' :: 'a' :: 'l' :: 's' :: 'e' :: r => some (.bool false, r)
    | s => (number? s).map fun (w, r) => (.number w, r)

def items? : Nat → List Char → Option (Json × List Char)
  | 0, _ => none
  | n + 1, s => do
    let (v, s) ← value? n s
    match skipSpace s with
    | ']' :: r => return (.array [v], r)
    | ',' :: s => match ← items? n s with
      | (.array vs, r) => return (.array (v :: vs), r)
      | _ => none
    | _ => none

def fields? : Nat → List Char → Option (Json × List Char)
  | 0, _ => none
  | n + 1, s => match skipSpace s with
    | '\x22' :: s => do
      let (key, s) ← stringBody? s
      match skipSpace s with
      | ':' :: s => do
        let (v, s) ← value? n s
        match skipSpace s with
        | '\x7d' :: r => return (.object [(key, v)], r)
        | ',' :: s => match ← fields? n s with
          | (.object fs, r) => return (.object ((key, v) :: fs), r)
          | _ => none
        | _ => none
      | _ => none
    | _ => none

end

/-- Every part takes a character at least, so the length bounds the parts. -/
def parse? (s : List Char) : Option Json :=
  match value? (s.length + 1) s with
  | some (v, r) => if skipSpace r = [] then some v else none
  | none => none

def hexValue (c : Char) : Nat :=
  if c.isDigit then c.toNat - '0'.toNat
  else if 'a' ≤ c then c.toNat - 'a'.toNat + 10
  else c.toNat - 'A'.toNat + 10

def unit (a b c d : Char) : Nat :=
  ((hexValue a * 16 + hexValue b) * 16 + hexValue c) * 16 + hexValue d

def plainEscape (c : Char) : Char :=
  if c = 'b' then '\x08' else if c = 'f' then '\x0c' else if c = 'n' then '\n'
  else if c = 'r' then '\r' else if c = 't' then '\t' else c

def text? : List Char → Option (List Char)
  | [] => some []
  | '\\' :: 'u' :: a :: b :: c :: d :: s =>
    let high := unit a b c d
    if high < 0xd800 || 0xdfff < high then (text? s).map (Char.ofNat high :: ·)
    else match s with
      | '\\' :: 'u' :: e :: f :: g :: h :: r =>
        let low := unit e f g h
        if high < 0xdc00 && 0xdc00 ≤ low && low ≤ 0xdfff then
          (text? r).map (Char.ofNat (0x10000 + (high - 0xd800) * 0x400 + (low - 0xdc00)) :: ·)
        else none
      | _ => none
  | '\\' :: e :: s => (text? s).map (plainEscape e :: ·)
  | c :: s => (text? s).map (c :: ·)

end Json

end MarkupForest
