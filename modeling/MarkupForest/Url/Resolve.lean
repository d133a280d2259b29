import MarkupForest.Text.Blank
import MarkupForest.Url.Path

namespace MarkupForest

namespace Url

def isControlOrSpace (c : Char) : Bool := c.toNat ≤ 0x20

def trim (s : List Char) : List Char :=
  let s := s.dropWhile isControlOrSpace
  (s.reverse.dropWhile isControlOrSpace).reverse

def isSchemeChar (c : Char) : Bool := c.isAlphanum || c == '+' || c == '-' || c == '.'

def scheme? (s : List Char) : Option (List Char × List Char) :=
  match Path.bare (s.takeWhile (· != ':')), s.dropWhile (· != ':') with
  | c :: name, _ :: rest =>
    if c.isAlpha && name.all isSchemeChar then some ((c :: name).map Char.toLower, rest) else none
  | _, _ => none

def querySet (kind : SchemeKind) : Char → Bool := if kind.isSpecial then inWebQuery else inQuery

def withTail (u : Url) : List Char → Url
  | '?' :: s =>
    let q := encode (querySet u.kind) (s.takeWhile (· != '#'))
    match s.dropWhile (· != '#') with
    | _ :: r => { u with query := some q, fragment := some (encode inFragment r) }
    | [] => { u with query := some q, fragment := none }
  | '#' :: s => { u with query := none, fragment := some (encode inFragment s) }
  | _ => { u with query := none, fragment := none }

def withFragment (u : Url) (s : List Char) :
    Url := { u with fragment := some (encode inFragment s) }

def splitUser? (authority : List Char) : Option (List Char × List Char) :=
  match authority.reverse.dropWhile (· != '@') with
  | [] => none
  | _ :: user => some (user.reverse, (authority.reverse.takeWhile (· != '@')).reverse)

def isBreak (kind : SchemeKind) (c : Char) : Bool := Path.isSlash kind c || Path.isTail c

def hostPart (bracketed : Bool) : List Char → List Char
  | [] => []
  | c :: s =>
    if c = ':' && !bracketed then []
    else c :: hostPart (if c = '[' then true else if c = ']' then false else bracketed) s

def port? (scheme : List Char) (digits : List Char) : Option (Option Nat) :=
  if digits = [] then some none
  else if digits.all Char.isDigit then
    match Host.valueIn? 10 digits with
    | some n =>
      if 65535 < n then none
      else some (if defaultPort? scheme = some n then none else some n)
    | none => none
  else none

def userinfo (user : List Char) : List Char × Option (List Char) :=
  let name := encode inUserinfo (user.takeWhile (· != ':'))
  match user.dropWhile (· != ':') with
  | _ :: c :: s => (name, some (encode inUserinfo (c :: s)))
  | _ => (name, none)

def hostAndPort? (scheme : List Char) (kind : SchemeKind) (s : List Char) :
    Option (Option Host × Option Nat) := do
  let hostText := hostPart false s
  let rest := s.drop hostText.length
  if hostText = [] && (kind.isSpecial || rest != []) then none
  let host ← if hostText = [] then some none
    else (if kind.isSpecial then Host.ofDomain? hostText else Host.ofText? hostText).map some
  let port ← port? scheme ((rest.drop 1).takeWhile (· != '\\'))
  return (host, port)

def afterPort (s : List Char) : List Char :=
  (s.drop (hostPart false s).length).dropWhile (· != '\\')

def authority? (scheme : List Char) (kind : SchemeKind) (s : List Char) :
    Option (Authority × List Char) := do
  let (user, rest) := (splitUser? s).getD ([], s)
  let (host, port) ← hostAndPort? scheme kind rest
  let (name, password) := userinfo user
  if host.isNone && (name != [] || password.isSome) then none
  else return (⟨name, password, host, port⟩, afterPort rest)

def pathAfterAuthority (kind : SchemeKind) (keepsHost : Bool) (s : List Char) :
    Path.Reading × List Char :=
  match s.dropWhile Path.isStray with
  | [] => if kind.isSpecial then Path.read kind keepsHost ['/'] [] else (⟨[], keepsHost⟩, [])
  | c :: r =>
    if kind.isSpecial then
      Path.read kind keepsHost ['/'] (if c = '/' || c = '\\' then r else c :: r)
    else if Path.isTail c then (⟨[], keepsHost⟩, c :: r)
    else Path.read kind keepsHost (if c = '/' then [] else ['/']) (c :: r)

def afterSlashes? (scheme : List Char) (s : List Char) : Option Url := do
  let kind := SchemeKind.of scheme
  let front := s.takeWhile (!isBreak kind ·)
  let rest := s.dropWhile (!isBreak kind ·)
  if (splitUser? front).any (fun u => u.1 == [] && u.2 == []) && rest != [] then none
  let (authority, left) ← authority? scheme kind front
  let (r, tail) := pathAfterAuthority kind true (left ++ rest)
  return withTail ⟨scheme, some authority, r.path, none, none⟩ tail

def fileScheme : List Char := ['f', 'i', 'l', 'e']

def isAnySlash (c : Char) : Bool := c == '/' || c == '\\'

def fileHost? (s : List Char) : Option (Option Host) :=
  if s = [] || Path.isDrive s then some none
  else (Host.ofDomain? s).map fun
    | .name n => if n = ['l', 'o', 'c', 'a', 'l', 'h', 'o', 's', 't'] then none else some (.name n)
    | h => some h

def ofFile (host : Option Host) (r : Path.Reading × List Char) : Url :=
  withTail ⟨fileScheme, some (.ofHost (if r.1.keepsHost then host else none)), r.1.path, none, none⟩
    r.2

def fileWithHost? (s : List Char) : Option Url := do
  let front := s.takeWhile fun c => !(isAnySlash c || Path.isTail c)
  let rest := if Path.isDrive (Path.bare front) then s else s.drop front.length
  match ← fileHost? (Path.bare front) with
  | none => return ofFile none (Path.read .file false ['/'] rest)
  | some host => return ofFile (some host) (pathAfterAuthority .file true rest)

def firstSegment (path : List Char) : List Char := (path.drop 1).takeWhile (· != '/')

def file? (base : Option Url) (s : List Char) : Option Url :=
  match s.dropWhile Path.isStray with
  | [] => relative []
  | c :: r =>
    if isAnySlash c then
      match r.dropWhile Path.isStray with
      | [] => some (rooted [])
      | d :: t => if isAnySlash d then fileWithHost? t else some (rooted (d :: t))
    else relative (c :: r)
where
  rooted (rest : List Char) : Url :=
    let kept : List Char × Option Host :=
      match base with
      | some b =>
        if Path.startsWithDrive (Path.bare rest) then ([], none)
        else if Path.isPlainDrive (firstSegment b.path) then ('/' :: firstSegment b.path, none)
        else ([], b.authority.bind Authority.host)
      | none => ([], none)
    let r := Path.read .file true kept.1 ('/' :: rest)
    withTail ⟨fileScheme, some (.ofHost kept.2), r.1.path, none, none⟩ r.2
  relative (s : List Char) : Option Url :=
    match base, s with
    | none, s => some (ofFile none (Path.read .file false ['/'] s))
    | some b, [] => some { b with fragment := none }
    | some b, '?' :: s => some (withTail b ('?' :: Path.bare s))
    | some b, '#' :: s => some (withFragment b (Path.bare s))
    | some b, s =>
      if Path.startsWithDrive (Path.bare s) then some (ofFile none (Path.read .file false ['/'] s))
      else
        let r := Path.read .file true (Path.pop .file b.path) s
        some (withTail { b with path := r.1.path } r.2)

def relative? (b : Url) (s : List Char) : Option Url :=
  match s with
  | [] => some { b with fragment := none }
  | '?' :: s => some (withTail b ('?' :: s))
  | '#' :: s => some (withFragment b s)
  | c :: r =>
    if isAnySlash c then
      if (s.takeWhile isAnySlash).length < 2 then
        let p := Path.read b.kind true ['/'] r
        some (withTail { b with path := p.1.path } p.2)
      else if ['/', '/'].isPrefixOf s then afterSlashes? b.scheme (s.drop 2)
      else afterSlashes? b.scheme (s.dropWhile isAnySlash)
    else
      let above := Path.pop b.kind b.path
      let p := Path.read b.kind true (if above = [] then ['/'] else above) s
      some (withTail { b with path := p.1.path } p.2)

def withScheme? (base : Option Url) (scheme rest : List Char) : Option Url :=
  let s := Path.bare rest
  match SchemeKind.of scheme with
  | .file => file? (base.filter (·.kind == .file)) rest
  | .web => match base with
    | some b =>
      if (s.takeWhile isAnySlash).length < 2 && b.scheme == scheme then relative? b s
      else afterSlashes? scheme (s.dropWhile isAnySlash)
    | none => afterSlashes? scheme (s.dropWhile isAnySlash)
  | .other => match s with
    | '/' :: '/' :: r => afterSlashes? scheme r
    | '/' :: r =>
      let p := Path.read .other true ['/'] r
      some (withTail ⟨scheme, none, p.1.path, none, none⟩ p.2)
    | s =>
      let path := encode inControls (s.takeWhile (!Path.isTail ·))
      some (withTail ⟨scheme, none, path, none, none⟩ (s.dropWhile (!Path.isTail ·)))

def parse? (base : Option Url) (input : List Char) : Option Url :=
  let s := trim input
  match scheme? s, base with
  | some (scheme, rest), base => withScheme? base scheme rest
  | none, none => none
  | none, some b => match Path.bare s with
    | '#' :: r => some (withFragment b r)
    | t =>
      if b.isRootless then none
      else if b.kind = .file then file? (some b) s
      else relative? b t

def resolve (base reference : String) : String :=
  let input := Text.trimChars reference.toList
  let joined := (parse? none base.toList).bind fun b => parse? (some b) input
  match joined.or (parse? none input) with
  | some u => u.text
  | none => ""

end Url

end MarkupForest
