import MarkupForest.Url.Host

namespace MarkupForest

namespace Url

structure Authority where
  username : List Char
  password : Option (List Char)
  host : Option Host
  port : Option Nat
  deriving DecidableEq, Repr

namespace Authority

def ofHost (host : Option Host) : Authority := ⟨[], none, host, none⟩

def text (a : Authority) : List Char :=
  let user := a.username ++ match a.password with
    | some p => ':' :: p
    | none => []
  let host := match a.host with
    | some h => h.text
    | none => []
  let port := match a.port with
    | some n => ':' :: Host.decimal n
    | none => []
  user ++ (if user = [] then [] else ['@']) ++ host ++ port

end Authority

inductive SchemeKind where
  | file
  | web
  | other
  deriving DecidableEq, Repr

def webSchemes : List (List Char × Nat) := [
  (['h', 't', 't', 'p'], 80), (['h', 't', 't', 'p', 's'], 443), (['w', 's'], 80),
  (['w', 's', 's'], 443), (['f', 't', 'p'], 21)]

def defaultPort? (scheme : List Char) : Option Nat := (webSchemes.find? (·.1 == scheme)).map (·.2)

def SchemeKind.of (scheme : List Char) : SchemeKind :=
  if scheme = ['f', 'i', 'l', 'e'] then .file
  else if (defaultPort? scheme).isSome then .web
  else .other

def SchemeKind.isSpecial : SchemeKind → Bool
  | .other => false
  | _ => true

end Url

structure Url where
  scheme : List Char
  authority : Option Url.Authority
  path : List Char
  query : Option (List Char)
  fragment : Option (List Char)
  deriving DecidableEq, Repr

namespace Url

def kind (u : Url) : SchemeKind := .of u.scheme

def isRootless (u : Url) : Bool := u.authority.isNone && u.path.head? != some '/'

def chars (u : Url) : List Char :=
  let authority := match u.authority with
    | some a => ['/', '/'] ++ a.text
    | none => if ['/', '/'].isPrefixOf u.path then ['/', '.'] else []
  let query := match u.query with
    | some q => '?' :: q
    | none => []
  let fragment := match u.fragment with
    | some s => '#' :: s
    | none => []
  u.scheme ++ ':' :: authority ++ u.path ++ query ++ fragment

def text (u : Url) : String := String.ofList u.chars

end Url

end MarkupForest
