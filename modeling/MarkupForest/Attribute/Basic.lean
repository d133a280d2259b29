import MarkupForest.Reference
import MarkupForest.Text.Ascii

namespace MarkupForest

structure Attribute where
  key : String
  value : Option String
  deriving DecidableEq, Repr

namespace Attribute

def booleanKeys : List String := [
  "allowfullscreen", "async", "autofocus", "checked", "compact", "declare", "default", "defer",
  "disabled", "formnovalidate", "hidden", "inert", "ismap", "itemscope", "multiple", "muted",
  "nohref", "noresize", "noshade", "novalidate", "nowrap", "open", "readonly", "required",
  "reversed", "seamless", "selected", "sortable", "truespeed", "typemustmatch"]

def isBooleanKey (key : String) : Bool := booleanKeys.any (·.toList == Text.lowerAscii key)

def dataMark : List Char := ['d', 'a', 't', 'a', '-']

def dataName? (key : String) : Option String :=
  if dataMark.isPrefixOf key.toList && dataMark.length < key.toList.length then
    some (String.ofList (key.toList.drop dataMark.length))
  else none

def isDataKey (key : String) : Bool := (dataName? key).isSome

def fitsXml (c : Char) : Bool :=
  c.isAlphanum || c == '-' || c == '_' || c == ':' || c == '.'

def opensXml (c : Char) : Bool := c.isAlpha || c == '_' || c == ':'

def fitsHtml (c : Char) : Bool :=
  !(c.toNat ≤ 0x1f || (0x7f ≤ c.toNat && c.toNat ≤ 0x9f) || c == ' ' || c == '\x22' ||
    c == '\x27' || c == '/' || c == '=')

def isKey : Dialect → List Char → Bool
  | .html, s => s != [] && s.all fitsHtml
  | .xml, [] => false
  | .xml, c :: s => opensXml c && s.all fitsXml

def repair : Dialect → Char → Char
  | .html, c => if fitsHtml c then c else '_'
  | .xml, c => if fitsXml c then c else '_'

def writtenKey? (dialect : Dialect) (key : String) : Option String :=
  if isKey dialect key.toList then some key
  else
    let repaired := key.toList.map (repair dialect)
    if isKey dialect repaired then some (String.ofList repaired) else none

def collapses (dialect : Dialect) (key : String) (value : Option String) : Bool :=
  match dialect, value with
  | .xml, _ => false
  | .html, none => true
  | .html, some v => (v == "" || Text.sameLetters v key) && isBooleanKey key

def written (dialect : Dialect) (key : String) (value : Option String) : String :=
  if collapses dialect key value then key
  else key ++ "=\"" ++ Reference.escape .quoted dialect (value.getD "") ++ "\""

def markup (dialect : Dialect) (a : Attribute) : String :=
  match writtenKey? dialect a.key with
  | some key => written dialect key a.value
  | none => ""

end Attribute

end MarkupForest
