import MarkupForest.Text.Ascii
import MarkupForest.Text.Blank
import MarkupForest.Token.Basic

namespace MarkupForest.Doctype

open Text

def isQuote (c : Char) : Bool := c == '\x22' || c == '\x27'

def quoted (s : List Char) : List Char × List Char :=
  match trimStart s with
  | [] => ([], [])
  | c :: body =>
    if isQuote c then (body.takeWhile (· != c), (body.dropWhile (· != c)).drop 1)
    else ([], c :: body)

def publicWord : List Char := ['p', 'u', 'b', 'l', 'i', 'c']

def systemWord : List Char := ['s', 'y', 's', 't', 'e', 'm']

def identifiers (s : List Char) : List Char × List Char :=
  if opensWith publicWord s then
    let (first, rest) := quoted (s.drop publicWord.length)
    (first, (quoted rest).1)
  else if opensWith systemWord s then ([], (quoted (s.drop systemWord.length)).1)
  else ([], [])

def ofContent (content : List Char) : Doctype :=
  let s := trimChars content
  let ids := identifiers (trimStart (s.dropWhile (!isGap ·)))
  ⟨String.ofList (s.takeWhile (!isGap ·)), String.ofList ids.1, String.ofList ids.2⟩

end MarkupForest.Doctype
