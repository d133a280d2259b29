import MarkupForest.Text.Ascii

namespace MarkupForest.Tag

def voids : List String := [
  "area", "base", "br", "col", "embed", "hr", "img", "input", "keygen", "link", "meta", "param",
  "source", "track", "wbr"]

def isVoid (tag : String) : Bool := voids.any (Text.sameLetters · tag)

def rawTexts : List String := ["script", "style"]

def isRawText (tag : String) : Bool := rawTexts.any (Text.sameLetters · tag)

end MarkupForest.Tag
