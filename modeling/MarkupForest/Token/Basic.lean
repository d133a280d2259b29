import MarkupForest.Source.Position

namespace MarkupForest

structure TokenAttribute where
  name : String
  value : Option String
  nameSpan : Span
  valueSpan : Span
  deriving DecidableEq, Repr

structure Doctype where
  name : String
  publicId : String
  systemId : String
  deriving DecidableEq, Repr

inductive Token where
  | startTag (name : String) (attributes : List TokenAttribute) (selfClosing : Bool) (span : Span)
  | endTag (name : String) (span : Span)
  | text (text : String) (span : Span)
  | rawText (text : String) (span : Span)
  | comment (data : String) (span : Span)
  | doctype (doctype : Doctype) (span : Span)
  deriving DecidableEq, Repr

def Token.span : Token → Span
  | .startTag _ _ _ s | .endTag _ s | .text _ s | .rawText _ s | .comment _ s | .doctype _ s => s

end MarkupForest
