import MarkupForest.Text.Blank
import MarkupForest.Text.Lowercase

namespace MarkupForest

inductive Dialect where
  | html
  | xml
  deriving DecidableEq, Repr, Inhabited

structure CasePolicy where
  keepsTags : Bool
  keepsAttributes : Bool
  deriving DecidableEq, Repr

namespace CasePolicy

def folded : CasePolicy := ⟨false, false⟩

def exact : CasePolicy := ⟨true, true⟩

def tagName (p : CasePolicy) (name : String) : String :=
  if p.keepsTags then Text.trim name else Text.lower (Text.trim name)

def attributeName (p : CasePolicy) (name : String) : String :=
  if p.keepsAttributes then Text.trim name else Text.lower (Text.trim name)

end CasePolicy

instance : Inhabited CasePolicy := ⟨.folded⟩

structure OutputRules where
  dialect : Dialect
  deriving DecidableEq, Repr

instance : Inhabited OutputRules := ⟨⟨.html⟩⟩

structure ReaderConfig where
  cases : CasePolicy
  dialect : Dialect
  tracksPlaces : Bool
  deriving DecidableEq, Repr

namespace ReaderConfig

def html : ReaderConfig := ⟨.folded, .html, false⟩

def xml : ReaderConfig := ⟨.exact, .xml, false⟩

def tracking (c : ReaderConfig) (on : Bool) : ReaderConfig := { c with tracksPlaces := on }

end ReaderConfig

instance : Inhabited ReaderConfig := ⟨.html⟩

end MarkupForest
