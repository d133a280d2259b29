namespace MarkupForest

structure Position where
  offset : Nat
  line : Nat
  column : Nat
  deriving DecidableEq, Repr

namespace Position

/-- The offset that stands for no place at all. -/
def nowhere : Nat := 0xffffffffffffffff

def untracked : Position := ⟨nowhere, 0, 0⟩

def isTracked (p : Position) : Bool := p.offset != nowhere

end Position

structure SourceRange where
  start : Position
  stop : Position
  deriving DecidableEq, Repr

namespace SourceRange

def untracked : SourceRange := ⟨.untracked, .untracked⟩

def isTracked (r : SourceRange) : Bool := r.start.isTracked

def isImplicit (r : SourceRange) : Bool := r.isTracked && r.start == r.stop

end SourceRange

structure AttributeRange where
  name : SourceRange
  value : SourceRange
  deriving DecidableEq, Repr

namespace AttributeRange

def untracked : AttributeRange := ⟨.untracked, .untracked⟩

def isTracked (r : AttributeRange) : Bool := r.name.isTracked

end AttributeRange

structure Span where
  start : Nat
  stop : Nat
  deriving DecidableEq, Repr

end MarkupForest
