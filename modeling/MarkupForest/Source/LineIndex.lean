import MarkupForest.Source.Position

namespace MarkupForest

def lineStartsFrom (offset : Nat) : List Char → List Nat
  | [] => []
  | c :: s =>
    let next := offset + c.utf8Size
    if c = '\n' then next :: lineStartsFrom next s else lineStartsFrom next s

/-- Entry `lo` is at most `x`, and from `hi` on no entry is. -/
def lastAtMost (a : Array Nat) (x lo hi : Nat) : Nat :=
  if hi ≤ lo + 1 then lo
  else
    let mid := (lo + hi) / 2
    if a.getD mid 0 ≤ x then lastAtMost a x mid hi else lastAtMost a x lo mid
termination_by hi - lo

structure LineIndex where
  starts : Array Nat
  deriving DecidableEq, Repr

namespace LineIndex

def ofText (source : String) : LineIndex := ⟨(0 :: lineStartsFrom 0 source.toList).toArray⟩

def position (index : LineIndex) (offset : Nat) : Position :=
  let line := lastAtMost index.starts offset 0 index.starts.size
  ⟨offset, line + 1, offset - index.starts.getD line 0 + 1⟩

def range (index : LineIndex) (start stop : Nat) : SourceRange :=
  ⟨index.position start, index.position stop⟩

def spanRange (index : LineIndex) (s : Span) : SourceRange := index.range s.start s.stop

end LineIndex

end MarkupForest
