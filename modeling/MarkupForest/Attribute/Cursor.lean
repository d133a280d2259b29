import MarkupForest.Attribute.Store
import MarkupForest.Error

namespace MarkupForest

structure Cursor where
  expected : Nat
  index : Nat
  last : Option Nat
  deriving DecidableEq, Repr

namespace Cursor

def ofAttributes (as : Attributes) : Cursor := ⟨as.changes, 0, none⟩

def settle (c : Cursor) (as : Attributes) : Nat :=
  c.index + ((as.entries.drop c.index).takeWhile Entry.isHidden).length

structure State where
  store : Attributes
  cursor : Cursor
  deriving Repr

end Cursor

abbrev Browse := EStateM TreeError Cursor.State

namespace Cursor

def check : Browse Unit := do
  let t ← get
  if t.store.changes ≠ t.cursor.expected then throw .concurrentChange

def hasNext : Browse Bool := do
  check
  modify fun t => { t with cursor := { t.cursor with index := t.cursor.settle t.store } }
  let t ← get
  return t.cursor.index < t.store.entries.length

def next : Browse (Option Attribute) := do
  if ← hasNext then
    let t ← get
    let i := t.cursor.index
    set { t with cursor := { t.cursor with index := i + 1, last := some i } }
    return t.store.entries[i]?.map Entry.toAttribute
  else return none

def remove : Browse Unit := do
  check
  let t ← get
  set { t with cursor := { t.cursor with last := none } }
  match t.cursor.last with
  | some i =>
    let rest : Attributes := ⟨t.store.entries.eraseIdx i, t.store.changes + 1⟩
    -- the successor is next
    set (⟨rest, ⟨rest.changes, i, none⟩⟩ : State)
  | none => throw (.unmet .nothingVisited)

inductive Call where
  | hasNext
  | next
  | remove
  deriving DecidableEq, Repr

inductive Reply where
  | truth (b : Bool)
  | visited (a : Option Attribute)
  | removed
  deriving DecidableEq, Repr

def Call.run : Call → Browse Reply
  | .hasNext => .truth <$> Cursor.hasNext
  | .next => .visited <$> Cursor.next
  | .remove => (fun _ => .removed) <$> Cursor.remove

def State.call (k : Call) (t : State) : Except TreeError Reply × State :=
  match k.run t with
  | .ok r t => (.ok r, t)
  | .error x t => (.error x, t)

end Cursor

end MarkupForest
