import MarkupForest.Attribute.Basic
import MarkupForest.Datum
import MarkupForest.Source.Position

namespace MarkupForest

inductive Slot where
  | text (value : Option String)
  | userData (data : Dict Datum)
  | ranges (ranges : Dict AttributeRange)
  deriving DecidableEq, Repr

namespace Slot

def text? : Slot → Option String
  | .text v => v
  | _ => none

def shown (s : Slot) : String := s.text?.getD ""

def isDeclared (s : Slot) : Bool := s.text?.isSome

end Slot

structure Entry where
  key : String
  slot : Slot
  deriving DecidableEq, Repr

def isHiddenKey (key : String) : Bool :=
  match key.toList with
  | '/' :: _ :: _ => true
  | _ => false

namespace Entry

def isHidden (e : Entry) : Bool := isHiddenKey e.key

def toAttribute (e : Entry) : Attribute := ⟨e.key, e.slot.text?⟩

end Entry

structure Attributes where
  entries : List Entry
  changes : Nat
  deriving Repr

namespace Attributes

def userDataKey : String := "/nodetree.userdata"

def rangesKey : String := "/nodetree.ranges"

def baseUriKey : String := "/nodetree.baseUri"

def empty : Attributes := ⟨[], 0⟩

instance : Inhabited Attributes := ⟨empty⟩

def copy (as : Attributes) : Attributes := ⟨as.entries, 0⟩

inductive Match where
  | exact
  | anyCase
  deriving DecidableEq, Repr

def Match.holds : Match → String → String → Bool
  | .exact, key, other => other == key
  | .anyCase, key, other => Text.sameLetters other key

def find? (as : Attributes) (m : Match) (key : String) : Option Entry :=
  as.entries.find? (m.holds key ·.key)

def has (as : Attributes) (m : Match) (key : String) : Bool := (as.find? m key).isSome

def get (as : Attributes) (m : Match) (key : String) : String :=
  match as.find? m key with
  | some e => e.slot.shown
  | none => ""

def hasValue (as : Attributes) (m : Match) (key : String) : Bool :=
  match as.find? m key with
  | some e => e.slot.isDeclared
  | none => false

def attribute? (as : Attributes) (key : String) : Option Attribute :=
  (as.find? .exact key).map fun e => ⟨key, e.slot.text?⟩

def changeFirst (p : Entry → Bool) (f : Entry → Entry) : List Entry → List Entry
  | [] => []
  | e :: es => if p e then f e :: es else e :: changeFirst p f es

def push (as : Attributes) (key : String) (slot : Slot) : Attributes :=
  ⟨as.entries ++ [⟨key, slot⟩], as.changes + 1⟩

def add (as : Attributes) (key : String) (value : Option String) : Attributes :=
  as.push key (.text value)

def set (as : Attributes) (m : Match) (key : String) (value : Option String) : Attributes :=
  if as.has m key then
    { as with entries := changeFirst (m.holds key ·.key) (fun _ => ⟨key, .text value⟩) as.entries }
  else as.add key value

def put (as : Attributes) (key : String) (value : Option String) : Attributes :=
  as.set .exact key value

def putAnyCase (as : Attributes) (key : String) (value : Option String) : Attributes :=
  as.set .anyCase key value

def putAttribute (as : Attributes) (a : Attribute) : Attributes := as.put a.key a.value

def remove (as : Attributes) (m : Match) (key : String) : Attributes :=
  if as.has m key then ⟨as.entries.eraseP (m.holds key ·.key), as.changes + 1⟩ else as

def putBoolean (as : Attributes) (key : String) (on : Bool) : Attributes :=
  if on then as.putAnyCase key none else as.remove .anyCase key

def visible (as : Attributes) : List Entry := as.entries.filter (!·.isHidden)

def toList (as : Attributes) : List Attribute := as.visible.map Entry.toAttribute

def size (as : Attributes) : Nat := as.visible.length

def isEmpty (as : Attributes) : Bool := as.size == 0

/-- A store with nothing in it at all takes the others as they are, repeated keys included. -/
def merge (as incoming : Attributes) : Attributes :=
  if as.entries = [] then incoming.toList.foldl (fun s a => s.add a.key a.value) as
  else incoming.toList.foldl putAttribute as

def dataset (as : Attributes) : List (String × String) :=
  as.toList.filterMap fun a => (Attribute.dataName? a.key).map (·, a.value.getD "")

def markup (dialect : Dialect) (as : Attributes) : String :=
  as.toList.foldl (fun out a =>
    match Attribute.writtenKey? dialect a.key with
    | some key => out ++ " " ++ Attribute.written dialect key a.value
    | none => out) ""

def clear (as : Attributes) : Attributes :=
  ⟨as.entries.filter Entry.isHidden, as.changes + as.size⟩

def foldKeys (as : Attributes) : Attributes :=
  { as with entries := as.entries.map fun e =>
      if e.isHidden then e else { e with key := Text.lower e.key } }

def firstOfEach (m : Match) (seen : List String) : List Entry → List Entry
  | [] => []
  | e :: es =>
    if seen.any (m.holds e.key) then firstOfEach m seen es
    else e :: firstOfEach m (seen ++ [e.key]) es

def deduplicate (as : Attributes) (m : Match) : Attributes × Nat :=
  let kept := firstOfEach m [] as.entries
  let dropped := as.entries.length - kept.length
  (⟨kept, as.changes + dropped⟩, dropped)

def hasUserData (as : Attributes) : Bool := as.has .exact userDataKey

def userData? (as : Attributes) (key : String) : Option Datum :=
  match as.find? .exact userDataKey with
  | some ⟨_, .userData d⟩ => d.get? key
  | _ => none

def changeHidden (as : Attributes) (key : String) (f : Slot → Slot) : Attributes :=
  { as with
    entries := changeFirst (·.key == key) (fun e => { e with slot := f e.slot }) as.entries }

def setUserData (as : Attributes) (key : String) (value : Option Datum) : Attributes :=
  match as.hasUserData, value with
  | false, none => as
  | false, some v => as.push userDataKey (.userData (Dict.empty.insert key v))
  | true, _ => as.changeHidden userDataKey fun
    | .userData d => .userData (match value with
      | some v => d.insert key v
      | none => d.erase key)
    | other => other

def sourceRange (as : Attributes) (key : String) : AttributeRange :=
  if as.has .exact key then
    match as.find? .exact rangesKey with
    | some ⟨_, .ranges d⟩ => (d.get? key).getD .untracked
    | _ => .untracked
  else .untracked

def setSourceRange (as : Attributes) (key : String) (range : AttributeRange) : Attributes :=
  if as.has .exact rangesKey then
    as.changeHidden rangesKey fun
      | .ranges d => .ranges (d.insert key range)
      | other => other
  else as.push rangesKey (.ranges (Dict.empty.insert key range))

def agrees (as other : Attributes) : Bool :=
  as.entries.length == other.entries.length &&
    as.entries.all fun e => other.find? .exact e.key == some e

end Attributes

end MarkupForest
