import MarkupForest.Forest.Lineage

namespace MarkupForest

abbrev Resolver := String → String → String

namespace Forest

def attributes (f : Forest) (id : NodeId) : Except TreeError (Option Attributes) := do
  return (← f.find id).attributes?

def attributeCount (f : Forest) (id : NodeId) : Nat :=
  match (f.get? id).bind Node.attributes? with
  | some as => as.size
  | none => 0

def ownBase? (f : Forest) (id : NodeId) : Option String :=
  match (f.get? id).bind Node.attributes? with
  | some as =>
    if as.has .exact Attributes.baseUriKey then some (as.get .exact Attributes.baseUriKey) else none
  | none => none

def baseUri (f : Forest) (id : NodeId) : Except TreeError String := do
  let _ ← f.find id
  return ((f.lineage id).findSome? f.ownBase?).getD ""

def absoluteUrl (f : Forest) (resolve : Resolver) (id : NodeId) (key : String) :
    Except TreeError String := do
  if key = "" then throw (.badArgument .emptyKey)
  match ← f.attributes id with
  | some as =>
    if as.has .anyCase key then return resolve (← f.baseUri id) (as.get .anyCase key)
    else return ""
  | none => return ""

def absoluteName? (key : String) : Option String :=
  let mark := ['a', 'b', 's', ':']
  if Text.opensWith mark key.toList && mark.length < key.toList.length then
    some (String.ofList (key.toList.drop mark.length))
  else none

def attributeValue (f : Forest) (resolve : Resolver) (id : NodeId) (key : String) :
    Except TreeError String := do
  if key = "" then throw (.badArgument .emptyKey)
  if isHiddenKey key then return ""
  match ← f.attributes id with
  | some as =>
    if as.has .anyCase key then return as.get .anyCase key
  | none => pure ()
  match absoluteName? key with
  | some name => f.absoluteUrl resolve id name
  | none => return ""

def hasAttribute (f : Forest) (resolve : Resolver) (id : NodeId) (key : String) : Bool :=
  if key = "" || isHiddenKey key then false
  else match (f.get? id).bind Node.attributes? with
    | none => false
    | some as =>
      let resolves := match absoluteName? key with
        | some name =>
          as.has .anyCase name && (f.absoluteUrl resolve id name).toOption.any (· != "")
        | none => false
      resolves || as.has .anyCase key

def writingKey (f : Forest) (id : NodeId) (key : String) : Except TreeError String := do
  let key := (f.casePolicy id).attributeName key
  if key = "" then throw (.badArgument .emptyKey)
  if isHiddenKey key then throw (.badArgument (.reservedKey key))
  return key

def userData? (f : Forest) (id : NodeId) (key : String) : Except TreeError (Option Datum) := do
  return (← f.attributes id).bind (·.userData? key)

def attributeRange (f : Forest) (id : NodeId) (key : String) : Except TreeError AttributeRange := do
  return match ← f.attributes id with
    | some as => as.sourceRange key
    | none => .untracked

def sourceRange (f : Forest) (id : NodeId) : Except TreeError SourceRange := do
  return match (← f.find id).ranges with
    | some r => r.start
    | none => .untracked

def endSourceRange (f : Forest) (id : NodeId) : Except TreeError SourceRange := do
  return match (← f.find id).ranges with
    | some r => r.stop
    | none => .untracked

def setRanges (f : Forest) (id : NodeId) (start stop : SourceRange) : Forest :=
  f.modify id fun n => { n with ranges := some ⟨start, stop⟩ }

def setEndRange (f : Forest) (id : NodeId) (stop : SourceRange) : Forest :=
  f.modify id fun n => { n with ranges := some ⟨match n.ranges with
    | some r => r.start
    | none => .untracked, stop⟩ }

def changeAttributes (f : Forest) (id : NodeId) (g : Attributes → Attributes) : Forest :=
  f.modify id (Node.mapAttributes fun as => some (g (as.getD .empty)))

def changeExisting (f : Forest) (id : NodeId) (g : Attributes → Attributes) : Forest :=
  f.modify id (Node.mapAttributes (Option.map g))

end Forest

open Edit

def openAttributes (id : NodeId) : Edit Attributes := do
  requireContainer id
  modify (·.changeAttributes id fun as => as)
  return (← ask (·.attributes id)).getD .empty

def setAttribute (id : NodeId) (key value : String) : Edit Unit := do
  let key ← ask (·.writingKey id key)
  requireContainer id
  modify (·.changeAttributes id (·.putAnyCase key (some value)))

def setBooleanAttribute (id : NodeId) (key : String) (on : Bool) : Edit Unit := do
  let key ← ask (·.writingKey id key)
  requireContainer id
  modify (·.changeAttributes id (·.putBoolean key on))

def removeAttribute (id : NodeId) (key : String) : Edit Unit := do
  if isHiddenKey key then return
  let _ ← ask (·.find id)
  modify (·.changeExisting id (·.remove .anyCase key))

def clearAttributes (id : NodeId) : Edit Unit := do
  let _ ← ask (·.find id)
  modify (·.changeExisting id Attributes.clear)

def setBaseUri (id : NodeId) (base : String) : Edit Unit := do
  let n ← ask (·.find id)
  if n.kind.isContainer then
    modify (·.changeAttributes id (·.put Attributes.baseUriKey (some base)))

def setUserData (id : NodeId) (key : String) (value : Option Datum) : Edit Unit := do
  match value, ← ask (·.attributes id) with
  | none, none => return
  | value, _ =>
    requireContainer id
    modify (·.changeAttributes id (·.setUserData key value))

def setSourceRange (id : NodeId) (start stop : SourceRange) : Edit Unit := do
  let _ ← ask (·.find id)
  modify (·.setRanges id start stop)

end MarkupForest
