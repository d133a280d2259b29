import MarkupForest.Forest.Edit
import MarkupForest.Forest.Growth

namespace MarkupForest

open Edit

def readChildrenOf (reader : FragmentReader) (parent : NodeId) (markup : String) :
    Edit (List NodeId) := do
  requireContainer parent
  reader markup (some parent) (← ask (·.baseUri parent))

def appendMarkup (reader : FragmentReader) (parent : NodeId) (markup : String) : Edit Unit := do
  let ids ← readChildrenOf reader parent markup
  insertAll parent (← ask (·.childCount parent)) ids

def prependMarkup (reader : FragmentReader) (parent : NodeId) (markup : String) : Edit Unit := do
  insertAll parent 0 (← readChildrenOf reader parent markup)

def insertMarkupBeside (reader : FragmentReader) (side : Side) (id : NodeId) (markup : String) :
    Edit Unit := do
  let parent ← ask (·.checkParent "before/after" id)
  let ids ← reader markup (some parent) (← ask (·.baseUri id))
  insertAll parent ((← siblingIndex id) + side.offset) ids

def placeRemainders (wrapper : NodeId) : NodeId → List NodeId → Edit Unit
  | _, [] => return
  | last, r :: rs => do
    remove r
    if (← get).hasParent wrapper then
      insertBeside .after last r
      placeRemainders wrapper r rs
    else placeRemainders wrapper last rs

/-- The node moves to the end of the innermost first element of the fragment. -/
def wrapIn (id : NodeId) (parent : Option NodeId) : List NodeId → Edit NodeId
  | [] => return id
  | wrapper :: rest => do
    if !(← get).isElement wrapper then return id
    let innermost ← ask (·.deepChild wrapper)
    match parent with
    | some p => replaceChild p id wrapper
    | none => remove wrapper
    appendChild innermost id
    placeRemainders wrapper wrapper rest
    return id

def wrap (reader : FragmentReader) (id : NodeId) (markup : String) : Edit NodeId := do
  if markup = "" then throw (.badArgument .emptyWrapper)
  let parent ← ask (·.parent id)
  let ids ← reader markup (some (parent.getD id)) (← ask (·.baseUri id))
  wrapIn id parent ids

end MarkupForest
