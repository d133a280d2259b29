import MarkupForest.Forest.Copying
import MarkupForest.Forest.Markup
import MarkupForest.Forest.Writing

namespace MarkupForest

inductive Answer where
  | done
  | node (id : NodeId)
  | perhaps (id : Option NodeId)
  | nodes (ids : List NodeId)
  | count (n : Nat)
  | truth (b : Bool)
  | text (s : String)
  | kind (k : Kind)
  | doctype (d : Option Doctype)
  | rules (cases : CasePolicy) (output : OutputRules)
  | attributes (as : Option Attributes)
  | datum (d : Option Datum)
  | attributeRange (r : AttributeRange)
  | range (r : SourceRange)

def Edit.silently {α : Type} (e : Edit α) : Edit Answer := (fun _ => .done) <$> e

open Edit

inductive Question where
  | size
  | kind (id : NodeId)
  | isElement (id : NodeId)
  | name (id : NodeId)
  | normalName (id : NodeId)
  | value (id : NodeId)
  | doctype (id : NodeId)
  | parent (id : NodeId)
  | hasParent (id : NodeId)
  | parentElement (id : NodeId)
  | root (id : NodeId)
  | ownerDocument (id : NodeId)
  | rules (id : NodeId)
  | childCount (id : NodeId)
  | child (id : NodeId) (index : Nat)
  | children (id : NodeId)
  | firstChild (id : NodeId)
  | lastChild (id : NodeId)
  | siblings (id : NodeId)
  | firstSibling (id : NodeId)
  | lastSibling (id : NodeId)
  | firstElementChild (id : NodeId)
  | deepChild (id : NodeId)
  | descendants (id : NodeId)
  | textContent (id : NodeId)
  | outerMarkup (id : NodeId)
  | innerMarkup (id : NodeId)
  | writeTo (dialect : Dialect) (id : NodeId) (out : String)
  | hasSameValue (a b : NodeId)
  | attributes (id : NodeId)
  | attributeCount (id : NodeId)
  | attributeValue (id : NodeId) (key : String)
  | hasAttribute (id : NodeId) (key : String)
  | absoluteUrl (id : NodeId) (key : String)
  | baseUri (id : NodeId)
  | userData (id : NodeId) (key : String)
  | attributeRange (id : NodeId) (key : String)
  | sourceRange (id : NodeId)
  | endSourceRange (id : NodeId)

def Node.doctype? (n : Node) : Option Doctype :=
  match n.body with
  | .doctype d => some d
  | _ => none

namespace Question

def answer (resolve : Resolver) (f : Forest) : Question → Except TreeError Answer
  | .size => .ok (.count f.size)
  | .kind id => (f.find id).map fun n => .kind n.kind
  | .isElement id => .ok (.truth (f.isElement id))
  | .name id => (f.find id).map fun n => .text n.name
  | .normalName id => (f.find id).map fun n => .text n.normalName
  | .value id => (f.find id).map fun n => .text n.value
  | .doctype id => (f.find id).map fun n => .doctype n.doctype?
  | .parent id => (f.parent id).map .perhaps
  | .hasParent id => .ok (.truth (f.hasParent id))
  | .parentElement id => (f.parentElement id).map .perhaps
  | .root id => (f.root id).map .node
  | .ownerDocument id => (f.ownerDocument id).map .perhaps
  | .rules id => .ok (.rules (f.casePolicy id) (f.outputRules id))
  | .childCount id => (f.childCount id).map .count
  | .child id index => (f.child id index).map .node
  | .children id => (f.children id).map .nodes
  | .firstChild id => (f.firstChild id).map .perhaps
  | .lastChild id => (f.lastChild id).map .perhaps
  | .siblings id => (f.siblings id).map .nodes
  | .firstSibling id => (f.firstSibling id).map .node
  | .lastSibling id => (f.lastSibling id).map .node
  | .firstElementChild id => (f.firstElementChild id).map .perhaps
  | .deepChild id => (f.deepChild id).map .node
  | .descendants id => (f.descendants id).map .nodes
  | .textContent id => (f.textContent id).map .text
  | .outerMarkup id => (f.outerMarkup id).map .text
  | .innerMarkup id => (f.innerMarkup id).map .text
  | .writeTo dialect id out => (f.writeTo dialect id out).map .text
  | .hasSameValue a b => (f.hasSameValue a b).map .truth
  | .attributes id => (f.attributes id).map .attributes
  | .attributeCount id => .ok (.count (f.attributeCount id))
  | .attributeValue id key => (f.attributeValue resolve id key).map .text
  | .hasAttribute id key => .ok (.truth (f.hasAttribute resolve id key))
  | .absoluteUrl id key => (f.absoluteUrl resolve id key).map .text
  | .baseUri id => (f.baseUri id).map .text
  | .userData id key => (f.userData? id key).map .datum
  | .attributeRange id key => (f.attributeRange id key).map .attributeRange
  | .sourceRange id => (f.sourceRange id).map .range
  | .endSourceRange id => (f.endSourceRange id).map .range

end Question

inductive SiblingRead where
  | index (id : NodeId)
  | next (id : NodeId)
  | previous (id : NodeId)
  | nextElement (id : NodeId)
  | previousElement (id : NodeId)
  deriving DecidableEq, Repr

namespace SiblingRead

def run : SiblingRead → Edit Answer
  | .index id => .count <$> siblingIndex id
  | .next id => .perhaps <$> nextSibling id
  | .previous id => .perhaps <$> previousSibling id
  | .nextElement id => .perhaps <$> nextElementSibling id
  | .previousElement id => .perhaps <$> previousElementSibling id

end SiblingRead

inductive Restructuring where
  | appendChild (parent child : NodeId)
  | appendChildren (parent : NodeId) (ids : List NodeId)
  | prependChild (parent child : NodeId)
  | insertChildren (parent : NodeId) (index : Nat) (ids : List NodeId)
  | replaceWith (id replacement : NodeId)
  | insertBeside (side : Side) (id sibling : NodeId)
  | unwrap (id : NodeId)
  | remove (id : NodeId)
  | removeChildren (id : NodeId)
  deriving DecidableEq, Repr

namespace Restructuring

def run : Restructuring → Edit Answer
  | .appendChild parent child => silently <| MarkupForest.appendChild parent child
  | .appendChildren parent ids => silently <| MarkupForest.appendChildren parent ids
  | .prependChild parent child => silently <| MarkupForest.prependChild parent child
  | .insertChildren parent index ids =>
    silently <| MarkupForest.insertChildren parent index ids
  | .replaceWith id replacement => silently <| MarkupForest.replaceWith id replacement
  | .insertBeside side id sibling => silently <| MarkupForest.insertBeside side id sibling
  | .unwrap id => .perhaps <$> MarkupForest.unwrap id
  | .remove id => silently <| MarkupForest.remove id
  | .removeChildren id => silently <| MarkupForest.removeChildren id

end Restructuring

inductive MarkupEdit where
  | append (parent : NodeId) (markup : String)
  | prepend (parent : NodeId) (markup : String)
  | insertBeside (side : Side) (id : NodeId) (markup : String)
  | wrap (id : NodeId) (markup : String)
  deriving DecidableEq, Repr

namespace MarkupEdit

def run (reader : FragmentReader) : MarkupEdit → Edit Answer
  | .append parent markup => silently <| appendMarkup reader parent markup
  | .prepend parent markup => silently <| prependMarkup reader parent markup
  | .insertBeside side id markup => silently <| insertMarkupBeside reader side id markup
  | .wrap id markup => .node <$> MarkupForest.wrap reader id markup

end MarkupEdit

inductive Operation where
  | ask (q : Question)
  | look (r : SiblingRead)
  | createDocument (cases : CasePolicy) (output : OutputRules) (base : String)
  | createElement (tag : String)
  | createText (s : String)
  | createComment (s : String)
  | createData (s : String)
  | createDoctype (d : Doctype)
  | readDocument (config : ReaderConfig) (markup base : String)
  | readFragment (markup : String) (context : Option NodeId) (base : String)
  | restructure (r : Restructuring)
  | insertMarkup (m : MarkupEdit)
  | shallowClone (id : NodeId)
  | deepClone (id : NodeId)
  | cloneChildren (id : NodeId)
  | setOutputRules (id : NodeId) (output : OutputRules)
  | setAttribute (id : NodeId) (key value : String)
  | setBooleanAttribute (id : NodeId) (key : String) (on : Bool)
  | removeAttribute (id : NodeId) (key : String)
  | clearAttributes (id : NodeId)
  | reviseAttributes (id : NodeId) (change : Attributes → Attributes)
  | setBaseUri (id : NodeId) (base : String)
  | setUserData (id : NodeId) (key : String) (value : Option Datum)
  | setSourceRange (id : NodeId) (start stop : SourceRange)

namespace Operation

def run (resolve : Resolver) (reader : FragmentReader) : Operation → Edit Answer
  | .ask q => Edit.ask fun f => q.answer resolve f
  | .look r => r.run
  | .createDocument cases output base => .node <$> MarkupForest.createDocument cases output base
  | .createElement tag => .node <$> MarkupForest.createElement tag
  | .createText s => .node <$> MarkupForest.createText s
  | .createComment s => .node <$> MarkupForest.createComment s
  | .createData s => .node <$> MarkupForest.createData s
  | .createDoctype d => .node <$> MarkupForest.createDoctype d
  | .readDocument config markup base => .node <$> MarkupForest.readDocument config markup base
  | .readFragment markup context base => .nodes <$> reader markup context base
  | .restructure r => r.run
  | .insertMarkup m => m.run reader
  | .shallowClone id => .node <$> MarkupForest.shallowClone id
  | .deepClone id => .node <$> MarkupForest.deepClone id
  | .cloneChildren id => .nodes <$> MarkupForest.cloneChildren id
  | .setOutputRules id output => silently <| MarkupForest.setOutputRules id output
  | .setAttribute id key value => silently <| MarkupForest.setAttribute id key value
  | .setBooleanAttribute id key on =>
    silently <| MarkupForest.setBooleanAttribute id key on
  | .removeAttribute id key => silently <| MarkupForest.removeAttribute id key
  | .clearAttributes id => silently <| MarkupForest.clearAttributes id
  | .reviseAttributes id change => do
    let as ← openAttributes id
    modify (·.changeAttributes id fun _ => change as)
    return .done
  | .setBaseUri id base => silently <| MarkupForest.setBaseUri id base
  | .setUserData id key value => silently <| MarkupForest.setUserData id key value
  | .setSourceRange id start stop => silently <| MarkupForest.setSourceRange id start stop

end Operation

end MarkupForest
