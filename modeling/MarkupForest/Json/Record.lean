import MarkupForest.Error
import MarkupForest.Json.Reader
import MarkupForest.Settings
import MarkupForest.Source.Position

namespace MarkupForest

class Recorded (α : Type) where
  encode : α → String
  decode? : Json → Option α

namespace Record

def quoted (s : String) : String := "\"" ++ s ++ "\""

def object (fields : List (String × String)) : String :=
  "\x7b" ++ ",".intercalate (fields.map fun (k, v) => quoted k ++ ":" ++ v) ++ "\x7d"

def only? (name : String) (fields : List (List Char × Json)) : Option Json :=
  match fields.filter (·.1 == name.toList) with
  | [(_, v)] => some v
  | _ => none

def fields? (names : List String) : Json → Option (List Json)
  | .array items => if items.length = names.length then some items else none
  | .object fields => do
    let named ← fields.mapM fun (k, v) => (Json.text? k).map (·, v)
    names.mapM (only? · named)
  | _ => none

def constant? {α : Type} (names : List (String × α)) (j : Json) : Option α := do
  let written ← match j with
    | .string w => some w
    | .object [(w, .null)] => some w
    | _ => none
  let name ← Json.text? written
  (names.find? (·.1.toList == name)).map (·.2)

end Record

open Record

namespace Json

def natural? : Json → Option Nat
  | .number ds =>
    if ds.all Char.isDigit then
      let n := ds.foldl (fun n c => n * 10 + (c.toNat - '0'.toNat)) 0
      if n < 0x10000000000000000 then some n else none
    else none
  | _ => none

def bool? : Json → Option Bool
  | .bool b => some b
  | _ => none

end Json

instance : Recorded Bool := ⟨fun b => if b then "true" else "false", Json.bool?⟩

instance : Recorded Nat := ⟨fun n => toString n, Json.natural?⟩

def Dialect.names : List (String × Dialect) := [("Html", .html), ("Xml", .xml)]

def Kind.names : List (String × Kind) := [
  ("Document", .document), ("Element", .element), ("Text", .text), ("Comment", .comment),
  ("Data", .data), ("Doctype", .doctype)]

def Record.nameOf {α : Type} [BEq α] (names : List (String × α)) (a : α) : String :=
  quoted (((names.find? (·.2 == a)).map (·.1)).getD "")

instance : Recorded Dialect := ⟨nameOf Dialect.names, constant? Dialect.names⟩

instance : Recorded Kind := ⟨nameOf Kind.names, constant? Kind.names⟩

open Recorded

instance : Recorded CasePolicy where
  encode p := object [
    ("preserve_tag_case", encode p.keepsTags),
    ("preserve_attribute_case", encode p.keepsAttributes)]
  decode? j := do
    match ← fields? ["preserve_tag_case", "preserve_attribute_case"] j with
    | [a, b] => return ⟨← decode? a, ← decode? b⟩
    | _ => none

instance : Recorded OutputRules where
  encode r := object [("syntax", encode r.dialect)]
  decode? j := do
    match ← fields? ["syntax"] j with
    | [a] => return ⟨← decode? a⟩
    | _ => none

instance : Recorded ReaderConfig where
  encode c := object [
    ("settings", encode c.cases), ("syntax", encode c.dialect),
    ("track_position", encode c.tracksPlaces)]
  decode? j := do
    match ← fields? ["settings", "syntax", "track_position"] j with
    | [a, b, c] => return ⟨← decode? a, ← decode? b, ← decode? c⟩
    | _ => none

instance : Recorded Position where
  encode p := object [
    ("pos", encode p.offset), ("line", encode p.line), ("column", encode p.column)]
  decode? j := do
    match ← fields? ["pos", "line", "column"] j with
    | [a, b, c] => return ⟨← decode? a, ← decode? b, ← decode? c⟩
    | _ => none

instance : Recorded SourceRange where
  encode r := object [("start", encode r.start), ("end", encode r.stop)]
  decode? j := do
    match ← fields? ["start", "end"] j with
    | [a, b] => return ⟨← decode? a, ← decode? b⟩
    | _ => none

instance : Recorded AttributeRange where
  encode r := object [("name", encode r.name), ("value", encode r.value)]
  decode? j := do
    match ← fields? ["name", "value"] j with
    | [a, b] => return ⟨← decode? a, ← decode? b⟩
    | _ => none

def canonical? (α : Type) [Recorded α] (text : String) : Option String :=
  ((Json.parse? text.toList).bind decode?).map fun a : α => encode a

end MarkupForest
