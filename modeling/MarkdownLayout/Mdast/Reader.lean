import MarkdownLayout.Json.Reader
import MarkdownLayout.Json.Record
import MarkdownLayout.Mdast.Printer

set_option autoImplicit false

namespace MarkdownLayout.Mdast

open Json

def Kind.attributes : Kind → List String
  | .heading => ["depth"]
  | .list => ["ordered", "start", "spread"]
  | .listItem => ["checked", "spread"]
  | .table => ["align"]
  | .code => ["lang", "meta", "value"]
  | .math => ["meta", "value"]
  | .html | .yaml | .toml | .text | .inlineCode | .inlineMath => ["value"]
  | .definition => ["identifier", "label", "url", "title"]
  | .footnoteDefinition | .footnoteReference => ["identifier", "label"]
  | .link => ["url", "title"]
  | .image => ["url", "title", "alt"]
  | .linkReference => ["identifier", "label", "referenceType"]
  | .imageReference => ["identifier", "label", "referenceType", "alt"]
  | .paragraph | .thematicBreak | .blockquote | .tableRow | .tableCell | .emphasis | .strong | .delete
  | .lineBreak | .footnote => []

def Kind.isLeaf : Kind → Bool
  | .thematicBreak | .html | .code | .math | .yaml | .toml | .definition | .text | .inlineCode | .lineBreak
  | .image | .imageReference | .footnoteReference | .inlineMath => true
  | _ => false

def Kind.fields (kind : Kind) : List String :=
  if kind.isLeaf then kind.attributes else kind.attributes ++ ["children"]

def Column.ofName? : String → Option Column
  | "left" => some .left
  | "right" => some .right
  | "center" => some .center
  | _ => none

def ReferenceForm.ofName? : String → Option ReferenceForm
  | "shortcut" => some .shortcut
  | "collapsed" => some .collapsed
  | "full" => some .full
  | _ => none

def value? : Members → Option String := required string? "value"

def identifier? : Members → Option String := required string? "identifier"

def label? : Members → Option (Option String) := Json.optional string? "label"

def title? : Members → Option (Option String) := Json.optional string? "title"

def alt? : Members → Option (Option String) := Json.optional string? "alt"

def info? : Members → Option (Option String) := Json.optional string? "meta"

def spread? : Members → Option (Option Bool) := Json.optional bool? "spread"

def form? : Members → Option ReferenceForm :=
  orElse .shortcut (alternative? .nested ReferenceForm.ofName?) "referenceType"

def align? : Members → Option (List (Option Column)) :=
  orElse [] (array? (nullable (alternative? .nested Column.ofName?))) "align"

inductive Header where
  | leaf (leaf : Leaf)
  | parent (parent : Parent)
  | table (align : List (Option Column))
  | tableRow

def Kind.header? (kind : Kind) (members : Members) : Option Header :=
  match kind with
  | .paragraph => some (.parent .paragraph)
  | .heading => do some (.parent (.heading (← required byte? "depth" members)))
  | .thematicBreak => some (.leaf .thematicBreak)
  | .blockquote => some (.parent .blockquote)
  | .list => do
      let ordered ← orElse false bool? "ordered" members
      let start ← Json.optional word? "start" members
      some (.parent (.list ordered start (← spread? members)))
  | .listItem => do
      let checked ← Json.optional bool? "checked" members
      some (.parent (.listItem checked (← spread? members)))
  | .table => do some (.table (← align? members))
  | .tableRow => some .tableRow
  | .tableCell => some (.parent .tableCell)
  | .html => do some (.leaf (.html (← value? members)))
  | .code => do
      let lang ← Json.optional string? "lang" members
      some (.leaf (.code lang (← info? members) (← value? members)))
  | .math => do some (.leaf (.math (← info? members) (← value? members)))
  | .yaml => do some (.leaf (.yaml (← value? members)))
  | .toml => do some (.leaf (.toml (← value? members)))
  | .definition => do
      let url ← required string? "url" members
      some (.leaf (.definition (← identifier? members) (← label? members) url (← title? members)))
  | .footnoteDefinition => do
      some (.parent (.footnoteDefinition (← identifier? members) (← label? members)))
  | .text => do some (.leaf (.text (← value? members)))
  | .emphasis => some (.parent (.mark .emphasis))
  | .strong => some (.parent (.mark .strong))
  | .delete => some (.parent (.mark .delete))
  | .inlineCode => do some (.leaf (.inlineCode (← value? members)))
  | .lineBreak => some (.leaf .lineBreak)
  | .link => do
      let url ← required string? "url" members
      some (.parent (.link url (← title? members)))
  | .image => do
      let url ← required string? "url" members
      some (.leaf (.image url (← title? members) (← alt? members)))
  | .linkReference => do
      some (.parent (.linkReference (← identifier? members) (← label? members) (← form? members)))
  | .imageReference => do
      some (.leaf (.imageReference (← identifier? members) (← label? members) (← form? members)
        (← alt? members)))
  | .footnote => some (.parent .footnote)
  | .footnoteReference => do some (.leaf (.footnoteReference (← identifier? members) (← label? members)))
  | .inlineMath => do some (.leaf (.inlineMath (← value? members)))

def Kind.ofJson? : Json → Option Kind
  | .string name => Kind.ofName? name
  | _ => none

def Kind.ofNestedJson? : Json → Option Kind
  | .string name => Kind.ofName? name
  | .number (.int n) => if 0 ≤ n then Kind.ofNumber? n.toNat else none
  | _ => none

def kindOf? (kind? : Json → Option Kind) (members : Members) : Option Kind := do
  let kind ← required kind? "type" members
  let _ ← distinct ("type" :: kind.fields) members
  some kind

mutual
def readNode (kind? : Json → Option Kind) : Json → Option Node
  | .object members =>
      (kindOf? kind? members).bind fun kind =>
        (kind.header? members).bind fun
          | .leaf l => some (.leaf l)
          | .parent p => (childrenIn members).map (.parent p)
          | .table align => (rowsIn members).map (.table align)
          | .tableRow => (cellsIn members).map .tableRow
  | .array (first :: items) =>
      (kind? first).bind fun kind =>
        ((named .nested kind.fields items).bind kind.header?).bind fun
          | .leaf l => some (.leaf l)
          | .parent p => if items.length < kind.fields.length then none else (lastNodes items).map (.parent p)
          | .table align => if items.length < kind.fields.length then none else (lastRows items).map (.table align)
          | .tableRow => if items.length < kind.fields.length then none else (lastCells items).map .tableRow
  | _ => none
def childrenIn : Members → Option (List Node)
  | [] => none
  | (name, json) :: rest => if name = "children" then readNodes json else childrenIn rest
def rowsIn : Members → Option (List Row)
  | [] => none
  | (name, json) :: rest => if name = "children" then readRows json else rowsIn rest
def cellsIn : Members → Option (List Cell)
  | [] => none
  | (name, json) :: rest => if name = "children" then readCells json else cellsIn rest
def lastNodes : List Json → Option (List Node)
  | [] => none
  | [json] => readNodes json
  | _ :: rest => lastNodes rest
def lastRows : List Json → Option (List Row)
  | [] => none
  | [json] => readRows json
  | _ :: rest => lastRows rest
def lastCells : List Json → Option (List Cell)
  | [] => none
  | [json] => readCells json
  | _ :: rest => lastCells rest
def readNodes : Json → Option (List Node)
  | .array items => eachNode items
  | _ => none
def readRows : Json → Option (List Row)
  | .array items => eachRow items
  | _ => none
def readCells : Json → Option (List Cell)
  | .array items => eachCell items
  | _ => none
def eachNode : List Json → Option (List Node)
  | [] => some []
  | json :: rest =>
      (readNode Kind.ofNestedJson? json).bind fun node => (eachNode rest).map fun nodes => node :: nodes
def eachRow : List Json → Option (List Row)
  | [] => some []
  | json :: rest => (readRow json).bind fun row => (eachRow rest).map fun rows => row :: rows
def eachCell : List Json → Option (List Cell)
  | [] => some []
  | json :: rest => (readCell json).bind fun cell => (eachCell rest).map fun cells => cell :: cells
def readRow : Json → Option Row
  | .object members => (distinct ["children"] members).bind fun _ => cellsIn members
  | .array [json] => readCells json
  | _ => none
def readCell : Json → Option Cell
  | .object members => (distinct ["children"] members).bind fun _ => childrenIn members
  | .array [json] => readNodes json
  | _ => none
end

def Node.ofJson? (json : Json) : Option Node := readNode Kind.ofJson? json

def nodesOfJson? (json : Json) : Option (List Node) := array? Node.ofJson? json

def Root.ofJson? (json : Json) : Option Root := do
  let members ← record? .plain ["children"] json
  some ⟨← required nodesOfJson? "children" members⟩

-- Reads a document from JSON text. Of other members of the document only the spelling counts.
def Root.read? (text : String) : Option Root := (Json.readMembers ["children"] text).bind Root.ofJson?

end MarkdownLayout.Mdast
