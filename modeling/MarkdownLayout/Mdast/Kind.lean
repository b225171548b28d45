import MarkdownLayout.Mdast.Basic

set_option autoImplicit false

namespace MarkdownLayout.Mdast

inductive Kind where
  | paragraph
  | heading
  | thematicBreak
  | blockquote
  | list
  | listItem
  | table
  | tableRow
  | tableCell
  | html
  | code
  | math
  | yaml
  | toml
  | definition
  | footnoteDefinition
  | text
  | emphasis
  | strong
  | delete
  | inlineCode
  | lineBreak
  | link
  | image
  | linkReference
  | imageReference
  | footnote
  | footnoteReference
  | inlineMath
  deriving DecidableEq, Repr

namespace Kind

def all : List Kind :=
  [.paragraph, .heading, .thematicBreak, .blockquote, .list, .listItem, .table, .tableRow, .tableCell,
    .html, .code, .math, .yaml, .toml, .definition, .footnoteDefinition, .text, .emphasis, .strong,
    .delete, .inlineCode, .lineBreak, .link, .image, .linkReference, .imageReference, .footnote,
    .footnoteReference, .inlineMath]

def name : Kind → String
  | .paragraph => "paragraph"
  | .heading => "heading"
  | .thematicBreak => "thematicBreak"
  | .blockquote => "blockquote"
  | .list => "list"
  | .listItem => "listItem"
  | .table => "table"
  | .tableRow => "tableRow"
  | .tableCell => "tableCell"
  | .html => "html"
  | .code => "code"
  | .math => "math"
  | .yaml => "yaml"
  | .toml => "toml"
  | .definition => "definition"
  | .footnoteDefinition => "footnoteDefinition"
  | .text => "text"
  | .emphasis => "emphasis"
  | .strong => "strong"
  | .delete => "delete"
  | .inlineCode => "inlineCode"
  | .lineBreak => "break"
  | .link => "link"
  | .image => "image"
  | .linkReference => "linkReference"
  | .imageReference => "imageReference"
  | .footnote => "footnote"
  | .footnoteReference => "footnoteReference"
  | .inlineMath => "inlineMath"

def ofName? (name : String) : Option Kind := all.find? fun kind => kind.name == name

def ofNumber? (number : Nat) : Option Kind := all[number]?

end Kind

def Mark.kind : Mark → Kind
  | .emphasis => .emphasis
  | .strong => .strong
  | .delete => .delete

def Leaf.kind : Leaf → Kind
  | .thematicBreak => .thematicBreak
  | .html _ => .html
  | .code .. => .code
  | .math .. => .math
  | .yaml _ => .yaml
  | .toml _ => .toml
  | .definition .. => .definition
  | .text _ => .text
  | .inlineCode _ => .inlineCode
  | .lineBreak => .lineBreak
  | .image .. => .image
  | .imageReference .. => .imageReference
  | .footnoteReference .. => .footnoteReference
  | .inlineMath _ => .inlineMath

def Parent.kind : Parent → Kind
  | .paragraph => .paragraph
  | .heading _ => .heading
  | .blockquote => .blockquote
  | .list .. => .list
  | .listItem .. => .listItem
  | .tableCell => .tableCell
  | .footnoteDefinition .. => .footnoteDefinition
  | .mark m => m.kind
  | .link .. => .link
  | .linkReference .. => .linkReference
  | .footnote => .footnote

def Node.kind : Node → Kind
  | .leaf l => l.kind
  | .parent p _ => p.kind
  | .table .. => .table
  | .tableRow _ => .tableRow

end MarkdownLayout.Mdast
