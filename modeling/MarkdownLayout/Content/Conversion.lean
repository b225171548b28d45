import MarkdownLayout.Content.Basic
import MarkdownLayout.Content.Notice
import MarkdownLayout.Decoration
import MarkdownLayout.Dictionary
import MarkdownLayout.Mdast.Kind
import MarkdownLayout.Mdast.PlainText
import MarkdownLayout.Slug.Slugger
import MarkdownLayout.Style.Table

set_option autoImplicit false

namespace MarkdownLayout

open Mdast

inductive Misplaced where
  | row
  | cell
  deriving DecidableEq, Repr

def Misplaced.kind : Misplaced → Kind
  | .row => .tableRow
  | .cell => .tableCell

abbrev LinkTransform := String → Option String → List Node → String

def LinkTransform.identity : LinkTransform := fun url _ _ => url

abbrev ImageMap := Dictionary String

structure Context where
  images : ImageMap
  styles : StyleTable
  transform : LinkTransform
  preventOrphans : Bool

-- A step of the walk: it may draw slugs, give notices and fail. Slugs drawn before a failure stay drawn.
abbrev Walk (α : Type) := ExceptT Misplaced (StateT Slugger Noted) α

namespace Context

def textRun (deco : Decoration) (text : String) : Content :=
  let inline := deco.inlineStyle
  let style : Option StyleRef :=
    match deco.link with
    | some _ => some (if inline.isEmpty then .named "a" else .stack [.named "a", .inline inline])
    | none => if inline.isEmpty then none else some (.inline inline)
  let props := { Style.empty with decoration := if deco.delete then some .lineThrough else none }
  .text { Run.bare with style, link := deco.link, props } text

def literalBlock (deco : Decoration) (text : String) : Content := .group .bare [textRun deco text]

def ruleWidth : Float := 514

def ruleLine (color : Option String) : CanvasLine := ⟨0, 0, ruleWidth, 0, color⟩

def leafContent (ctx : Context) (deco : Decoration) : Leaf → List Content
  | .thematicBreak =>
      let style := ctx.styles.get? "hrule"
      [.canvas ((style.bind Style.margin).map Margin.expand) [ruleLine (style.bind Style.color)]]
  | .html value | .code _ _ value | .math _ value => [literalBlock deco value]
  | .text value | .inlineCode value | .inlineMath value => [textRun deco value]
  | .lineBreak => [textRun deco ""]
  | .image url _ _ => [.image url]
  | .yaml _ | .toml _ | .definition .. | .imageReference .. | .footnoteReference .. => []

-- An image without data is shown like any other.
def remark (ctx : Context) : Leaf → Walk Unit
  | .image url _ _ => if (ctx.images.get? url).isNone then Noted.note (.noImageData url) else pure ()
  | _ => pure ()

inductive Role where
  | hidden
  | misplaced
  | shown
  deriving DecidableEq, Repr

def roleOf : Parent → Role
  | .footnoteDefinition .. | .linkReference .. => .hidden
  | .tableCell => .misplaced
  | _ => .shown

def decorate (ctx : Context) (deco : Decoration) (children : List Node) : Parent → Decoration
  | .mark mark => deco.mark mark
  | .link url title => deco.withLink (ctx.transform url title children)
  | _ => deco

def itemContent (ctx : Context) (content : Content) : Content :=
  content.mapRun fun run => { run with style := (ctx.styles.get? "li").map .inline }

def parentContent (ctx : Context) (children : List Node) (inner : List Content) :
    Parent → Walk (List Content)
  | .paragraph => pure [.group { Run.bare with props := (ctx.styles.get? "p").getD .empty } inner]
  | .heading depth => do
      let id ← modifyGet fun slugger => slugger.slug (plainText children)
      let style := (StyleTable.headingName? depth).map .named
      let headlineLevel := if ctx.preventOrphans then some depth else none
      pure [.group { Run.bare with style, id := some id, headlineLevel } inner]
  | .blockquote => pure [.group .bare inner]
  | .list true start _ => pure [.orderedList inner (start.filter fun n => n != 1)]
  | .list false _ _ => pure [.unorderedList inner]
  | .listItem .. => pure (inner.map ctx.itemContent)
  | _ => pure inner

def columnAlignment : Option Column → Alignment
  | some .right => .right
  | some .center => .center
  | some .left | none => .left

mutual
def convertNode (ctx : Context) (deco : Decoration) : Node → Walk (List Content)
  | .leaf l => do
      ctx.remark l
      pure (ctx.leafContent deco l)
  | .parent p children =>
      match roleOf p with
      | .hidden => pure []
      | .misplaced => throw .cell
      | .shown => do
          let inner ← convert ctx (ctx.decorate deco children p) children
          ctx.parentContent children inner p
  | .table align rows => do
      let body ← convertRows ctx deco (align.map columnAlignment) rows
      pure [.table body]
  | .tableRow _ => throw .row
def convert (ctx : Context) (deco : Decoration) : List Node → Walk (List Content)
  | [] => pure []
  | node :: rest => do
      let first ← convertNode ctx deco node
      let others ← convert ctx deco rest
      pure (first ++ others)
def convertCells (ctx : Context) (deco : Decoration) (aligns : List Alignment) :
    List Cell → Walk (List (List Content))
  | [] => pure []
  | cell :: rest => do
      let first ← convert ctx (deco.withAlign aligns.head?) cell
      let others ← convertCells ctx deco aligns.tail rest
      pure (first :: others)
def convertRows (ctx : Context) (deco : Decoration) (aligns : List Alignment) :
    List Row → Walk (List (List (List Content)))
  | [] => pure []
  | row :: rest => do
      let first ← convertCells ctx deco aligns row
      let others ← convertRows ctx deco aligns rest
      pure (first :: others)
end

def contentOf (ctx : Context) (deco : Decoration) (nodes : List Node) (slugger : Slugger) :
    Except Misplaced (List Content) × Slugger :=
  ((ctx.convert deco nodes).run slugger).value

def noticesOf (ctx : Context) (deco : Decoration) (nodes : List Node) (slugger : Slugger) : List Notice :=
  ((ctx.convert deco nodes).run slugger).notices

end Context

end MarkdownLayout
