import MarkdownLayout.Proofs.Outcome
import MarkdownLayout.Proofs.Output
import MarkdownLayout.Proofs.Pruning
import MarkdownLayout.Proofs.Walk

set_option autoImplicit false

namespace MarkdownLayout

open Mdast

-- Images give output, but what stands for them in the text of a document does not appear in it.
def Mdast.Kind.isWordless (kind : Kind) : Bool := kind.isSilent || kind = .image

def Content.words? : Content → Option String
  | .text _ literal => some literal
  | _ => none

structure Says (found : List Content) (text : String) (urls : List String) : Prop where
  text : String.join (found.filterMap Content.words?) = text
  urls : found.filterMap Content.imageUrl? = urls

theorem words_of_literals (content : List Content) :
    (literals content).map Prod.snd = (Content.nodesOf content).filterMap Content.words? := by
  rw [literals, List.map_filterMap]
  congr 1
  funext node
  cases node <;> rfl

theorem says_nothing : Says [] "" [] := ⟨rfl, rfl⟩

theorem says_append (a b : List Content) (textA textB : String) (urlsA urlsB : List String)
    (first : Says a textA urlsA) (others : Says b textB urlsB) :
    Says (a ++ b) (textA ++ textB) (urlsA ++ urlsB) where
  text := by rw [List.filterMap_append, String.join_append, first.text, others.text]
  urls := by rw [List.filterMap_append, first.urls, others.urls]

theorem says_enclosed (inner : List Content) (enclosing : Content) (text : String) (urls : List String)
    (wordless : enclosing.words? = none) (noImage : enclosing.imageUrl? = none) (said : Says inner text urls) :
    Says (inner ++ [enclosing]) text urls where
  text := by
    rw [List.filterMap_append, List.filterMap_cons_none wordless, List.filterMap_nil, List.append_nil]
    exact said.text
  urls := by
    rw [List.filterMap_append, List.filterMap_cons_none noImage, List.filterMap_nil, List.append_nil]
    exact said.urls

def SaysAll (content : List Content) (nodes : List Node) : Prop :=
  Says (Content.nodesOf content) (plainText (pruned Kind.isWordless nodes))
    (imageUrls (pruned Kind.isSilent nodes))

theorem says_all_cons (first others : List Content) (node : Node) (rest : List Node)
    (head : SaysAll first [node]) (tail : SaysAll others rest) : SaysAll (first ++ others) (node :: rest) := by
  rw [SaysAll, Content.nodes_of_append, pruned_cons, pruned_cons Kind.isSilent, plain_text_append,
    image_urls_append]
  exact says_append _ _ _ _ _ _ head tail

theorem says_all_kept (content : List Content) (node : Node) (kept : node.kind.isWordless = false) :
    SaysAll content [node] ↔ Says (Content.nodesOf content) (node.pruned Kind.isWordless).plainText
      (node.pruned Kind.isSilent).imageUrls := by
  have shown : node.kind.isSilent = false := (Bool.or_eq_false_iff.mp kept).1
  rw [SaysAll, pruned_single _ _ kept, pruned_single _ _ shown, plain_text_single, image_urls_single]

theorem says_all_silent (node : Node) (silent : node.kind.isSilent = true) : SaysAll [] [node] := by
  have wordless : node.kind.isWordless = true := by rw [Kind.isWordless, silent, Bool.true_or]
  rw [SaysAll, pruned_dropped _ _ wordless, pruned_dropped _ _ silent]
  exact says_nothing

theorem open_not_wordless (p : Parent) (isOpen : p.isOpen = true) : p.kind.isWordless = false := by
  cases p with
  | mark m => cases m <;> rfl
  | tableCell => cases isOpen
  | footnoteDefinition identifier label => cases isOpen
  | linkReference identifier label form => cases isOpen
  | _ => rfl

theorem says_all_parent (content : List Content) (p : Parent) (children : List Node) (isOpen : p.isOpen = true) :
    SaysAll content [.parent p children] ↔ SaysAll content children :=
  says_all_kept content (.parent p children) (open_not_wordless p isOpen)

theorem says_all_leaf (ctx : Context) (deco : Decoration) (l : Leaf) :
    SaysAll (ctx.leafContent deco l) [.leaf l] := by
  have spoken (value : String) : Says [Context.textRun deco value] value [] :=
    ⟨by simp [Context.textRun, Content.words?], rfl⟩
  cases l with
  | text value => exact (says_all_kept _ _ rfl).mpr (spoken value)
  | inlineCode value => exact (says_all_kept _ _ rfl).mpr (spoken value)
  | inlineMath value => exact (says_all_kept _ _ rfl).mpr (spoken value)
  | lineBreak => exact (says_all_kept _ _ rfl).mpr (spoken "")
  | html value => exact (says_all_kept _ _ rfl).mpr (says_enclosed _ _ _ _ rfl rfl (spoken value))
  | code lang info value => exact (says_all_kept _ _ rfl).mpr (says_enclosed _ _ _ _ rfl rfl (spoken value))
  | math info value => exact (says_all_kept _ _ rfl).mpr (says_enclosed _ _ _ _ rfl rfl (spoken value))
  | thematicBreak => exact (says_all_kept _ _ rfl).mpr ⟨rfl, rfl⟩
  | image url title alt => exact ⟨rfl, rfl⟩
  | yaml value => exact says_all_silent _ rfl
  | toml value => exact says_all_silent _ rfl
  | definition identifier label url title => exact says_all_silent _ rfl
  | imageReference identifier label form alt => exact says_all_silent _ rfl
  | footnoteReference identifier label => exact says_all_silent _ rfl

namespace Context

theorem item_nodes {α : Type} (ctx : Context) (f : Content → Option α)
    (unstyled : ∀ content, f (ctx.itemContent content) = f content) (inner : List Content) :
    (Content.nodesOf (inner.map ctx.itemContent)).filterMap f = (Content.nodesOf inner).filterMap f := by
  induction inner with
  | nil => rfl
  | cons first rest ih =>
      have head : (ctx.itemContent first).nodes.filterMap f = first.nodes.filterMap f := by
        have restyled := unstyled first
        cases first with
        | text run literal =>
            rw [itemContent, Content.mapRun] at restyled ⊢
            simp only [Content.nodes, List.filterMap_cons, restyled]
        | group run children =>
            rw [itemContent, Content.mapRun] at restyled ⊢
            simp only [Content.nodes, List.filterMap_append, List.filterMap_cons, restyled]
        | _ => rfl
      rw [List.map_cons, Content.nodesOf, Content.nodesOf, List.filterMap_append, List.filterMap_append, head, ih]

theorem says_all_item (ctx : Context) (inner : List Content) (nodes : List Node) (said : SaysAll inner nodes) :
    SaysAll (inner.map ctx.itemContent) nodes where
  text := by
    rw [item_nodes ctx Content.words? (fun content => by cases content <;> rfl)]
    exact said.text
  urls := by
    rw [item_nodes ctx Content.imageUrl? (fun content => by cases content <;> rfl)]
    exact said.urls

theorem says_all_group (run : Run) (inner : List Content) (nodes : List Node) (said : SaysAll inner nodes) :
    SaysAll [.group run inner] nodes := by
  rw [SaysAll, Content.nodes_of_single]
  exact says_enclosed _ _ _ _ rfl rfl said

theorem parent_says_all (ctx : Context) (children : List Node) (inner : List Content) (p : Parent)
    (isOpen : p.isOpen = true) (said : SaysAll inner children) :
    Yields (ctx.parentContent children inner p) fun content => SaysAll content children := by
  cases p with
  | paragraph => exact yields_pure _ _ (says_all_group _ inner children said)
  | blockquote => exact yields_pure _ _ (says_all_group _ inner children said)
  | heading depth =>
      exact yields_bind _ _ _ _ (yields_always _) fun id _ =>
        yields_pure _ _ (says_all_group _ inner children said)
  | list ordered start spread =>
      cases ordered with
      | true =>
          refine yields_pure _ _ ?_
          rw [SaysAll, Content.nodes_of_single]
          exact says_enclosed _ _ _ _ rfl rfl said
      | false =>
          refine yields_pure _ _ ?_
          rw [SaysAll, Content.nodes_of_single]
          exact says_enclosed _ _ _ _ rfl rfl said
  | listItem checked spread => exact yields_pure _ _ (says_all_item ctx inner children said)
  | mark m => exact yields_pure _ _ said
  | link url title => exact yields_pure _ _ said
  | footnote => exact yields_pure _ _ said
  | tableCell => cases isOpen
  | footnoteDefinition identifier label => cases isOpen
  | linkReference identifier label form => cases isOpen

theorem closed_says_all (ctx : Context) (deco : Decoration) (p : Parent) (children : List Node)
    (closed : p.isOpen = false) :
    Yields (ctx.convertNode deco (.parent p children)) fun content => SaysAll content [.parent p children] := by
  cases p with
  | tableCell => exact yields_throw _ _
  | footnoteDefinition identifier label => exact yields_pure _ _ (says_all_silent _ rfl)
  | linkReference identifier label form => exact yields_pure _ _ (says_all_silent _ rfl)
  | _ => cases closed

mutual
theorem node_says_all (ctx : Context) (deco : Decoration) (node : Node) :
    Yields (ctx.convertNode deco node) fun content => SaysAll content [node] := by
  cases node with
  | leaf l => exact yields_leaf ctx deco l _ (says_all_leaf ctx deco l)
  | parent p children =>
      cases isOpen : p.isOpen with
      | false => exact closed_says_all ctx deco p children isOpen
      | true =>
          rw [convertNode, role_open p isOpen]
          simp only [says_all_parent _ p children isOpen]
          exact yields_bind _ _ _ _ (convert_says_all ctx (ctx.decorate deco children p) children)
            fun inner said => parent_says_all ctx children inner p isOpen said
  | table align rows =>
      refine yields_bind _ _ _ _ (rows_say_all ctx deco (align.map columnAlignment) rows) fun body said => ?_
      refine yields_pure _ _ ((says_all_kept _ _ rfl).mpr ?_)
      rw [Content.nodes_of_single]
      exact says_enclosed _ _ _ _ rfl rfl said
  | tableRow cells => exact yields_throw _ _
theorem convert_says_all (ctx : Context) (deco : Decoration) (nodes : List Node) :
    Yields (ctx.convert deco nodes) fun content => SaysAll content nodes := by
  cases nodes with
  | nil => exact yields_pure _ _ says_nothing
  | cons node rest =>
      refine yields_bind _ _ _ _ (node_says_all ctx deco node) fun first head => ?_
      refine yields_bind _ _ _ _ (convert_says_all ctx deco rest) fun others tail => ?_
      exact yields_pure _ _ (says_all_cons first others node rest head tail)
theorem cells_say_all (ctx : Context) (deco : Decoration) (aligns : List Alignment) (cells : List Cell) :
    Yields (ctx.convertCells deco aligns cells) fun row =>
      Says (Content.cellNodes row) (cellsText (prunedCells Kind.isWordless cells))
        (cellUrls (prunedCells Kind.isSilent cells)) := by
  cases cells with
  | nil => exact yields_pure _ _ says_nothing
  | cons cell rest =>
      refine yields_bind _ _ _ _ (convert_says_all ctx (deco.withAlign aligns.head?) cell) fun first head => ?_
      refine yields_bind _ _ _ _ (cells_say_all ctx deco aligns.tail rest) fun others tail => ?_
      exact yields_pure _ _ (says_append _ _ _ _ _ _ head tail)
theorem rows_say_all (ctx : Context) (deco : Decoration) (aligns : List Alignment) (rows : List Row) :
    Yields (ctx.convertRows deco aligns rows) fun body =>
      Says (Content.rowNodes body) (rowsText (prunedRows Kind.isWordless rows))
        (rowUrls (prunedRows Kind.isSilent rows)) := by
  cases rows with
  | nil => exact yields_pure _ _ says_nothing
  | cons row rest =>
      refine yields_bind _ _ _ _ (cells_say_all ctx deco aligns row) fun first head => ?_
      refine yields_bind _ _ _ _ (rows_say_all ctx deco aligns rest) fun others tail => ?_
      exact yields_pure _ _ (says_append _ _ _ _ _ _ head tail)
end

theorem output_says_document (ctx : Context) (deco : Decoration) (nodes : List Node) (s : Slugger)
    (content : List Content) (done : (ctx.contentOf deco nodes s).1 = .ok content) :
    String.join ((literals content).map Prod.snd) = plainText (pruned Kind.isWordless nodes) ∧
      imageRefs content = imageUrls (pruned Kind.isSilent nodes) := by
  have said := convert_says_all ctx deco nodes s content done
  rw [words_of_literals]
  exact ⟨said.text, said.urls⟩

def unstyled : Context where
  images := .empty
  styles := .empty
  transform := .identity
  preventOrphans := false

def listedTable : List Node :=
  [.parent (.list false none none)
    [.parent (.listItem none none)
      [.parent .paragraph [.leaf (.text "a"), .leaf (.image "u" none (some "alt"))],
        .table []
          [[[.leaf (.html "b")], [.leaf (.image "v" none none), .leaf (.inlineCode "c")]],
            [[.parent (.footnoteDefinition "f" none) [.leaf (.text "note"), .leaf (.image "w" none none)]]]]]],
    .leaf (.toml "key = 1")]

def listedTableContent : List Content :=
  [.unorderedList
    [.group .bare [.text .bare "a", .image "u"],
      .table [[[.group .bare [.text .bare "b"]], [.image "v", .text .bare "c"]], [[]]]]]

theorem output_says_listed_table :
    (unstyled.contentOf .plain listedTable .fresh).1 = .ok listedTableContent ∧
      String.join ((literals listedTableContent).map Prod.snd) =
        plainText (pruned Kind.isWordless listedTable) ∧
      imageRefs listedTableContent = imageUrls (pruned Kind.isSilent listedTable) :=
  ⟨rfl, output_says_document unstyled .plain listedTable .fresh listedTableContent rfl⟩

end Context

end MarkdownLayout
