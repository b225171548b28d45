import MarkdownLayout.Proofs.Walk

set_option autoImplicit false

namespace MarkdownLayout

open Mdast

inductive Ancestor where
  | parent (parent : Parent) (children : List Node)
  | cell (align : List (Option Column)) (column : Nat)

structure Place where
  path : List Ancestor
  leaf : Leaf

def Place.under (ancestor : Ancestor) (place : Place) : Place := ⟨place.path ++ [ancestor], place.leaf⟩

def Mdast.Leaf.literal? : Leaf → Option String
  | .html value | .code _ _ value | .math _ value => some value
  | .text value | .inlineCode value | .inlineMath value => some value
  | .lineBreak => some ""
  | _ => none

mutual
def Mdast.Node.literalPlaces : Node → List Place
  | .leaf l => if l.literal?.isSome then [⟨[], l⟩] else []
  | .parent p children => if p.isOpen then (literalPlaces children).map (.under (.parent p children)) else []
  | .table align rows => rowPlaces align rows
  | .tableRow _ => []
def literalPlaces : List Node → List Place
  | [] => []
  | node :: rest => node.literalPlaces ++ literalPlaces rest
def cellPlaces (align : List (Option Column)) (column : Nat) : List Cell → List Place
  | [] => []
  | cell :: rest =>
      (literalPlaces cell).map (.under (.cell align column)) ++ cellPlaces align (column + 1) rest
def rowPlaces (align : List (Option Column)) : List Row → List Place
  | [] => []
  | row :: rest => cellPlaces align 0 row ++ rowPlaces align rest
end

namespace Ancestor

def isMark (mark : Mark) : Ancestor → Bool
  | .parent (.mark m) _ => m = mark
  | _ => false

def link? (ctx : Context) : Ancestor → Option String
  | .parent (.link url title) children => some (ctx.transform url title children)
  | _ => none

-- The alignment in a cell: none beyond the columns of the table, and left where a column names none.
def alignment? : Ancestor → Option (Option Alignment)
  | .cell align column =>
      some (align[column]?.map fun
        | some .right => .right
        | some .center => .center
        | _ => .left)
  | .parent .. => none

def isWrapper : Ancestor → Bool
  | .parent (.mark _) _ | .parent (.link ..) _ | .parent .footnote _ => true
  | _ => false

def isItem : Ancestor → Bool
  | .parent (.listItem ..) _ => true
  | _ => false

end Ancestor

def Mdast.Leaf.isBlock : Leaf → Bool
  | .html _ | .code .. | .math .. => true
  | _ => false

namespace Place

def inItem (place : Place) : Bool := (place.path.find? fun ancestor => !ancestor.isWrapper).any Ancestor.isItem

def marked (place : Place) (mark : Mark) : Bool := place.path.any (Ancestor.isMark mark)

def link? (ctx : Context) (deco : Decoration) (place : Place) : Option String :=
  (place.path.findSome? (Ancestor.link? ctx)).or deco.link

def alignment? (deco : Decoration) (place : Place) : Option Alignment :=
  (place.path.findSome? Ancestor.alignment?).getD deco.align

end Place

def composedStyle (bold italics : Bool) (alignment : Option Alignment) (linked : Bool) : Option StyleRef :=
  let properties : Style :=
    { Style.empty with
      bold := if bold then some true else none
      italics := if italics then some true else none
      alignment }
  match linked, bold || italics || alignment.isSome with
  | true, true => some (.stack [.named "a", .inline properties])
  | true, false => some (.named "a")
  | false, true => some (.inline properties)
  | false, false => none

def Place.ownStyle (ctx : Context) (deco : Decoration) (place : Place) : Option StyleRef :=
  composedStyle (deco.strong || place.marked .strong) (deco.emphasis || place.marked .emphasis)
    (place.alignment? deco) (place.link? ctx deco).isSome

-- The run that the text at a place becomes, where `deco` stands around the whole tree.
def literalRun (ctx : Context) (deco : Decoration) (place : Place) : Run where
  style :=
    if place.inItem && !place.leaf.isBlock then (ctx.styles.get? "li").map .inline
    else place.ownStyle ctx deco
  id := none
  link := place.link? ctx deco
  headlineLevel := none
  props := { Style.empty with decoration := if deco.delete || place.marked .delete then some .lineThrough else none }

namespace Ancestor

def decorate (ctx : Context) (deco : Decoration) : Ancestor → Decoration
  | .parent p children => ctx.decorate deco children p
  | .cell align column => deco.withAlign (align[column]?.map Context.columnAlignment)

theorem decorate_link (ctx : Context) (deco : Decoration) (a : Ancestor) :
    (a.decorate ctx deco).link = (a.link? ctx).or deco.link := by
  cases a with
  | cell align column => rfl
  | parent p children =>
      cases p with
      | mark m => cases m <;> rfl
      | _ => rfl

theorem decorate_align (ctx : Context) (deco : Decoration) (a : Ancestor) :
    (a.decorate ctx deco).align = a.alignment?.getD deco.align := by
  cases a with
  | cell align column =>
      simp only [decorate, Decoration.withAlign, alignment?, Option.getD_some]
      cases align[column]? with
      | none => rfl
      | some given =>
          cases given with
          | none => rfl
          | some side => cases side <;> rfl
  | parent p children =>
      cases p with
      | mark m => cases m <;> rfl
      | _ => rfl

theorem decorate_marks (ctx : Context) (deco : Decoration) (a : Ancestor) :
    (a.decorate ctx deco).strong = (deco.strong || a.isMark .strong) ∧
      (a.decorate ctx deco).emphasis = (deco.emphasis || a.isMark .emphasis) ∧
      (a.decorate ctx deco).delete = (deco.delete || a.isMark .delete) := by
  cases a with
  | cell align column => simp [decorate, Decoration.withAlign, isMark]
  | parent p children =>
      cases p with
      | mark m => cases m <;> simp [decorate, Context.decorate, Decoration.mark, isMark]
      | link url title => simp [decorate, Context.decorate, Decoration.withLink, isMark]
      | _ => simp [decorate, Context.decorate, isMark]

end Ancestor

namespace Place

theorem marked_under (a : Ancestor) (place : Place) (mark : Mark) :
    (place.under a).marked mark = (a.isMark mark || place.marked mark) := by
  rw [marked, under, List.any_append, List.any_cons, List.any_nil, Bool.or_false, Bool.or_comm]
  rfl

@[simp]
theorem leaf_under (a : Ancestor) (place : Place) : (place.under a).leaf = place.leaf := rfl

theorem link_under (ctx : Context) (deco : Decoration) (a : Ancestor) (place : Place) :
    (place.under a).link? ctx deco = place.link? ctx (a.decorate ctx deco) := by
  rw [link?, link?, Ancestor.decorate_link, under, List.findSome?_append, List.findSome?_singleton, Option.or_assoc]

theorem alignment_under (ctx : Context) (deco : Decoration) (a : Ancestor) (place : Place) :
    (place.under a).alignment? deco = place.alignment? (a.decorate ctx deco) := by
  rw [alignment?, alignment?, Ancestor.decorate_align, under, List.findSome?_append, List.findSome?_singleton]
  cases place.path.findSome? Ancestor.alignment? <;> rfl

-- Whether the run at a place is not inside of another that is still below the list items around.
def isExposed (place : Place) : Bool :=
  !place.leaf.isBlock && place.path.all fun ancestor => ancestor.isWrapper || ancestor.isItem

theorem in_item_under (a : Ancestor) (place : Place) (notItem : a.isItem = false) :
    (place.under a).inItem = place.inItem := by
  rw [inItem, inItem, under, List.find?_append]
  cases place.path.find? fun ancestor => !ancestor.isWrapper with
  | some first => rfl
  | none => cases wrapper : a.isWrapper <;> simp [wrapper, notItem]

theorem item_not_wrapper (a : Ancestor) (isItem : a.isItem = true) : a.isWrapper = false := by
  cases a with
  | cell align column => cases isItem
  | parent p children => cases p <;> first | rfl | cases isItem

theorem in_item_exposed (a : Ancestor) (place : Place) (isItem : a.isItem = true)
    (exposed : place.isExposed = true) : (place.under a).inItem = true := by
  have splices := List.all_eq_true.mp (Bool.and_eq_true_iff.mp exposed).2
  rw [inItem, under, List.find?_append]
  cases found : place.path.find? fun ancestor => !ancestor.isWrapper with
  | none => simp [item_not_wrapper a isItem, isItem]
  | some first =>
      have notWrapper : first.isWrapper = false := by simpa using List.find?_some found
      have either := splices first (List.mem_of_find?_eq_some found)
      simpa [notWrapper] using either

theorem in_item_hidden (a : Ancestor) (place : Place) (notBlock : place.leaf.isBlock = false)
    (hidden : place.isExposed = false) : (place.under a).inItem = place.inItem := by
  rw [isExposed, notBlock, Bool.not_false, Bool.true_and] at hidden
  obtain ⟨barrier, member, blocks⟩ := List.all_eq_false.mp hidden
  rw [inItem, inItem, under, List.find?_append]
  cases found : place.path.find? fun ancestor => !ancestor.isWrapper with
  | some first => rfl
  | none =>
      have wrapper := List.find?_eq_none.mp found barrier member
      simp only [Bool.not_eq_true, Bool.not_eq_false'] at wrapper
      simp [wrapper] at blocks

end Place

structure ShownLiteral where
  exposed : Bool
  run : Run
  text : String

def ShownLiteral.inside (literal : Run × String) : ShownLiteral := ⟨false, literal.1, literal.2⟩

def literalAt (ctx : Context) (deco : Decoration) (place : Place) : ShownLiteral :=
  ⟨place.isExposed, literalRun ctx deco place, place.leaf.literal?.getD ""⟩

def Ancestor.reframe (ctx : Context) (a : Ancestor) (shown : ShownLiteral) : ShownLiteral :=
  if a.isItem then
    if shown.exposed then { shown with run.style := (ctx.styles.get? "li").map .inline } else shown
  else if a.isWrapper then shown
  else { shown with exposed := false }

theorem own_style_under (ctx : Context) (deco : Decoration) (a : Ancestor) (place : Place) :
    (place.under a).ownStyle ctx deco = place.ownStyle ctx (a.decorate ctx deco) := by
  obtain ⟨strong, emphasis, -⟩ := a.decorate_marks ctx deco
  rw [Place.ownStyle, Place.ownStyle, strong, emphasis, Place.marked_under, Place.marked_under,
    Place.link_under, Place.alignment_under ctx, Bool.or_assoc, Bool.or_assoc]

theorem literal_run_under (ctx : Context) (deco : Decoration) (a : Ancestor) (place : Place) :
    literalRun ctx deco (place.under a) =
      { literalRun ctx (a.decorate ctx deco) place with
        style :=
          if (place.under a).inItem && !place.leaf.isBlock then (ctx.styles.get? "li").map .inline
          else place.ownStyle ctx (a.decorate ctx deco) } := by
  obtain ⟨-, -, delete⟩ := a.decorate_marks ctx deco
  rw [literalRun, literalRun, own_style_under, Place.link_under, Place.marked_under, delete, Bool.or_assoc]
  rfl

theorem literal_under (ctx : Context) (deco : Decoration) (a : Ancestor) (place : Place) :
    literalAt ctx deco (place.under a) = a.reframe ctx (literalAt ctx (a.decorate ctx deco) place) := by
  have exposed : (place.under a).isExposed = (place.isExposed && (a.isWrapper || a.isItem)) := by
    simp [Place.isExposed, Place.under, Bool.and_assoc]
  rw [literalAt, literalAt, literal_run_under, exposed, Ancestor.reframe]
  cases isItem : a.isItem with
  | false =>
      rw [Place.in_item_under a place isItem]
      cases wrapper : a.isWrapper <;> simp [literalRun]
  | true =>
      cases shown : place.isExposed with
      | true =>
          have notBlock : place.leaf.isBlock = false := by
            simpa using (Bool.and_eq_true_iff.mp shown).1
          simp [Place.in_item_exposed a place isItem shown, notBlock]
      | false =>
          cases block : place.leaf.isBlock with
          | true => simp [literalRun, block]
          | false => simp [literalRun, block, Place.in_item_hidden a place block shown]

-- Only the runs that are themselves in the sequence can still be restyled, not those inside of them.
def Content.exposed : Content → List ShownLiteral
  | .text run literal => [⟨true, run, literal⟩]
  | content => (literals [content]).map .inside

def exposedLiterals (content : List Content) : List ShownLiteral := content.flatMap Content.exposed

def ShownLiteral.forget (shown : ShownLiteral) : Run × String := (shown.run, shown.text)

theorem forget_inside (found : List (Run × String)) :
    (found.map ShownLiteral.inside).map ShownLiteral.forget = found := by
  rw [List.map_map]
  exact List.map_id found

theorem exposed_forget (content : List Content) :
    (exposedLiterals content).map ShownLiteral.forget = literals content := by
  induction content with
  | nil => rfl
  | cons first rest ih =>
      have head : first.exposed.map ShownLiteral.forget = literals [first] := by
        cases first with
        | text run literal => rfl
        | _ => exact forget_inside _
      calc (exposedLiterals (first :: rest)).map ShownLiteral.forget
        _ = first.exposed.map ShownLiteral.forget ++ (exposedLiterals rest).map ShownLiteral.forget := by
            rw [exposedLiterals, List.flatMap_cons, List.map_append]
            rfl
        _ = literals [first] ++ literals rest := by rw [head, ih]
        _ = literals (first :: rest) := (literals_append [first] rest).symm

theorem exposed_append (a b : List Content) : exposedLiterals (a ++ b) = exposedLiterals a ++ exposedLiterals b :=
  List.flatMap_append

theorem exposed_inside (inner : List Content) :
    (literals inner).map .inside = (exposedLiterals inner).map fun shown => { shown with exposed := false } := by
  rw [← exposed_forget, List.map_map]
  rfl

theorem exposed_enclosed (ctx : Context) (a : Ancestor) (inner : List Content) (enclosing : Content)
    (around : enclosing.nodes = Content.nodesOf inner ++ [enclosing])
    (notText : enclosing.literal? = none) (notItem : a.isItem = false) (notWrapper : a.isWrapper = false) :
    exposedLiterals [enclosing] = (exposedLiterals inner).map (a.reframe ctx) := by
  have shown : enclosing.exposed = (literals [enclosing]).map .inside := by
    cases enclosing with
    | text run literal => cases notText
    | _ => rfl
  rw [exposedLiterals, List.flatMap_singleton, shown, literals_enclosed enclosing inner around notText,
    exposed_inside]
  refine congrArg (fun f => (exposedLiterals inner).map f) (funext fun shown => ?_)
  simp [Ancestor.reframe, notItem, notWrapper]

theorem exposed_restyled (ctx : Context) (checked spread : Option Bool) (children : List Node) (content : Content) :
    (ctx.itemContent content).exposed =
      content.exposed.map ((Ancestor.parent (.listItem checked spread) children).reframe ctx) := by
  have kept (found : List (Run × String)) :
      (found.map ShownLiteral.inside).map ((Ancestor.parent (.listItem checked spread) children).reframe ctx) =
        found.map ShownLiteral.inside := by
    rw [List.map_map]
    exact List.map_congr_left fun _ _ => rfl
  cases content with
  | text run literal => rfl
  | group run inner =>
      have same (other : Run) : literals [.group other inner] = literals inner :=
        literals_enclosed _ inner rfl rfl
      simp only [Context.itemContent, Content.mapRun, Content.exposed, same, kept]
  | _ => exact (kept _).symm

theorem exposed_item (ctx : Context) (checked spread : Option Bool) (children : List Node) (inner : List Content) :
    exposedLiterals (inner.map ctx.itemContent) =
      (exposedLiterals inner).map ((Ancestor.parent (.listItem checked spread) children).reframe ctx) := by
  rw [exposedLiterals, exposedLiterals, List.flatMap_map, List.map_flatMap]
  exact congrArg (fun f => inner.flatMap f) (funext (exposed_restyled ctx checked spread children))

namespace Context

theorem inline_style_empty (deco : Decoration) :
    deco.inlineStyle.isEmpty = !(deco.strong || deco.emphasis || deco.align.isSome) := by
  obtain ⟨strong, emphasis, delete, link, align⟩ := deco
  cases strong <;> cases emphasis <;> cases align <;> rfl

theorem own_style_top (ctx : Context) (deco : Decoration) (l : Leaf) :
    Place.ownStyle ctx deco ⟨[], l⟩ = composedStyle deco.strong deco.emphasis deco.align deco.link.isSome := by
  simp [Place.ownStyle, Place.marked, Place.alignment?, Place.link?]

theorem text_run_style (ctx : Context) (deco : Decoration) (text : String) (l : Leaf) :
    textRun deco text = .text (literalRun ctx deco ⟨[], l⟩) text := by
  have notInItem : Place.inItem ⟨[], l⟩ = false := rfl
  have link : Place.link? ctx deco ⟨[], l⟩ = deco.link := rfl
  have unmarked : Place.marked ⟨[], l⟩ .delete = false := rfl
  rw [textRun, literalRun, notInItem, Bool.false_and, if_neg Bool.false_ne_true, own_style_top, link, unmarked,
    Bool.or_false, inline_style_empty]
  unfold composedStyle
  cases deco.link <;> cases deco.strong || deco.emphasis || deco.align.isSome <;> rfl

theorem leaf_literals (ctx : Context) (deco : Decoration) (l : Leaf) :
    exposedLiterals (ctx.leafContent deco l) = (Node.leaf l).literalPlaces.map (literalAt ctx deco) := by
  have shown := fun text => text_run_style ctx deco text l
  cases l with
  | html value => simp only [leafContent, literalBlock, shown]; rfl
  | code lang info value => simp only [leafContent, literalBlock, shown]; rfl
  | math info value => simp only [leafContent, literalBlock, shown]; rfl
  | text value => simp only [leafContent, shown]; rfl
  | inlineCode value => simp only [leafContent, shown]; rfl
  | inlineMath value => simp only [leafContent, shown]; rfl
  | lineBreak => simp only [leafContent, shown]; rfl
  | _ => rfl

theorem closed_literals (ctx : Context) (deco : Decoration) (p : Parent) (children : List Node)
    (closed : p.isOpen = false) :
    Yields (ctx.convertNode deco (.parent p children)) fun content => exposedLiterals content = [] := by
  cases p with
  | tableCell => exact yields_throw _ _
  | footnoteDefinition identifier label => exact yields_pure _ _ rfl
  | linkReference identifier label form => exact yields_pure _ _ rfl
  | _ => cases closed

theorem parent_literals (ctx : Context) (children : List Node) (inner : List Content) (p : Parent)
    (isOpen : p.isOpen = true) :
    Yields (ctx.parentContent children inner p) fun content =>
      exposedLiterals content = (exposedLiterals inner).map ((Ancestor.parent p children).reframe ctx) := by
  cases p with
  | paragraph => exact yields_pure _ _ (exposed_enclosed ctx _ inner _ rfl rfl rfl rfl)
  | blockquote => exact yields_pure _ _ (exposed_enclosed ctx _ inner _ rfl rfl rfl rfl)
  | heading depth =>
      exact yields_bind _ _ _ _ (yields_always _) fun id _ =>
        yields_pure _ _ (exposed_enclosed ctx _ inner _ rfl rfl rfl rfl)
  | list ordered start spread =>
      cases ordered
      · exact yields_pure _ _ (exposed_enclosed ctx _ inner _ rfl rfl rfl rfl)
      · exact yields_pure _ _ (exposed_enclosed ctx _ inner _ rfl rfl rfl rfl)
  | listItem checked spread => exact yields_pure _ _ (exposed_item ctx checked spread children inner)
  | mark m => exact yields_pure _ _ (List.map_id _).symm
  | link url title => exact yields_pure _ _ (List.map_id _).symm
  | footnote => exact yields_pure _ _ (List.map_id _).symm
  | tableCell => cases isOpen
  | footnoteDefinition identifier label => cases isOpen
  | linkReference identifier label form => cases isOpen

theorem cell_literals (ctx : Context) (deco : Decoration) (align : List (Option Column)) (column : Nat)
    (content : List Content) (places : List Place)
    (same : exposedLiterals content =
      places.map (literalAt ctx (deco.withAlign (align[column]?.map columnAlignment)))) :
    (literals content).map .inside =
      (places.map (.under (.cell align column))).map (literalAt ctx deco) := by
  rw [exposed_inside, same, List.map_map, List.map_map]
  exact List.map_congr_left fun place _ => (literal_under ctx deco (.cell align column) place).symm

mutual
theorem node_literals (ctx : Context) (deco : Decoration) (node : Node) :
    Yields (ctx.convertNode deco node) fun content =>
      exposedLiterals content = node.literalPlaces.map (literalAt ctx deco) := by
  cases node with
  | leaf l => exact yields_leaf ctx deco l _ (leaf_literals ctx deco l)
  | parent p children =>
      cases isOpen : p.isOpen with
      | false =>
          rw [Node.literalPlaces, isOpen, if_neg Bool.false_ne_true]
          exact closed_literals ctx deco p children isOpen
      | true =>
          rw [convertNode, role_open p isOpen, Node.literalPlaces, isOpen, if_pos rfl]
          refine yields_bind _ _ _ _ (convert_literals ctx (ctx.decorate deco children p) children) ?_
          intro inner same
          have framed : (exposedLiterals inner).map ((Ancestor.parent p children).reframe ctx) =
              ((literalPlaces children).map (.under (.parent p children))).map (literalAt ctx deco) := by
            rw [same, List.map_map, List.map_map]
            exact List.map_congr_left fun place _ => (literal_under ctx deco _ place).symm
          rw [← framed]
          exact parent_literals ctx children inner p isOpen
  | table align rows =>
      refine yields_bind _ _ _ _ (row_literals ctx deco align rows) fun body same => yields_pure _ _ ?_
      have shown : (Content.table body).exposed = (literals [.table body]).map .inside := rfl
      rw [Node.literalPlaces, ← same, exposedLiterals, List.flatMap_singleton, shown, literals_of_table]
  | tableRow cells => exact yields_throw _ _
theorem convert_literals (ctx : Context) (deco : Decoration) (nodes : List Node) :
    Yields (ctx.convert deco nodes) fun content =>
      exposedLiterals content = (literalPlaces nodes).map (literalAt ctx deco) := by
  cases nodes with
  | nil => exact yields_pure _ _ rfl
  | cons node rest =>
      refine yields_bind _ _ _ _ (node_literals ctx deco node) fun first firstSame => ?_
      refine yields_bind _ _ _ _ (convert_literals ctx deco rest) fun others othersSame => yields_pure _ _ ?_
      rw [exposed_append, firstSame, othersSame, literalPlaces, List.map_append]
theorem cells_literals (ctx : Context) (deco : Decoration) (align : List (Option Column)) (column : Nat)
    (cells : List Cell) :
    Yields (ctx.convertCells deco ((align.drop column).map columnAlignment) cells) fun row =>
      ((Content.cellNodes row).filterMap Content.literal?).map .inside = (cellPlaces align column cells).map (literalAt ctx deco) := by
  cases cells with
  | nil => exact yields_pure _ _ rfl
  | cons cell rest =>
      have side : ((align.drop column).map columnAlignment).head? = align[column]?.map columnAlignment := by
        rw [List.head?_map, List.head?_drop]
      have tail : ((align.drop column).map columnAlignment).tail = (align.drop (column + 1)).map columnAlignment := by
        rw [← List.map_tail, List.tail_drop]
      rw [convertCells, side, tail]
      refine yields_bind _ _ _ _ (convert_literals ctx _ cell) fun first firstSame => ?_
      refine yields_bind _ _ _ _ (cells_literals ctx deco align (column + 1) rest) fun others othersSame => ?_
      refine yields_pure _ _ ?_
      rw [Content.cellNodes, List.filterMap_append, List.map_append, othersSame, cellPlaces, List.map_append,
        ← cell_literals ctx deco align column first (literalPlaces cell) firstSame, literals]
theorem row_literals (ctx : Context) (deco : Decoration) (align : List (Option Column)) (rows : List Row) :
    Yields (ctx.convertRows deco (align.map columnAlignment) rows) fun body =>
      ((Content.rowNodes body).filterMap Content.literal?).map .inside = (rowPlaces align rows).map (literalAt ctx deco) := by
  cases rows with
  | nil => exact yields_pure _ _ rfl
  | cons row rest =>
      refine yields_bind _ _ _ _ (cells_literals ctx deco align 0 row) fun first firstSame => ?_
      refine yields_bind _ _ _ _ (row_literals ctx deco align rest) fun others othersSame => yields_pure _ _ ?_
      rw [Content.rowNodes, List.filterMap_append, List.map_append, firstSame, othersSame, rowPlaces,
        List.map_append]
end

theorem literal_runs_follow_their_paths (ctx : Context) (deco : Decoration) (nodes : List Node) (s : Slugger)
    (content : List Content) (done : (ctx.contentOf deco nodes s).1 = .ok content) :
    literals content =
      (literalPlaces nodes).map fun place => (literalRun ctx deco place, place.leaf.literal?.getD "") := by
  rw [← exposed_forget, convert_literals ctx deco nodes s content done, List.map_map]
  rfl

def itemStyle : Style := { Style.empty with italics := some true }

def itemContext : Context where
  images := .empty
  styles := Dictionary.empty.insert "li" itemStyle
  transform := .identity
  preventOrphans := false

def linkedItem : List Node :=
  [.parent (.mark .strong)
    [.table [some .right]
      [[[.parent (.list false none none)
        [.parent (.listItem none none)
          [.parent (.link "to" none) [.leaf (.text "word")], .leaf (.html "<hr>")]]]]]]]

def linkedItemContent : List Content :=
  let strong := { Style.empty with bold := some true, alignment := some .right }
  [.table
    [[[.unorderedList
      [.text { Run.bare with style := some (.inline itemStyle), link := some "to" } "word",
        .group { Run.bare with style := some (.inline itemStyle) }
          [.text { Run.bare with style := some (.inline strong) } "<hr>"]]]]]]

theorem literal_runs_of_linked_item :
    (itemContext.contentOf .plain linkedItem .fresh).1 = .ok linkedItemContent ∧
      literals linkedItemContent =
        (literalPlaces linkedItem).map fun place =>
          (literalRun itemContext .plain place, place.leaf.literal?.getD "") :=
  ⟨rfl, literal_runs_follow_their_paths itemContext .plain linkedItem .fresh linkedItemContent rfl⟩

end Context

end MarkdownLayout
