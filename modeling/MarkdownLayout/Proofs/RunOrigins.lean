import MarkdownLayout.Proofs.LiteralRuns

set_option autoImplicit false

namespace MarkdownLayout

open Mdast

-- What a run is made for. A literal block makes two: its text and the run around that.
inductive Maker where
  | literal (leaf : Leaf)
  | block
  | paragraph
  | heading (depth : UInt8)
  | blockquote
  deriving DecidableEq

structure Origin where
  path : List Ancestor
  maker : Maker

def Origin.under (ancestor : Ancestor) (origin : Origin) : Origin := ⟨origin.path ++ [ancestor], origin.maker⟩

def Mdast.Leaf.makers (l : Leaf) : List Maker :=
  if l.isBlock then [.literal l, .block] else if l.literal?.isSome then [.literal l] else []

def Mdast.Parent.maker? : Parent → Option Maker
  | .paragraph => some .paragraph
  | .heading depth => some (.heading depth)
  | .blockquote => some .blockquote
  | _ => none

mutual
def Mdast.Node.origins : Node → List Origin
  | .leaf l => l.makers.map (⟨[], ·⟩)
  | .parent p children =>
      if p.isOpen then (origins children).map (.under (.parent p children)) ++ p.maker?.toList.map (⟨[], ·⟩) else []
  | .table align rows => rowOrigins align rows
  | .tableRow _ => []
def origins : List Node → List Origin
  | [] => []
  | node :: rest => node.origins ++ origins rest
def cellOrigins (align : List (Option Column)) (column : Nat) : List Cell → List Origin
  | [] => []
  | cell :: rest => (origins cell).map (.under (.cell align column)) ++ cellOrigins align (column + 1) rest
def rowOrigins (align : List (Option Column)) : List Row → List Origin
  | [] => []
  | row :: rest => cellOrigins align 0 row ++ rowOrigins align rest
end

def Maker.standsForNode : Maker → Bool
  | .literal l => !l.isBlock
  | _ => true

namespace Origin

def inItem (origin : Origin) : Bool :=
  origin.maker.standsForNode && (origin.path.find? fun ancestor => !ancestor.isWrapper).any Ancestor.isItem

def isExposed (origin : Origin) : Bool :=
  origin.maker.standsForNode && origin.path.all fun ancestor => ancestor.isWrapper || ancestor.isItem

end Origin

def ownRun (ctx : Context) (deco : Decoration) (origin : Origin) : Run :=
  match origin.maker with
  | .literal l =>
      let place : Place := ⟨origin.path, l⟩
      { Run.bare with
        style := place.ownStyle ctx deco
        link := place.link? ctx deco
        props := { Style.empty with
          decoration := if deco.delete || place.marked .delete then some .lineThrough else none } }
  | .block | .blockquote => .bare
  | .paragraph => { Run.bare with props := (ctx.styles.get? "p").getD .empty }
  | .heading depth =>
      { Run.bare with
        style := (StyleTable.headingName? depth).map .named
        id := some ""
        headlineLevel := if ctx.preventOrphans then some depth else none }

def Run.inItemStyle (ctx : Context) (run : Run) : Run := { run with style := (ctx.styles.get? "li").map .inline }

def runAt (ctx : Context) (deco : Decoration) (origin : Origin) : Run :=
  if origin.inItem then (ownRun ctx deco origin).inItemStyle ctx else ownRun ctx deco origin

def Run.blankId (run : Run) : Run := { run with id := run.id.map fun _ => "" }

theorem run_at_props (ctx : Context) (deco : Decoration) (origin : Origin) :
    (runAt ctx deco origin).props = (ownRun ctx deco origin).props := by
  rw [runAt]
  split <;> rfl

structure ShownRun where
  exposed : Bool
  run : Run

namespace ShownRun

def inside (run : Run) : ShownRun := ⟨false, run⟩

def blankId (shown : ShownRun) : ShownRun := { shown with run := shown.run.blankId }

end ShownRun

def shownAt (ctx : Context) (deco : Decoration) (origin : Origin) : ShownRun :=
  ⟨origin.isExposed, runAt ctx deco origin⟩

def Ancestor.reframeRun (ctx : Context) (a : Ancestor) (shown : ShownRun) : ShownRun :=
  if a.isItem then if shown.exposed then { shown with run := shown.run.inItemStyle ctx } else shown
  else if a.isWrapper then shown
  else { shown with exposed := false }

theorem own_run_under (ctx : Context) (deco : Decoration) (a : Ancestor) (origin : Origin) :
    ownRun ctx deco (origin.under a) = ownRun ctx (a.decorate ctx deco) origin := by
  obtain ⟨path, maker⟩ := origin
  cases maker with
  | literal l =>
      obtain ⟨-, -, delete⟩ := a.decorate_marks ctx deco
      have place : (⟨path ++ [a], l⟩ : Place) = Place.under a ⟨path, l⟩ := rfl
      simp only [ownRun, Origin.under, place, own_style_under, Place.link_under, Place.marked_under, delete,
        Bool.or_assoc]
  | _ => rfl

theorem shown_under (ctx : Context) (deco : Decoration) (a : Ancestor) (origin : Origin) :
    shownAt ctx deco (origin.under a) = a.reframeRun ctx (shownAt ctx (a.decorate ctx deco) origin) := by
  -- The lemmas on places say of any leaf outside of blocks what is needed of the path here.
  let place : Place := ⟨origin.path, .lineBreak⟩
  have exposed : (origin.under a).isExposed = (origin.isExposed && (a.isWrapper || a.isItem)) := by
    simp [Origin.isExposed, Origin.under, Bool.and_assoc]
  have within : (origin.under a).inItem = (origin.maker.standsForNode && (place.under a).inItem) := rfl
  have before : origin.inItem = (origin.maker.standsForNode && place.inItem) := rfl
  have openSame : origin.isExposed = (origin.maker.standsForNode && place.isExposed) := rfl
  rw [shownAt, shownAt, runAt, runAt, own_run_under, exposed, within, Ancestor.reframeRun]
  cases isItem : a.isItem with
  | false =>
      rw [Place.in_item_under a place isItem, ← before]
      cases wrapper : a.isWrapper <;> simp
  | true =>
      cases stands : origin.maker.standsForNode with
      | false => simp [openSame, before, stands]
      | true =>
          cases shown : place.isExposed with
          | true =>
              have twice (run : Run) : (run.inItemStyle ctx).inItemStyle ctx = run.inItemStyle ctx := rfl
              simp only [openSame, before, stands, shown, Place.in_item_exposed a place isItem shown, Bool.true_and,
                if_true, Bool.or_true]
              split
              · rw [twice]
              · rfl
          | false => simp [openSame, before, stands, shown, Place.in_item_hidden a place rfl shown]

def Content.shownRuns : Content → List ShownRun
  | .text run _ => [⟨true, run⟩]
  | .group run children => (runs children).map .inside ++ [⟨true, run⟩]
  | content => (runs [content]).map .inside

def shownRuns (content : List Content) : List ShownRun := content.flatMap Content.shownRuns

theorem runs_append (a b : List Content) : runs (a ++ b) = runs a ++ runs b := by
  rw [runs, Content.nodes_of_append, List.filterMap_append]
  rfl

theorem shown_runs_append (a b : List Content) : shownRuns (a ++ b) = shownRuns a ++ shownRuns b := List.flatMap_append

theorem runs_of_group (run : Run) (children : List Content) : runs [.group run children] = runs children ++ [run] := by
  rw [runs, Content.nodes_of_single, Content.nodes, List.filterMap_append]
  rfl

theorem runs_enclosed (enclosing : Content) (inner : List Content)
    (around : enclosing.nodes = Content.nodesOf inner ++ [enclosing]) (noRun : enclosing.run? = none) :
    runs [enclosing] = runs inner := by
  rw [runs, Content.nodes_of_single, around, List.filterMap_append]
  simp [noRun, runs]

theorem runs_of_table (body : List (List (List Content))) :
    runs [.table body] = (Content.rowNodes body).filterMap Content.run? := by
  rw [runs, Content.nodes_of_single, Content.nodes, List.filterMap_append]
  simp [Content.run?]

theorem shown_runs_forget (content : List Content) : (shownRuns content).map ShownRun.run = runs content := by
  have inner (found : List Run) : (found.map ShownRun.inside).map ShownRun.run = found := by
    rw [List.map_map]
    exact List.map_id found
  induction content with
  | nil => rfl
  | cons first rest ih =>
      have head : first.shownRuns.map ShownRun.run = runs [first] := by
        cases first with
        | text run literal => rfl
        | group run children => rw [runs_of_group, Content.shownRuns, List.map_append, inner]; rfl
        | _ => exact inner _
      calc (shownRuns (first :: rest)).map ShownRun.run
        _ = first.shownRuns.map ShownRun.run ++ (shownRuns rest).map ShownRun.run := by
            rw [shownRuns, List.flatMap_cons, List.map_append]
            rfl
        _ = runs [first] ++ runs rest := by rw [head, ih]
        _ = runs (first :: rest) := (runs_append [first] rest).symm

def FollowOrigins (ctx : Context) (deco : Decoration) (content : List Content) (found : List Origin) : Prop :=
  (shownRuns content).map ShownRun.blankId = found.map (shownAt ctx deco)

theorem enclosed_follows (ctx : Context) (deco : Decoration) (a : Ancestor) (inner : List Content) (found : List Origin)
    (notItem : a.isItem = false) (notWrapper : a.isWrapper = false)
    (follows : FollowOrigins ctx (a.decorate ctx deco) inner found) :
    ((runs inner).map ShownRun.inside).map ShownRun.blankId = (found.map (.under a)).map (shownAt ctx deco) := by
  have framed (shown : ShownRun) : a.reframeRun ctx shown = { shown with exposed := false } := by
    simp [Ancestor.reframeRun, notItem, notWrapper]
  calc ((runs inner).map ShownRun.inside).map ShownRun.blankId
    _ = ((shownRuns inner).map ShownRun.blankId).map fun shown => { shown with exposed := false } := by
        rw [← shown_runs_forget, List.map_map, List.map_map, List.map_map]
        rfl
    _ = (found.map (shownAt ctx (a.decorate ctx deco))).map fun shown => { shown with exposed := false } := by
        rw [follows]
    _ = (found.map (.under a)).map (shownAt ctx deco) := by
        rw [List.map_map, List.map_map]
        refine List.map_congr_left fun origin _ => ?_
        rw [Function.comp_apply, Function.comp_apply, shown_under, framed]

theorem restyled_follows (ctx : Context) (checked spread : Option Bool) (children : List Node) (content : Content) :
    (ctx.itemContent content).shownRuns.map ShownRun.blankId =
      (content.shownRuns.map ShownRun.blankId).map
        ((Ancestor.parent (.listItem checked spread) children).reframeRun ctx) := by
  have kept (found : List Run) :
      ((found.map ShownRun.inside).map ShownRun.blankId).map
          ((Ancestor.parent (.listItem checked spread) children).reframeRun ctx) =
        (found.map ShownRun.inside).map ShownRun.blankId := by
    rw [List.map_map, List.map_map, List.map_map]
    exact List.map_congr_left fun _ _ => rfl
  cases content with
  | text run literal => rfl
  | group run inner =>
      simp only [Context.itemContent, Content.mapRun, Content.shownRuns, List.map_append, kept]
      rfl
  | _ => exact (kept _).symm

theorem item_follows (ctx : Context) (deco : Decoration) (checked spread : Option Bool) (children : List Node)
    (inner : List Content) (found : List Origin) (follows : FollowOrigins ctx deco inner found) :
    FollowOrigins ctx deco (inner.map ctx.itemContent)
      (found.map (.under (.parent (.listItem checked spread) children))) := by
  rw [FollowOrigins, shownRuns, List.flatMap_map, List.map_flatMap]
  simp only [restyled_follows ctx checked spread children]
  rw [← List.map_flatMap, ← List.map_flatMap]
  have inside : (inner.flatMap Content.shownRuns).map ShownRun.blankId = found.map (shownAt ctx deco) := follows
  rw [inside, List.map_map, List.map_map]
  exact List.map_congr_left fun origin _ =>
    (shown_under ctx deco (.parent (.listItem checked spread) children) origin).symm

theorem wrapper_follows (ctx : Context) (deco : Decoration) (a : Ancestor) (inner : List Content) (found : List Origin)
    (wrapper : a.isWrapper = true) (notItem : a.isItem = false)
    (follows : FollowOrigins ctx (a.decorate ctx deco) inner found) :
    FollowOrigins ctx deco inner (found.map (.under a)) := by
  rw [FollowOrigins, follows, List.map_map]
  refine List.map_congr_left fun origin _ => ?_
  rw [Function.comp_apply, shown_under, Ancestor.reframeRun, notItem, wrapper]
  rfl

theorem group_follows (ctx : Context) (deco : Decoration) (a : Ancestor) (maker : Maker) (run : Run)
    (inner : List Content) (found : List Origin) (notItem : a.isItem = false) (notWrapper : a.isWrapper = false)
    (same : (ShownRun.mk true run).blankId = shownAt ctx deco ⟨[], maker⟩)
    (follows : FollowOrigins ctx (a.decorate ctx deco) inner found) :
    FollowOrigins ctx deco [.group run inner] (found.map (.under a) ++ [⟨[], maker⟩]) := by
  rw [FollowOrigins, shownRuns, List.flatMap_singleton, Content.shownRuns, List.map_append, List.map_append,
    enclosed_follows ctx deco a inner found notItem notWrapper follows]
  exact congrArg (fun last => _ ++ [last]) same

theorem container_follows (ctx : Context) (deco : Decoration) (a : Ancestor) (inner : List Content)
    (enclosing : Content) (found : List Origin) (around : enclosing.nodes = Content.nodesOf inner ++ [enclosing])
    (noRun : enclosing.run? = none) (notItem : a.isItem = false) (notWrapper : a.isWrapper = false)
    (follows : FollowOrigins ctx (a.decorate ctx deco) inner found) :
    FollowOrigins ctx deco [enclosing] (found.map (.under a)) := by
  have shown : enclosing.shownRuns = (runs [enclosing]).map .inside := by
    cases enclosing with
    | text run literal => cases noRun
    | group run children => cases noRun
    | _ => rfl
  rw [FollowOrigins, shownRuns, List.flatMap_singleton, shown, runs_enclosed enclosing inner around noRun]
  exact enclosed_follows ctx deco a inner found notItem notWrapper follows

theorem literal_run_top (ctx : Context) (deco : Decoration) (l : Leaf) :
    runAt ctx deco ⟨[], .literal l⟩ = literalRun ctx deco ⟨[], l⟩ := by
  have notInItem : Origin.inItem ⟨[], .literal l⟩ = false := Bool.and_false _
  rw [runAt, notInItem, if_neg Bool.false_ne_true]
  rfl

namespace Context

theorem leaf_follows (ctx : Context) (deco : Decoration) (l : Leaf) :
    FollowOrigins ctx deco (ctx.leafContent deco l) (Node.leaf l).origins := by
  have text (text : String) : textRun deco text = .text (runAt ctx deco ⟨[], .literal l⟩) text :=
    (text_run_style ctx deco text l).trans (by rw [literal_run_top])
  cases l with
  | html value => simp only [leafContent, literalBlock, text]; rfl
  | code lang info value => simp only [leafContent, literalBlock, text]; rfl
  | math info value => simp only [leafContent, literalBlock, text]; rfl
  | text value => simp only [leafContent, text]; rfl
  | inlineCode value => simp only [leafContent, text]; rfl
  | inlineMath value => simp only [leafContent, text]; rfl
  | lineBreak => simp only [leafContent, text]; rfl
  | _ => rfl

theorem closed_follows (ctx : Context) (deco : Decoration) (p : Parent) (children : List Node)
    (closed : p.isOpen = false) :
    Yields (ctx.convertNode deco (.parent p children)) fun content => FollowOrigins ctx deco content [] := by
  cases p with
  | tableCell => exact yields_throw _ _
  | footnoteDefinition identifier label => exact yields_pure _ _ rfl
  | linkReference identifier label form => exact yields_pure _ _ rfl
  | _ => cases closed

theorem parent_follows (ctx : Context) (deco : Decoration) (children : List Node) (inner : List Content) (p : Parent)
    (isOpen : p.isOpen = true) (follows : FollowOrigins ctx (ctx.decorate deco children p) inner (origins children)) :
    Yields (ctx.parentContent children inner p) fun content =>
      FollowOrigins ctx deco content (Node.parent p children).origins := by
  rw [Node.origins, isOpen, if_pos rfl]
  have spliced (noRun : p.maker? = none) (found : List Origin) :
      found ++ p.maker?.toList.map (⟨[], ·⟩) = found := by
    rw [noRun]
    exact List.append_nil found
  cases p with
  | paragraph => exact yields_pure _ _ (group_follows ctx deco _ .paragraph _ inner _ rfl rfl rfl follows)
  | blockquote => exact yields_pure _ _ (group_follows ctx deco _ .blockquote _ inner _ rfl rfl rfl follows)
  | heading depth =>
      exact yields_bind _ _ _ _ (yields_always _) fun id _ =>
        yields_pure _ _ (group_follows ctx deco _ (.heading depth) _ inner _ rfl rfl rfl follows)
  | list ordered start spread =>
      rw [spliced rfl]
      cases ordered
      · exact yields_pure _ _ (container_follows ctx deco _ inner _ _ rfl rfl rfl rfl follows)
      · exact yields_pure _ _ (container_follows ctx deco _ inner _ _ rfl rfl rfl rfl follows)
  | listItem checked spread =>
      rw [spliced rfl]
      exact yields_pure _ _ (item_follows ctx deco checked spread children inner _ follows)
  | mark m =>
      rw [spliced rfl]
      exact yields_pure _ _ (wrapper_follows ctx deco _ inner _ rfl rfl follows)
  | link url title =>
      rw [spliced rfl]
      exact yields_pure _ _ (wrapper_follows ctx deco _ inner _ rfl rfl follows)
  | footnote =>
      rw [spliced rfl]
      exact yields_pure _ _ (wrapper_follows ctx deco _ inner _ rfl rfl follows)
  | tableCell => cases isOpen
  | footnoteDefinition identifier label => cases isOpen
  | linkReference identifier label form => cases isOpen

mutual
theorem node_follows (ctx : Context) (deco : Decoration) (node : Node) :
    Yields (ctx.convertNode deco node) fun content => FollowOrigins ctx deco content node.origins := by
  cases node with
  | leaf l => exact yields_leaf ctx deco l _ (leaf_follows ctx deco l)
  | parent p children =>
      cases isOpen : p.isOpen with
      | false =>
          rw [Node.origins, isOpen, if_neg Bool.false_ne_true]
          exact closed_follows ctx deco p children isOpen
      | true =>
          rw [convertNode, role_open p isOpen]
          refine yields_bind _ _ _ _ (convert_follows ctx (ctx.decorate deco children p) children) ?_
          exact fun inner follows => parent_follows ctx deco children inner p isOpen follows
  | table align rows =>
      refine yields_bind _ _ _ _ (rows_follow ctx deco align rows) fun body follows => yields_pure _ _ ?_
      have shown : (Content.table body).shownRuns = (runs [.table body]).map .inside := rfl
      rw [FollowOrigins, shownRuns, List.flatMap_singleton, shown, runs_of_table, Node.origins]
      exact follows
  | tableRow cells => exact yields_throw _ _
theorem convert_follows (ctx : Context) (deco : Decoration) (nodes : List Node) :
    Yields (ctx.convert deco nodes) fun content => FollowOrigins ctx deco content (origins nodes) := by
  cases nodes with
  | nil => exact yields_pure _ _ rfl
  | cons node rest =>
      refine yields_bind _ _ _ _ (node_follows ctx deco node) fun first firstFollows => ?_
      refine yields_bind _ _ _ _ (convert_follows ctx deco rest) fun others othersFollow => yields_pure _ _ ?_
      rw [FollowOrigins, shown_runs_append, List.map_append, firstFollows, othersFollow, origins, List.map_append]
theorem cells_follow (ctx : Context) (deco : Decoration) (align : List (Option Column)) (column : Nat)
    (cells : List Cell) :
    Yields (ctx.convertCells deco ((align.drop column).map columnAlignment) cells) fun row =>
      (((Content.cellNodes row).filterMap Content.run?).map ShownRun.inside).map ShownRun.blankId =
        (cellOrigins align column cells).map (shownAt ctx deco) := by
  cases cells with
  | nil => exact yields_pure _ _ rfl
  | cons cell rest =>
      have side : ((align.drop column).map columnAlignment).head? = align[column]?.map columnAlignment := by
        rw [List.head?_map, List.head?_drop]
      have tail : ((align.drop column).map columnAlignment).tail = (align.drop (column + 1)).map columnAlignment := by
        rw [← List.map_tail, List.tail_drop]
      rw [convertCells, side, tail]
      refine yields_bind _ _ _ _ (convert_follows ctx _ cell) fun first firstFollows => ?_
      refine yields_bind _ _ _ _ (cells_follow ctx deco align (column + 1) rest) fun others othersFollow => ?_
      refine yields_pure _ _ ?_
      rw [Content.cellNodes, List.filterMap_append, List.map_append, List.map_append, othersFollow, cellOrigins,
        List.map_append, ← enclosed_follows ctx deco (.cell align column) first (origins cell) rfl rfl firstFollows,
        runs]
theorem rows_follow (ctx : Context) (deco : Decoration) (align : List (Option Column)) (rows : List Row) :
    Yields (ctx.convertRows deco (align.map columnAlignment) rows) fun body =>
      (((Content.rowNodes body).filterMap Content.run?).map ShownRun.inside).map ShownRun.blankId =
        (rowOrigins align rows).map (shownAt ctx deco) := by
  cases rows with
  | nil => exact yields_pure _ _ rfl
  | cons row rest =>
      refine yields_bind _ _ _ _ (cells_follow ctx deco align 0 row) fun first firstFollows => ?_
      refine yields_bind _ _ _ _ (rows_follow ctx deco align rest) fun others othersFollow => yields_pure _ _ ?_
      rw [Content.rowNodes, List.filterMap_append, List.map_append, List.map_append, firstFollows, othersFollow,
        rowOrigins, List.map_append]
end

theorem runs_follow_origins (ctx : Context) (deco : Decoration) (nodes : List Node) (s : Slugger)
    (content : List Content) (done : (ctx.contentOf deco nodes s).1 = .ok content) :
    (runs content).map Run.blankId = (origins nodes).map (runAt ctx deco) := by
  calc (runs content).map Run.blankId
    _ = ((shownRuns content).map ShownRun.blankId).map ShownRun.run := by
        rw [← shown_runs_forget, List.map_map, List.map_map]
        rfl
    _ = ((origins nodes).map (shownAt ctx deco)).map ShownRun.run := by
        rw [convert_follows ctx deco nodes s content done]
    _ = (origins nodes).map (runAt ctx deco) := by
        rw [List.map_map]
        rfl

theorem runs_count (ctx : Context) (deco : Decoration) (nodes : List Node) (s : Slugger) (content : List Content)
    (done : (ctx.contentOf deco nodes s).1 = .ok content) : (runs content).length = (origins nodes).length := by
  have same := congrArg List.length (runs_follow_origins ctx deco nodes s content done)
  rwa [List.length_map, List.length_map] at same

end Context

end MarkdownLayout
