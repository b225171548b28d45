import MarkdownLayout.Proofs.Outcome

set_option autoImplicit false

namespace MarkdownLayout

open Mdast

structure Erasure where
  run : Run → Run
  margin : Option Margin → Option Margin
  color : Option String → Option String

def Erasure.line (e : Erasure) (line : CanvasLine) : CanvasLine := { line with color := e.color line.color }

mutual
def Content.erase (e : Erasure) : Content → Content
  | .text run literal => .text (e.run run) literal
  | .group run children => .group (e.run run) (eraseAll e children)
  | .orderedList items start => .orderedList (eraseAll e items) start
  | .unorderedList items => .unorderedList (eraseAll e items)
  | .table body => .table (eraseRows e body)
  | .canvas margin lines => .canvas (e.margin margin) (lines.map e.line)
  | .image url => .image url
def eraseAll (e : Erasure) : List Content → List Content
  | [] => []
  | content :: rest => content.erase e :: eraseAll e rest
def eraseCells (e : Erasure) : List (List Content) → List (List Content)
  | [] => []
  | cell :: rest => eraseAll e cell :: eraseCells e rest
def eraseRows (e : Erasure) : List (List (List Content)) → List (List (List Content))
  | [] => []
  | row :: rest => eraseCells e row :: eraseRows e rest
end

def Erasure.nothing : Erasure := ⟨id, id, id⟩

mutual
theorem erase_nothing (content : Content) : content.erase .nothing = content := by
  cases content with
  | text run literal => rfl
  | group run children => exact congrArg (Content.group run) (erase_all_nothing children)
  | orderedList items start => exact congrArg (Content.orderedList · start) (erase_all_nothing items)
  | unorderedList items => exact congrArg Content.unorderedList (erase_all_nothing items)
  | table body => exact congrArg Content.table (erase_rows_nothing body)
  | canvas margin lines => exact congrArg (Content.canvas margin) (List.map_id lines)
  | image url => rfl
theorem erase_all_nothing (content : List Content) : eraseAll .nothing content = content := by
  cases content with
  | nil => rfl
  | cons first rest => rw [eraseAll, erase_nothing first, erase_all_nothing rest]
theorem erase_cells_nothing (cells : List (List Content)) : eraseCells .nothing cells = cells := by
  cases cells with
  | nil => rfl
  | cons cell rest => rw [eraseCells, erase_all_nothing cell, erase_cells_nothing rest]
theorem erase_rows_nothing (rows : List (List (List Content))) : eraseRows .nothing rows = rows := by
  cases rows with
  | nil => rfl
  | cons row rest => rw [eraseRows, erase_cells_nothing row, erase_rows_nothing rest]
end

theorem erase_all_map (e : Erasure) (content : List Content) : eraseAll e content = content.map (Content.erase e) := by
  induction content with
  | nil => rfl
  | cons first rest ih => rw [eraseAll, ih, List.map_cons]

theorem erase_append (e : Erasure) (a b : List Content) : eraseAll e (a ++ b) = eraseAll e a ++ eraseAll e b := by
  rw [erase_all_map, erase_all_map, erase_all_map, List.map_append]

theorem group_left (e : Erasure) (run run' : Run) (children children' : List Content) (runs : e.run run = e.run run')
    (inner : eraseAll e children = eraseAll e children') :
    (Content.group run children).erase e = (Content.group run' children').erase e := by
  rw [Content.erase, Content.erase, runs, inner]

-- Under two contexts, what each kind of node makes by itself is left the same.
structure Comparable (e : Erasure) (ctx other : Context) (alike : Decoration → Decoration → Prop) : Prop where
  decorated : ∀ deco deco' children p,
    alike deco deco' → alike (ctx.decorate deco children p) (other.decorate deco' children p)
  aligned : ∀ deco deco' align, alike deco deco' → alike (deco.withAlign align) (deco'.withAlign align)
  text : ∀ deco deco' literal, alike deco deco' →
    (Context.textRun deco literal).erase e = (Context.textRun deco' literal).erase e
  rule : ∀ deco deco',
    eraseAll e (ctx.leafContent deco .thematicBreak) = eraseAll e (other.leafContent deco' .thematicBreak)
  paragraph : e.run { Run.bare with props := (ctx.styles.get? "p").getD .empty } =
    e.run { Run.bare with props := (other.styles.get? "p").getD .empty }
  heading : ∀ style id (depth : UInt8),
    e.run { Run.bare with style, id, headlineLevel := if ctx.preventOrphans then some depth else none } =
      e.run { Run.bare with style, id, headlineLevel := if other.preventOrphans then some depth else none }
  item : ∀ run run', e.run run = e.run run' →
    e.run { run with style := (ctx.styles.get? "li").map .inline } =
      e.run { run' with style := (other.styles.get? "li").map .inline }

namespace Comparable

variable {e : Erasure} {ctx other : Context} {alike : Decoration → Decoration → Prop}

theorem leaf_left (c : Comparable e ctx other alike) (deco deco' : Decoration) (same : alike deco deco') (l : Leaf) :
    eraseAll e (ctx.leafContent deco l) = eraseAll e (other.leafContent deco' l) := by
  have text (literal : String) :
      eraseAll e [Context.textRun deco literal] = eraseAll e [Context.textRun deco' literal] := by
    simp only [eraseAll, c.text deco deco' literal same]
  have block (literal : String) :
      eraseAll e [Context.literalBlock deco literal] = eraseAll e [Context.literalBlock deco' literal] := by
    simp only [eraseAll, Context.literalBlock, Content.erase, c.text deco deco' literal same]
  cases l with
  | thematicBreak => exact c.rule deco deco'
  | html value => exact block value
  | code lang info value => exact block value
  | math info value => exact block value
  | text value => exact text value
  | inlineCode value => exact text value
  | inlineMath value => exact text value
  | lineBreak => exact text ""
  | _ => rfl

theorem item_left (c : Comparable e ctx other alike) (a b : Content) (same : a.erase e = b.erase e) :
    (ctx.itemContent a).erase e = (other.itemContent b).erase e := by
  cases a with
  | text run literal =>
      cases b with
      | text run' literal' =>
          obtain ⟨runs, rfl⟩ := Content.text.inj same
          exact congrArg (Content.text · literal) (c.item run run' runs)
      | _ => cases same
  | group run children =>
      cases b with
      | group run' children' =>
          obtain ⟨runs, inner⟩ := Content.group.inj same
          exact group_left e _ _ children children' (c.item run run' runs) inner
      | _ => cases same
  | _ => cases b <;> first | exact same | cases same

theorem items_left (c : Comparable e ctx other alike) (inner inner' : List Content)
    (same : eraseAll e inner = eraseAll e inner') :
    eraseAll e (inner.map ctx.itemContent) = eraseAll e (inner'.map other.itemContent) := by
  induction inner generalizing inner' with
  | nil =>
      cases inner' with
      | nil => rfl
      | cons _ _ => cases same
  | cons first rest ih =>
      cases inner' with
      | nil => cases same
      | cons first' rest' =>
          obtain ⟨head, tail⟩ := List.cons.inj same
          rw [List.map_cons, List.map_cons, eraseAll, eraseAll, c.item_left first first' head, ih rest' tail]

theorem parent_left (c : Comparable e ctx other alike) (children : List Node) (inner inner' : List Content) (p : Parent)
    (same : eraseAll e inner = eraseAll e inner') :
    AgreeOn (eraseAll e) (ctx.parentContent children inner p) (other.parentContent children inner' p) := by
  have single (a b : Content) (alikeLeft : a.erase e = b.erase e) : eraseAll e [a] = eraseAll e [b] :=
    congrArg (fun content => [content]) alikeLeft
  cases p with
  | paragraph => exact agree_pure _ _ _ (single _ _ (group_left e _ _ inner inner' c.paragraph same))
  | blockquote => exact agree_pure _ _ _ (single _ _ (group_left e _ _ inner inner' rfl same))
  | heading depth =>
      refine agree_bind id _ _ _ _ _ (agree_refl _ _) fun anchor _ sameAnchor => ?_
      obtain rfl := sameAnchor
      exact agree_pure _ _ _ (single _ _ (group_left e _ _ inner inner' (c.heading _ _ depth) same))
  | list ordered start spread =>
      cases ordered
      · exact agree_pure _ _ _ (single _ _ (congrArg Content.unorderedList same))
      · exact agree_pure _ _ _ (single _ _ (congrArg (Content.orderedList · _) same))
  | listItem checked spread => exact agree_pure _ _ _ (c.items_left inner inner' same)
  | _ => exact agree_pure _ _ _ same

mutual
theorem node_left (c : Comparable e ctx other alike) (deco deco' : Decoration) (same : alike deco deco') (node : Node) :
    AgreeOn (eraseAll e) (ctx.convertNode deco node) (other.convertNode deco' node) := by
  cases node with
  | leaf l => exact agree_leaf _ _ _ _ _ l (c.leaf_left deco deco' same l)
  | parent p children =>
      rw [Context.convertNode, Context.convertNode]
      cases Context.roleOf p with
      | hidden => exact agree_refl _ _
      | misplaced => exact agree_refl _ _
      | shown =>
          refine agree_bind (eraseAll e) _ _ _ _ _ ?_ fun inner inner' left => c.parent_left children inner inner' p left
          exact c.convert_left _ _ (c.decorated deco deco' children p same) children
  | table align rows =>
      refine agree_bind (eraseRows e) _ _ _ _ _ (c.rows_left deco deco' same _ rows) fun body body' left => ?_
      exact agree_pure _ _ _ (congrArg (fun shown => [Content.table shown]) left)
  | tableRow cells => exact agree_refl _ _
theorem convert_left (c : Comparable e ctx other alike) (deco deco' : Decoration) (same : alike deco deco')
    (nodes : List Node) : AgreeOn (eraseAll e) (ctx.convert deco nodes) (other.convert deco' nodes) := by
  cases nodes with
  | nil => exact agree_refl _ _
  | cons node rest =>
      refine agree_bind (eraseAll e) _ _ _ _ _ (c.node_left deco deco' same node) fun first first' head => ?_
      refine agree_bind (eraseAll e) _ _ _ _ _ (c.convert_left deco deco' same rest) fun others others' tail => ?_
      refine agree_pure _ _ _ ?_
      rw [erase_append, erase_append, head, tail]
theorem cells_left (c : Comparable e ctx other alike) (deco deco' : Decoration) (same : alike deco deco')
    (aligns : List Alignment) (cells : List Cell) :
    AgreeOn (eraseCells e) (ctx.convertCells deco aligns cells) (other.convertCells deco' aligns cells) := by
  cases cells with
  | nil => exact agree_refl _ _
  | cons cell rest =>
      have first := c.convert_left _ _ (c.aligned deco deco' aligns.head? same) cell
      refine agree_bind (eraseAll e) _ _ _ _ _ first fun a b head => ?_
      refine agree_bind (eraseCells e) _ _ _ _ _ (c.cells_left deco deco' same aligns.tail rest) fun row row' tail => ?_
      exact agree_pure _ _ _ (by rw [eraseCells, eraseCells, head, tail])
theorem rows_left (c : Comparable e ctx other alike) (deco deco' : Decoration) (same : alike deco deco')
    (aligns : List Alignment) (rows : List Row) :
    AgreeOn (eraseRows e) (ctx.convertRows deco aligns rows) (other.convertRows deco' aligns rows) := by
  cases rows with
  | nil => exact agree_refl _ _
  | cons row rest =>
      refine agree_bind (eraseCells e) _ _ _ _ _ (c.cells_left deco deco' same aligns row) fun a b head => ?_
      refine agree_bind (eraseRows e) _ _ _ _ _ (c.rows_left deco deco' same aligns rest) fun body body' tail => ?_
      exact agree_pure _ _ _ (by rw [eraseRows, eraseRows, head, tail])
end

theorem outcome_left (c : Comparable e ctx other alike) (deco deco' : Decoration) (same : alike deco deco')
    (nodes : List Node) (s : Slugger) :
    (ctx.contentOf deco nodes s).1.map (eraseAll e) = (other.contentOf deco' nodes s).1.map (eraseAll e) ∧
      (ctx.contentOf deco nodes s).2 = (other.contentOf deco' nodes s).2 := by
  have ran := c.convert_left deco deco' same nodes s
  rw [outcome_map, outcome_map] at ran
  exact Prod.mk.inj ran

end Comparable

theorem Context.supplied_comparable (ctx : Context) (images : ImageMap) :
    Comparable .nothing ctx { ctx with images } Eq where
  decorated _ _ _ _ same := same ▸ rfl
  aligned _ _ _ same := by rw [same]
  text _ _ _ same := by rw [same]
  rule _ _ := rfl
  paragraph := rfl
  heading _ _ _ := rfl
  item _ _ same := congrArg (fun run : Run => { run with style := (ctx.styles.get? "li").map .inline }) same

theorem Context.content_supplied (ctx : Context) (images : ImageMap) (deco : Decoration) (nodes : List Node)
    (s : Slugger) : ctx.contentOf deco nodes s = { ctx with images }.contentOf deco nodes s := by
  obtain ⟨results, sluggers⟩ := (ctx.supplied_comparable images).outcome_left deco deco rfl nodes s
  have same : eraseAll .nothing = id := funext erase_all_nothing
  rw [same, Except.map_id] at results
  exact Prod.ext results sluggers

end MarkdownLayout
