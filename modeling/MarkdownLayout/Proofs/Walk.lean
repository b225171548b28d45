import MarkdownLayout.Proofs.Outcome
import MarkdownLayout.Proofs.Output
import MarkdownLayout.Proofs.Slugger
import MarkdownLayout.Proofs.Traversal

set_option autoImplicit false

namespace MarkdownLayout

open Mdast

inductive Sign where
  | run (id : Option String) (headlineLevel : Option UInt8)
  | image (url : String)

def Content.sign? : Content → Option Sign
  | .text run _ | .group run _ => some (.run run.id run.headlineLevel)
  | .image url => some (.image url)
  | _ => none

def signs (content : List Content) : List Sign := (Content.nodesOf content).filterMap Content.sign?

theorem signs_append (a b : List Content) : signs (a ++ b) = signs a ++ signs b := by
  rw [signs, Content.nodes_of_append, List.filterMap_append]
  rfl

def ownRuns : Node → Nat
  | .leaf (.html _) | .leaf (.code ..) | .leaf (.math ..) => 2
  | .leaf (.text _) | .leaf (.inlineCode _) | .leaf (.inlineMath _) | .leaf .lineBreak => 1
  | .parent .paragraph _ | .parent (.heading _) _ | .parent .blockquote _ => 1
  | _ => 0

def tablePart? : Node → Option Misplaced
  | .tableRow _ => some .row
  | .parent .tableCell _ => some .cell
  | _ => none

def imageUrl? : Node → Option String
  | .leaf (.image url _ _) => some url
  | _ => none

def plainSigns (node : Node) : List Sign :=
  (imageUrl? node).toList.map .image ++ List.replicate (ownRuns node) (.run none none)

namespace Context

def visit (ctx : Context) : Visit → Walk (List Sign)
  | .enter node =>
      match tablePart? node with
      | some part => throw part
      | none => pure []
  | .leave (.parent (.heading depth) children) => do
      let id ← modifyGet fun slugger => slugger.slug (plainText children)
      pure [.run (some id) (if ctx.preventOrphans then some depth else none)]
  | .leave (.leaf l) => do
      ctx.remark l
      pure (plainSigns (.leaf l))
  | .leave node => pure (plainSigns node)

def follow (ctx : Context) : List Visit → Walk (List Sign)
  | [] => pure []
  | visit :: rest => do
      let first ← ctx.visit visit
      let others ← ctx.follow rest
      pure (first ++ others)

theorem follow_append (ctx : Context) (a b : List Visit) :
    ctx.follow (a ++ b) = (do
      let first ← ctx.follow a
      let others ← ctx.follow b
      pure (first ++ others)) := by
  induction a with
  | nil => simp [follow]
  | cons visit rest ih => simp [follow, ih, ← List.append_assoc]

theorem leaf_signs (ctx : Context) (deco : Decoration) (l : Leaf) :
    signs (ctx.leafContent deco l) = plainSigns (.leaf l) := by
  cases l <;> rfl

theorem item_signs (ctx : Context) (content : List Content) :
    signs (content.map ctx.itemContent) = signs content := by
  induction content with
  | nil => rfl
  | cons first rest ih =>
      have same : signs [ctx.itemContent first] = signs [first] := by
        cases first <;> simp [signs, Content.nodesOf, Content.nodes, itemContent, Content.mapRun, Content.sign?]
      calc signs ((first :: rest).map ctx.itemContent)
        _ = signs [ctx.itemContent first] ++ signs (rest.map ctx.itemContent) := signs_append [_] _
        _ = signs [first] ++ signs rest := by rw [same, ih]
        _ = signs (first :: rest) := (signs_append [first] rest).symm

theorem group_signs (run : Run) (children : List Content) :
    signs [.group run children] = signs children ++ [.run run.id run.headlineLevel] := by
  simp [signs, Content.nodesOf, Content.nodes, Content.sign?]

theorem list_signs (items : List Content) (start : Option UInt32) :
    signs [.orderedList items start] = signs items ∧ signs [.unorderedList items] = signs items := by
  constructor <;> simp [signs, Content.nodesOf, Content.nodes, Content.sign?, List.filterMap_cons]

theorem placed_signs (inner content : List Content) (own : List Sign) (same : signs content = signs inner ++ own) :
    signs <$> (pure content : Walk (List Content)) = (signs inner ++ ·) <$> (pure own : Walk (List Sign)) := by
  rw [map_pure, map_pure, same]

theorem drawn_signs {α : Type} (inner : List Content) (draw : Walk α) (content : α → List Content)
    (own : α → List Sign) (same : ∀ a, signs (content a) = signs inner ++ own a) :
    signs <$> (draw >>= fun a => pure (content a)) =
      (signs inner ++ ·) <$> (draw >>= fun a => pure (own a) : Walk (List Sign)) := by
  rw [map_bind, map_bind]
  exact bind_congr fun a => placed_signs inner (content a) (own a) (same a)

-- A heading draws its slug after its content is complete, which is when it is left.
theorem parent_signs (ctx : Context) (children : List Node) (inner : List Content) (p : Parent)
    (isOpen : p.isOpen = true) :
    signs <$> ctx.parentContent children inner p =
      (signs inner ++ ·) <$> ctx.visit (.leave (.parent p children)) := by
  have spliced : signs inner = signs inner ++ [] := (List.append_nil _).symm
  cases p with
  | paragraph => exact placed_signs inner _ [.run none none] (group_signs _ inner)
  | blockquote => exact placed_signs inner _ [.run none none] (group_signs _ inner)
  | heading depth => exact drawn_signs inner _ _ _ fun id => group_signs _ inner
  | list ordered start spread =>
      cases ordered with
      | false => exact placed_signs inner _ [] ((list_signs inner none).2.trans spliced)
      | true => exact placed_signs inner _ [] ((list_signs inner _).1.trans spliced)
  | listItem checked spread => exact placed_signs inner _ [] ((item_signs ctx inner).trans spliced)
  | mark m => exact placed_signs inner inner [] spliced
  | link url title => exact placed_signs inner inner [] spliced
  | footnote => exact placed_signs inner inner [] spliced
  | tableCell => cases isOpen
  | footnoteDefinition identifier label => cases isOpen
  | linkReference identifier label form => cases isOpen

theorem role_open (p : Parent) (isOpen : p.isOpen = true) : roleOf p = .shown := by
  cases p <;> first | rfl | cases isOpen

theorem follow_enter (ctx : Context) (node : Node) (rest : List Visit) (isPart : tablePart? node = none) :
    ctx.follow (.enter node :: rest) = ctx.follow rest := by
  simp [follow, visit, isPart]

theorem follow_part (ctx : Context) (node : Node) (rest : List Visit) (part : Misplaced)
    (isPart : tablePart? node = some part) : ctx.follow (.enter node :: rest) = throw part := by
  simp [follow, visit, isPart]

theorem follow_last (ctx : Context) (visit : Visit) : ctx.follow [visit] = ctx.visit visit := by
  simp [follow]

mutual
theorem node_follows_visits (ctx : Context) (deco : Decoration) (node : Node) :
    signs <$> ctx.convertNode deco node = ctx.follow node.visits := by
  cases node with
  | leaf l =>
      rw [convertNode, Node.visits, follow_enter ctx _ _ rfl, follow_last, visit]
      simp [leaf_signs]
  | parent p children =>
      cases isOpen : p.isOpen with
      | true =>
          have isPart : tablePart? (.parent p children) = none := by
            cases p <;> first | rfl | cases isOpen
          have below := convert_follows_visits ctx (ctx.decorate deco children p) children
          rw [Node.visits, follow_enter ctx _ _ isPart, isOpen, if_pos rfl, follow_append, follow_last, ← below]
          simp [convertNode, role_open p isOpen, parent_signs, isOpen]
      | false =>
          rw [Node.visits, isOpen]
          cases p with
          | tableCell => rfl
          | footnoteDefinition identifier label => rfl
          | linkReference identifier label form => rfl
          | _ => cases isOpen
  | table align rows =>
      rw [Node.visits, follow_enter ctx _ _ rfl, follow_append, follow_last,
        ← rows_follow_visits ctx deco (align.map columnAlignment) rows]
      simp [convertNode, visit, plainSigns, imageUrl?, ownRuns, signs, Content.nodesOf, Content.nodes,
        Content.sign?, List.filterMap_cons]
  | tableRow cells =>
      rw [convertNode, Node.visits, follow_part ctx _ _ .row rfl]
      simp
theorem convert_follows_visits (ctx : Context) (deco : Decoration) (nodes : List Node) :
    signs <$> ctx.convert deco nodes = ctx.follow (visits nodes) := by
  cases nodes with
  | nil => simp [convert, visits, follow, signs, Content.nodesOf]
  | cons node rest =>
      rw [convert, visits, follow_append, ← node_follows_visits ctx deco node,
        ← convert_follows_visits ctx deco rest]
      simp [signs_append]
theorem cells_follow_visits (ctx : Context) (deco : Decoration) (aligns : List Alignment) (cells : List Cell) :
    (fun row => (Content.cellNodes row).filterMap Content.sign?) <$> ctx.convertCells deco aligns cells =
      ctx.follow (cellVisits cells) := by
  cases cells with
  | nil => simp [convertCells, cellVisits, follow, Content.cellNodes]
  | cons cell rest =>
      rw [convertCells, cellVisits, follow_append, ← convert_follows_visits ctx (deco.withAlign aligns.head?) cell,
        ← cells_follow_visits ctx deco aligns.tail rest]
      simp [signs, Content.cellNodes]
theorem rows_follow_visits (ctx : Context) (deco : Decoration) (aligns : List Alignment) (rows : List Row) :
    (fun body => (Content.rowNodes body).filterMap Content.sign?) <$> ctx.convertRows deco aligns rows =
      ctx.follow (rowVisits rows) := by
  cases rows with
  | nil => simp [convertRows, rowVisits, follow, Content.rowNodes]
  | cons row rest =>
      rw [convertRows, rowVisits, follow_append, ← cells_follow_visits ctx deco aligns row,
        ← rows_follow_visits ctx deco aligns rest]
      simp [Content.rowNodes]
end

end Context

def Mdast.Visit.part? : Visit → Option Misplaced
  | .enter node => tablePart? node
  | .leave _ => none

def Mdast.Visit.imageUrl? : Visit → Option String
  | .enter _ => none
  | .leave node => MarkdownLayout.imageUrl? node

def headingDepth? : Node → Option UInt8
  | .parent (.heading depth) _ => some depth
  | _ => none

def Mdast.Visit.makers : Visit → List Node
  | .enter _ => []
  | .leave node => List.replicate (ownRuns node) node

def makers (sequence : List Visit) : List Node := sequence.flatMap Visit.makers

theorem makers_append (a b : List Visit) : makers (a ++ b) = makers a ++ makers b := List.flatMap_append

theorem heading_of_depth (node : Node) (depth : UInt8) (isHeading : headingDepth? node = some depth) :
    ∃ children, node = .parent (.heading depth) children := by
  cases node with
  | parent p children =>
      cases p with
      | heading found =>
          obtain rfl : found = depth := Option.some.inj isHeading
          exact ⟨children, rfl⟩
      | _ => cases isHeading
  | _ => cases isHeading

theorem no_text_without_depth (node : Node) (plain : headingDepth? node = none) :
    headingTexts [.leave node] = [] := by
  cases node with
  | parent p children => cases p <;> first | rfl | cases plain
  | _ => rfl

def Sign.anchor? : Sign → Option (Option String × Option UInt8)
  | .run id headlineLevel => some (id, headlineLevel)
  | .image _ => none

def Sign.imageUrl? : Sign → Option String
  | .run _ _ => none
  | .image url => some url

def anchors (found : List Sign) : List (Option String × Option UInt8) := found.filterMap Sign.anchor?

theorem anchors_append (a b : List Sign) : anchors (a ++ b) = anchors a ++ anchors b := List.filterMap_append

theorem anchors_of_signs (content : List Content) :
    anchors (signs content) = (runs content).map fun run => (run.id, run.headlineLevel) := by
  rw [anchors, signs, runs, List.filterMap_filterMap, List.map_filterMap]
  congr 1
  funext node
  cases node <;> rfl

theorem images_of_signs (content : List Content) :
    (signs content).filterMap Sign.imageUrl? = imageRefs content := by
  rw [signs, imageRefs, List.filterMap_filterMap]
  congr 1
  funext node
  cases node <;> rfl

structure MarkedBy (ctx : Context) (s : Slugger) (sequence : List Visit) (found : List Sign) : Prop where
  slugs : (anchors found).filterMap Prod.fst = (s.slugAll (headingTexts sequence)).1
  anchored : (anchors found).map (fun anchor => anchor.1.isSome) =
    (makers sequence).map fun node => (headingDepth? node).isSome
  levels : (anchors found).map Prod.snd =
    (makers sequence).map fun node => if ctx.preventOrphans then headingDepth? node else none
  images : found.filterMap Sign.imageUrl? = sequence.filterMap Visit.imageUrl?

theorem marked_append (ctx : Context) (s : Slugger) (a b : List Visit) (first others : List Sign)
    (left : MarkedBy ctx s a first) (right : MarkedBy ctx (s.slugAll (headingTexts a)).2 b others) :
    MarkedBy ctx s (a ++ b) (first ++ others) where
  slugs := by
    rw [anchors_append, List.filterMap_append, left.slugs, right.slugs, heading_texts_append,
      Slugger.slug_all_append]
  anchored := by
    rw [anchors_append, List.map_append, left.anchored, right.anchored, makers_append, List.map_append]
  levels := by rw [anchors_append, List.map_append, left.levels, right.levels, makers_append, List.map_append]
  images := by rw [List.filterMap_append, left.images, right.images, List.filterMap_append]

theorem plain_anchors (node : Node) : anchors (plainSigns node) = List.replicate (ownRuns node) (none, none) := by
  cases isImage : imageUrl? node with
  | none => simp [plainSigns, isImage, anchors, Sign.anchor?, List.filterMap_replicate]
  | some url => simp [plainSigns, isImage, anchors, Sign.anchor?, List.filterMap_cons, List.filterMap_replicate]

theorem plain_images (node : Node) : (plainSigns node).filterMap Sign.imageUrl? = (imageUrl? node).toList := by
  cases isImage : imageUrl? node with
  | none => simp [plainSigns, isImage, Sign.imageUrl?, List.filterMap_replicate]
  | some url => simp [plainSigns, isImage, Sign.imageUrl?, List.filterMap_replicate]

namespace Context

theorem visit_plain (ctx : Context) (node : Node) (s : Slugger) (plain : headingDepth? node = none) :
    outcome (ctx.visit (.leave node)) s = (.ok (plainSigns node), s) := by
  cases node with
  | parent p children => cases p <;> first | rfl | cases plain
  | leaf l => exact outcome_bind _ _ s s () (outcome_remark ctx l s)
  | _ => rfl

theorem plain_marked (ctx : Context) (s : Slugger) (node : Node) (plain : headingDepth? node = none) :
    MarkedBy ctx s [.leave node] (plainSigns node) where
  slugs := by
    rw [plain_anchors, no_text_without_depth node plain, List.filterMap_replicate]
    rfl
  anchored := by simp [plain_anchors, makers, Visit.makers, plain]
  levels := by simp [plain_anchors, makers, Visit.makers, plain]
  images := by
    rw [plain_images]
    cases isImage : imageUrl? node <;> simp [Visit.imageUrl?, isImage]

theorem visit_outcome (ctx : Context) (visit : Visit) (s : Slugger) (clear : visit.part? = none) :
    ∃ found, outcome (ctx.visit visit) s = (.ok found, (s.slugAll (headingTexts [visit])).2) ∧
      MarkedBy ctx s [visit] found := by
  cases visit with
  | enter node =>
      refine ⟨[], ?_, ⟨rfl, rfl, rfl, rfl⟩⟩
      have isPart : tablePart? node = none := clear
      simp only [Context.visit, isPart]
      rfl
  | leave node =>
      cases isHeading : headingDepth? node with
      | none =>
          refine ⟨plainSigns node, ?_, plain_marked ctx s node isHeading⟩
          rw [visit_plain ctx node s isHeading, no_text_without_depth node isHeading]
          rfl
      | some depth =>
          obtain ⟨children, rfl⟩ := heading_of_depth node depth isHeading
          exact ⟨[.run (some (s.slug (plainText children)).1) (if ctx.preventOrphans then some depth else none)],
            rfl, rfl, rfl, rfl, rfl⟩

theorem follow_clear (ctx : Context) (sequence : List Visit) (s : Slugger)
    (clear : ∀ visit ∈ sequence, visit.part? = none) :
    ∃ found, outcome (ctx.follow sequence) s = (.ok found, (s.slugAll (headingTexts sequence)).2) ∧
      MarkedBy ctx s sequence found := by
  induction sequence generalizing s with
  | nil => exact ⟨[], rfl, rfl, rfl, rfl, rfl⟩
  | cons visit rest ih =>
      obtain ⟨first, drawn, firstMarked⟩ := visit_outcome ctx visit s (clear visit List.mem_cons_self)
      obtain ⟨others, followed, othersMarked⟩ := ih (s.slugAll (headingTexts [visit])).2
        fun later member => clear later (List.mem_cons_of_mem visit member)
      refine ⟨first ++ others, ?_, marked_append ctx s [visit] rest first others firstMarked othersMarked⟩
      have texts : headingTexts (visit :: rest) = headingTexts [visit] ++ headingTexts rest :=
        heading_texts_append [visit] rest
      rw [follow, outcome_bind _ _ _ _ _ drawn, outcome_bind _ _ _ _ _ followed, outcome_pure, texts,
        Slugger.slug_all_append]

theorem follow_stopped (ctx : Context) (before after : List Visit) (visit : Visit) (part : Misplaced)
    (s : Slugger) (clear : ∀ earlier ∈ before, earlier.part? = none) (isPart : visit.part? = some part) :
    outcome (ctx.follow (before ++ visit :: after)) s =
      (.error part, (s.slugAll (headingTexts before)).2) := by
  obtain ⟨found, followed, -⟩ := follow_clear ctx before s clear
  rw [follow_append, outcome_bind _ _ _ _ _ followed]
  cases visit with
  | enter node => rw [follow_part ctx node after part isPart]; rfl
  | leave node => cases isPart

theorem content_of_observed (ctx : Context) (deco : Decoration) (nodes : List Node) (s : Slugger) :
    outcome (ctx.follow (visits nodes)) s =
      ((ctx.contentOf deco nodes s).1.map signs, (ctx.contentOf deco nodes s).2) := by
  rw [← convert_follows_visits ctx deco nodes, outcome_map]
  rfl

theorem content_of_clear (ctx : Context) (deco : Decoration) (nodes : List Node) (s : Slugger)
    (clear : ∀ visit ∈ visits nodes, visit.part? = none) :
    ∃ content, ctx.contentOf deco nodes s = (.ok content, (s.slugAll (headingTexts (visits nodes))).2) ∧
      MarkedBy ctx s (visits nodes) (signs content) := by
  obtain ⟨found, followed, marked⟩ := follow_clear ctx (visits nodes) s clear
  rw [content_of_observed ctx deco] at followed
  obtain ⟨result, last⟩ := Prod.mk.inj followed
  cases reached : (ctx.contentOf deco nodes s).1 with
  | error part => simp [reached, Except.map] at result
  | ok content =>
      rw [reached] at result
      obtain rfl : signs content = found := Except.ok.inj result
      exact ⟨content, Prod.ext reached last, marked⟩

theorem content_of_stopped (ctx : Context) (deco : Decoration) (nodes : List Node) (s : Slugger)
    (before after : List Visit) (visit : Visit) (part : Misplaced)
    (split : visits nodes = before ++ visit :: after) (clear : ∀ earlier ∈ before, earlier.part? = none)
    (isPart : visit.part? = some part) :
    ctx.contentOf deco nodes s = (.error part, (s.slugAll (headingTexts before)).2) := by
  have followed := follow_stopped ctx before after visit part s clear isPart
  rw [← split, content_of_observed ctx deco] at followed
  obtain ⟨result, last⟩ := Prod.mk.inj followed
  cases reached : (ctx.contentOf deco nodes s).1 with
  | ok content => simp [reached, Except.map] at result
  | error found =>
      rw [reached] at result
      obtain rfl : found = part := Except.error.inj result
      exact Prod.ext reached last

-- With the two lemmas above this settles each run, for the walk has no third way to go.
theorem clear_or_stopped (sequence : List Visit) :
    (∀ visit ∈ sequence, visit.part? = none) ∨
      ∃ before visit after part, sequence = before ++ visit :: after ∧
        (∀ earlier ∈ before, earlier.part? = none) ∧ visit.part? = some part := by
  cases found : sequence.findSome? Visit.part? with
  | none => exact .inl (List.findSome?_eq_none_iff.mp found)
  | some part =>
      obtain ⟨before, visit, after, split, isPart, clear⟩ := List.findSome?_eq_some_iff.mp found
      exact .inr ⟨before, visit, after, part, split, clear, isPart⟩

theorem content_of_ok (ctx : Context) (deco : Decoration) (nodes : List Node) (s : Slugger)
    (content : List Content) (done : (ctx.contentOf deco nodes s).1 = .ok content) :
    (∀ visit ∈ visits nodes, visit.part? = none) ∧ MarkedBy ctx s (visits nodes) (signs content) := by
  rcases clear_or_stopped (visits nodes) with clear | ⟨before, visit, after, part, split, clear, isPart⟩
  · obtain ⟨other, ran, marked⟩ := content_of_clear ctx deco nodes s clear
    rw [ran] at done
    obtain rfl : other = content := Except.ok.inj done
    exact ⟨clear, marked⟩
  · rw [content_of_stopped ctx deco nodes s before after visit part split clear isPart] at done
    cases done

end Context

end MarkdownLayout
