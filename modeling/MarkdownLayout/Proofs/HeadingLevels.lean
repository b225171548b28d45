import Mathlib.Data.List.Forall2
import MarkdownLayout.Document.PageBreak
import MarkdownLayout.Proofs.HeadingIds
import MarkdownLayout.Proofs.Pruning

set_option autoImplicit false

namespace MarkdownLayout

open Mdast

def Mdast.Parent.isSpliced : Parent → Bool
  | .listItem .. | .mark _ | .link .. | .footnote => true
  | _ => false

def Mdast.Node.isSpliced : Node → Bool
  | .parent p _ => p.isSpliced
  | _ => false

mutual
def Mdast.Node.placed : Node → List Node
  | .leaf l => if l.kind.isSilent then [] else [.leaf l]
  | .parent p children =>
      if p.isSpliced then placed children else if p.isOpen then [.parent p children] else []
  | .table align rows => [.table align rows]
  | .tableRow _ => []
def placed : List Node → List Node
  | [] => []
  | node :: rest => node.placed ++ placed rest
end

-- A content that was made of a node, by itself or in list items, which give it another style.
inductive Shows (ctx : Context) (node : Node) : Content → Prop where
  | made {deco : Decoration} {s : Slugger} {content : Content}
      (converted : (outcome (ctx.convertNode deco node) s).1 = .ok [content]) : Shows ctx node content
  | restyled {content : Content} (shown : Shows ctx node content) : Shows ctx node (ctx.itemContent content)

structure Levelled (ctx : Context) (node : Node) (content : Content) : Prop where
  anchored : (content.run?.bind Run.id).isSome = (headingDepth? node).isSome
  level : content.headlineLevel = if ctx.preventOrphans then headingDepth? node else none

def Stands (ctx : Context) (node : Node) (content : List Content) : Prop :=
  (content = [] ∧ node.placed = []) ∨ ∃ single, content = [single] ∧ node.placed = [node] ∧ Levelled ctx node single

namespace Context

theorem plain_levelled (ctx : Context) (node : Node) (content : Content) (plain : headingDepth? node = none)
    (unanchored : content.run?.bind Run.id = none) (unlevelled : content.headlineLevel = none) :
    Levelled ctx node content where
  anchored := by rw [unanchored, plain]; rfl
  level := by rw [unlevelled, plain, ite_self]

theorem leaf_stands (ctx : Context) (deco : Decoration) (l : Leaf) :
    Stands ctx (.leaf l) (ctx.leafContent deco l) := by
  cases l with
  | yaml value => exact .inl ⟨rfl, rfl⟩
  | toml value => exact .inl ⟨rfl, rfl⟩
  | definition identifier label url title => exact .inl ⟨rfl, rfl⟩
  | imageReference identifier label form alt => exact .inl ⟨rfl, rfl⟩
  | footnoteReference identifier label => exact .inl ⟨rfl, rfl⟩
  | _ => exact .inr ⟨_, rfl, rfl, plain_levelled ctx _ _ rfl rfl rfl⟩

theorem parent_stands (ctx : Context) (children : List Node) (inner : List Content) (p : Parent)
    (own : p.isSpliced = false) (isOpen : p.isOpen = true) :
    Yields (ctx.parentContent children inner p) (Stands ctx (.parent p children)) := by
  cases p with
  | paragraph => exact yields_pure _ _ (.inr ⟨_, rfl, rfl, plain_levelled ctx _ _ rfl rfl rfl⟩)
  | blockquote => exact yields_pure _ _ (.inr ⟨_, rfl, rfl, plain_levelled ctx _ _ rfl rfl rfl⟩)
  | heading depth =>
      exact yields_bind _ _ _ _ (yields_always _) fun id _ => yields_pure _ _ (.inr ⟨_, rfl, rfl, rfl, rfl⟩)
  | list ordered start spread =>
      cases ordered with
      | true => exact yields_pure _ _ (.inr ⟨_, rfl, rfl, plain_levelled ctx _ _ rfl rfl rfl⟩)
      | false => exact yields_pure _ _ (.inr ⟨_, rfl, rfl, plain_levelled ctx _ _ rfl rfl rfl⟩)
  | tableCell => cases isOpen
  | footnoteDefinition identifier label => cases isOpen
  | linkReference identifier label form => cases isOpen
  | _ => cases own

theorem node_stands (ctx : Context) (deco : Decoration) (node : Node) (own : node.isSpliced = false) :
    Yields (ctx.convertNode deco node) (Stands ctx node) := by
  cases node with
  | leaf l => exact yields_leaf ctx deco l _ (leaf_stands ctx deco l)
  | parent p children =>
      cases isOpen : p.isOpen with
      | true =>
          rw [convertNode, role_open p isOpen]
          exact yields_bind _ _ _ _ (yields_always _) fun inner _ => parent_stands ctx children inner p own isOpen
      | false =>
          cases p with
          | tableCell => exact yields_throw _ _
          | footnoteDefinition identifier label => exact yields_pure _ _ (.inl ⟨rfl, rfl⟩)
          | linkReference identifier label form => exact yields_pure _ _ (.inl ⟨rfl, rfl⟩)
          | _ => cases isOpen
  | table align rows =>
      rw [convertNode]
      exact yields_bind _ _ _ _ (yields_always _) fun body _ =>
        yields_pure _ _ (.inr ⟨_, rfl, rfl, plain_levelled ctx _ _ rfl rfl rfl⟩)
  | tableRow cells => exact yields_throw _ _

theorem own_shown (ctx : Context) (deco : Decoration) (node : Node) (own : node.isSpliced = false) :
    Yields (ctx.convertNode deco node) (List.Forall₂ (Shows ctx) node.placed) := by
  intro s content done
  rcases node_stands ctx deco node own s content done with ⟨rfl, nothing⟩ | ⟨single, rfl, itself, -⟩
  · rw [nothing]
    exact .nil
  · rw [itself]
    exact .cons (.made done) .nil

theorem spliced_shown (ctx : Context) (children : List Node) (inner : List Content) (p : Parent)
    (spliced : p.isSpliced = true) (shown : List.Forall₂ (Shows ctx) (placed children) inner) :
    Yields (ctx.parentContent children inner p) (List.Forall₂ (Shows ctx) (placed children)) := by
  cases p with
  | listItem checked spread =>
      exact yields_pure _ _ (List.forall₂_map_right_iff.mpr (shown.imp fun _ _ => .restyled))
  | mark m => exact yields_pure _ _ shown
  | link url title => exact yields_pure _ _ shown
  | footnote => exact yields_pure _ _ shown
  | _ => cases spliced

mutual
theorem node_shown (ctx : Context) (deco : Decoration) (node : Node) :
    Yields (ctx.convertNode deco node) (List.Forall₂ (Shows ctx) node.placed) := by
  cases node with
  | parent p children =>
      cases spliced : p.isSpliced with
      | false => exact own_shown ctx deco _ spliced
      | true =>
          have isShown : roleOf p = .shown := by cases p <;> first | rfl | cases spliced
          have below := convert_shown ctx (ctx.decorate deco children p) children
          rw [Node.placed, if_pos spliced, convertNode, isShown]
          exact yields_bind _ _ _ _ below fun inner shown => spliced_shown ctx children inner p spliced shown
  | leaf l => exact own_shown ctx deco _ rfl
  | table align rows => exact own_shown ctx deco _ rfl
  | tableRow cells => exact own_shown ctx deco _ rfl
theorem convert_shown (ctx : Context) (deco : Decoration) (nodes : List Node) :
    Yields (ctx.convert deco nodes) (List.Forall₂ (Shows ctx) (placed nodes)) := by
  cases nodes with
  | nil => exact yields_pure _ _ .nil
  | cons node rest =>
      rw [convert, placed]
      refine yields_bind _ _ _ _ (node_shown ctx deco node) fun first head => ?_
      refine yields_bind _ _ _ _ (convert_shown ctx deco rest) fun others tail => ?_
      exact yields_pure _ _ (List.rel_append head tail)
end

end Context

mutual
theorem node_placed_own (node : Node) : ∀ place ∈ node.placed, place.isSpliced = false := by
  intro place member
  cases node with
  | leaf l =>
      rw [Node.placed] at member
      split at member
      · cases member
      · rw [List.mem_singleton.mp member]
        rfl
  | parent p children =>
      rw [Node.placed] at member
      split at member
      · exact placed_own children place member
      · rename_i own
        split at member
        · rw [List.mem_singleton.mp member]
          exact Bool.eq_false_iff.mpr own
        · cases member
  | table align rows =>
      rw [List.mem_singleton.mp member]
      rfl
  | tableRow cells => cases member
theorem placed_own (nodes : List Node) : ∀ place ∈ placed nodes, place.isSpliced = false := by
  intro place member
  cases nodes with
  | nil => cases member
  | cons node rest =>
      rcases List.mem_append.mp member with first | later
      · exact node_placed_own node place first
      · exact placed_own rest place later
end

theorem item_levelled (ctx : Context) (node : Node) (content : Content) (levelled : Levelled ctx node content) :
    Levelled ctx node (ctx.itemContent content) := by
  obtain ⟨anchored, level⟩ := levelled
  cases content <;> exact ⟨anchored, level⟩

theorem shown_levelled (ctx : Context) (node : Node) (own : node.isSpliced = false) (content : Content)
    (shown : Shows ctx node content) : Levelled ctx node content := by
  induction shown with
  | made converted =>
      rcases ctx.node_stands _ node own _ _ converted with ⟨nothing, -⟩ | ⟨single, same, -, levelled⟩
      · cases nothing
      · cases same
        exact levelled
  | restyled _ ih => exact item_levelled ctx node _ ih

def Mdast.Visit.headingDepth? : Visit → Option UInt8
  | .enter _ => none
  | .leave node => MarkdownLayout.headingDepth? node

def headingDepths (sequence : List Visit) : List UInt8 := sequence.filterMap Visit.headingDepth?

theorem depths_of_makers (sequence : List Visit) : (makers sequence).filterMap headingDepth? = headingDepths sequence := by
  induction sequence with
  | nil => rfl
  | cons visit rest ih =>
      have split : makers (visit :: rest) = visit.makers ++ makers rest := List.flatMap_cons
      rw [split, List.filterMap_append, ih, headingDepths, headingDepths, List.filterMap_cons]
      cases visit with
      | enter node => rfl
      | leave node =>
          cases isHeading : headingDepth? node with
          | none => simp [Visit.makers, Visit.headingDepth?, isHeading]
          | some depth =>
              obtain ⟨children, rfl⟩ := heading_of_depth node depth isHeading
              simp [Visit.makers, Visit.headingDepth?, isHeading, ownRuns]

def Run.marking? (run : Run) : Option (String × UInt8) :=
  run.id.bind fun id => run.headlineLevel.map fun level => (id, level)

theorem markings_zip (found : List Run) (together : ∀ run ∈ found, run.id.isSome = run.headlineLevel.isSome) :
    found.filterMap Run.marking? = (found.filterMap Run.id).zip (found.filterMap Run.headlineLevel) := by
  induction found with
  | nil => rfl
  | cons run rest ih =>
      have both := together run List.mem_cons_self
      have later := ih fun other member => together other (List.mem_cons_of_mem run member)
      rw [List.filterMap_cons, List.filterMap_cons, List.filterMap_cons, later, Run.marking?]
      cases ofId : run.id with
      | none =>
          cases ofLevel : run.headlineLevel with
          | none => rfl
          | some level =>
              rw [ofId, ofLevel] at both
              cases both
      | some id =>
          cases ofLevel : run.headlineLevel with
          | none =>
              rw [ofId, ofLevel] at both
              cases both
          | some level => rfl

theorem breaks_before_iff (content : List Content) (window i : Nat) (inside : i < content.length) :
    breaksBefore content[i] ((content.drop (i + 1)).take window) = true ↔
      content[i].headlineLevel = some 1 ∧ (window = 0 ∨ i + 1 = content.length) := by
  rw [breaksBefore, Bool.and_eq_true, beq_iff_eq, List.isEmpty_iff, List.take_eq_nil_iff, List.drop_eq_nil_iff]
  have last : content.length ≤ i + 1 ↔ i + 1 = content.length := by omega
  rw [last]

namespace Context

variable (ctx : Context) (deco : Decoration) (nodes : List Node) (s : Slugger) (content : List Content)
  (done : (ctx.contentOf deco nodes s).1 = .ok content)
include done

theorem run_levels :
    (runs content).map Run.headlineLevel =
      (makers (visits nodes)).map fun node => if ctx.preventOrphans then headingDepth? node else none := by
  rw [← (content_of_ok ctx deco nodes s content done).2.levels, anchors_of_signs, List.map_map]
  rfl

theorem nothing_levelled (off : ctx.preventOrphans = false) :
    ∀ node ∈ Content.nodesOf content, node.headlineLevel = none := by
  intro node inside
  rw [Content.headlineLevel]
  cases isRun : node.run? with
  | none => rfl
  | some run =>
      have levels := run_levels ctx deco nodes s content done
      simp only [off, Bool.false_eq_true, if_false] at levels
      have among : run ∈ runs content := List.mem_filterMap.mpr ⟨node, inside, isRun⟩
      have listed : run.headlineLevel ∈ (runs content).map Run.headlineLevel := List.mem_map_of_mem among
      rw [levels] at listed
      obtain ⟨maker, -, none⟩ := List.mem_map.mp listed
      exact none.symm

theorem headings_levelled (on : ctx.preventOrphans = true) :
    (runs content).filterMap Run.headlineLevel = headingDepths (visits nodes) ∧
      (∀ run ∈ runs content, run.id.isSome = run.headlineLevel.isSome) ∧
      (runs content).filterMap Run.marking? =
        (s.slugAll (headingTexts (visits nodes))).1.zip (headingDepths (visits nodes)) := by
  have levels := run_levels ctx deco nodes s content done
  simp only [on, if_true] at levels
  obtain ⟨slugs, anchored⟩ := content_ids ctx deco nodes s content done
  have depths : (runs content).filterMap Run.headlineLevel = headingDepths (visits nodes) := by
    have present := congrArg (List.filterMap id) levels
    rwa [List.filterMap_map, List.filterMap_map, Function.id_comp, Function.id_comp, depths_of_makers] at present
  have together : ∀ run ∈ runs content, run.id.isSome = run.headlineLevel.isSome := by
    have present := congrArg (List.map Option.isSome) levels
    rw [List.map_map, List.map_map] at present
    exact List.map_inj_left.mp (anchored.trans present.symm)
  refine ⟨depths, together, ?_⟩
  rw [markings_zip _ together, depths, ← slugs]
  rfl

theorem content_shown : List.Forall₂ (Shows ctx) (placed nodes) content :=
  convert_shown ctx deco nodes s content done

theorem breaks_before_headings (on : ctx.preventOrphans = true) (window i : Nat) (inside : i < content.length) :
    breaksBefore content[i] ((content.drop (i + 1)).take window) = true ↔
      (∃ children, (placed nodes)[i]? = some (.heading 1 children)) ∧ (window = 0 ∨ i + 1 = content.length) := by
  obtain ⟨sameLength, shown⟩ := List.forall₂_iff_get.mp (content_shown ctx deco nodes s content done)
  have place : i < (placed nodes).length := sameLength ▸ inside
  have own := placed_own nodes _ (List.getElem_mem place)
  have level := (shown_levelled ctx _ own _ (shown i place inside)).level
  rw [List.get_eq_getElem, on, if_pos rfl] at level
  rw [breaks_before_iff, level, List.getElem?_eq_getElem place]
  refine and_congr_left fun _ => ⟨?_, ?_⟩
  · intro depth
    obtain ⟨children, heading⟩ := heading_of_depth _ 1 depth
    exact ⟨children, congrArg some heading⟩
  · rintro ⟨children, heading⟩
    rw [Option.some.inj heading]
    rfl

end Context

theorem orphan_prevention_marks_exactly_headings (root : Root) (options : Options) (images : ImageMap)
    (definition : Definition) (made : Definition.ofRoot root options images = .ok definition) :
    match options.preventOrphans with
    | false =>
        definition.keepsHeadings = false ∧
          ∀ node ∈ Content.nodesOf definition.content, node.headlineLevel = none
    | true =>
        definition.keepsHeadings = true ∧
          (runs definition.content).filterMap Run.headlineLevel = headingDepths (visits root.children) ∧
          (∀ run ∈ runs definition.content, run.id.isSome = run.headlineLevel.isSome) ∧
          (runs definition.content).filterMap Run.marking? =
            (Slugger.fresh.slugAll (headingTexts (visits root.children))).1.zip
              (headingDepths (visits root.children)) ∧
          List.Forall₂ (Shows (Definition.contextOf options images)) (placed root.children) definition.content ∧
          ∀ (window i : Nat) (inside : i < definition.content.length),
            breaksBefore definition.content[i] ((definition.content.drop (i + 1)).take window) = true ↔
              (∃ children, (placed root.children)[i]? = some (.heading 1 children)) ∧
                (window = 0 ∨ i + 1 = definition.content.length) := by
  have keeps := Definition.of_root_keeps_headings root options images definition made
  have done := (Definition.walked_of_root root options images definition made).1
  rw [← Definition.walked_supplied root options images] at done
  cases prevents : options.preventOrphans with
  | false => exact ⟨keeps.trans prevents, Context.nothing_levelled _ _ _ _ _ done prevents⟩
  | true =>
      obtain ⟨depths, together, marked⟩ := Context.headings_levelled _ _ _ _ _ done prevents
      exact ⟨keeps.trans prevents, depths, together, marked, Context.content_shown _ _ _ _ _ done,
        Context.breaks_before_headings _ _ _ _ _ done prevents⟩

-- A heading inside a heading, and one in a list item that stands alone; a node without output is between them.
def nestedHeadings : Root :=
  ⟨[.strong [.heading 1 [.heading 2 [.text "a"]], .paragraph [.text "b"]], .leaf (.yaml "key: value"),
    .parent (.listItem none none) [.heading 1 [.text "c"]]]⟩

theorem nested_headings_marked :
    ∃ definition : Definition,
      Definition.ofRoot nestedHeadings { Options.default with preventOrphans := true } .empty = .ok definition ∧
      definition.keepsHeadings = true ∧
      (runs definition.content).filterMap Run.headlineLevel = [2, 1, 1] ∧
      ∃ inside : 2 < definition.content.length, ∀ window,
        breaksBefore definition.content[2] ((definition.content.drop 3).take window) = true := by
  let options : Options := { Options.default with preventOrphans := true }
  have clear : ∀ visit ∈ visits nestedHeadings.children, visit.part? = none := by decide
  obtain ⟨content, ran, -⟩ := Context.content_of_clear (Definition.contextOf options .empty) .plain _ .fresh clear
  have walked : Definition.walked nestedHeadings options = .ok content := congrArg Prod.fst ran
  obtain ⟨definition, made, -⟩ := Definition.of_root_walked nestedHeadings options .empty content walked
  obtain ⟨keeps, levels, -, -, shown, breaks⟩ :=
    orphan_prevention_marks_exactly_headings nestedHeadings options .empty definition made
  have three : definition.content.length = 3 := shown.length_eq.symm
  refine ⟨definition, made, keeps, levels, by omega, fun window => ?_⟩
  exact (breaks window 2 (by omega)).mpr ⟨⟨_, rfl⟩, .inr three.symm⟩

end MarkdownLayout
