import MarkdownLayout.Mdast.Kind
import MarkdownLayout.Mdast.PlainText

set_option autoImplicit false

namespace MarkdownLayout.Mdast

-- A node is entered before all that stands below it and left after it, so the nodes entered are in
-- preorder and the nodes left in post-order.
inductive Visit where
  | enter (node : Node)
  | leave (node : Node)

def Parent.isOpen : Parent → Bool
  | .paragraph | .heading _ | .blockquote | .list .. | .listItem .. | .mark _ | .link .. | .footnote => true
  | .tableCell | .footnoteDefinition .. | .linkReference .. => false

mutual
def Node.visits : Node → List Visit
  | .leaf l => [.enter (.leaf l), .leave (.leaf l)]
  | .parent p children =>
      .enter (.parent p children)
        :: ((if p.isOpen then visits children else []) ++ [.leave (.parent p children)])
  | .table align rows => .enter (.table align rows) :: (rowVisits rows ++ [.leave (.table align rows)])
  | .tableRow cells => [.enter (.tableRow cells), .leave (.tableRow cells)]
def visits : List Node → List Visit
  | [] => []
  | node :: rest => node.visits ++ visits rest
def cellVisits : List Cell → List Visit
  | [] => []
  | cell :: rest => visits cell ++ cellVisits rest
def rowVisits : List Row → List Visit
  | [] => []
  | row :: rest => cellVisits row ++ rowVisits rest
end

inductive Reached : List Node → Node → Prop where
  | here {nodes : List Node} {node : Node} (member : node ∈ nodes) : Reached nodes node
  | inParent {nodes children : List Node} {p : Parent} {node : Node} (member : .parent p children ∈ nodes)
      (isOpen : p.isOpen = true) (reached : Reached children node) : Reached nodes node
  | inCell {nodes : List Node} {align : List (Option Column)} {rows : List Row} {row : Row} {cell : Cell}
      {node : Node} (member : .table align rows ∈ nodes) (inTable : row ∈ rows) (inRow : cell ∈ row)
      (reached : Reached cell node) : Reached nodes node

def Visit.headingText? : Visit → Option String
  | .leave (.parent (.heading _) children) => some (plainText children)
  | _ => none

def headingTexts (sequence : List Visit) : List String := sequence.filterMap Visit.headingText?

theorem heading_texts_append (a b : List Visit) : headingTexts (a ++ b) = headingTexts a ++ headingTexts b :=
  List.filterMap_append

theorem visits_flat (nodes : List Node) : visits nodes = nodes.flatMap Node.visits := by
  induction nodes with
  | nil => rfl
  | cons node rest ih => rw [visits, ih, List.flatMap_cons]

theorem cell_visits_flat (cells : List Cell) : cellVisits cells = cells.flatMap visits := by
  induction cells with
  | nil => rfl
  | cons cell rest ih => rw [cellVisits, ih, List.flatMap_cons]

theorem row_visits_flat (rows : List Row) : rowVisits rows = rows.flatMap cellVisits := by
  induction rows with
  | nil => rfl
  | cons row rest ih => rw [rowVisits, ih, List.flatMap_cons]

theorem reached_more (nodes more : List Node) (inner : Node) (subset : nodes ⊆ more)
    (reached : Reached nodes inner) : Reached more inner := by
  cases reached with
  | here member => exact .here (subset member)
  | inParent member isOpen deeper => exact .inParent (subset member) isOpen deeper
  | inCell member inTable inRow deeper => exact .inCell (subset member) inTable inRow deeper

mutual
theorem entered_in_node (node inner : Node) (entered : .enter inner ∈ node.visits) : Reached [node] inner := by
  have itself : node ∈ [node] := List.mem_singleton_self node
  cases node with
  | leaf l =>
      have same : inner = .leaf l := by simpa [Node.visits] using entered
      subst same
      exact .here itself
  | parent p children =>
      simp only [Node.visits, List.mem_cons, List.mem_append, List.not_mem_nil, or_false, Visit.enter.injEq,
        reduceCtorEq] at entered
      rcases entered with same | inChildren
      · subst same
        exact .here itself
      · cases isOpen : p.isOpen with
        | false => simp [isOpen] at inChildren
        | true =>
            rw [isOpen, if_pos rfl] at inChildren
            exact .inParent itself isOpen (entered_reached children inner inChildren)
  | table align rows =>
      simp only [Node.visits, List.mem_cons, List.mem_append, List.not_mem_nil, or_false, Visit.enter.injEq,
        reduceCtorEq] at entered
      rcases entered with same | inRows
      · subst same
        exact .here itself
      · obtain ⟨row, inTable, cell, inRow, reached⟩ := entered_in_rows rows inner inRows
        exact .inCell itself inTable inRow reached
  | tableRow cells =>
      have same : inner = .tableRow cells := by simpa [Node.visits] using entered
      subst same
      exact .here itself
theorem entered_reached (nodes : List Node) (inner : Node) (entered : .enter inner ∈ visits nodes) :
    Reached nodes inner := by
  cases nodes with
  | nil => simp [visits] at entered
  | cons node rest =>
      rcases List.mem_append.mp entered with first | later
      · exact reached_more [node] _ inner (by simp) (entered_in_node node inner first)
      · exact reached_more rest _ inner (by simp) (entered_reached rest inner later)
theorem entered_in_cells (cells : List Cell) (inner : Node) (entered : .enter inner ∈ cellVisits cells) :
    ∃ cell ∈ cells, Reached cell inner := by
  cases cells with
  | nil => simp [cellVisits] at entered
  | cons cell rest =>
      rcases List.mem_append.mp entered with first | later
      · exact ⟨cell, List.mem_cons_self, entered_reached cell inner first⟩
      · obtain ⟨other, member, reached⟩ := entered_in_cells rest inner later
        exact ⟨other, List.mem_cons_of_mem cell member, reached⟩
theorem entered_in_rows (rows : List Row) (inner : Node) (entered : .enter inner ∈ rowVisits rows) :
    ∃ row ∈ rows, ∃ cell ∈ row, Reached cell inner := by
  cases rows with
  | nil => simp [rowVisits] at entered
  | cons row rest =>
      rcases List.mem_append.mp entered with first | later
      · exact ⟨row, List.mem_cons_self, entered_in_cells row inner first⟩
      · obtain ⟨other, member, reached⟩ := entered_in_rows rest inner later
        exact ⟨other, List.mem_cons_of_mem row member, reached⟩
end

theorem enters_itself (node : Node) : .enter node ∈ node.visits := by
  cases node <;> simp [Node.visits]

theorem node_visits_subset (nodes : List Node) (node : Node) (member : node ∈ nodes) :
    node.visits ⊆ visits nodes := by
  intro visit inside
  rw [visits_flat]
  exact List.mem_flatMap_of_mem member inside

theorem cell_visits_subset (align : List (Option Column)) (rows : List Row) (row : Row) (cell : Cell)
    (inTable : row ∈ rows) (inRow : cell ∈ row) : visits cell ⊆ (Node.table align rows).visits := by
  intro visit member
  have inCells : visit ∈ cellVisits row := by
    rw [cell_visits_flat]
    exact List.mem_flatMap.mpr ⟨cell, inRow, member⟩
  have inRows : visit ∈ rowVisits rows := by
    rw [row_visits_flat]
    exact List.mem_flatMap.mpr ⟨row, inTable, inCells⟩
  exact List.mem_cons_of_mem _ (List.mem_append_left _ inRows)

theorem reached_entered (nodes : List Node) (inner : Node) (reached : Reached nodes inner) :
    .enter inner ∈ visits nodes := by
  induction reached with
  | here member => exact node_visits_subset _ _ member (enters_itself _)
  | inParent member isOpen _ ih =>
      refine node_visits_subset _ _ member ?_
      rw [Node.visits, isOpen, if_pos rfl]
      exact List.mem_cons_of_mem _ (List.mem_append_left _ ih)
  | inCell member inTable inRow _ ih =>
      exact node_visits_subset _ _ member (cell_visits_subset _ _ _ _ inTable inRow ih)

theorem entered_iff_reached (nodes : List Node) (inner : Node) :
    .enter inner ∈ visits nodes ↔ Reached nodes inner :=
  ⟨entered_reached nodes inner, reached_entered nodes inner⟩

end MarkdownLayout.Mdast
