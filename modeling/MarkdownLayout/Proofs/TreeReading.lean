import MarkdownLayout.Proofs.Members
import MarkdownLayout.Proofs.NodeFields

set_option autoImplicit false

namespace MarkdownLayout.Mdast

open Json

def Node.header : Node → Header
  | .leaf l => .leaf l
  | .parent p _ => .parent p
  | .table align _ => .table align
  | .tableRow _ => .tableRow

def Node.content : Node → Members
  | .leaf _ => []
  | .parent _ children => [("children", .array (nodesJson children))]
  | .table _ rows => [("children", .array (rowsJson rows))]
  | .tableRow cells => [("children", .array (cellsJson cells))]

def Node.members (node : Node) : Members :=
  kindMember node.header.kind :: (node.header.attributes ++ node.content)

theorem node_json (node : Node) : node.toJson = .object node.members := by
  cases node with
  | leaf l =>
      rw [Node.toJson, Node.members, Node.content, List.append_nil]
      rfl
  | parent p children => rw [Node.toJson]; rfl
  | table align rows => rw [Node.toJson]; rfl
  | tableRow cells => rw [Node.toJson]; rfl

theorem node_names (node : Node) : node.members.map Prod.fst = "type" :: node.header.kind.fields := by
  rw [Node.members, List.map_cons, List.map_append, header_names, Kind.fields]
  cases node with
  | leaf l => simp [Node.header, Header.kind, leaf_kind, Node.content, kindMember]
  | parent p children => simp [Node.header, Header.kind, parent_kind, Node.content, kindMember]
  | table align rows => rfl
  | tableRow cells => rfl

def ReadsNames (kind? : Json → Option Kind) : Prop := ∀ name, kind? (.string name) = Kind.ofName? name

theorem name_of_kind (kind : Kind) : Kind.ofName? kind.name = some kind := by
  cases kind <;> rfl

section Content

variable {α : Type} (read : Json → Option α)

def contentOf (members : Members) : Option (List α) := required (array? read) "children" members

-- The readers of nodes, rows and cells are recursions of one form, over the items and over the members.
theorem items_read (each : List Json → Option (List α)) (none : each [] = some [])
    (others : ∀ json rest, each (json :: rest) = (read json).bind fun a => (each rest).map fun as => a :: as)
    (items : List Json) : each items = items.mapM read := by
  induction items with
  | nil => exact none
  | cons json rest ih =>
      rw [others, ih, List.mapM_cons]
      cases read json with
      | none => rfl
      | some a => cases rest.mapM read <;> rfl

theorem content_found (search : Members → Option (List α)) (content : Json → Option (List α))
    (array : ∀ json, content json = array? read json) (missing : search [] = none)
    (found : ∀ name json rest,
      search ((name, json) :: rest) = if name = "children" then content json else search rest)
    (members : Members) : search members = contentOf read members := by
  rw [contentOf, required]
  induction members with
  | nil => exact missing
  | cons member rest ih =>
      obtain ⟨name, json⟩ := member
      rw [found, ih, Dictionary.lookup_head]
      by_cases hit : name = "children"
      · rw [if_pos hit, if_pos hit.symm, array]
        rfl
      · rw [if_neg hit, if_neg (Ne.symm hit)]

end Content

theorem read_nodes (json : Json) : readNodes json = array? (readNode Kind.ofNestedJson?) json := by
  cases json with
  | array items =>
      exact items_read _ eachNode (by rw [eachNode]) (fun _ _ => by rw [eachNode]) items
  | _ => rfl

theorem read_rows (json : Json) : readRows json = array? readRow json := by
  cases json with
  | array items => exact items_read _ eachRow (by rw [eachRow]) (fun _ _ => by rw [eachRow]) items
  | _ => rfl

theorem read_cells (json : Json) : readCells json = array? readCell json := by
  cases json with
  | array items => exact items_read _ eachCell (by rw [eachCell]) (fun _ _ => by rw [eachCell]) items
  | _ => rfl

theorem children_in (members : Members) : childrenIn members = contentOf (readNode Kind.ofNestedJson?) members :=
  content_found _ childrenIn readNodes read_nodes (by rw [childrenIn]) (fun _ _ _ => by rw [childrenIn]) members

theorem rows_in (members : Members) : rowsIn members = contentOf readRow members :=
  content_found _ rowsIn readRows read_rows (by rw [rowsIn]) (fun _ _ _ => by rw [rowsIn]) members

theorem cells_in (members : Members) : cellsIn members = contentOf readCell members :=
  content_found _ cellsIn readCells read_cells (by rw [cellsIn]) (fun _ _ _ => by rw [cellsIn]) members

def Header.complete? (members : Members) : Header → Option Node
  | .leaf l => some (.leaf l)
  | .parent p => (contentOf (readNode Kind.ofNestedJson?) members).map (.parent p)
  | .table align => (contentOf readRow members).map (.table align)
  | .tableRow => (contentOf readCell members).map .tableRow

theorem read_node_object (kind? : Json → Option Kind) (members : Members) :
    readNode kind? (.object members) =
      (kindOf? kind? members).bind fun kind => (kind.header? members).bind fun h => h.complete? members := by
  rw [readNode, children_in, rows_in, cells_in]
  refine congrArg _ (funext fun kind => congrArg _ (funext fun h => ?_))
  cases h <;> rfl

theorem read_row_object (members : Members) :
    readRow (.object members) = (distinct ["children"] members).bind fun _ => contentOf readCell members := by
  rw [readRow, cells_in]

theorem read_cell_object (members : Members) :
    readCell (.object members) =
      (distinct ["children"] members).bind fun _ => contentOf (readNode Kind.ofNestedJson?) members := by
  rw [readCell, children_in]

theorem read_root_object (members : Members) :
    Root.ofJson? (.object members) =
      (distinct ["children"] members).bind fun _ => (contentOf Node.ofJson? members).map Root.mk := by
  cases found : distinct ["children"] members with
  | none => simp [Root.ofJson?, record?, found]
  | some same =>
      obtain rfl := ((distinct_iff _ _ _).mp found).1
      rw [Root.ofJson?, record?, found]
      show (contentOf Node.ofJson? same).bind _ = (contentOf Node.ofJson? same).map Root.mk
      cases contentOf Node.ofJson? same <;> rfl

end MarkdownLayout.Mdast
