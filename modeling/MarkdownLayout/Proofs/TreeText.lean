import MarkdownLayout.Proofs.JsonText
import MarkdownLayout.Proofs.TreeReading

set_option autoImplicit false

namespace MarkdownLayout.Mdast

open Json

theorem node_names_distinct (node : Node) : (node.members.map Prod.fst).Nodup := by
  rw [node_names]
  exact kind_fields_distinct _

theorem node_completed (kind? : Json → Option Kind) (names : ReadsNames kind?) (node : Node) :
    readNode kind? node.toJson = node.header.complete? node.members := by
  have kind : kindOf? kind? node.members = some node.header.kind := by
    have named : required kind? "type" node.members = some node.header.kind := (names _).trans (name_of_kind _)
    rw [kindOf?, named]
    have single := single_of_nodup ("type" :: node.header.kind.fields) node.members (node_names_distinct node)
    simp [(distinct_iff _ _ _).mpr ⟨rfl, single⟩]
  have header : node.header.kind.header? node.members = some node.header := by
    apply header_read
    intro field present
    apply (Dictionary.lookup_iff _ (node_names_distinct node) _ _).mpr
    exact List.mem_cons_of_mem _ (List.mem_append_left _ present)
  rw [node_json, read_node_object, kind, Option.bind_some, header, Option.bind_some]

theorem content_back {α : Type} (read : Json → Option α) (node : Node) (items : List Json)
    (content : node.content = [("children", .array items)]) : contentOf read node.members = items.mapM read := by
  have present : ("children", .array items) ∈ node.members := by
    apply List.mem_cons_of_mem
    apply List.mem_append_right
    rw [content]
    exact List.mem_cons_self
  rw [contentOf, required, (Dictionary.lookup_iff _ (node_names_distinct node) _ _).mpr present]
  rfl

mutual
theorem node_read_back (kind? : Json → Option Kind) (names : ReadsNames kind?) (node : Node) :
    readNode kind? node.toJson = some node := by
  rw [node_completed kind? names node]
  cases node with
  | leaf l => rfl
  | parent p children =>
      rw [Node.header, Header.complete?, content_back _ _ (nodesJson children) rfl,
        nodes_read_back Kind.ofNestedJson? (fun _ => rfl) children]
      rfl
  | table align rows =>
      rw [Node.header, Header.complete?, content_back _ _ (rowsJson rows) rfl, rows_read_back rows]
      rfl
  | tableRow cells =>
      rw [Node.header, Header.complete?, content_back _ _ (cellsJson cells) rfl, cells_read_back cells]
      rfl
theorem nodes_read_back (kind? : Json → Option Kind) (names : ReadsNames kind?) (nodes : List Node) :
    (nodesJson nodes).mapM (readNode kind?) = some nodes := by
  cases nodes with
  | nil => rfl
  | cons node rest =>
      rw [nodesJson, List.mapM_cons, node_read_back kind? names node, nodes_read_back kind? names rest]
      rfl
theorem cells_read_back (cells : List Cell) : (cellsJson cells).mapM readCell = some cells := by
  cases cells with
  | nil => rfl
  | cons cell rest =>
      have first : readCell (.object [("children", .array (nodesJson cell))]) = some cell :=
        (read_cell_object _).trans (nodes_read_back Kind.ofNestedJson? (fun _ => rfl) cell)
      rw [cellsJson, List.mapM_cons, first, cells_read_back rest]
      rfl
theorem rows_read_back (rows : List Row) : (rowsJson rows).mapM readRow = some rows := by
  cases rows with
  | nil => rfl
  | cons row rest =>
      have first : readRow (.object [("children", .array (cellsJson row))]) = some row :=
        (read_row_object _).trans (cells_read_back row)
      rw [rowsJson, List.mapM_cons, first, rows_read_back rest]
      rfl
end

theorem root_read_back (root : Root) : Root.ofJson? root.toJson = some root := by
  have content : contentOf Node.ofJson? [("children", .array (nodesJson root.children))] = some root.children :=
    nodes_read_back Kind.ofJson? (fun _ => rfl) root.children
  rw [Root.toJson, read_root_object, content]
  rfl

theorem text_exact (text : Option String) : Exact (textJson text) := by
  cases text with
  | none => exact .null
  | some s => exact .string s

theorem flag_exact (flag : Option Bool) : Exact (optionJson .bool flag) := by
  cases flag with
  | none => exact .null
  | some b => exact .bool b

theorem natural_exact (n : Nat) (small : n < UInt32.size) : Exact (.int n) := by
  have signedRoom : Decimal.signedRoom = 9223372036854775808 := rfl
  have room : Decimal.room = 18446744073709551616 := rfl
  have limit : UInt32.size = 4294967296 := rfl
  exact .number _ ⟨by omega, by omega⟩

theorem align_exactly (align : List (Option Column)) : Exact (alignJson align) := by
  apply Exact.array
  intro item present
  obtain ⟨column, -, rfl⟩ := List.mem_map.mp present
  cases column with
  | none => exact .null
  | some c => exact .string c.name

theorem attributes_exact (h : Header) : ∀ field ∈ h.attributes, Exact field.2 := by
  cases h with
  | leaf l =>
      cases l <;> simp [Header.attributes, Leaf.attributes, text_exact, Exact.string]
  | parent p =>
      cases p with
      | heading depth =>
          have small : depth.toNat < UInt32.size := Nat.lt_trans depth.toNat_lt (by decide)
          simpa [Header.attributes, Parent.attributes] using natural_exact _ small
      | list ordered start spread =>
          have started : Exact (optionJson (fun n : UInt32 => .int n.toNat) start) := by
            cases start with
            | none => exact .null
            | some n => exact natural_exact _ n.toNat_lt
          simpa [Header.attributes, Parent.attributes, flag_exact, Exact.bool] using started
      | _ => simp [Header.attributes, Parent.attributes, text_exact, flag_exact, Exact.string]
  | table align => simpa [Header.attributes] using align_exactly align
  | tableRow => simp [Header.attributes]

theorem content_exact (items : List Json) (each : ∀ item ∈ items, Exact item) :
    Exact (.object [("children", .array items)]) := by
  apply Exact.object
  intro member present
  obtain rfl := List.mem_singleton.mp present
  exact .array items each

theorem node_exact_of_content (node : Node) (content : ∀ member ∈ node.content, Exact member.2) :
    Exact node.toJson := by
  rw [node_json]
  apply Exact.object
  intro member present
  rcases List.mem_cons.mp present with rfl | inside
  · exact .string _
  · rcases List.mem_append.mp inside with own | last
    · exact attributes_exact node.header member own
    · exact content member last

mutual
theorem node_exact (node : Node) : Exact node.toJson := by
  apply node_exact_of_content
  intro member present
  cases node with
  | leaf l => cases present
  | parent p children =>
      obtain rfl := List.mem_singleton.mp present
      exact .array _ (nodes_exact children)
  | table align rows =>
      obtain rfl := List.mem_singleton.mp present
      exact .array _ (rows_exact rows)
  | tableRow cells =>
      obtain rfl := List.mem_singleton.mp present
      exact .array _ (cells_exact cells)
theorem nodes_exact (nodes : List Node) : ∀ item ∈ nodesJson nodes, Exact item := by
  cases nodes with
  | nil => exact List.forall_mem_nil _
  | cons node rest =>
      rw [nodesJson]
      exact List.forall_mem_cons.mpr ⟨node_exact node, nodes_exact rest⟩
theorem cells_exact (cells : List Cell) : ∀ item ∈ cellsJson cells, Exact item := by
  cases cells with
  | nil => exact List.forall_mem_nil _
  | cons cell rest =>
      rw [cellsJson]
      exact List.forall_mem_cons.mpr ⟨content_exact _ (nodes_exact cell), cells_exact rest⟩
theorem rows_exact (rows : List Row) : ∀ item ∈ rowsJson rows, Exact item := by
  cases rows with
  | nil => exact List.forall_mem_nil _
  | cons row rest =>
      rw [rowsJson]
      exact List.forall_mem_cons.mpr ⟨content_exact _ (cells_exact row), rows_exact rest⟩
end

theorem root_exact (root : Root) : Exact root.toJson := content_exact _ (nodes_exact root.children)

theorem root_text_read_back (root : Root) (shallow : root.toJson.depth ≤ Json.nesting) :
    Root.read? (compactText root.toJson) = some root := by
  have text : Json.readMembers ["children"] (compactText root.toJson) = some root.toJson := by
    apply read_members_compact_text
    · intro member present
      obtain rfl := List.mem_singleton.mp present
      exact List.mem_singleton_self _
    · intro member present
      obtain rfl := List.mem_singleton.mp present
      exact .array _ (nodes_exact root.children)
    · exact shallow
  rw [Root.read?, text]
  exact root_read_back root

theorem root_text_injective (a b : Root) (same : compactText a.toJson = compactText b.toJson) : a = b := by
  have printed : a.toJson.print = b.toJson.print := String.ofList_injective same
  have json : a.toJson = b.toJson := print_injective _ _ (root_exact a) (root_exact b) printed
  have read := root_read_back a
  rw [json, root_read_back b] at read
  exact (Option.some.inj read).symm

theorem reading_undoes_writing (root : Root) :
    (root.toJson.depth ≤ Json.nesting → Root.read? (compactText root.toJson) = some root) ∧
      Root.ofJson? root.toJson = some root ∧
      ∀ other : Root, compactText other.toJson = compactText root.toJson → other = root :=
  ⟨root_text_read_back root, root_read_back root, fun other same => root_text_injective other root same⟩

def variedRoot : Root where
  children :=
    [.parent (.heading 255) [.leaf (.text "quote \" and \u0001")],
      .parent (.list true (some 4294967295) none)
        [.parent (.listItem (some false) none) [.parent (.linkReference "a" none .collapsed) []]],
      .table [none, some .center] [[[.leaf (.image "to" none (some "\\"))], []], [], [[]]]]

theorem varied_root_read_back :
    variedRoot.toJson.depth ≤ Json.nesting ∧ Root.read? (compactText variedRoot.toJson) = some variedRoot :=
  have shallow : variedRoot.toJson.depth ≤ Json.nesting := by decide
  ⟨shallow, (reading_undoes_writing variedRoot).1 shallow⟩

end MarkdownLayout.Mdast
