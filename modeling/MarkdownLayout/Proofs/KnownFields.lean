import MarkdownLayout.Proofs.Restating

set_option autoImplicit false

namespace MarkdownLayout.Mdast

open Json

inductive InObjectForm : Slot → Json → Prop where
  | object (slot : Slot) (members : Members) (distinctNames : (members.map Prod.fst).Nodup)
      (named : slot.Named members)
      (content : ∀ inner, slot.below? members = some inner → ∀ items,
        members.lookup "children" = some (.array items) → ∀ item ∈ items, InObjectForm inner item) :
      InObjectForm slot (.object members)

theorem form_of_children (slot inner : Slot) (members : Members) (items : List Json)
    (distinctNames : (members.map Prod.fst).Nodup) (named : slot.Named members)
    (below : slot.below? members = some inner) (children : members.lookup "children" = some (.array items))
    (each : ∀ item ∈ items, InObjectForm inner item) : InObjectForm slot (.object members) := by
  refine .object slot members distinctNames named ?_
  intro other inside found given
  obtain rfl : inner = other := Option.some.inj (below.symm.trans inside)
  obtain rfl : items = found := Json.array.inj (Option.some.inj (children.symm.trans given))
  exact each

theorem named_node (members : Members) (name : String) (typed : members.lookup "type" = some (.string name)) :
    Slot.node.Named members := by
  intro isNode json given
  exact ⟨name, Option.some.inj (given.symm.trans typed)⟩

theorem named_container (slot : Slot) (members : Members) (container : slot ≠ .node) : slot.Named members :=
  fun isNode => absurd isNode container

section Normalising

variable (spelled : String → Json → Json)

mutual
def normalised (slot : Slot) : Json → Json
  | .object members =>
      .object ((slot.known members).map fun name =>
        (name, stated spelled (normalisedChildren (slot.below? members) members) name))
  | json => json
def normalisedChildren (below : Option Slot) : Members → Members
  | [] => []
  | (name, json) :: rest =>
      (name, if name = "children" then normalisedItems below json else json) :: normalisedChildren below rest
def normalisedItems (below : Option Slot) : Json → Json
  | .array items => .array (normalisedEach below items)
  | json => json
def normalisedEach (below : Option Slot) : List Json → List Json
  | [] => []
  | json :: rest => below.elim json (normalised · json) :: normalisedEach below rest
end

theorem normalised_each (slot : Slot) (items : List Json) :
    normalisedEach spelled (some slot) items = items.map (normalised spelled slot) := by
  induction items with
  | nil => rw [normalisedEach, List.map_nil]
  | cons json rest ih =>
      rw [normalisedEach, ih]
      rfl

theorem lookup_normalised (below : Option Slot) (members : Members) (name : String) :
    (normalisedChildren spelled below members).lookup name =
      (members.lookup name).map fun json => if name = "children" then normalisedItems spelled below json else json := by
  induction members with
  | nil => rw [normalisedChildren]; rfl
  | cons member rest ih =>
      obtain ⟨other, json⟩ := member
      rw [normalisedChildren, Dictionary.lookup_head, Dictionary.lookup_head, ih]
      by_cases hit : name = other
      · subst hit
        rw [if_pos rfl, if_pos rfl]
        rfl
      · rw [if_neg hit, if_neg hit]

theorem stated_normalised (below : Option Slot) (members : Members) (name : String) (other : name ≠ "children") :
    stated spelled (normalisedChildren spelled below members) name = stated spelled members name := by
  rw [stated, stated, lookup_normalised]
  simp [other]

end Normalising

theorem nodes_json (nodes : List Node) : nodesJson nodes = nodes.map Slot.node.write := by
  induction nodes with
  | nil => rfl
  | cons node rest ih =>
      rw [nodesJson, ih]
      rfl

theorem cells_json (cells : List Cell) : cellsJson cells = cells.map Slot.cell.write := by
  induction cells with
  | nil => rfl
  | cons cell rest ih =>
      rw [cellsJson, ih]
      rfl

theorem rows_json (rows : List Row) : rowsJson rows = rows.map Slot.row.write := by
  induction rows with
  | nil => rfl
  | cons row rest ih =>
      rw [rowsJson, ih]
      rfl

def Normalises (slot : Slot) (json : Json) : Prop :=
  ∀ kind?, ReadsNames kind? → ∀ value, slot.read? kind? json = some value →
    slot.write value = normalised plainSpelling slot json

theorem items_normalised (slot : Slot) (kind? : Json → Option Kind) (names : ReadsNames kind?) (items : List Json)
    (each : ∀ item ∈ items, Normalises slot item) (values : List slot.Value)
    (read : items.mapM (slot.read? kind?) = some values) :
    values.map slot.write = items.map (normalised plainSpelling slot) := by
  induction items generalizing values with
  | nil =>
      obtain rfl := Option.some.inj read
      rfl
  | cons item rest ih =>
      obtain ⟨first, others⟩ := List.forall_mem_cons.mp each
      rw [List.mapM_cons] at read
      obtain ⟨value, readFirst, next⟩ := Option.bind_eq_some_iff.mp read
      obtain ⟨later, readRest, same⟩ := Option.bind_eq_some_iff.mp next
      obtain rfl := Option.some.inj same
      rw [List.map_cons, List.map_cons, first kind? names value readFirst, ih others later readRest]

theorem children_normalised (inner : Slot) (kind? : Json → Option Kind) (names : ReadsNames kind?) (members : Members)
    (each : ∀ items, members.lookup "children" = some (.array items) → ∀ item ∈ items, Normalises inner item)
    (values : List inner.Value) (read : contentOf (inner.read? kind?) members = some values) :
    stated plainSpelling (normalisedChildren plainSpelling (some inner) members) "children" =
      .array (values.map inner.write) := by
  obtain ⟨json, given, array⟩ := Option.bind_eq_some_iff.mp read
  match json, array with
  | .array items, array =>
      have written := items_normalised inner kind? names items (each items given) values array
      rw [stated, lookup_normalised, given, written]
      simp [normalisedItems, normalised_each, plainSpelling]

theorem container_normalised (slot inner : Slot) (members : Members) (known : slot.known members = ["children"])
    (below : slot.below? members = some inner) (kind? : Json → Option Kind) (names : ReadsNames kind?)
    (each : ∀ items, members.lookup "children" = some (.array items) → ∀ item ∈ items, Normalises inner item)
    (values : List inner.Value) (read : contentOf (inner.read? kind?) members = some values) :
    normalised plainSpelling slot (.object members) = .object [("children", .array (values.map inner.write))] := by
  have children := children_normalised inner kind? names members each values read
  rw [normalised, known, below, List.map_singleton, children]

theorem completed_header (h : Header) (members : Members) (node : Node) (complete : h.complete? members = some node) :
    node.header = h := by
  cases h with
  | leaf l =>
      obtain rfl := Option.some.inj complete
      rfl
  | parent p =>
      obtain ⟨children, -, rfl⟩ := Option.map_eq_some_iff.mp complete
      rfl
  | table align =>
      obtain ⟨rows, -, rfl⟩ := Option.map_eq_some_iff.mp complete
      rfl
  | tableRow =>
      obtain ⟨cells, -, rfl⟩ := Option.map_eq_some_iff.mp complete
      rfl

theorem completed_content (h : Header) (members : Members) (node : Node) (complete : h.complete? members = some node)
    (each : ∀ inner, h.below? = some inner → ∀ items, members.lookup "children" = some (.array items) →
      ∀ item ∈ items, Normalises inner item) :
    node.content = (if h.kind.isLeaf then [] else ["children"]).map fun name =>
      (name, stated plainSpelling (normalisedChildren plainSpelling h.below? members) name) := by
  have nested : ReadsNames Kind.ofNestedJson? := fun _ => rfl
  cases h with
  | leaf l =>
      obtain rfl := Option.some.inj complete
      rw [Header.kind, leaf_kind]
      rfl
  | parent p =>
      obtain ⟨children, read, rfl⟩ := Option.map_eq_some_iff.mp complete
      have written := children_normalised .node Kind.ofNestedJson? nested members (each .node rfl) children read
      rw [Header.kind, parent_kind, Header.below?, Node.content, nodes_json, ← written]
      rfl
  | table align =>
      obtain ⟨rows, read, rfl⟩ := Option.map_eq_some_iff.mp complete
      have written := children_normalised .row Kind.ofNestedJson? nested members (each .row rfl) rows read
      rw [Header.below?, Node.content, rows_json, ← written]
      rfl
  | tableRow =>
      obtain ⟨cells, read, rfl⟩ := Option.map_eq_some_iff.mp complete
      have written := children_normalised .cell Kind.ofNestedJson? nested members (each .cell rfl) cells read
      rw [Header.below?, Node.content, cells_json, ← written]
      rfl

theorem kind_name (name : String) (kind : Kind) (named : Kind.ofName? name = some kind) : name = kind.name := by
  have found := List.find?_some named
  exact (beq_iff_eq.mp found).symm

theorem type_stated (members : Members) (kind : Kind) (typed : Slot.node.kind? members = some kind) :
    stated plainSpelling members "type" = .string kind.name := by
  obtain ⟨json, given, read⟩ := Option.bind_eq_some_iff.mp typed
  match json, read with
  | .string name, read =>
      obtain rfl := kind_name name kind read
      rw [stated, given]
      rfl

theorem node_normalised (kind? : Json → Option Kind) (names : ReadsNames kind?) (members : Members)
    (named : Slot.node.Named members)
    (each : ∀ inner, Slot.node.below? members = some inner → ∀ items,
      members.lookup "children" = some (.array items) → ∀ item ∈ items, Normalises inner item)
    (node : Node) (read : readNode kind? (.object members) = some node) :
    node.toJson = normalised plainSpelling .node (.object members) := by
  rw [read_named_node kind? names members named] at read
  obtain ⟨kind, typed, known⟩ := Option.bind_eq_some_iff.mp read
  obtain ⟨_, -, headed⟩ := Option.bind_eq_some_iff.mp known
  obtain ⟨h, header, complete⟩ := Option.bind_eq_some_iff.mp headed
  obtain rfl := header_kind kind members h header
  have below : Slot.node.below? members = h.below? := by
    rw [Slot.below?, typed, Option.bind_some, header_below]
  have fields : Slot.node.known members =
      "type" :: (h.kind.attributes ++ if h.kind.isLeaf then [] else ["children"]) := by
    rw [Slot.known, typed]
    show "type" :: h.kind.fields = _
    rw [Kind.fields]
    split <;> simp
  have attributes : h.attributes = h.kind.attributes.map fun name =>
      (name, stated plainSpelling (normalisedChildren plainSpelling h.below? members) name) := by
    rw [header_attributes h.kind members h header]
    apply List.map_congr_left
    intro name own
    rw [stated_normalised _ _ _ _ (attribute_not_children h.kind name own)]
  have content := completed_content h members node complete (below ▸ each)
  have type : stated plainSpelling (normalisedChildren plainSpelling h.below? members) "type" =
      .string h.kind.name := by
    rw [stated_normalised _ _ _ _ (by decide)]
    exact type_stated members h.kind typed
  rw [node_json, Node.members, completed_header h members node complete, normalised, below, fields, List.map_cons,
    List.map_append, ← attributes, ← content, type]
  rfl

theorem form_normalises (slot : Slot) (json : Json) (form : InObjectForm slot json) : Normalises slot json := by
  induction form with
  | object slot members distinctNames named content ih =>
      intro kind? names value read
      cases slot with
      | node => exact node_normalised kind? names members named ih value read
      | root =>
          change Root.ofJson? (.object members) = some value at read
          rw [read_root_object] at read
          obtain ⟨_, -, content⟩ := Option.bind_eq_some_iff.mp read
          obtain ⟨nodes, found, rfl⟩ := Option.map_eq_some_iff.mp content
          rw [container_normalised .root .node members rfl rfl Kind.ofJson? (fun _ => rfl) (ih .node rfl) nodes found,
            Slot.write, Root.toJson, nodes_json]
      | row =>
          change readRow (.object members) = some value at read
          rw [read_row_object] at read
          obtain ⟨_, -, found⟩ := Option.bind_eq_some_iff.mp read
          rw [container_normalised .row .cell members rfl rfl kind? names (ih .cell rfl) value found, Slot.write,
            cells_json]
      | cell =>
          change readCell (.object members) = some value at read
          rw [read_cell_object] at read
          obtain ⟨_, -, found⟩ := Option.bind_eq_some_iff.mp read
          rw [container_normalised .cell .node members rfl rfl Kind.ofNestedJson? (fun _ => rfl) (ih .node rfl) value
            found, Slot.write, nodes_json]

theorem reading_keeps_known_fields :
    (∀ a b, Restated .root a b → Root.ofJson? a = Root.ofJson? b) ∧
      ∀ json root, InObjectForm .root json → Root.ofJson? json = some root →
        root.toJson = normalised plainSpelling .root json := by
  have names : ReadsNames Kind.ofJson? := fun _ => rfl
  constructor
  · intro a b restated
    exact restated_agrees .root a b restated Kind.ofJson? names
  · intro json root form read
    exact form_normalises .root json form Kind.ofJson? names root read

def looseTable : Json :=
  .object [("children", .array [.object [("type", .string "table"),
    ("children", .array [.object [("children", .array [])]])]])]

def shuffledTable : Json :=
  .object [("type", .string "root"), ("children", .array [.object [
    ("children", .array [.object [("position", .null), ("children", .array [])]]), ("type", .string "table")]])]

theorem table_shuffled : Restated .root looseTable shuffledTable := by
  have row : Restated .row (.object [("children", .array [])])
      (.object [("position", .null), ("children", .array [])]) :=
    .extended "position" .null (named_container _ _ (by decide)) (by decide)
  have swapped := Restated.permuted (named_node _ "table" rfl) (by decide)
    (List.Perm.swap ("children", .array [.object [("children", .array [])]]) ("type", .string "table") [])
  have table := swapped.trans (.inChild [] [("type", .string "table")] [] [] rfl row)
  have root : Restated .root looseTable _ := .inChild [] [] [] [] rfl table
  exact root.trans (.extended "type" (.string "root") (named_container _ _ (by decide)) (by decide))

theorem table_in_object_form : InObjectForm .root shuffledTable := by
  apply form_of_children .root .node _ _ (by decide) (named_container _ _ (by decide)) rfl rfl
  rw [List.forall_mem_singleton]
  apply form_of_children .node .row _ _ (by decide) (named_node _ "table" rfl) rfl rfl
  rw [List.forall_mem_singleton]
  exact form_of_children .row .cell _ [] (by decide) (named_container _ _ (by decide)) rfl rfl (List.forall_mem_nil _)

theorem shuffled_table_normalised :
    Restated .root looseTable shuffledTable ∧ Root.ofJson? looseTable = Root.ofJson? shuffledTable ∧
      InObjectForm .root shuffledTable ∧ Root.ofJson? shuffledTable = some ⟨[.table [] [[]]]⟩ ∧
      Root.toJson ⟨[.table [] [[]]]⟩ = normalised plainSpelling .root shuffledTable :=
  ⟨table_shuffled, reading_keeps_known_fields.1 _ _ table_shuffled, table_in_object_form, rfl,
    reading_keeps_known_fields.2 _ _ table_in_object_form rfl⟩

def asGiven (_ : String) (json : Json) : Json := json

def wordyReference : Json :=
  .object [("children", .array [.object [("type", .string "imageReference"), ("identifier", .string "a"),
    ("label", .null), ("referenceType", .object [("full", .null)]), ("alt", .null)]])]

theorem wordy_reference_in_object_form : InObjectForm .root wordyReference := by
  apply form_of_children .root .node _ _ (by decide) (named_container _ _ (by decide)) rfl rfl
  rw [List.forall_mem_singleton]
  refine .object .node _ (by decide) (named_node _ "imageReference" rfl) ?_
  intro inner inside
  cases inside

theorem given_values_not_kept :
    ¬ ∀ json root, InObjectForm .root json → Root.ofJson? json = some root →
      root.toJson = normalised asGiven .root json := by
  intro kept
  have read : Root.ofJson? wordyReference = some ⟨[.leaf (.imageReference "a" none .full none)]⟩ := rfl
  have same := kept wordyReference _ wordy_reference_in_object_form read
  cases same

end MarkdownLayout.Mdast
