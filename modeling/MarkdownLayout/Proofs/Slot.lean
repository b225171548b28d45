import MarkdownLayout.Proofs.TreeReading

set_option autoImplicit false

namespace MarkdownLayout.Mdast

open Json

inductive Slot where
  | root
  | node
  | row
  | cell
  deriving DecidableEq

def Kind.below? (kind : Kind) : Option Slot :=
  match kind with
  | .table => some .row
  | .tableRow => some .cell
  | _ => if kind.isLeaf then none else some .node

namespace Slot

abbrev Value : Slot → Type
  | .root => Root
  | .node => Node
  | .row => Row
  | .cell => Cell

def read? (kind? : Json → Option Kind) : (slot : Slot) → Json → Option slot.Value
  | .root => Root.ofJson?
  | .node => readNode kind?
  | .row => readRow
  | .cell => readCell

def write : (slot : Slot) → slot.Value → Json
  | .root, document => document.toJson
  | .node, tree => tree.toJson
  | .row, cells => .object [("children", .array (cellsJson cells))]
  | .cell, nodes => .object [("children", .array (nodesJson nodes))]

def kind? (slot : Slot) (members : Members) : Option Kind :=
  match slot with
  | .node => (members.lookup "type").bind Kind.ofJson?
  | _ => none

def known (slot : Slot) (members : Members) : List String :=
  match slot with
  | .node => "type" :: (slot.kind? members).elim [] Kind.fields
  | _ => ["children"]

def below? (slot : Slot) (members : Members) : Option Slot :=
  match slot with
  | .root | .cell => some .node
  | .row => some .cell
  | .node => (slot.kind? members).bind Kind.below?

def Named (slot : Slot) (members : Members) : Prop :=
  slot = .node → ∀ json, members.lookup "type" = some json → ∃ name, json = .string name

end Slot

-- Two objects in one slot that differ at most in fields that the slot does not know, and in the
-- spelling of children that are read alike.
structure Consistent (slot : Slot) (a b : Members) : Prop where
  named : slot.Named a
  counts : ∀ name ∈ slot.known a, (a.map Prod.fst).count name = (b.map Prod.fst).count name
  attributes : ∀ name ∈ slot.known a, name ≠ "children" → a.lookup name = b.lookup name
  content : ∀ inner, slot.below? a = some inner → ∀ kind?, ReadsNames kind? →
    contentOf (inner.read? kind?) a = contentOf (inner.read? kind?) b

def Header.below? : Header → Option Slot
  | .leaf _ => none
  | .parent _ => some .node
  | .table _ => some .row
  | .tableRow => some .cell

theorem header_below (h : Header) : h.kind.below? = h.below? := by
  cases h with
  | leaf l => cases l <;> rfl
  | parent p =>
      cases p with
      | mark m => cases m <;> rfl
      | _ => rfl
  | table align => rfl
  | tableRow => rfl

theorem complete_agrees (h : Header) (a b : Members)
    (content : ∀ inner, h.below? = some inner → ∀ kind?, ReadsNames kind? →
      contentOf (inner.read? kind?) a = contentOf (inner.read? kind?) b) : h.complete? a = h.complete? b := by
  have nested : ReadsNames Kind.ofNestedJson? := fun _ => rfl
  cases h with
  | leaf l => rfl
  | parent p => exact congrArg (Option.map (Node.parent p)) (content .node rfl _ nested)
  | table align => exact congrArg (Option.map (Node.table align)) (content .row rfl _ nested)
  | tableRow => exact congrArg (Option.map Node.tableRow) (content .cell rfl _ nested)

theorem attribute_not_children (kind : Kind) (name : String) (own : name ∈ kind.attributes) :
    name ≠ "children" := by
  rintro rfl
  revert own
  cases kind <;> decide

theorem attributes_known (kind : Kind) (name : String) (own : name ∈ kind.attributes) : name ∈ kind.fields := by
  rw [Kind.fields]
  split
  · exact own
  · exact List.mem_append_left _ own

theorem read_named_node (kind? : Json → Option Kind) (names : ReadsNames kind?) (members : Members)
    (named : Slot.node.Named members) :
    readNode kind? (.object members) =
      (Slot.node.kind? members).bind fun kind => (distinct ("type" :: kind.fields) members).bind fun _ =>
        (kind.header? members).bind fun h => h.complete? members := by
  have typed : required kind? "type" members = Slot.node.kind? members := by
    rw [required, Slot.kind?]
    cases given : members.lookup "type" with
    | none => rfl
    | some json =>
        obtain ⟨name, rfl⟩ := named rfl json given
        exact names name
  rw [read_node_object, kindOf?, typed]
  cases Slot.node.kind? members with
  | none => rfl
  | some kind => cases found : distinct ("type" :: kind.fields) members <;> simp [found]

theorem node_agrees (kind? : Json → Option Kind) (names : ReadsNames kind?) (a b : Members)
    (same : Consistent .node a b) : readNode kind? (.object a) = readNode kind? (.object b) := by
  have typed : a.lookup "type" = b.lookup "type" := same.attributes "type" List.mem_cons_self (by decide)
  have namedOther : Slot.node.Named b := fun isNode json given => same.named isNode json (typed.trans given)
  have kinds : Slot.node.kind? b = Slot.node.kind? a := by rw [Slot.kind?, Slot.kind?, typed]
  rw [read_named_node kind? names a same.named, read_named_node kind? names b namedOther, kinds]
  cases ofA : Slot.node.kind? a with
  | none => rfl
  | some kind =>
      have known : Slot.node.known a = "type" :: kind.fields := by rw [Slot.known, ofA]; rfl
      have below : Slot.node.below? a = kind.below? := by rw [Slot.below?, ofA]; rfl
      have headers : kind.header? b = kind.header? a := by
        apply header_agrees
        intro name own
        have isKnown : name ∈ Slot.node.known a := known ▸ List.mem_cons_of_mem _ (attributes_known kind name own)
        exact (same.attributes name isKnown (attribute_not_children kind name own)).symm
      have completed : (kind.header? a).bind (·.complete? a) = (kind.header? a).bind (·.complete? b) := by
        cases read : kind.header? a with
        | none => rfl
        | some h =>
            apply complete_agrees
            intro inner inside
            apply same.content inner
            rw [below, ← header_kind kind a h read, header_below, inside]
      show (distinct _ a).bind _ = (distinct _ b).bind _
      rw [headers, completed]
      exact distinct_agrees _ a b _ (known ▸ same.counts)

theorem object_agrees (slot : Slot) (kind? : Json → Option Kind) (names : ReadsNames kind?) (a b : Members)
    (same : Consistent slot a b) : slot.read? kind? (.object a) = slot.read? kind? (.object b) := by
  cases slot with
  | node => exact node_agrees kind? names a b same
  | root =>
      have content : contentOf Node.ofJson? a = contentOf Node.ofJson? b :=
        same.content .node rfl Kind.ofJson? fun _ => rfl
      show Root.ofJson? (.object a) = Root.ofJson? (.object b)
      rw [read_root_object, read_root_object, content]
      exact distinct_agrees ["children"] a b _ same.counts
  | row =>
      have content : contentOf readCell a = contentOf readCell b := same.content .cell rfl kind? names
      show readRow (.object a) = readRow (.object b)
      rw [read_row_object, read_row_object, content]
      exact distinct_agrees ["children"] a b _ same.counts
  | cell =>
      have content : contentOf (readNode Kind.ofNestedJson?) a = contentOf (readNode Kind.ofNestedJson?) b :=
        same.content .node rfl Kind.ofNestedJson? fun _ => rfl
      show readCell (.object a) = readCell (.object b)
      rw [read_cell_object, read_cell_object, content]
      exact distinct_agrees ["children"] a b _ same.counts

end MarkdownLayout.Mdast
