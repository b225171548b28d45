import MarkdownLayout.Json.Printer
import MarkdownLayout.Proofs.Dictionary

set_option autoImplicit false

namespace MarkdownLayout.Json

theorem ordered_members_map (members : Members) :
    orderedMembers members = members.map fun member => (member.1, member.2.ordered) := by
  induction members with
  | nil => rfl
  | cons member rest ih => rw [orderedMembers, ih, List.map_cons]

theorem ordered_object (members : Members) :
    (Json.object members).ordered = .object ((Dictionary.ofList members).map ordered).entries := by
  rw [ordered, ordered_members_map, Dictionary.of_list_mapped]

def InOrder (json : Json) : Prop := json.ordered = json

theorem ordered_entries (d : Dictionary Json) (all : d.All InOrder) :
    (Dictionary.ofList (orderedMembers d.entries)) = d := by
  have same : orderedMembers d.entries = d.entries := by
    rw [ordered_members_map]
    refine (List.map_congr_left fun member held => ?_).trans (List.map_id _)
    exact Prod.ext rfl (all member held)
  rw [same, Dictionary.of_list_entries]

mutual
theorem ordered_in_order (json : Json) : json.ordered.InOrder := by
  cases json with
  | array items => rw [InOrder, ordered, ordered, ordered_items_in_order]
  | object members =>
      have all := Dictionary.all_of_list InOrder _ (ordered_members_in_order members)
      rw [InOrder, ordered, ordered, ordered_entries _ all]
  | _ => rfl
theorem ordered_items_in_order (items : List Json) : orderedItems (orderedItems items) = orderedItems items := by
  cases items with
  | nil => rfl
  | cons json rest =>
      have first : json.ordered.ordered = json.ordered := ordered_in_order json
      rw [orderedItems, orderedItems, first, ordered_items_in_order rest]
theorem ordered_members_in_order (members : Members) : ∀ member ∈ orderedMembers members, member.2.InOrder := by
  cases members with
  | nil => simp [orderedMembers]
  | cons member rest =>
      exact List.forall_mem_cons.mpr ⟨ordered_in_order member.2, ordered_members_in_order rest⟩
end

mutual
def written : Json → Json
  | .number (.float x) => if x.isFinite then .number (.float x) else .null
  | .array items => .array (writtenItems items)
  | .object members => .object (writtenMembers members)
  | json => json
def writtenItems : List Json → List Json
  | [] => []
  | json :: rest => written json :: writtenItems rest
def writtenMembers : Members → Members
  | [] => []
  | (name, json) :: rest => (name, written json) :: writtenMembers rest
end

theorem written_members_map (members : Members) :
    writtenMembers members = members.map fun member => (member.1, member.2.written) := by
  induction members with
  | nil => rfl
  | cons member rest ih => rw [writtenMembers, ih, List.map_cons]

mutual
def floats : Json → List Float
  | .number (.float x) => [x]
  | .array items => itemFloats items
  | .object members => memberFloats members
  | _ => []
def itemFloats : List Json → List Float
  | [] => []
  | json :: rest => floats json ++ itemFloats rest
def memberFloats : Members → List Float
  | [] => []
  | (_, json) :: rest => floats json ++ memberFloats rest
end

mutual
theorem written_print (json : Json) : json.written.print = json.print := by
  match json with
  | .number (.float x) =>
      by_cases finite : x.isFinite
      · rw [written, if_pos finite]
      · rw [written, if_neg finite]
        simp [print, printScalar, Number.print, DecimalLayout.text?, finite]
  | .array [] | .object [] => rfl
  | .array (json :: rest) =>
      rw [written, writtenItems, print, print, written_print json, written_items_print rest]
  | .object ((name, json) :: rest) =>
      rw [written, writtenMembers, print, print, written_print json, written_members_print rest]
  | .null | .bool _ | .number (.int _) | .string _ => rfl
theorem written_items_print (items : List Json) : printItems (writtenItems items) = printItems items := by
  match items with
  | [] => rfl
  | json :: rest => rw [writtenItems, printItems, printItems, written_print json, written_items_print rest]
theorem written_members_print (members : Members) : printMembers (writtenMembers members) = printMembers members := by
  match members with
  | [] => rfl
  | (name, json) :: rest =>
      rw [writtenMembers, printMembers, printMembers, written_print json, written_members_print rest]
end

mutual
theorem written_finite (json : Json) (finite : ∀ x ∈ json.floats, x.isFinite) : json.written = json := by
  match json with
  | .number (.float x) => rw [written, if_pos (finite x (by simp [floats]))]
  | .array items => rw [written, written_items_finite items finite]
  | .object members => rw [written, written_members_finite members finite]
  | .null | .bool _ | .number (.int _) | .string _ => rfl
theorem written_items_finite (items : List Json) (finite : ∀ x ∈ itemFloats items, x.isFinite) :
    writtenItems items = items := by
  match items with
  | [] => rfl
  | json :: rest =>
      obtain ⟨first, later⟩ := List.forall_mem_append.mp finite
      rw [writtenItems, written_finite json first, written_items_finite rest later]
theorem written_members_finite (members : Members) (finite : ∀ x ∈ memberFloats members, x.isFinite) :
    writtenMembers members = members := by
  match members with
  | [] => rfl
  | (name, json) :: rest =>
      obtain ⟨first, later⟩ := List.forall_mem_append.mp finite
      rw [writtenMembers, written_finite json first, written_members_finite rest later]
end

end MarkdownLayout.Json
