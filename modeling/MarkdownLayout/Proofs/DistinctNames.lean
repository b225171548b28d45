import MarkdownLayout.Json.Basic
import MarkdownLayout.Proofs.Dictionary
import MarkdownLayout.Style.Basic

set_option autoImplicit false

namespace MarkdownLayout.Json

mutual
def objects : Json → List Members
  | .array items => itemObjects items
  | .object members => members :: memberObjects members
  | _ => []
def itemObjects : List Json → List Members
  | [] => []
  | json :: rest => objects json ++ itemObjects rest
def memberObjects : Members → List Members
  | [] => []
  | (_, json) :: rest => objects json ++ memberObjects rest
end

def Ambiguous (json : Json) : Prop := ∃ members ∈ json.objects, ¬ (members.map Prod.fst).Nodup

def Clear (json : Json) : Prop := ∀ members ∈ json.objects, (members.map Prod.fst).Nodup

theorem ambiguous_iff (json : Json) : json.Ambiguous ↔ ¬ json.Clear := by simp [Ambiguous, Clear]

theorem item_objects_flat (items : List Json) : itemObjects items = items.flatMap objects := by
  induction items with
  | nil => rfl
  | cons json rest ih => rw [itemObjects, ih, List.flatMap_cons]

theorem member_objects_flat (members : Members) :
    memberObjects members = members.flatMap fun member => member.2.objects := by
  induction members with
  | nil => rfl
  | cons member rest ih => rw [memberObjects, ih, List.flatMap_cons]

@[simp]
theorem clear_null : Clear .null := by simp [Clear, objects]

@[simp]
theorem clear_bool (value : Bool) : Clear (.bool value) := by simp [Clear, objects]

@[simp]
theorem clear_number (value : Number) : Clear (.number value) := by simp [Clear, objects]

@[simp]
theorem clear_int (value : Int) : Clear (.int value) := clear_number (.int value)

@[simp]
theorem clear_float (value : Float) : Clear (.float value) := clear_number (.float value)

@[simp]
theorem clear_string (value : String) : Clear (.string value) := by simp [Clear, objects]

@[simp]
theorem clear_array (items : List Json) : Clear (.array items) ↔ ∀ item ∈ items, item.Clear := by
  simp only [Clear, objects, item_objects_flat, List.mem_flatMap]
  constructor
  · intro all item member members inside
    exact all members ⟨item, member, inside⟩
  · rintro all members ⟨item, member, inside⟩
    exact all item member members inside

@[simp]
theorem clear_object (members : Members) :
    Clear (.object members) ↔ (members.map Prod.fst).Nodup ∧ ∀ member ∈ members, member.2.Clear := by
  simp only [Clear, objects, member_objects_flat, List.mem_cons, List.mem_flatMap]
  constructor
  · intro all
    exact ⟨all members (.inl rfl), fun member held inner inside => all inner (.inr ⟨member, held, inside⟩)⟩
  · rintro ⟨distinctNames, all⟩ inner (rfl | ⟨member, held, inside⟩)
    · exact distinctNames
    · exact all member held inner inside

mutual
theorem ordered_clear (json : Json) : (ordered json).Clear := by
  cases json with
  | array items => exact (clear_array _).mpr (ordered_items_clear items)
  | object members =>
      have values := Dictionary.all_of_list Clear (orderedMembers members) (ordered_members_clear members)
      exact (clear_object _).mpr ⟨Dictionary.keys_distinct _, values⟩
  | _ => simp [ordered]
theorem ordered_items_clear (items : List Json) : ∀ item ∈ orderedItems items, item.Clear := by
  cases items with
  | nil => simp [orderedItems]
  | cons json rest => exact List.forall_mem_cons.mpr ⟨ordered_clear json, ordered_items_clear rest⟩
theorem ordered_members_clear (members : Members) : ∀ member ∈ orderedMembers members, member.2.Clear := by
  cases members with
  | nil => simp [orderedMembers]
  | cons member rest => exact List.forall_mem_cons.mpr ⟨ordered_clear member.2, ordered_members_clear rest⟩
end

theorem ordered_names (members : Members) : (orderedMembers members).map Prod.fst = members.map Prod.fst := by
  induction members with
  | nil => rfl
  | cons member rest ih => rw [orderedMembers, List.map_cons, List.map_cons, ih]

structure Within (names : List String) (members : Members) : Prop where
  placed : (members.map Prod.fst).Sublist names
  clear : ∀ member ∈ members, member.2.Clear

namespace Within

variable {names others : List String} {members more : Members}

theorem empty : Within [] [] := ⟨.slnil, by simp⟩

theorem append (within : Within names members) (after : Within others more) :
    Within (names ++ others) (members ++ more) where
  placed := by
    rw [List.map_append]
    exact within.placed.append after.placed
  clear := List.forall_mem_append.mpr ⟨within.clear, after.clear⟩

theorem member (name : String) (json : Json) (clear : json.Clear) (after : Within names more) :
    Within (name :: names) ((name, json) :: more) where
  placed := after.placed.cons_cons name
  clear := List.forall_mem_cons.mpr ⟨clear, after.clear⟩

theorem property {α : Type} (name : String) (json : α → Json) (value : Option α)
    (clear : ∀ a ∈ value, (json a).Clear) (after : Within names more) :
    Within (name :: names) (Style.property name json value ++ more) := by
  cases value with
  | none => exact ⟨after.placed.cons name, after.clear⟩
  | some a => exact .member name (json a) (clear a rfl) after

theorem single {α : Type} (name : String) (json : α → Json) (value : Option α)
    (clear : ∀ a ∈ value, (json a).Clear) :
    Within [name] (Style.property name json value) := by
  simpa using property name json value clear .empty

theorem object (known : List String) (members : Members) (within : Within known members)
    (distinctNames : known.Nodup) : Clear (.object members) :=
  (clear_object members).mpr ⟨distinctNames.sublist within.placed, within.clear⟩

end Within

end MarkdownLayout.Json
