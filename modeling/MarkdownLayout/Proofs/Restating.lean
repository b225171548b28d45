import MarkdownLayout.Proofs.Slot

set_option autoImplicit false

namespace MarkdownLayout.Mdast

open Json

inductive Restated : Slot → Json → Json → Prop where
  | refl (slot : Slot) (json : Json) : Restated slot json json
  | symm {slot : Slot} {a b : Json} (same : Restated slot a b) : Restated slot b a
  | trans {slot : Slot} {a b c : Json} (first : Restated slot a b) (next : Restated slot b c) : Restated slot a c
  | permuted {slot : Slot} {a b : Members} (named : slot.Named a) (distinctNames : (a.map Prod.fst).Nodup)
      (reordered : a.Perm b) : Restated slot (.object a) (.object b)
  | extended {slot : Slot} {members : Members} (name : String) (json : Json) (named : slot.Named members)
      (unknown : name ∉ slot.known members) : Restated slot (.object members) (.object ((name, json) :: members))
  | inChild {slot inner : Slot} {a b : Json} (before after : Members) (left right : List Json)
      (inside : slot.below? (before ++ ("children", .array (left ++ a :: right)) :: after) = some inner)
      (same : Restated inner a b) :
      Restated slot (.object (before ++ ("children", .array (left ++ a :: right)) :: after))
        (.object (before ++ ("children", .array (left ++ b :: right)) :: after))

theorem content_agrees {α : Type} (read : Json → Option α) (a b : Members)
    (same : a.lookup "children" = b.lookup "children") : contentOf read a = contentOf read b := by
  rw [contentOf, contentOf, required, required, same]

theorem consistent_permuted (slot : Slot) (a b : Members) (named : slot.Named a)
    (distinctNames : (a.map Prod.fst).Nodup) (reordered : a.Perm b) : Consistent slot a b where
  named := named
  counts := fun name _ => (reordered.map Prod.fst).count_eq name
  attributes := fun name _ _ => Dictionary.lookup_permuted a b distinctNames reordered name
  content := fun _ _ _ _ => content_agrees _ a b (Dictionary.lookup_permuted a b distinctNames reordered "children")

theorem below_children (slot : Slot) (members : Members) (inner : Slot) (inside : slot.below? members = some inner) :
    "children" ∈ slot.known members := by
  cases slot with
  | node =>
      obtain ⟨kind, typed, below⟩ := Option.bind_eq_some_iff.mp inside
      have content : "children" ∈ kind.fields := by
        revert below
        cases kind <;> simp [Kind.below?, Kind.isLeaf, Kind.fields]
      rw [Slot.known, typed]
      exact List.mem_cons_of_mem _ content
  | _ => exact List.mem_singleton_self _

theorem below_named (slot : Slot) (members : Members) (inner : Slot) (inside : slot.below? members = some inner) :
    slot.Named members := by
  rintro rfl json given
  obtain ⟨kind, typed, -⟩ := Option.bind_eq_some_iff.mp inside
  rw [Slot.kind?, given, Option.bind_some] at typed
  cases json with
  | string name => exact ⟨name, rfl⟩
  | _ => cases typed

theorem consistent_extended (slot : Slot) (members : Members) (name : String) (json : Json)
    (named : slot.Named members) (unknown : name ∉ slot.known members) :
    Consistent slot members ((name, json) :: members) where
  named := named
  counts := by
    intro other known
    have different : name ≠ other := fun same => unknown (same ▸ known)
    rw [List.map_cons, List.count_cons_of_ne different]
  attributes := by
    intro other known _
    have different : other ≠ name := fun same => unknown (same ▸ known)
    rw [Dictionary.lookup_head, if_neg different]
  content := by
    intro inner inside kind? names
    have different : "children" ≠ name := fun same => unknown (same ▸ below_children slot members inner inside)
    apply content_agrees
    rw [Dictionary.lookup_head, if_neg different]

theorem content_beside {α : Type} (read : Json → Option α) (before after : Members) (left right : List Json)
    (a b : Json) (same : read a = read b) :
    contentOf read (before ++ ("children", .array (left ++ a :: right)) :: after) =
      contentOf read (before ++ ("children", .array (left ++ b :: right)) :: after) := by
  have items : (left ++ a :: right).mapM read = (left ++ b :: right).mapM read := by
    rw [List.mapM_append, List.mapM_append, List.mapM_cons, List.mapM_cons, same]
  rw [contentOf, contentOf, required, required, List.lookup_append, List.lookup_append, Dictionary.lookup_head,
    Dictionary.lookup_head, if_pos rfl, if_pos rfl]
  cases before.lookup "children" with
  | none => exact items
  | some json => rfl

theorem consistent_beside (slot inner : Slot) (before after : Members) (left right : List Json) (a b : Json)
    (inside : slot.below? (before ++ ("children", .array (left ++ a :: right)) :: after) = some inner)
    (same : ∀ kind?, ReadsNames kind? → inner.read? kind? a = inner.read? kind? b) :
    Consistent slot (before ++ ("children", .array (left ++ a :: right)) :: after)
      (before ++ ("children", .array (left ++ b :: right)) :: after) where
  named := below_named slot _ inner inside
  counts := by
    intro name _
    simp only [List.map_append, List.map_cons]
  attributes := fun name _ other => lookup_beside before after "children" name _ _ other
  content := by
    intro other otherInside kind? names
    obtain rfl : inner = other := Option.some.inj (inside.symm.trans otherInside)
    exact content_beside _ before after left right a b (same kind? names)

theorem restated_agrees (slot : Slot) (a b : Json) (restated : Restated slot a b) :
    ∀ kind?, ReadsNames kind? → slot.read? kind? a = slot.read? kind? b := by
  induction restated with
  | refl slot json =>
      intro kind? names
      rfl
  | symm same ih =>
      intro kind? names
      exact (ih kind? names).symm
  | trans first next ih ihNext =>
      intro kind? names
      exact (ih kind? names).trans (ihNext kind? names)
  | permuted named distinctNames reordered =>
      intro kind? names
      exact object_agrees _ kind? names _ _ (consistent_permuted _ _ _ named distinctNames reordered)
  | extended name json named unknown =>
      intro kind? names
      exact object_agrees _ kind? names _ _ (consistent_extended _ _ name json named unknown)
  | inChild before after left right inside same ih =>
      intro kind? names
      exact object_agrees _ kind? names _ _ (consistent_beside _ _ before after left right _ _ inside ih)

end MarkdownLayout.Mdast
