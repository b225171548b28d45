import MarkdownLayout.Json.Record
import MarkdownLayout.Proofs.Dictionary

set_option autoImplicit false

namespace MarkdownLayout.Json

theorem lookup_beside (before after : Members) (changed name : String) (a b : Json) (other : name ≠ changed) :
    (before ++ (changed, a) :: after).lookup name = (before ++ (changed, b) :: after).lookup name := by
  rw [List.lookup_append, List.lookup_append, Dictionary.lookup_head, Dictionary.lookup_head, if_neg other,
    if_neg other]

def Single (names : List String) (members : Members) : Prop :=
  ∀ name ∈ names, (members.map Prod.fst).count name ≤ 1

theorem single_of_nodup (names : List String) (members : Members) (distinctNames : (members.map Prod.fst).Nodup) :
    Single names members := fun name _ => List.nodup_iff_count.mp distinctNames name

theorem distinct_iff (names : List String) (members same : Members) :
    distinct names members = some same ↔ same = members ∧ Single names members := by
  have counted : (names.all fun name => members.countP (fun member => member.1 == name) ≤ 1) = true ↔
      Single names members := by
    simp [Single, List.count, List.countP_map, Function.comp_def]
  rw [distinct]
  by_cases single : Single names members
  · rw [if_pos (counted.mpr single)]
    constructor
    · intro found
      exact ⟨(Option.some.inj found).symm, single⟩
    · rintro ⟨rfl, -⟩
      rfl
  · rw [if_neg (mt counted.mp single)]
    simp [single]

theorem distinct_agrees {β : Type} (names : List String) (a b : Members) (result : Option β)
    (counts : ∀ name ∈ names, (a.map Prod.fst).count name = (b.map Prod.fst).count name) :
    ((distinct names a).bind fun _ => result) = (distinct names b).bind fun _ => result := by
  have both : Single names a ↔ Single names b :=
    forall₂_congr fun name wanted => by rw [counts name wanted]
  apply Option.ext
  intro value
  simp [Option.bind_eq_some_iff, distinct_iff, both]

theorem each_read {α β : Type} (read : α → Option β) (items : List α) (values : List β)
    (all : items.mapM read = some values) : ∀ value ∈ values, ∃ item ∈ items, read item = some value := by
  induction items generalizing values with
  | nil =>
      obtain rfl := Option.some.inj all
      simp
  | cons item rest ih =>
      rw [List.mapM_cons] at all
      obtain ⟨first, readFirst, next⟩ := Option.bind_eq_some_iff.mp all
      obtain ⟨others, readRest, same⟩ := Option.bind_eq_some_iff.mp next
      obtain rfl := Option.some.inj same
      refine List.forall_mem_cons.mpr ⟨⟨item, List.mem_cons_self, readFirst⟩, fun value member => ?_⟩
      obtain ⟨other, held, same⟩ := ih others readRest value member
      exact ⟨other, List.mem_cons_of_mem item held, same⟩

theorem each_mapped {α β γ : Type} (read : α → Option β) (ofValue : β → γ) (ofItem : α → γ)
    (same : ∀ a b, read a = some b → ofValue b = ofItem a) (items : List α) (values : List β)
    (all : items.mapM read = some values) : values.map ofValue = items.map ofItem := by
  induction items generalizing values with
  | nil =>
      obtain rfl := Option.some.inj all
      rfl
  | cons item rest ih =>
      rw [List.mapM_cons] at all
      obtain ⟨first, readFirst, next⟩ := Option.bind_eq_some_iff.mp all
      obtain ⟨others, readRest, done⟩ := Option.bind_eq_some_iff.mp next
      obtain rfl := Option.some.inj done
      rw [List.map_cons, List.map_cons, same item first readFirst, ih others readRest]

theorem each_back {α β : Type} (read : α → Option β) (write : β → α) (values : List β)
    (back : ∀ value ∈ values, read (write value) = some value) : (values.map write).mapM read = some values := by
  induction values with
  | nil => rfl
  | cons value rest ih =>
      obtain ⟨first, later⟩ := List.forall_mem_cons.mp back
      rw [List.map_cons, List.mapM_cons, first, ih later]
      rfl

theorem or_else_holds {α : Type} (property : α → Prop) (default : α) (read : Json → Option α) (name : String)
    (members : Members) (a : α) (ofDefault : property default) (ofRead : ∀ json a, read json = some a → property a)
    (found : orElse default read name members = some a) : property a := by
  rw [orElse] at found
  cases given : members.lookup name with
  | none =>
      rw [given] at found
      exact Option.some.inj found ▸ ofDefault
  | some json =>
      rw [given] at found
      exact ofRead json a found

theorem nullable_given {α : Type} (read : Json → Option α) (json : Json) (given : json ≠ .null) :
    nullable read json = (read json).map some := by
  cases json <;> first | rfl | exact absurd rfl given

theorem nullable_holds {α : Type} (property : α → Prop) (read : Json → Option α)
    (ofRead : ∀ json a, read json = some a → property a) (json : Json) (value : Option α)
    (found : nullable read json = some value) : ∀ a ∈ value, property a := by
  intro a held
  obtain rfl : value = some a := held
  by_cases null : json = .null
  · subst null
    cases found
  · rw [nullable_given read json null] at found
    obtain ⟨b, readHere, same⟩ := Option.map_eq_some_iff.mp found
    obtain rfl := Option.some.inj same
    exact ofRead json b readHere

theorem dictionary_all {α : Type} (property : α → Prop) (read : Json → Option α)
    (holds : ∀ json a, read json = some a → property a) (json : Json) (d : Dictionary α)
    (found : json.dictionary? read = some d) : d.All property := by
  cases json with
  | object members =>
      obtain ⟨entries, each, same⟩ := Option.bind_eq_some_iff.mp found
      obtain rfl := Option.some.inj same
      refine Dictionary.all_of_list property entries fun entry member => ?_
      obtain ⟨⟨name, json⟩, -, readHere⟩ := each_read _ members entries each entry member
      obtain ⟨a, readValue, rfl⟩ := Option.map_eq_some_iff.mp readHere
      exact holds json a readValue
  | _ => cases found

end MarkdownLayout.Json
