import MarkdownLayout.Dictionary

set_option autoImplicit false

namespace MarkdownLayout.Dictionary

variable {α : Type}

theorem lookup_head (name query : String) (value : α) (rest : List (String × α)) :
    ((name, value) :: rest).lookup query = if query = name then some value else rest.lookup query := by
  by_cases hit : query = name
  · simp [hit]
  · simp [List.lookup_cons, hit, beq_eq_false_iff_ne.mpr hit]

theorem lookup_iff (entries : List (String × α)) (distinctNames : (entries.map Prod.fst).Nodup) (name : String)
    (value : α) : entries.lookup name = some value ↔ (name, value) ∈ entries := by
  induction entries with
  | nil => simp
  | cons entry rest ih =>
      obtain ⟨other, first⟩ := entry
      obtain ⟨new, distinctRest⟩ := List.nodup_cons.mp distinctNames
      rw [lookup_head, List.mem_cons]
      by_cases hit : name = other
      · subst hit
        have notLater : (name, value) ∉ rest := by
          intro later
          exact new (List.mem_map.mpr ⟨(name, value), later, rfl⟩)
        simp [notLater, eq_comm]
      · simp [hit, ih distinctRest]

theorem lookup_permuted (a b : List (String × α)) (distinctNames : (a.map Prod.fst).Nodup) (reordered : a.Perm b)
    (name : String) : a.lookup name = b.lookup name := by
  have distinctOther : (b.map Prod.fst).Nodup := (reordered.map Prod.fst).nodup_iff.mp distinctNames
  apply Option.ext
  intro value
  rw [lookup_iff a distinctNames, lookup_iff b distinctOther, reordered.mem_iff]

theorem lookup_absent (entries : List (String × α)) (name : String) (absent : name ∉ entries.map Prod.fst) :
    entries.lookup name = none := by
  refine List.lookup_eq_none_iff.mpr fun entry member => bne_iff_ne.mpr ?_
  rintro rfl
  exact absent (List.mem_map_of_mem member)

-- The order of the entries plays no part here: a shadowed entry of the same name would do no harm.
theorem lookup_insert_entry (name query : String) (value : α) (entries : List (String × α)) :
    (insertEntry name value entries).lookup query =
      if query = name then some value else entries.lookup query := by
  induction entries with
  | nil => rw [insertEntry, lookup_head]
  | cons head rest ih =>
      obtain ⟨other, old⟩ := head
      by_cases before : name < other
      · rw [insertEntry, if_pos before, lookup_head]
      · by_cases same : name = other
        · subst same
          rw [insertEntry, if_neg before, if_pos rfl, lookup_head, lookup_head]
          split <;> rfl
        · rw [insertEntry, if_neg before, if_neg same, lookup_head, lookup_head, ih]
          by_cases hit : query = other
          · have different : query ≠ name := fun atName => same (atName.symm.trans hit)
            rw [if_pos hit, if_neg different, if_pos hit]
          · rw [if_neg hit, if_neg hit]

@[simp]
theorem get_empty (query : String) : (empty : Dictionary α).get? query = none := rfl

theorem get_insert (d : Dictionary α) (name query : String) (value : α) :
    (d.insert name value).get? query = if query = name then some value else d.get? query :=
  lookup_insert_entry name query value d.entries

theorem mem_keys (d : Dictionary α) (query : String) : query ∈ d.keys ↔ (d.get? query).isSome := by
  rw [get?, List.lookup_isSome_iff, keys, List.mem_map]
  constructor
  · rintro ⟨entry, member, rfl⟩
    exact ⟨entry, member, beq_self_eq_true _⟩
  · rintro ⟨entry, member, hit⟩
    exact ⟨entry, member, (beq_iff_eq.mp hit).symm⟩

theorem keys_distinct (d : Dictionary α) : d.keys.Nodup := by
  rw [keys, List.Nodup, List.pairwise_map]
  refine d.ascending.imp fun {a b} before same => ?_
  rw [same] at before
  exact String.lt_irrefl _ before

theorem get_iff (d : Dictionary α) (name : String) (value : α) :
    d.get? name = some value ↔ (name, value) ∈ d.entries :=
  lookup_iff d.entries d.keys_distinct name value

-- The ascending order leaves no choice: what is found under each name fixes the entries.
theorem get_ext (a b : Dictionary α) (same : ∀ name, a.get? name = b.get? name) : a = b := by
  have members (entry : String × α) : entry ∈ a.entries ↔ entry ∈ b.entries := by
    rw [← get_iff, ← get_iff, same]
  have distinct (d : Dictionary α) : d.entries.Nodup := by
    refine d.ascending.imp fun {a b} before same => ?_
    rw [same] at before
    exact String.lt_irrefl _ before
  have reordered := (List.perm_ext_iff_of_nodup (distinct a) (distinct b)).mpr members
  have entries : a.entries = b.entries :=
    reordered.eq_of_pairwise (fun _ _ _ _ before after => absurd after (String.lt_asymm before)) a.ascending b.ascending
  cases a
  cases b
  simpa using entries

theorem insert_again (d : Dictionary α) (name : String) (old value : α) :
    (d.insert name old).insert name value = d.insert name value := by
  apply get_ext
  intro query
  rw [get_insert, get_insert, get_insert]
  by_cases hit : query = name
  · rw [if_pos hit, if_pos hit]
  · rw [if_neg hit, if_neg hit, if_neg hit]

theorem keys_insert (d : Dictionary α) (name query : String) (value : α) :
    query ∈ (d.insert name value).keys ↔ query = name ∨ query ∈ d.keys := by
  rw [mem_keys, mem_keys, get_insert]
  by_cases hit : query = name <;> simp [hit]

theorem keys_inserted (value : Dictionary α → String × α → α) (entries : List (String × α)) (d : Dictionary α)
    (query : String) :
    query ∈ (entries.foldl (fun out entry => out.insert entry.1 (value out entry)) d).keys ↔
      query ∈ entries.map Prod.fst ∨ query ∈ d.keys := by
  induction entries generalizing d with
  | nil => simp
  | cons entry rest ih =>
      rw [List.foldl_cons, ih, keys_insert, List.map_cons, List.mem_cons]
      grind

theorem keys_of_list (entries : List (String × α)) (query : String) :
    query ∈ (ofList entries).keys ↔ query ∈ entries.map Prod.fst := by
  have none : query ∉ (empty : Dictionary α).keys := by simp [mem_keys]
  exact (keys_inserted (fun _ entry => entry.2) entries empty query).trans (or_iff_left none)

theorem keys_merge (combine : α → α → α) (d overlay : Dictionary α) (query : String) :
    query ∈ (d.merge combine overlay).keys ↔ query ∈ overlay.keys ∨ query ∈ d.keys :=
  keys_inserted _ overlay.entries d query

theorem get_inserted (entries : List (String × α)) (d : Dictionary α) (query : String) :
    (entries.foldl (fun out entry => out.insert entry.1 entry.2) d).get? query =
      (entries.reverse.lookup query).or (d.get? query) := by
  induction entries generalizing d with
  | nil => rfl
  | cons entry rest ih =>
      rw [List.foldl_cons, ih, get_insert, List.reverse_cons, List.lookup_append, Option.or_assoc, lookup_head]
      by_cases hit : query = entry.1
      · rw [if_pos hit, if_pos hit, Option.some_or]
      · rw [if_neg hit, if_neg hit, List.lookup_nil, Option.none_or]

theorem get_of_list (entries : List (String × α)) (query : String) :
    (ofList entries).get? query = entries.reverse.lookup query :=
  (get_inserted entries empty query).trans Option.or_none

theorem get_of_single (entries : List (String × α)) (query : String)
    (single : (entries.map Prod.fst).count query ≤ 1) : (ofList entries).get? query = entries.lookup query := by
  rw [get_of_list]
  induction entries with
  | nil => rfl
  | cons entry rest ih =>
      obtain ⟨name, value⟩ := entry
      rw [List.map_cons, List.count_cons] at single
      rw [List.reverse_cons, List.lookup_append, lookup_head, lookup_head]
      by_cases hit : query = name
      · subst hit
        have absent : query ∉ rest.reverse.map Prod.fst := by
          rw [List.map_reverse, List.mem_reverse, ← List.count_eq_zero]
          rw [beq_self_eq_true, if_pos rfl] at single
          omega
        rw [lookup_absent _ _ absent, if_pos rfl, if_pos rfl, Option.none_or]
      · have later : (rest.map Prod.fst).count query ≤ 1 := Nat.le_of_add_right_le single
        rw [ih later, if_neg hit, if_neg hit, List.lookup_nil, Option.or_none]

theorem of_list_entries (d : Dictionary α) : ofList d.entries = d :=
  get_ext _ _ fun name => get_of_single d.entries name (List.nodup_iff_count.mp d.keys_distinct name)

theorem lookup_mapped {β : Type} (f : α → β) (entries : List (String × α)) (query : String) :
    (entries.map fun entry => (entry.1, f entry.2)).lookup query = (entries.lookup query).map f := by
  induction entries with
  | nil => rfl
  | cons entry rest ih =>
      rw [List.map_cons, lookup_head, ih, lookup_head]
      by_cases hit : query = entry.1
      · rw [if_pos hit, if_pos hit, Option.map_some]
      · rw [if_neg hit, if_neg hit]

theorem get_map {β : Type} (f : α → β) (d : Dictionary α) (query : String) :
    (d.map f).get? query = (d.get? query).map f :=
  lookup_mapped f d.entries query

theorem of_list_mapped {β : Type} (f : α → β) (entries : List (String × α)) :
    ofList (entries.map fun entry => (entry.1, f entry.2)) = (ofList entries).map f := by
  apply get_ext
  intro name
  rw [get_of_list, ← List.map_reverse, lookup_mapped, get_map, get_of_list]

theorem lookup_filter (keep : String → Bool) (entries : List (String × α)) (query : String) (kept : keep query = true) :
    (entries.filter fun entry => keep entry.1).lookup query = entries.lookup query := by
  induction entries with
  | nil => rfl
  | cons entry rest ih =>
      rw [lookup_head]
      by_cases hit : query = entry.1
      · rw [List.filter_cons_of_pos (hit ▸ kept), lookup_head, if_pos hit, if_pos hit]
      · rw [if_neg hit, ← ih, List.filter_cons]
        split
        · rw [lookup_head, if_neg hit]
        · rfl

theorem get_of_filter (keep : String → Bool) (entries : List (String × α)) (query : String) (kept : keep query = true) :
    (ofList (entries.filter fun entry => keep entry.1)).get? query = (ofList entries).get? query := by
  rw [get_of_list, ← List.filter_reverse, lookup_filter keep _ query kept, get_of_list]

-- An entry that is dropped would uncover a later one of its name.
theorem lookup_filtered {β : Type} (value : String → α → Option β) (entries : List (String × α)) (query : String)
    (single : (entries.map Prod.fst).count query ≤ 1 ∨ ∀ a, (value query a).isSome) :
    (entries.filterMap fun entry => (value entry.1 entry.2).map fun b => (entry.1, b)).lookup query =
      (entries.lookup query).bind (value query) := by
  induction entries with
  | nil => rfl
  | cons entry rest ih =>
      obtain ⟨name, a⟩ := entry
      have later : (rest.map Prod.fst).count query ≤ 1 ∨ ∀ a, (value query a).isSome := by
        refine single.imp_left fun single => ?_
        rw [List.map_cons, List.count_cons] at single
        exact Nat.le_of_add_right_le single
      rw [List.filterMap_cons, lookup_head]
      by_cases hit : query = name
      · subst hit
        rw [if_pos rfl, Option.bind_some]
        cases spelled : value query a with
        | some b => rw [Option.map_some, lookup_head, if_pos rfl]
        | none =>
            have absent : query ∉ rest.map Prod.fst := by
              rcases single with single | total
              · rw [List.map_cons, List.count_cons_self] at single
                rw [← List.count_eq_zero]
                omega
              · have given := total a
                rw [spelled] at given
                cases given
            rw [Option.map_none, ih later, lookup_absent rest query absent, Option.bind_none]
      · rw [if_neg hit, ← ih later]
        cases value name a with
        | none => rfl
        | some b => rw [Option.map_some, lookup_head, if_neg hit]

theorem get_of_filtered {β : Type} (value : String → α → Option β) (entries : List (String × α)) (query : String)
    (single : (entries.map Prod.fst).count query ≤ 1 ∨ ∀ a, (value query a).isSome) :
    (ofList (entries.filterMap fun entry => (value entry.1 entry.2).map fun b => (entry.1, b))).get? query =
      ((ofList entries).get? query).bind (value query) := by
  have reversed : (entries.reverse.map Prod.fst).count query ≤ 1 ∨ ∀ a, (value query a).isSome := by
    rwa [List.map_reverse, List.count_reverse]
  rw [get_of_list, ← List.filterMap_reverse, lookup_filtered value _ query reversed, get_of_list]

theorem get_merged (combine : α → α → α) (entries : List (String × α)) (d : Dictionary α) (query : String)
    (distinctNames : (entries.map Prod.fst).Nodup) :
    (entries.foldl (fun out entry =>
        out.insert entry.1 (match out.get? entry.1 with
          | some current => combine current entry.2
          | none => entry.2)) d).get? query =
      Option.merge combine (d.get? query) (entries.lookup query) := by
  induction entries generalizing d with
  | nil => simp
  | cons entry rest ih =>
      obtain ⟨name, value⟩ := entry
      obtain ⟨new, distinctRest⟩ := List.nodup_cons.mp distinctNames
      rw [List.foldl_cons, ih _ distinctRest, get_insert, lookup_head]
      by_cases hit : query = name
      · subst hit
        rw [if_pos rfl, if_pos rfl, lookup_absent rest query new, Option.merge_none_right]
        cases d.get? query <;> rfl
      · rw [if_neg hit, if_neg hit]

theorem get_merge (combine : α → α → α) (d overlay : Dictionary α) (query : String) :
    (d.merge combine overlay).get? query = Option.merge combine (d.get? query) (overlay.get? query) :=
  get_merged combine overlay.entries d query overlay.keys_distinct

theorem empty_merge (combine : α → α → α) (d : Dictionary α) : empty.merge combine d = d :=
  get_ext _ _ fun name => by rw [get_merge, get_empty, Option.merge_none_left]

theorem merge_assoc (combine : α → α → α) (assoc : ∀ a b c, combine (combine a b) c = combine a (combine b c))
    (d overlay later : Dictionary α) :
    (d.merge combine overlay).merge combine later = d.merge combine (overlay.merge combine later) := by
  have associative : Std.Associative combine := ⟨assoc⟩
  apply get_ext
  intro name
  rw [get_merge, get_merge, get_merge, get_merge]
  exact (Option.associative_merge combine).assoc _ _ _

theorem merge_self (combine : α → α → α) (same : ∀ a, combine a a = a) (d : Dictionary α) :
    d.merge combine d = d := by
  apply get_ext
  intro name
  rw [get_merge]
  cases d.get? name <;> simp [same]

def All (property : α → Prop) (d : Dictionary α) : Prop := ∀ entry ∈ d.entries, property entry.2

theorem all_empty (property : α → Prop) : (empty : Dictionary α).All property := by simp [All, empty]

theorem all_insert (property : α → Prop) (d : Dictionary α) (name : String) (value : α) (all : d.All property)
    (holds : property value) : (d.insert name value).All property := by
  intro entry member
  rcases mem_insert_entry member with rfl | held
  · exact holds
  · exact all entry held

theorem all_get (property : α → Prop) (d : Dictionary α) (name : String) (value : α) (all : d.All property)
    (found : d.get? name = some value) : property value := by
  obtain ⟨before, after, split, -⟩ := List.lookup_eq_some_iff.mp found
  exact all (name, value) (by simp [split])

theorem all_inserted (property : α → Prop) (value : Dictionary α → String × α → α) (entries : List (String × α))
    (kept : ∀ out : Dictionary α, out.All property → ∀ entry ∈ entries, property (value out entry)) (d : Dictionary α)
    (all : d.All property) :
    (entries.foldl (fun out entry => out.insert entry.1 (value out entry)) d).All property := by
  induction entries generalizing d with
  | nil => exact all
  | cons entry rest ih =>
      refine ih (fun out allOut other member => kept out allOut other (List.mem_cons_of_mem entry member)) _ ?_
      exact all_insert property d entry.1 _ all (kept d all entry List.mem_cons_self)

theorem all_of_list (property : α → Prop) (entries : List (String × α)) (all : ∀ entry ∈ entries, property entry.2) :
    (ofList entries).All property :=
  all_inserted property (fun _ entry => entry.2) entries (fun _ _ => all) empty (all_empty property)

theorem all_merge (property : α → Prop) (combine : α → α → α) (d overlay : Dictionary α)
    (combined : ∀ a b, property a → property b → property (combine a b)) (all : d.All property)
    (overlaid : overlay.All property) : (d.merge combine overlay).All property := by
  refine all_inserted property _ overlay.entries (fun out allOut entry member => ?_) d all
  cases current : out.get? entry.1 with
  | none => exact overlaid entry member
  | some value =>
      exact combined value entry.2 (all_get property out entry.1 value allOut current) (overlaid entry member)

end MarkdownLayout.Dictionary
