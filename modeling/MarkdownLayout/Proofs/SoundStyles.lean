import MarkdownLayout.Proofs.Configuration
import MarkdownLayout.Proofs.DistinctNames
import MarkdownLayout.Proofs.Members

set_option autoImplicit false

namespace MarkdownLayout

open Json (Within Leniency)

@[simp]
theorem margin_clear (margin : Margin) : margin.toJson.Clear := by
  cases margin <;> simp [Margin.toJson]

namespace Style

structure Sound (style : Style) : Prop where
  apart : ∀ name ∈ style.extra.keys, name ∉ typedNames
  clear : style.extra.All Json.Clear

theorem typed_sound (style : Style) (noExtra : style.extra = .empty) : style.Sound where
  apart := by simp [noExtra, Dictionary.keys, Dictionary.empty]
  clear := by
    rw [noExtra]
    exact Dictionary.all_empty _

theorem merge_sound (style overlay : Style) (sound : style.Sound) (overlaid : overlay.Sound) :
    (style.merge overlay).Sound where
  apart name member := by
    rcases (Dictionary.keys_merge _ style.extra overlay.extra name).mp member with above | below
    · exact overlaid.apart name above
    · exact sound.apart name below
  clear := Dictionary.all_merge _ _ _ _ (fun _ _ _ holds => holds) sound.clear overlaid.clear

theorem read_sound (l : Leniency) (json : Json) (style : Style) (read : Style.ofJson? l json = some style) :
    style.Sound := by
  cases json with
  | object members =>
      obtain ⟨distinct, -, read⟩ := Option.bind_eq_some_iff.mp read
      iterate 10 obtain ⟨_, -, read⟩ := Option.bind_eq_some_iff.mp read
      obtain rfl := Option.some.inj read
      refine ⟨fun name member => ?_, Dictionary.all_of_list _ _ (Json.ordered_members_clear _)⟩
      rw [Dictionary.keys_of_list, Json.ordered_names] at member
      obtain ⟨kept, held, rfl⟩ := List.mem_map.mp member
      simpa using (List.mem_filter.mp held).2
  | _ => cases read

theorem members_typed (style : Style) :
    ∃ typed, Within typedNames typed ∧ style.members = typed ++ style.extra.entries := by
  refine ⟨_, ?_, rfl⟩
  simp only [List.append_assoc]
  iterate 9 refine .property _ _ _ (by simp) ?_
  exact .single _ _ _ (by simp)

-- Next to the members of a style, other members of other names only get in the way of extra properties.
theorem beside_clear (style : Style) (sound : style.Sound) (names : List String) (own : Json.Members)
    (within : Within names own) (distinctNames : (names ++ typedNames).Nodup) :
    (Json.object (own ++ style.members)).Clear ↔ ∀ name ∈ style.extra.keys, name ∉ own.map Prod.fst := by
  obtain ⟨typed, typedWithin, split⟩ := style.members_typed
  have known := within.append typedWithin
  rw [split, ← List.append_assoc, Json.clear_object, List.map_append, List.nodup_append]
  constructor
  · rintro ⟨⟨-, -, apart⟩, -⟩ name member ownName
    refine apart name ?_ name member rfl
    rw [List.map_append]
    exact List.mem_append_left _ ownName
  · intro apart
    refine ⟨⟨distinctNames.sublist known.placed, style.extra.keys_distinct, ?_⟩,
      List.forall_mem_append.mpr ⟨known.clear, sound.clear⟩⟩
    rintro name member _ extra rfl
    rw [List.map_append] at member
    rcases List.mem_append.mp member with ownName | typedName
    · exact apart name extra ownName
    · exact sound.apart name extra (typedWithin.placed.subset typedName)

theorem sound_clear (style : Style) (sound : style.Sound) : style.toJson.Clear :=
  (beside_clear style sound [] [] ⟨.refl _, by simp⟩ (by decide)).mpr (by simp)

end Style

namespace StyleTable

theorem built_in_sound : builtIn.All Style.Sound := by
  refine Dictionary.all_of_list _ _ fun entry member => Style.typed_sound entry.2 ?_
  simp only [List.mem_cons, List.not_mem_nil, or_false] at member
  rcases member with rfl | rfl | rfl | rfl | rfl | rfl | rfl | rfl | rfl | rfl <;> rfl

theorem resolve_sound (table overlay : StyleTable) (sound : table.All Style.Sound)
    (overlaid : overlay.All Style.Sound) : (table.resolve overlay).All Style.Sound :=
  Dictionary.all_merge _ _ table overlay (fun a b ofA ofB => a.merge_sound b ofA ofB) sound overlaid

theorem read_sound (l : Leniency) (json : Json) (table : StyleTable) (read : StyleTable.ofJson? l json = some table) :
    table.All Style.Sound :=
  Json.dictionary_all Style.Sound _ (Style.read_sound l) json table read

end StyleTable

namespace Options.ReadFrom

variable {l : Leniency} {members : Json.Members} {options : Options}

theorem table_sound (read : options.ReadFrom l members) : options.styles.All Style.Sound :=
  Json.or_else_holds _ _ _ "styles" members _ (Dictionary.all_empty _) (StyleTable.read_sound l) read.styles

theorem default_sound (read : options.ReadFrom l members) : ∀ style ∈ options.defaultStyle, style.Sound :=
  Json.or_else_holds (fun value => ∀ style ∈ value, Style.Sound style) none _ "default_style" members _ (by simp)
    (Json.nullable_holds Style.Sound (Style.ofJson? l) (Style.read_sound l)) read.defaultStyle

end Options.ReadFrom

end MarkdownLayout
