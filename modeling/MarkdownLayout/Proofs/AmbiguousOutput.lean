import MarkdownLayout.Proofs.Rendering
import MarkdownLayout.Proofs.RunOrigins
import MarkdownLayout.Proofs.SoundStyles

set_option autoImplicit false

namespace MarkdownLayout

open Json (Within)
open Mdast

namespace StyleRef

mutual
def Sound : StyleRef → Prop
  | .named _ => True
  | .inline style => style.Sound
  | .stack refs => AllSound refs
def AllSound : List StyleRef → Prop
  | [] => True
  | ref :: rest => ref.Sound ∧ AllSound rest
end

mutual
theorem sound_clear (ref : StyleRef) (sound : ref.Sound) : ref.toJson.Clear := by
  cases ref with
  | named name => exact Json.clear_string name
  | inline style => exact style.sound_clear sound
  | stack refs => exact (Json.clear_array _).mpr (all_sound_clear refs sound)
theorem all_sound_clear (refs : List StyleRef) (sound : AllSound refs) : ∀ json ∈ refsJson refs, json.Clear := by
  cases refs with
  | nil => exact List.forall_mem_nil _
  | cons ref rest => exact List.forall_mem_cons.mpr ⟨ref.sound_clear sound.1, all_sound_clear rest sound.2⟩
end

end StyleRef

theorem CanvasLine.to_json_clear (line : CanvasLine) : line.toJson.Clear := by
  obtain ⟨x1, y1, x2, y2, color⟩ := line
  cases color <;> simp [CanvasLine.toJson, Style.property]

namespace Run

def own (run : Run) : Json.Members :=
  Style.property "style" StyleRef.toJson run.style
    ++ Style.property "id" .string run.id
    ++ Style.property "link" .string run.link
    ++ Style.property "headlineLevel" (fun level => .int level.toNat) run.headlineLevel

structure Sound (run : Run) : Prop where
  style : ∀ ref ∈ run.style, ref.Sound
  props : run.props.Sound

def Clear (run : Run) : Prop := (Json.object (("text", .null) :: run.members)).Clear

theorem clear_text (run : Run) (text : Json) :
    (Json.object (("text", text) :: run.members)).Clear ↔ text.Clear ∧ run.Clear := by
  simp only [Clear, Json.clear_object, List.forall_mem_cons, List.map_cons, Json.clear_null, true_and]
  exact and_left_comm

def Shadowed (run : Run) : Prop := ∃ name ∈ run.props.extra.keys, name = "text" ∨ name ∈ run.own.map Prod.fst

theorem clear_iff (run : Run) (sound : run.Sound) : run.Clear ↔ ¬ run.Shadowed := by
  have known : Within ["text", "style", "id", "link", "headlineLevel"] (("text", .null) :: run.own) := by
    simp only [own, List.append_assoc]
    refine .member _ _ (by simp) <| .property _ _ _ (fun ref held => ref.sound_clear (sound.style ref held)) ?_
    iterate 2 refine .property _ _ _ (by simp) ?_
    exact .single _ _ _ (by simp)
  refine (run.props.beside_clear sound.props _ _ known (by decide)).trans ?_
  simp [Shadowed, not_or]

theorem blank_sound (run : Run) : run.blankId.Sound ↔ run.Sound :=
  ⟨fun sound => ⟨sound.style, sound.props⟩, fun sound => ⟨sound.style, sound.props⟩⟩

theorem blank_shadowed (run : Run) : run.blankId.Shadowed ↔ run.Shadowed := by
  have names : run.blankId.own.map Prod.fst = run.own.map Prod.fst := by
    cases given : run.id <;> simp [own, blankId, given, Style.property]
  rw [Shadowed, Shadowed, names]
  rfl

theorem plain_not_shadowed (run : Run) (noExtra : run.props.extra = .empty) : ¬ run.Shadowed := by
  rintro ⟨name, extra, -⟩
  simp [noExtra, Dictionary.keys, Dictionary.empty] at extra

end Run

namespace Content

mutual
theorem node_clear (content : Content) :
    content.toJson.Clear ↔ ∀ run ∈ content.nodes.filterMap run?, run.Clear := by
  cases content with
  | text run literal =>
      rw [toJson, Run.clear_text]
      simp [nodes, run?]
  | group run children =>
      rw [toJson, Run.clear_text, Json.clear_array, items_clear children, nodes, List.filterMap_append,
        List.forall_mem_append]
      simp [run?]
  | orderedList items start =>
      have inner := items_clear items
      cases start <;> simp [toJson, nodes, run?, inner, Style.property]
  | unorderedList items =>
      have inner := items_clear items
      simp [toJson, nodes, run?, inner]
  | table body =>
      have inner := rows_clear body
      simp [toJson, nodes, run?, inner]
  | canvas margin lines =>
      have drawn : ∀ line ∈ lines, line.toJson.Clear := fun line _ => line.to_json_clear
      cases margin <;> simpa [toJson, nodes, run?, Style.property]
  | image url => simp [toJson, nodes, run?]
theorem items_clear (items : List Content) :
    (∀ json ∈ itemsJson items, json.Clear) ↔ ∀ run ∈ (nodesOf items).filterMap run?, run.Clear := by
  cases items with
  | nil => simp [itemsJson, nodesOf]
  | cons content rest =>
      rw [itemsJson, nodesOf, List.forall_mem_cons, List.filterMap_append, List.forall_mem_append, node_clear content,
        items_clear rest]
theorem cells_clear (cells : List (List Content)) :
    (∀ json ∈ cellsJson cells, json.Clear) ↔ ∀ run ∈ (cellNodes cells).filterMap run?, run.Clear := by
  cases cells with
  | nil => simp [cellsJson, cellNodes]
  | cons cell rest =>
      rw [cellsJson, cellNodes, List.forall_mem_cons, List.filterMap_append, List.forall_mem_append, Json.clear_array,
        items_clear cell, cells_clear rest]
theorem rows_clear (rows : List (List (List Content))) :
    (∀ json ∈ rowsJson rows, json.Clear) ↔ ∀ run ∈ (rowNodes rows).filterMap run?, run.Clear := by
  cases rows with
  | nil => simp [rowsJson, rowNodes]
  | cons row rest =>
      rw [rowsJson, rowNodes, List.forall_mem_cons, List.filterMap_append, List.forall_mem_append, Json.clear_array,
        cells_clear row, rows_clear rest]
end

end Content

theorem composed_style_sound (bold italics : Bool) (alignment : Option Alignment) (linked : Bool) :
    ∀ ref ∈ composedStyle bold italics alignment linked, ref.Sound := by
  have sound (bold italics : Option Bool) : Style.Sound { Style.empty with bold, italics, alignment } :=
    Style.typed_sound _ rfl
  unfold composedStyle
  cases linked <;> cases bold || italics || alignment.isSome <;> simp [StyleRef.Sound, StyleRef.AllSound, sound]

section

variable (ctx : Context) (deco : Decoration) (origin : Origin)

theorem own_run_sound (table : ctx.styles.All Style.Sound) : (ownRun ctx deco origin).Sound := by
  obtain ⟨path, maker⟩ := origin
  cases maker with
  | literal l => exact ⟨composed_style_sound _ _ _ _, Style.typed_sound _ rfl⟩
  | block => exact ⟨by simp [ownRun, Run.bare], Style.typed_sound _ rfl⟩
  | blockquote => exact ⟨by simp [ownRun, Run.bare], Style.typed_sound _ rfl⟩
  | heading depth => exact ⟨by simp [ownRun, StyleRef.Sound], Style.typed_sound _ rfl⟩
  | paragraph =>
      refine ⟨by simp [ownRun, Run.bare], ?_⟩
      cases found : ctx.styles.get? "p" with
      | none => exact Style.typed_sound _ (by simp [ownRun, found, Style.empty])
      | some p => simpa [ownRun, found] using Dictionary.all_get _ _ "p" p table found

theorem run_at_sound (table : ctx.styles.All Style.Sound) : (runAt ctx deco origin).Sound := by
  have own := own_run_sound ctx deco origin table
  rw [runAt]
  cases origin.inItem with
  | false => exact own
  | true =>
      refine ⟨fun ref held => ?_, own.props⟩
      obtain ⟨item, found, rfl⟩ := Option.map_eq_some_iff.mp held
      exact Dictionary.all_get _ _ "li" item table found

theorem other_runs_plain (other : origin.maker ≠ .paragraph) : (runAt ctx deco origin).props.extra = .empty := by
  obtain ⟨path, maker⟩ := origin
  rw [run_at_props]
  cases maker with
  | paragraph => exact absurd rfl other
  | _ => rfl

theorem paragraph_names (item : Style) (restyled : ctx.styles.get? "li" = some item) (path : List Ancestor) :
    (runAt ctx deco ⟨path, .paragraph⟩).own.map Prod.fst =
      if Origin.inItem ⟨path, .paragraph⟩ then ["style"] else [] := by
  rw [runAt]
  cases Origin.inItem ⟨path, .paragraph⟩ with
  | false => rfl
  | true => simp [Run.own, Run.inItemStyle, ownRun, restyled, Run.bare, Style.property]

theorem shadowed_at (p item : Style) (ofParagraph : ctx.styles.get? "p" = some p)
    (restyled : ctx.styles.get? "li" = some item) :
    (runAt ctx deco origin).Shadowed ↔
      origin.maker = .paragraph ∧ ("text" ∈ p.extra.keys ∨ "style" ∈ p.extra.keys ∧ origin.inItem) := by
  obtain ⟨path, maker⟩ := origin
  by_cases paragraph : maker = .paragraph
  · subst paragraph
    have props : (runAt ctx deco ⟨path, .paragraph⟩).props = p := by
      rw [run_at_props]
      simp [ownRun, ofParagraph]
    rw [Run.Shadowed, paragraph_names ctx deco item restyled, props]
    cases Origin.inItem ⟨path, .paragraph⟩ with
    | false => simp
    | true => simp [and_or_left, exists_or]
  · have plain := other_runs_plain ctx deco ⟨path, maker⟩ paragraph
    simp [Run.plain_not_shadowed _ plain, paragraph]

end

@[simp]
theorem info_clear (info : DocumentInfo) : info.toJson.Clear := by
  simp only [DocumentInfo.toJson, List.append_assoc]
  refine Within.object ["title", "author", "subject", "keywords", "creator", "producer"] _ ?_ (by decide)
  iterate 5 refine .property _ _ _ (by simp) ?_
  exact .single _ _ _ (by simp)

@[simp]
theorem page_size_clear (size : PageSize) : size.toJson.Clear := by
  cases size <;> simp [PageSize.toJson]

@[simp]
theorem permissions_clear (permissions : Permissions) : permissions.toJson.Clear := by
  simp only [Permissions.toJson, List.append_assoc]
  refine Within.object ["printing", "modifying", "copying", "annotating", "fillingForms", "contentAccessibility",
    "documentAssembly"] _ ?_ (by decide)
  iterate 6 refine .property _ _ _ (by simp) ?_
  exact .single _ _ _ (by simp)

@[simp]
theorem watermark_clear (watermark : Watermark) : watermark.toJson.Clear := by
  cases watermark with
  | text s => simp [Watermark.toJson]
  | styled style =>
      simp only [Watermark.toJson, WatermarkStyle.toJson, List.append_assoc]
      refine Within.object ["text", "color", "opacity", "bold", "italics", "fontSize", "angle"] _ ?_ (by decide)
      refine .member _ _ (by simp) ?_
      iterate 5 refine .property _ _ _ (by simp) ?_
      exact .single _ _ _ (by simp)

theorem entries_clear {α : Type} (d : Dictionary α) (json : α → Json) (all : d.All fun a => (json a).Clear) :
    (Json.object (d.entries.map fun (name, a) => (name, json a))).Clear := by
  have names : (d.entries.map fun (name, a) => (name, json a)).map Prod.fst = d.keys := by
    rw [List.map_map]
    rfl
  rw [Json.clear_object, names]
  refine ⟨d.keys_distinct, fun member held => ?_⟩
  obtain ⟨entry, inside, rfl⟩ := List.mem_map.mp held
  exact all entry inside

namespace Definition

theorem clear_iff (definition : Definition) (default : definition.defaultStyle.Sound)
    (table : definition.styles.All Style.Sound) :
    definition.toJson.Clear ↔ ∀ run ∈ runs definition.content, run.Clear := by
  rw [runs, ← Content.items_clear, ← Json.clear_array]
  constructor
  · intro clear
    exact ((Json.clear_object _).mp clear).2 ("content", .array (Content.itemsJson definition.content)) (by simp)
  · intro content
    have images : (ImageMap.toJson definition.images).Clear :=
      entries_clear definition.images .string fun _ _ => Json.clear_string _
    have styles : definition.styles.toJson.Clear :=
      entries_clear definition.styles Style.toJson fun entry held => entry.2.sound_clear (table entry held)
    simp only [toJson, List.append_assoc]
    refine Within.object ["info", "pageMargins", "pageOrientation", "pageSize", "userPassword", "ownerPassword",
      "permissions", "version", "watermark", "content", "images", "defaultStyle", "styles"] _ ?_ (by decide)
    iterate 9 refine .property _ _ _ (by simp) ?_
    exact .member _ _ content <| .member _ _ images <| .member _ _ (Style.sound_clear _ default) <|
      .member _ _ styles .empty

end Definition

theorem Options.toml_sound (text : String) (options : Options)
    (read : Options.readToml? text = some options ∨
      ∃ config, Config.readToml? text = some config ∧ config.options = options) :
    options.styles.All Style.Sound ∧ ∀ style ∈ options.defaultStyle, style.Sound := by
  rcases read with plain | ⟨config, withImages, rfl⟩
  · obtain ⟨members, from_⟩ := Options.read_toml text options plain
    exact ⟨from_.table_sound, from_.default_sound⟩
  · obtain ⟨members, from_⟩ := Config.read_toml text config withImages
    exact ⟨from_.table_sound, from_.default_sound⟩

theorem StyleTable.resolved_built_in (overlay : StyleTable) (name : String) (known : name ∈ builtIn.keys) :
    ∃ style, (builtIn.resolve overlay).get? name = some style :=
  Option.isSome_iff_exists.mp ((Dictionary.mem_keys _ name).mp ((Dictionary.keys_merge _ _ _ name).mpr (.inr known)))

section

variable (ctx : Context) (deco : Decoration) (nodes : List Node) (s : Slugger) (content : List Content)
  (done : (ctx.contentOf deco nodes s).1 = .ok content)

include done

theorem converted_runs (property : Run → Prop) (kept : ∀ run : Run, property run.blankId ↔ property run) :
    (∀ run ∈ runs content, property run) ↔ ∀ origin ∈ origins nodes, property (runAt ctx deco origin) := by
  calc (∀ run ∈ runs content, property run)
    _ ↔ ∀ run ∈ (runs content).map Run.blankId, property run := by simp only [List.forall_mem_map, kept]
    _ ↔ ∀ origin ∈ origins nodes, property (runAt ctx deco origin) := by
        rw [ctx.runs_follow_origins deco nodes s content done, List.forall_mem_map]

theorem converted_clear (table : ctx.styles.All Style.Sound) (p item : Style)
    (ofParagraph : ctx.styles.get? "p" = some p) (restyled : ctx.styles.get? "li" = some item) :
    (∀ run ∈ runs content, run.Clear) ↔
      ∀ origin ∈ origins nodes, ¬ (origin.maker = .paragraph ∧
        ("text" ∈ p.extra.keys ∨ "style" ∈ p.extra.keys ∧ origin.inItem)) := by
  have sound : ∀ run ∈ runs content, run.Sound :=
    (converted_runs ctx deco nodes s content done Run.Sound Run.blank_sound).mpr fun origin _ =>
      run_at_sound ctx deco origin table
  calc (∀ run ∈ runs content, run.Clear)
    _ ↔ ∀ run ∈ runs content, ¬ run.Shadowed :=
        forall_congr' fun run => forall_congr' fun member => run.clear_iff (sound run member)
    _ ↔ ∀ origin ∈ origins nodes, ¬ (runAt ctx deco origin).Shadowed :=
        converted_runs ctx deco nodes s content done (¬ Run.Shadowed ·) fun run => not_congr run.blank_shadowed
    _ ↔ _ := by simp only [shadowed_at ctx deco _ p item ofParagraph restyled]

end

theorem rendered_json_ambiguous_iff (text : String) (options : Options)
    (read : Options.readToml? text = some options ∨
      ∃ config, Config.readToml? text = some config ∧ config.options = options)
    (output : OutputMode) (transform : LinkTransform) (resolver : Option ImageResolver) (root : Root) (indented : Bool)
    (rendered : Rendered) (done : render root { options with output, transform, resolver } indented = .ok rendered) :
    ∃ (definition : Definition) (p : Style),
      Definition.ofRoot root { options with output, transform, resolver } definition.images = .ok definition ∧
      rendered.text = (if indented then definition.toJson.prettyText else definition.toJson.compactText) ∧
      (StyleTable.builtIn.resolve options.styles).get? "p" = some p ∧
      (runs definition.content).map Run.blankId =
        (origins root.children).map
          (runAt (Definition.contextOf { options with output, transform, resolver } definition.images) .plain) ∧
      (definition.toJson.Ambiguous ↔
        "text" ∈ p.extra.keys ∧ (∃ origin ∈ origins root.children, origin.maker = .paragraph) ∨
          "style" ∈ p.extra.keys ∧ ∃ origin ∈ origins root.children, origin.maker = .paragraph ∧ origin.inItem) := by
  obtain ⟨readTable, readDefault⟩ := options.toml_sound text read
  obtain ⟨definition, made, written⟩ := rendered_definition root _ indented rendered done
  obtain ⟨walked, -⟩ := Definition.walked_of_root root _ definition.images definition made
  rw [← Definition.walked_supplied root _ definition.images] at walked
  obtain ⟨styles, default⟩ := Definition.of_root_styles root _ definition.images definition made
  obtain ⟨p, ofParagraph⟩ := StyleTable.resolved_built_in options.styles "p" (by decide)
  obtain ⟨item, restyled⟩ := StyleTable.resolved_built_in options.styles "li" (by decide)
  have table : (StyleTable.builtIn.resolve options.styles).All Style.Sound :=
    StyleTable.resolve_sound _ _ StyleTable.built_in_sound readTable
  have base : Definition.baseStyle.Sound := Style.typed_sound _ rfl
  have defaultSound : definition.defaultStyle.Sound := by
    rw [default]
    cases given : options.defaultStyle with
    | none => exact base
    | some style => exact Style.merge_sound _ _ base (readDefault style given)
  have clear := converted_clear _ .plain root.children .fresh definition.content walked table p item ofParagraph
    restyled
  refine ⟨definition, p, made, written, ofParagraph, Context.runs_follow_origins _ _ _ _ _ walked, ?_⟩
  rw [Json.ambiguous_iff, definition.clear_iff defaultSound (styles ▸ table), clear]
  simp only [Classical.not_forall, Classical.not_not]
  grind

def listedParagraph : Root :=
  ⟨[.parent (.list false none none) [.parent (.listItem none none) [.paragraph [.text "word"]]]]⟩

theorem listed_paragraph_ambiguous :
    ∃ (options : Options) (rendered : Rendered) (definition : Definition),
      Options.readToml? "[styles.p]\nstyle = 1" = some options ∧
        render listedParagraph options false = .ok rendered ∧ rendered.text = definition.toJson.compactText ∧
        definition.toJson.Ambiguous := by
  have styled : (Options.readToml? "[styles.p]\nstyle = 1").any fun options =>
      ((StyleTable.builtIn.resolve options.styles).get? "p").any fun p => "style" ∈ p.extra.keys := by decide +kernel
  have listed : (origins listedParagraph.children).any fun origin => origin.maker = .paragraph ∧ origin.inItem := by
    decide +kernel
  obtain ⟨options, read, ofOptions⟩ := (Option.any_eq_true _ _).mp styled
  obtain ⟨_, readFrom⟩ := Options.read_toml _ options read
  have unhooked : { options with resolver := none } = options := by rw [← readFrom.resolver]
  obtain ⟨rendered, done⟩ : ∃ rendered, render listedParagraph { options with resolver := none } false = .ok rendered :=
    ⟨_, rfl⟩
  obtain ⟨definition, p, -, written, ofParagraph, -, ambiguous⟩ :=
    rendered_json_ambiguous_iff _ options (.inl read) options.output options.transform none listedParagraph false
      rendered done
  obtain ⟨origin, member, ofListed⟩ := List.any_eq_true.mp listed
  rw [ofParagraph] at ofOptions
  rw [unhooked] at done
  exact ⟨options, rendered, definition, read, done, written,
    ambiguous.mpr (.inr ⟨by simpa using ofOptions, origin, member, by simpa using ofListed⟩)⟩

end MarkdownLayout
