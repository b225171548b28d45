import MarkdownLayout.Proofs.JsonValue
import MarkdownLayout.Proofs.SoundStyles
import MarkdownLayout.Proofs.StyleProperties
import MarkdownLayout.Style.Table

set_option autoImplicit false

namespace MarkdownLayout

open Json (Leniency Members)

namespace TypedProperty

def floated : Json → Json
  | .number (.int n) => .float (.ofInt n)
  | json => json

def asFloats : TypedProperty → Json → Json
  | .margin, .array items => .array (items.map floated)
  | .fontSize, json | .lineHeight, json | .margin, json => floated json
  | _, json => json

def bareName : Json → Json
  | .object [(name, _)] => .string name
  | json => json

def asWritten : TypedProperty → Json → Json
  | .alignment, json | .decoration, json => bareName json
  | p, json => p.asFloats json

theorem string_read (json : Json) (text : String) (read : json.string? = some text) : .string text = json := by
  cases json <;> simp_all [Json.string?]

theorem bool_read (json : Json) (b : Bool) (read : json.bool? = some b) : .bool b = json := by
  cases json <;> simp_all [Json.bool?]

theorem float_read (json : Json) (x : Float) (read : json.float? = some x) : .float x = floated json := by
  match json, read with
  | .number (.int n), read =>
      obtain rfl := Option.some.inj read
      rfl
  | .number (.float y), read =>
      obtain rfl := Option.some.inj read
      rfl

theorem alternative_read {α : Type} (l : Leniency) (ofName? : String → Option α) (toName : α → String)
    (named : ∀ name a, ofName? name = some a → toName a = name) (json : Json) (a : α)
    (read : json.alternative? l ofName? = some a) : .string (toName a) = bareName json := by
  match json, read with
  | .string name, read => exact congrArg Json.string (named name a read)
  | .object [(name, payload)], read =>
      rw [Json.alternative?] at read
      split at read
      · exact congrArg Json.string (named name a read)
      · cases read

theorem margin_read (json : Json) (margin : Margin) (read : Margin.ofJson? json = some margin) :
    margin.toJson = asFloats .margin json := by
  unfold Margin.ofJson? at read
  split at read
  · simp only [Option.bind_eq_bind, Option.bind_eq_some_iff] at read
    obtain ⟨h, ofH, v, ofV, same⟩ := read
    obtain rfl := Option.some.inj same
    simp [Margin.toJson, asFloats, float_read _ _ ofH, float_read _ _ ofV]
  · simp only [Option.bind_eq_bind, Option.bind_eq_some_iff] at read
    obtain ⟨left, ofLeft, top, ofTop, right, ofRight, bottom, ofBottom, same⟩ := read
    obtain rfl := Option.some.inj same
    simp [Margin.toJson, asFloats, float_read _ _ ofLeft, float_read _ _ ofTop, float_read _ _ ofRight,
      float_read _ _ ofBottom]
  · obtain ⟨x, ofX, rfl⟩ := Option.map_eq_some_iff.mp read
    rw [Margin.toJson, float_read _ _ ofX]
    cases json with
    | array items => cases ofX
    | _ => rfl

theorem read_as_written (l : Leniency) (p : TypedProperty) (json : Json) (value : p.Value)
    (read : p.read l json = some value) : p.write value = p.asWritten json := by
  cases p with
  | font | color | background => exact string_read json value read
  | fontSize | lineHeight => exact float_read json value read
  | bold | italics => exact bool_read json value read
  | alignment =>
      refine alternative_read l Alignment.ofName? Alignment.name (fun name a named => ?_) json value read
      unfold Alignment.ofName? at named
      split at named <;> cases named <;> rfl
  | decoration =>
      refine alternative_read l TextLine.ofName? TextLine.name (fun name a named => ?_) json value read
      unfold TextLine.ofName? at named
      split at named <;> cases named <;> rfl
  | margin => exact margin_read json value read

def notNull? : Json → Option Json
  | .null => none
  | json => some json

def kept (spelled : TypedProperty → Json → Json) (name : String) (json : Json) : Option Json :=
  match ofName? name with
  | none => some json
  | some p => (notNull? json).map (spelled p)

theorem kept_typed (spelled : TypedProperty → Json → Json) (p : TypedProperty) (json : Json) :
    kept spelled p.name json = (notNull? json).map (spelled p) := by
  rw [kept, of_name]

theorem kept_extra (spelled : TypedProperty → Json → Json) (name : String) (json : Json)
    (other : name ∉ Style.typedNames) : kept spelled name json = some json := by
  rw [kept, of_other_name name other]

theorem nullable_kept (l : Leniency) (p : TypedProperty) (json : Json) (value : Option p.Value)
    (read : Json.nullable (p.read l) json = some value) :
    value.map p.write = (notNull? json).map p.asWritten := by
  by_cases null : json = .null
  · subst null
    obtain rfl := Option.some.inj read
    rfl
  · have present : notNull? json = some json := by
      cases json <;> first | rfl | exact absurd rfl null
    rw [Json.nullable_given _ json null] at read
    obtain ⟨a, readValue, rfl⟩ := Option.map_eq_some_iff.mp read
    rw [present, Option.map_some, Option.map_some, read_as_written l p json a readValue]

theorem optional_kept (l : Leniency) (p : TypedProperty) (members : Members) (value : Option p.Value)
    (read : Json.optional (p.read l) p.name members = some value) :
    value.map p.write = (members.lookup p.name).bind (kept asWritten p.name) := by
  rw [Json.optional, Json.orElse] at read
  cases given : members.lookup p.name with
  | none =>
      rw [given] at read
      obtain rfl := Option.some.inj read
      rfl
  | some json =>
      rw [given] at read
      rw [Option.bind_some, kept_typed]
      exact nullable_kept l p json value read

theorem optional_written (l : Leniency) (p : TypedProperty) (members : Members) (value : Option p.Value)
    (given : members.lookup p.name = value.map p.write) : Json.optional (p.read l) p.name members = some value := by
  rw [Json.optional, Json.orElse, given]
  cases value with
  | none => rfl
  | some a =>
      have back := Json.nullable_given (p.read l) (p.write a) (p.write_not_null a)
      rwa [p.read_write l a] at back

end TypedProperty

namespace Style

def restated (spelled : TypedProperty → Json → Json) : Json → Json
  | .object members =>
      .object (members.filterMap fun member =>
        (TypedProperty.kept spelled member.1 member.2).map fun json => (member.1, json))
  | json => json

-- The extra properties leave the typed names alone, and their values have no order of members that reading could
-- lose; every number in the style is finite. Every style that was read is so, up to its numbers.
structure Regular (style : Style) : Prop where
  apart : ∀ name ∈ style.extra.keys, name ∉ typedNames
  inOrder : style.extra.All Json.InOrder
  finite : ∀ x ∈ style.toJson.floats, x.isFinite

theorem names_distinct (style : Style) (apart : ∀ name ∈ style.extra.keys, name ∉ typedNames) :
    (style.members.map Prod.fst).Nodup := by
  obtain ⟨typed, within, split⟩ := style.members_typed
  rw [split, List.map_append, List.nodup_append]
  have typedDistinct : typedNames.Nodup := by decide
  refine ⟨typedDistinct.sublist within.placed, style.extra.keys_distinct, ?_⟩
  rintro name member _ extra rfl
  exact apart name extra (within.placed.subset member)

theorem read_as_restated (l : Leniency) (json : Json) (style : Style) (read : Style.ofJson? l json = some style) :
    style.toJson.ordered = (restated TypedProperty.asWritten json).ordered := by
  cases json with
  | object given =>
      obtain ⟨single, typed, extra⟩ := (read_iff l given style).mp read
      have apart := (read_sound l _ style read).apart
      have distinctNames := List.nodup_iff_count.mp (style.names_distinct apart)
      rw [toJson, restated, Json.ordered_object, Json.ordered_object]
      refine congrArg (fun d => Json.object (Dictionary.entries d)) (Dictionary.get_ext _ _ fun name => ?_)
      rw [Dictionary.get_map, Dictionary.get_map, Dictionary.get_of_single _ name (distinctNames name)]
      by_cases known : name ∈ typedNames
      · obtain ⟨p, -, rfl⟩ := List.mem_map.mp (TypedProperty.all_names ▸ known)
        have once := single p.name known
        rw [Dictionary.get_of_filtered _ _ _ (.inl once), Dictionary.get_of_single _ _ once,
          lookup_typed style p fun held => apart p.name held known,
          TypedProperty.optional_kept l p given _ (typed p)]
      · have all (json : Json) : (TypedProperty.kept TypedProperty.asWritten name json).isSome := by
          rw [TypedProperty.kept_extra _ _ _ known, Option.isSome_some]
        have others : decide (name ∉ typedNames) = true := decide_eq_true known
        rw [lookup_extra style name known, extra, Json.ordered_members_map, Dictionary.of_list_mapped,
          Dictionary.get_map, Dictionary.get_of_filter (fun name => decide (name ∉ typedNames)) _ _ others,
          Dictionary.get_of_filtered _ _ _ (.inr all)]
        cases (Dictionary.ofList given).get? name with
        | none => rfl
        | some json =>
            rw [Option.map_some, Option.map_some, Json.ordered_in_order json, Option.bind_some,
              TypedProperty.kept_extra _ _ _ known, Option.map_some]
  | _ => cases read

theorem extra_members (style : Style) (apart : ∀ name ∈ style.extra.keys, name ∉ typedNames) :
    (style.members.filter fun member => member.1 ∉ typedNames) = style.extra.entries := by
  obtain ⟨typed, within, split⟩ := style.members_typed
  have none : (typed.filter fun member => member.1 ∉ typedNames) = [] := by
    refine List.filter_eq_nil_iff.mpr fun member held => ?_
    simpa using within.placed.subset (List.mem_map_of_mem held)
  have all : (style.extra.entries.filter fun member => member.1 ∉ typedNames) = style.extra.entries := by
    refine List.filter_eq_self.mpr fun member held => ?_
    simpa using apart member.1 (List.mem_map_of_mem held)
  rw [split, List.filter_append, none, all, List.nil_append]

theorem regular_read_back (l : Leniency) (style : Style) (regular : style.Regular) :
    Style.ofJson? l style.toJson.written = some style := by
  rw [Json.written_finite style.toJson regular.finite]
  refine (read_iff l style.members style).mpr ⟨?_, fun p => ?_, ?_⟩
  · exact Json.single_of_nodup typedNames style.members (style.names_distinct regular.apart)
  · refine p.optional_written l style.members _ (lookup_typed style p fun held => ?_)
    exact regular.apart p.name held p.name_known
  · rw [extra_members style regular.apart, Json.ordered_entries style.extra regular.inOrder]

-- That what was read is finite is left to the numbers: a large integer is not a finite floating-point number.
theorem read_regular (l : Leniency) (json : Json) (style : Style) (read : Style.ofJson? l json = some style)
    (finite : ∀ x ∈ style.toJson.floats, x.isFinite) : style.Regular where
  apart := (read_sound l json style read).apart
  inOrder := by
    cases json with
    | object given =>
        obtain ⟨-, -, extra⟩ := (read_iff l given style).mp read
        rw [extra]
        exact Dictionary.all_of_list _ _ (Json.ordered_members_in_order _)
    | _ => cases read
  finite := finite

end Style

namespace StyleTable

def restated (spelled : TypedProperty → Json → Json) : Json → Json
  | .object members => .object (members.map fun member => (member.1, Style.restated spelled member.2))
  | json => json

theorem read_style (l : Leniency) (member : String × Json) (entry : String × Style)
    (read : ((Style.ofJson? l member.2).map fun style => (member.1, style)) = some entry) :
    (entry.1, entry.2.toJson.ordered) = (member.1, (Style.restated TypedProperty.asWritten member.2).ordered) := by
  obtain ⟨style, readHere, rfl⟩ := Option.map_eq_some_iff.mp read
  rw [Style.read_as_restated l member.2 style readHere]

theorem table_as_restated (l : Leniency) (json : Json) (table : StyleTable)
    (read : StyleTable.ofJson? l json = some table) :
    table.toJson.ordered = (restated TypedProperty.asWritten json).ordered := by
  cases json with
  | object members =>
      obtain ⟨entries, each, same⟩ := Option.bind_eq_some_iff.mp read
      obtain rfl := Option.some.inj same
      have alike := Json.each_mapped _ _ _ (read_style l) members entries each
      have values := Dictionary.of_list_mapped (fun style : Style => style.toJson.ordered)
      rw [toJson, restated, Json.ordered, Json.ordered, Json.ordered_members_map, Json.ordered_members_map,
        List.map_map, List.map_map]
      refine congrArg (fun d => Json.object (Dictionary.entries d)) ?_
      calc Dictionary.ofList ((Dictionary.ofList entries).entries.map fun entry => (entry.1, entry.2.toJson.ordered))
          _ = (Dictionary.ofList entries).map fun style => style.toJson.ordered := by
            rw [values, Dictionary.of_list_entries]
          _ = Dictionary.ofList (entries.map fun entry => (entry.1, entry.2.toJson.ordered)) := (values entries).symm
          _ = _ := by
            rw [alike]
            rfl
  | _ => cases read

theorem table_read_back (l : Leniency) (table : StyleTable) (regular : table.All Style.Regular) :
    StyleTable.ofJson? l table.toJson.written = some table := by
  have each := Json.each_back (fun member : String × Json => (Style.ofJson? l member.2).map fun style => (member.1, style))
    (fun entry => (entry.1, entry.2.toJson.written)) table.entries fun entry held => by
      show ((Style.ofJson? l entry.2.toJson.written).map fun style => (entry.1, style)) = some entry
      rw [Style.regular_read_back l entry.2 (regular entry held)]
      rfl
  rw [toJson, Json.written, Json.written_members_map, List.map_map]
  exact Option.bind_eq_some_iff.mpr ⟨table.entries, each, congrArg some (Dictionary.of_list_entries table)⟩

theorem styles_keep_properties (l : Leniency) :
    ((∀ json style, Style.ofJson? l json = some style →
        style.toJson.ordered = (Style.restated TypedProperty.asWritten json).ordered ∧
          ((∀ x ∈ style.toJson.floats, x.isFinite) → style.Regular)) ∧
      ∀ style : Style, style.Regular → Style.ofJson? l style.toJson.written = some style) ∧
    (∀ json table, StyleTable.ofJson? l json = some table →
      table.toJson.ordered = (restated TypedProperty.asWritten json).ordered) ∧
    ∀ table : StyleTable, table.All Style.Regular → StyleTable.ofJson? l table.toJson.written = some table :=
  ⟨⟨fun json style read => ⟨Style.read_as_restated l json style read, Style.read_regular l json style read⟩,
    Style.regular_read_back l⟩, table_as_restated l, table_read_back l⟩

def captionJson : Json :=
  .object [("opacity", .float 0.5), ("margin", .array [.int 0, .int 5]), ("bold", .null),
    ("alignment", .object [("center", .null)])]

def caption : Style :=
  { Style.empty with
    alignment := some .center
    margin := some (.symmetric (.ofInt 0) (.ofInt 5))
    extra := .ofList [("opacity", .float 0.5)] }

theorem caption_regular : caption.Regular where
  apart := by decide
  inOrder := by
    intro entry held
    obtain rfl := List.mem_singleton.mp held
    rfl
  finite := by
    have floats : caption.toJson.floats = [.ofInt 0, .ofInt 5, 0.5] := rfl
    rw [floats]
    decide +kernel

theorem caption_keeps_properties :
    Style.ofJson? .plain captionJson = some caption ∧
      caption.toJson.ordered = (Style.restated TypedProperty.asWritten captionJson).ordered ∧
      (∀ x ∈ caption.toJson.floats, x.isFinite) ∧ caption.Regular ∧
      Style.ofJson? .plain caption.toJson.written = some caption ∧
      StyleTable.ofJson? .plain (.object [("caption", captionJson)]) = some (.ofList [("caption", caption)]) ∧
      (StyleTable.toJson (.ofList [("caption", caption)])).ordered =
        (restated TypedProperty.asWritten (.object [("caption", captionJson)])).ordered ∧
      Dictionary.All Style.Regular (.ofList [("caption", caption)]) ∧
      StyleTable.ofJson? .plain (StyleTable.toJson (.ofList [("caption", caption)])).written =
        some (.ofList [("caption", caption)]) := by
  have read : Style.ofJson? .plain captionJson = some caption := rfl
  have readTable : StyleTable.ofJson? .plain (.object [("caption", captionJson)]) = some (.ofList [("caption", caption)]) :=
    rfl
  have all : Dictionary.All Style.Regular (.ofList [("caption", caption)]) :=
    Dictionary.all_of_list _ _ (List.forall_mem_singleton.mpr caption_regular)
  obtain ⟨⟨ofStyle, styleBack⟩, ofTable, tableBack⟩ := styles_keep_properties .plain
  obtain ⟨same, regular⟩ := ofStyle captionJson caption read
  exact ⟨read, same, caption_regular.finite, regular caption_regular.finite, styleBack caption caption_regular, readTable,
    ofTable _ _ readTable, all, tableBack _ all⟩

theorem wordy_alignment_respelled :
    ¬ ∀ json style, Style.ofJson? .plain json = some style →
      style.toJson.ordered = (Style.restated TypedProperty.asFloats json).ordered := by
  intro kept
  have read : Style.ofJson? .plain (.object [("alignment", .object [("center", .null)])]) =
      some { Style.empty with alignment := some .center } := rfl
  have same := kept _ _ read
  cases same

end StyleTable

end MarkdownLayout
