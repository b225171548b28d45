import MarkdownLayout.Options.Config

set_option autoImplicit false

namespace MarkdownLayout

structure Options.ReadFrom (l : Json.Leniency) (members : Json.Members) (options : Options) : Prop where
  resolver : options.resolver = none
  defaultStyle : Json.optional (Style.ofJson? l) "default_style" members = some options.defaultStyle
  styles : Json.orElse .empty (StyleTable.ofJson? l) "styles" members = some options.styles

theorem Options.of_members (l : Json.Leniency) (members : Json.Members) (options : Options)
    (read : Options.ofMembers? l members = some options) : options.ReadFrom l members := by
  rw [Options.ofMembers?] at read
  iterate 10 obtain ⟨_, -, read⟩ := Option.bind_eq_some_iff.mp read
  obtain ⟨defaultStyle, ofDefault, read⟩ := Option.bind_eq_some_iff.mp read
  obtain ⟨styles, ofStyles, read⟩ := Option.bind_eq_some_iff.mp read
  obtain ⟨preventOrphans, -, read⟩ := Option.bind_eq_some_iff.mp read
  obtain rfl := Option.some.inj read
  exact ⟨rfl, ofDefault, ofStyles⟩

theorem Options.read_toml (text : String) (options : Options) (read : Options.readToml? text = some options) :
    ∃ members, options.ReadFrom .settings members := by
  obtain ⟨members, -, found⟩ := Option.bind_eq_some_iff.mp read
  exact ⟨members, Options.of_members _ _ _ found⟩

theorem Config.read_toml (text : String) (config : Config) (read : Config.readToml? text = some config) :
    ∃ members, config.options.ReadFrom .nested members := by
  obtain ⟨members, -, found⟩ := Option.bind_eq_some_iff.mp read
  obtain ⟨images, -, found⟩ := Option.bind_eq_some_iff.mp found
  obtain ⟨options, ofOptions, found⟩ := Option.bind_eq_some_iff.mp found
  obtain rfl := Option.some.inj found
  exact ⟨members, Options.of_members _ _ _ ofOptions⟩

end MarkdownLayout
