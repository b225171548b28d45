import MarkdownLayout.Options.Reader
import MarkdownLayout.Toml.Reader

set_option autoImplicit false

namespace MarkdownLayout

def Options.readToml? (text : String) : Option Options :=
  (Toml.read? text).bind (Options.ofMembers? .settings)

structure Config where
  options : Options
  images : ImageMap

namespace Config

def default : Config := ⟨.default, .empty⟩

def ofMembers? (members : Json.Members) : Option Config := do
  let images ← Json.orElse .empty (Json.dictionary? Json.string?) "images" members
  let options ← Options.ofMembers? .nested members
  some ⟨options, images⟩

def readToml? (text : String) : Option Config := (Toml.read? text).bind ofMembers?

def toOptions (config : Config) : Options :=
  if config.images.isEmpty then config.options
  else { config.options with resolver := some (.ofMap config.images) }

end Config

end MarkdownLayout
