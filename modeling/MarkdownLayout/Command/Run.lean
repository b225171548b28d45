import MarkdownLayout.Command.Arguments
import MarkdownLayout.Command.Files
import MarkdownLayout.Document.Rendering
import MarkdownLayout.Mdast.Reader
import MarkdownLayout.Options.Config

set_option autoImplicit false

namespace MarkdownLayout.Command

inductive Failure where
  | inputMissing (path : String)
  | inputUnreadable (path : String)
  | inputMalformed (path : String)
  | configUnreadable (path : String)
  | configMalformed (path : String)
  | notRendered (fault : Fault)
  | outputUnwritable (path : String)
  deriving DecidableEq, Repr

namespace Failure

def message : Failure → String
  | .inputMissing path => "Input file not found: " ++ path
  | .inputUnreadable path => "Failed to read input file: " ++ path
  | .inputMalformed path => "Failed to parse mdast JSON: " ++ path
  | .configUnreadable path => "Failed to read config: " ++ path
  | .configMalformed path => "Failed to parse config: " ++ path
  | .notRendered _ => "Failed to render document"
  | .outputUnwritable path => "Failed to write output file: " ++ path

def cause? : Failure → Option Fault
  | .notRendered fault => some fault
  | _ => none

end Failure

inductive Outcome where
  | usage
  | failed (failure : Failure)
  | done (printed : String)

namespace Outcome

def code : Outcome → UInt8
  | .usage => 2
  | .failed _ => 1
  | .done _ => 0

def printed : Outcome → String
  | .usage | .failed _ => ""
  | .done text => text

def failure? : Outcome → Option Failure
  | .failed failure => some failure
  | _ => none

end Outcome

def configName : String := "mdpdf.toml"

def versionText : String := "mdpdf 0.1.0\n"

def helpText : String :=
  "Markdown trees to PDF document definitions\n\n"
    ++ "mdpdf render [--output FILE] [--config FILE] [--mode buffer|blob] [--pretty] INPUT\n"
    ++ "mdpdf styles [--config FILE]\n"

variable {m : Type → Type} [Monad m] [FileAccess m]

abbrev Run (m : Type → Type) (α : Type) := ExceptT Failure m α

def readText (path : String) (failure : Failure) : Run m String := do
  match (← FileAccess.read path : Option ByteArray).bind String.fromUTF8? with
  | some text => pure text
  | none => throw failure

def readConfig (path : String) : Run m Config := do
  match Config.readToml? (← readText path (.configUnreadable path)) with
  | some config => pure config
  | none => throw (.configMalformed path)

def findConfig (path? : Option String) (default : String) : Run m Config := do
  match path? with
  | some path => readConfig path
  | none => if ← FileAccess.present default then readConfig default else pure .default

def readInput (path : String) : Run m Mdast.Root := do
  if ← FileAccess.present path then
    match Mdast.Root.read? (← readText path (.inputUnreadable path)) with
    | some root => pure root
    | none => throw (.inputMalformed path)
  else throw (.inputMissing path)

def report (path : String) (size : Nat) (rendered : Rendered) : String :=
  let mediaType :=
    match rendered.mediaType? with
    | some mediaType => "  Type: " ++ mediaType ++ "\n"
    | none => ""
  "Render complete!\n" ++ "  Output: " ++ path ++ "\n" ++ "  Size: " ++ toString size ++ " bytes\n" ++ mediaType

def deliver (rendered : Rendered) : Option String → Run m String
  | none => pure (rendered.text ++ "\n")
  | some path => do
      let bytes := rendered.text.toUTF8
      if ← FileAccess.write path bytes then pure (report path bytes.size rendered)
      else throw (.outputUnwritable path)

def optionsOf (config : Config) (mode : Option OutputMode) : Options :=
  { config.toOptions with output := mode.getD config.options.output }

def render (request : RenderRequest) : Run m String := do
  let root ← readInput request.input
  let config ← findConfig request.config (Path.sibling request.input configName)
  match MarkdownLayout.render root (optionsOf config request.mode) request.indented with
  | .ok rendered => deliver rendered request.output
  | .error fault => throw (.notRendered fault)

def styles (config? : Option String) : Run m String := do
  let config ← findConfig config? (Path.ofNames [".", configName])
  pure ((StyleTable.builtIn.resolve config.options.styles).toJson.prettyText ++ "\n")

def perform : Request → Run m String
  | .version => pure versionText
  | .help => pure helpText
  | .render request => render request
  | .styles config => styles config

def run (arguments : List String) : m Outcome := do
  match Request.ofArguments? arguments with
  | none => pure .usage
  | some request =>
      match ← (perform request).run with
      | .ok printed => pure (.done printed)
      | .error failure => pure (.failed failure)

end MarkdownLayout.Command
