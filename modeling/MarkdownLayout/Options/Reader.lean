import MarkdownLayout.Json.Record
import MarkdownLayout.Options.Basic

set_option autoImplicit false

namespace MarkdownLayout

open Json

namespace DocumentInfo

def fields : List String := ["title", "author", "subject", "keywords", "creator", "producer"]

def ofJson? (l : Leniency) (json : Json) : Option DocumentInfo := do
  let members ← record? l fields json
  let title ← Json.optional string? "title" members
  let author ← Json.optional string? "author" members
  let subject ← Json.optional string? "subject" members
  let keywords ← Json.optional string? "keywords" members
  let creator ← Json.optional string? "creator" members
  let producer ← Json.optional string? "producer" members
  some { title, author, subject, keywords, creator, producer }

end DocumentInfo

def PageSize.ofJson? : Json → Option PageSize
  | .string name => some (.named name)
  | .object members => do
      let members ← distinct ["width", "height"] members
      some (.custom (← required float? "width" members) (← required float? "height" members))
  | _ => none

namespace Permissions

def fields : List String :=
  ["printing", "modifying", "copying", "annotating", "fillingForms", "contentAccessibility",
    "documentAssembly"]

def ofJson? (l : Leniency) (json : Json) : Option Permissions := do
  let members ← record? l fields json
  let printing ← Json.optional (alternative? l PrintQuality.ofName?) "printing" members
  let modifying ← Json.optional bool? "modifying" members
  let copying ← Json.optional bool? "copying" members
  let annotating ← Json.optional bool? "annotating" members
  let fillingForms ← Json.optional bool? "fillingForms" members
  let contentAccessibility ← Json.optional bool? "contentAccessibility" members
  let documentAssembly ← Json.optional bool? "documentAssembly" members
  some { printing, modifying, copying, annotating, fillingForms, contentAccessibility, documentAssembly }

end Permissions

namespace WatermarkStyle

def fields : List String := ["text", "color", "opacity", "bold", "italics", "fontSize", "angle"]

def ofJson? (json : Json) : Option WatermarkStyle := do
  let members ← record? .nested fields json
  let text ← required string? "text" members
  let color ← Json.optional string? "color" members
  let opacity ← Json.optional float? "opacity" members
  let bold ← Json.optional bool? "bold" members
  let italics ← Json.optional bool? "italics" members
  let fontSize ← Json.optional float? "fontSize" members
  let angle ← Json.optional float? "angle" members
  some { text, color, opacity, bold, italics, fontSize, angle }

end WatermarkStyle

def Watermark.ofJson? : Json → Option Watermark
  | .string s => some (.text s)
  | json => (WatermarkStyle.ofJson? json).map .styled

namespace Options

def ofMembers? (l : Leniency) (members : Members) : Option Options := do
  let output ← orElse .buffer (alternative? l OutputMode.ofName?) "output" members
  let info ← Json.optional (DocumentInfo.ofJson? l) "info" members
  let pageMargins ← Json.optional Margin.ofJson? "page_margins" members
  let pageOrientation ← Json.optional (alternative? l PageOrientation.ofName?) "page_orientation" members
  let pageSize ← Json.optional PageSize.ofJson? "page_size" members
  let userPassword ← Json.optional string? "user_password" members
  let ownerPassword ← Json.optional string? "owner_password" members
  let permissions ← Json.optional (Permissions.ofJson? l) "permissions" members
  let version ← Json.optional string? "version" members
  let watermark ← Json.optional Watermark.ofJson? "watermark" members
  let defaultStyle ← Json.optional (Style.ofJson? l) "default_style" members
  let styles ← orElse .empty (StyleTable.ofJson? l) "styles" members
  let preventOrphans ← orElse false bool? "prevent_orphans" members
  some { Options.default with
    output, info, pageMargins, pageOrientation, pageSize, userPassword, ownerPassword, permissions, version,
    watermark, defaultStyle, styles, preventOrphans }

end Options

end MarkdownLayout
