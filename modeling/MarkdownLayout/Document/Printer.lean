import MarkdownLayout.Content.Printer
import MarkdownLayout.Document.Definition
import MarkdownLayout.Json.Printer

set_option autoImplicit false

namespace MarkdownLayout

open Style (property)

def DocumentInfo.toJson (info : DocumentInfo) : Json :=
  .object
    (property "title" .string info.title
      ++ property "author" .string info.author
      ++ property "subject" .string info.subject
      ++ property "keywords" .string info.keywords
      ++ property "creator" .string info.creator
      ++ property "producer" .string info.producer)

def PageSize.toJson : PageSize → Json
  | .named name => .string name
  | .custom width height => .object [("width", .float width), ("height", .float height)]

def Permissions.toJson (permissions : Permissions) : Json :=
  .object
    (property "printing" (fun quality => .string quality.name) permissions.printing
      ++ property "modifying" .bool permissions.modifying
      ++ property "copying" .bool permissions.copying
      ++ property "annotating" .bool permissions.annotating
      ++ property "fillingForms" .bool permissions.fillingForms
      ++ property "contentAccessibility" .bool permissions.contentAccessibility
      ++ property "documentAssembly" .bool permissions.documentAssembly)

def WatermarkStyle.toJson (style : WatermarkStyle) : Json :=
  .object
    (("text", .string style.text)
      :: (property "color" .string style.color
        ++ property "opacity" .float style.opacity
        ++ property "bold" .bool style.bold
        ++ property "italics" .bool style.italics
        ++ property "fontSize" .float style.fontSize
        ++ property "angle" .float style.angle))

def Watermark.toJson : Watermark → Json
  | .text s => .string s
  | .styled style => style.toJson

def ImageMap.toJson (images : ImageMap) : Json :=
  .object (images.entries.map fun (url, data) => (url, .string data))

namespace Definition

def toJson (definition : Definition) : Json :=
  .object
    (property "info" DocumentInfo.toJson definition.info
      ++ property "pageMargins" Margin.toJson definition.pageMargins
      ++ property "pageOrientation" (fun o => .string o.name) definition.pageOrientation
      ++ property "pageSize" PageSize.toJson definition.pageSize
      ++ property "userPassword" .string definition.userPassword
      ++ property "ownerPassword" .string definition.ownerPassword
      ++ property "permissions" Permissions.toJson definition.permissions
      ++ property "version" .string definition.version
      ++ property "watermark" Watermark.toJson definition.watermark
      ++ [("content", .array (Content.itemsJson definition.content)),
        ("images", ImageMap.toJson definition.images),
        ("defaultStyle", definition.defaultStyle.toJson),
        ("styles", definition.styles.toJson)])

def text (definition : Definition) (indented : Bool) : String :=
  if indented then definition.toJson.prettyText else definition.toJson.compactText

end Definition

end MarkdownLayout
