import MarkdownLayout.Options.Basic

set_option autoImplicit false

namespace MarkdownLayout

structure Definition where
  info : Option DocumentInfo
  keepsHeadings : Bool
  pageMargins : Option Margin
  pageOrientation : Option PageOrientation
  pageSize : Option PageSize
  userPassword : Option String
  ownerPassword : Option String
  permissions : Option Permissions
  version : Option String
  watermark : Option Watermark
  content : List Content
  images : ImageMap
  defaultStyle : Style
  styles : StyleTable

namespace Definition

def baseStyle : Style := { Style.empty with font := some "Helvetica" }

def contextOf (options : Options) (images : ImageMap) : Context where
  images
  styles := StyleTable.builtIn.resolve options.styles
  transform := options.transform
  preventOrphans := options.preventOrphans

def contentOf (root : Mdast.Root) (options : Options) (images : ImageMap) : Except Fault (List Content) :=
  match ((contextOf options images).contentOf .plain root.children .fresh).1 with
  | .ok content => .ok content
  | .error part => .error (.misplaced part.kind.name)

def ofRoot (root : Mdast.Root) (options : Options) (images : ImageMap) : Except Fault Definition := do
  let content ← contentOf root options images
  pure
    { info := options.info
      keepsHeadings := options.preventOrphans
      pageMargins := options.pageMargins
      pageOrientation := options.pageOrientation
      pageSize := options.pageSize
      userPassword := options.userPassword
      ownerPassword := options.ownerPassword
      permissions := options.permissions
      version := options.version
      watermark := options.watermark
      content
      images
      defaultStyle := (options.defaultStyle.map baseStyle.merge).getD baseStyle
      styles := (contextOf options images).styles }

end Definition

end MarkdownLayout
