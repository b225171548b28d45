import MarkdownLayout.Document.Images

set_option autoImplicit false

namespace MarkdownLayout

inductive OutputMode where
  | buffer
  | blob
  deriving DecidableEq, Repr

namespace OutputMode

def name : OutputMode → String
  | .buffer => "buffer"
  | .blob => "blob"

def ofName? : String → Option OutputMode
  | "buffer" => some .buffer
  | "blob" => some .blob
  | _ => none

end OutputMode

structure DocumentInfo where
  title : Option String
  author : Option String
  subject : Option String
  keywords : Option String
  creator : Option String
  producer : Option String

inductive PageOrientation where
  | portrait
  | landscape
  deriving DecidableEq, Repr

namespace PageOrientation

def name : PageOrientation → String
  | .portrait => "portrait"
  | .landscape => "landscape"

def ofName? : String → Option PageOrientation
  | "portrait" => some .portrait
  | "landscape" => some .landscape
  | _ => none

end PageOrientation

inductive PageSize where
  | named (name : String)
  | custom (width height : Float)

inductive PrintQuality where
  | low
  | high
  deriving DecidableEq, Repr

namespace PrintQuality

def name : PrintQuality → String
  | .low => "lowResolution"
  | .high => "highResolution"

def ofName? : String → Option PrintQuality
  | "lowResolution" => some .low
  | "highResolution" => some .high
  | _ => none

end PrintQuality

structure Permissions where
  printing : Option PrintQuality
  modifying : Option Bool
  copying : Option Bool
  annotating : Option Bool
  fillingForms : Option Bool
  contentAccessibility : Option Bool
  documentAssembly : Option Bool

structure WatermarkStyle where
  text : String
  color : Option String
  opacity : Option Float
  bold : Option Bool
  italics : Option Bool
  fontSize : Option Float
  angle : Option Float

inductive Watermark where
  | text (text : String)
  | styled (style : WatermarkStyle)

structure Options where
  output : OutputMode
  info : Option DocumentInfo
  pageMargins : Option Margin
  pageOrientation : Option PageOrientation
  pageSize : Option PageSize
  userPassword : Option String
  ownerPassword : Option String
  permissions : Option Permissions
  version : Option String
  watermark : Option Watermark
  defaultStyle : Option Style
  styles : StyleTable
  preventOrphans : Bool
  transform : LinkTransform
  -- Where there is none, images keep their targets and no data is looked for.
  resolver : Option ImageResolver

namespace Options

def default : Options where
  output := .buffer
  info := none
  pageMargins := none
  pageOrientation := none
  pageSize := none
  userPassword := none
  ownerPassword := none
  permissions := none
  version := none
  watermark := none
  defaultStyle := none
  styles := .empty
  preventOrphans := false
  transform := .identity
  resolver := none

end Options

end MarkdownLayout
