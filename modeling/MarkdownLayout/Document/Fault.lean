import MarkdownLayout.Content.Conversion

set_option autoImplicit false

namespace MarkdownLayout

inductive Fault where
  | misplaced (kind : String)
  | imageNotFound (url : String)
  | renderFailed (reason : String)
  | json (reason : String)
  deriving DecidableEq, Repr

def Fault.message : Fault → String
  | .misplaced kind => kind ++ " reached outside of its parent table"
  | .imageNotFound url => "Image not found: " ++ url
  | .renderFailed reason => "Render failed: " ++ reason
  | .json reason => "JSON error: " ++ reason

end MarkdownLayout
