import MarkdownLayout.Text.Letter
import MarkdownLayout.Text.Mark
import MarkdownLayout.Text.Number
import MarkdownLayout.Text.Lowercase

set_option autoImplicit false

namespace MarkdownLayout

def isSlugChar (c : Char) : Bool :=
  isLetter c || isMark c || isNumber c || isConnector c || c = ' ' || c = '-'

def hyphenate (c : Char) : Char := if c = ' ' then '-' else c

def slugify (text : String) : String :=
  .ofList (((lowercaseText text.toList).filter isSlugChar).map hyphenate)

end MarkdownLayout
