import MarkdownLayout.Content.Basic

set_option autoImplicit false

namespace MarkdownLayout

def breaksBefore (current : Content) (followingOnPage : List Content) : Bool :=
  current.headlineLevel == some 1 && followingOnPage.isEmpty

def pageBreaks (window : Nat) : List Content → List Bool
  | [] => []
  | current :: rest => breaksBefore current (rest.take window) :: pageBreaks window rest

end MarkdownLayout
