set_option autoImplicit false

namespace MarkdownLayout

inductive Notice where
  | noImageData (url : String)
  deriving DecidableEq, Repr

def Notice.message : Notice → String
  | .noImageData url => "No image data resolved for " ++ url

structure Noted (α : Type) where
  value : α
  notices : List Notice

namespace Noted

def note (notice : Notice) : Noted Unit := ⟨(), [notice]⟩

instance : Monad Noted where
  pure value := ⟨value, []⟩
  bind first next :=
    let rest := next first.value
    ⟨rest.value, first.notices ++ rest.notices⟩

instance : LawfulMonad Noted := LawfulMonad.mk' Noted
  (fun noted => congrArg (Noted.mk noted.value) (List.append_nil noted.notices))
  (fun _ _ => rfl)
  (fun noted next after => congrArg (Noted.mk (after (next noted.value).value).value) (List.append_assoc _ _ _))

end Noted

end MarkdownLayout
