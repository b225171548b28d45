import MarkdownLayout.Command.Run

set_option autoImplicit false

namespace MarkdownLayout

def succeeds {α : Type} (action : IO α) : IO Bool :=
  try
    let _ ← action
    pure true
  catch _ => pure false

instance : FileAccess IO where
  present path := succeeds (IO.FS.realPath path)
  read path := try some <$> IO.FS.readBinFile path catch _ => pure none
  write path bytes := succeeds (IO.FS.writeBinFile path bytes)

end MarkdownLayout

open MarkdownLayout in
def main (arguments : List String) : IO UInt32 := do
  let outcome : Command.Outcome ← Command.run arguments
  match outcome with
  | .usage => IO.eprint Command.helpText
  | .failed failure =>
      IO.eprintln ("Error: " ++ failure.message)
      if let some fault := failure.cause? then
        IO.eprintln ("\nCaused by:\n    " ++ fault.message)
  | .done printed => IO.print printed
  return outcome.code.toUInt32
