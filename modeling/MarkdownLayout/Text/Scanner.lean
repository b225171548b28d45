set_option autoImplicit false

namespace MarkdownLayout

abbrev Scanner (α : Type) := StateT (List Char) Option α

namespace Scanner

variable {α β : Type}

def fail : Scanner α := fun _ => none

def peek : Scanner (Option Char) := fun cs => some (cs.head?, cs)

def satisfying (p : Char → Bool) : Scanner Char
  | [] => none
  | c :: rest => if p c then some (c, rest) else none

def char (c : Char) : Scanner Unit
  | [] => none
  | d :: rest => if d = c then some ((), rest) else none

def literal : List Char → Scanner Unit
  | [] => pure ()
  | c :: text => do
      char c
      literal text

def word (text : String) : Scanner Unit := literal text.toList

def takeWhile (p : Char → Bool) : Scanner (List Char) := fun cs => some (cs.takeWhile p, cs.dropWhile p)

def takeSome (p : Char → Bool) : Scanner (List Char) := do
  let taken ← takeWhile p
  if taken.isEmpty then fail else pure taken

def attempt (p : Scanner α) : Scanner (Option α) := fun cs =>
  match p cs with
  | some (a, rest) => some (some a, rest)
  | none => some (none, cs)

def many (bound : Nat) (p : Scanner α) : Scanner (List α) := fun cs =>
  match bound with
  | 0 => some ([], cs)
  | bound + 1 =>
      match p cs with
      | none => some ([], cs)
      | some (a, rest) => (many bound p rest).map fun (found, last) => (a :: found, last)

def repeated (p : Scanner α) : Scanner (List α) := fun cs => many cs.length p cs

def atEnd : Scanner Unit
  | [] => some ((), [])
  | _ :: _ => none

def separated (bound : Nat) (separator : Scanner β) (item : Scanner α) : Scanner (List α) := do
  let first ← item
  let others ← many bound do
    let _ ← separator
    item
  pure (first :: others)

def whole (p : Scanner α) (text : List Char) : Option α :=
  match p text with
  | some (a, []) => some a
  | _ => none

end Scanner

end MarkdownLayout
