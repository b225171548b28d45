import MarkdownLayout.Json.Numeral
import MarkdownLayout.Json.Quoted

/-!
Reading JSON text. A value that is read may nest arrays and objects 127 levels deep. Members of the
outermost object that nobody asks for can be skimmed: their spelling is checked, but not their depth
nor whether their strings and numbers can be represented.
-/

set_option autoImplicit false

namespace MarkdownLayout.Json

open Scanner

def isBlank (c : Char) : Bool := c = ' ' || c = '\t' || c = '\n' || c = '\r'

def blanks : Scanner Unit := do
  let _ ← takeWhile isBlank
  pure ()

structure Reading where
  text : List Char → Option String
  number : Numeral → Option Number

def Reading.full : Reading := ⟨fun inside => (Quoted.decode inside).map String.ofList, Numeral.number?⟩

def Reading.skim : Reading :=
  ⟨fun inside => if Quoted.isSpelled inside then some "" else none, fun _ => some (.int 0)⟩

namespace Reading

def quoted (r : Reading) : Scanner String := do
  char '"'
  let inside ← Quoted.split
  match r.text inside with
  | some text => pure text
  | none => fail

def scalar (r : Reading) : Scanner Json := do
  match ← peek with
  | some '"' => Json.string <$> r.quoted
  | some 'n' => do
      word "null"
      pure .null
  | some 't' => do
      word "true"
      pure (.bool true)
  | some 'f' => do
      word "false"
      pure (.bool false)
  | _ =>
      match r.number (← Numeral.scan) with
      | some n => pure (.number n)
      | none => fail

def enclosed {α : Type} (bound : Nat) (opening closing : Char) (item : Scanner α) : Scanner (List α) := do
  char opening
  blanks
  if (← peek) = some closing then
    char closing
    pure []
  else
    let items ← separated bound (do blanks; char ','; blanks) item
    blanks
    char closing
    pure items

def member (value : String → Scanner Json) : Scanner (String × Json) := do
  let name ← Reading.full.quoted
  blanks
  char ':'
  blanks
  let json ← value name
  pure (name, json)

def skimmedMember (value : Scanner Json) : Scanner (String × Json) := do
  let name ← Reading.skim.quoted
  blanks
  char ':'
  blanks
  let json ← value
  pure (name, json)

end Reading

-- A value with at most `levels` levels of arrays and objects, each of at most `bound + 1` items.
def value (bound : Nat) : Nat → Scanner Json
  | 0 => Reading.full.scalar
  | levels + 1 => do
      match ← peek with
      | some '[' => Json.array <$> Reading.enclosed bound '[' ']' (value bound levels)
      | some '{' => Json.object <$> Reading.enclosed bound '{' '}' (Reading.member fun _ => value bound levels)
      | _ => Reading.full.scalar

def skimmed (bound : Nat) : Nat → Scanner Json
  | 0 => Reading.skim.scalar
  | levels + 1 => do
      match ← peek with
      | some '[' => Json.array <$> Reading.enclosed bound '[' ']' (skimmed bound levels)
      | some '{' => Json.object <$> Reading.enclosed bound '{' '}' (Reading.skimmedMember (skimmed bound levels))
      | _ => Reading.skim.scalar

def nesting : Nat := 127

def between (p : Scanner Json) : Scanner Json := do
  blanks
  let json ← p
  blanks
  pure json

def read (text : String) : Option Json :=
  let cs := text.toList
  whole (between (value cs.length nesting)) cs

-- The value of a whole text, of whose outermost object only the members in `wanted` are read. The
-- others are skimmed and stand in the value as null.
def readMembers (wanted : List String) (text : String) : Option Json :=
  let cs := text.toList
  let bound := cs.length
  let entry := Reading.member fun name =>
    if name ∈ wanted then value bound (nesting - 1)
    else do
      let _ ← skimmed bound bound
      pure .null
  let top : Scanner Json := do
    match ← peek with
    | some '{' => Json.object <$> Reading.enclosed bound '{' '}' entry
    | _ => value bound nesting
  whole (between top) cs

end MarkdownLayout.Json
