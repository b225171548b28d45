import MarkdownLayout.Toml.Lexeme
import MarkdownLayout.Toml.Table

set_option autoImplicit false

namespace MarkdownLayout.Toml

open Scanner

def dateName : String := "$__toml_private_datetime"

def nesting : Nat := 79

def simpleKey : Scanner String :=
  basicString <|> literalString
    <|> String.ofList <$> takeSome fun c => c.isAlphanum || c = '_' || c = '-'

def key : Scanner (List String × String) := fun cs =>
  let part := do
    blanks
    let name ← simpleKey
    blanks
    pure name
  match separated cs.length (char '.') part cs with
  | some (parts, rest) =>
      match parts.getLast? with
      | some last => if parts.length ≤ nesting then some ((parts.dropLast, last), rest) else none
      | none => none
  | none => none

def scalar : Scanner Json := do
  match ← peek with
  | some 't' => do
      word "true"
      pure (.bool true)
  | some 'f' => do
      word "false"
      pure (.bool false)
  | _ =>
      Json.string <$> anyString
        <|> (fun text => Json.object [(dateName, .string text)]) <$> datetime
        <|> Json.float <$> fractional
        <|> Json.float <$> special
        <|> Json.int <$> integer

def arrayItems (item : Scanner Json) : Scanner (List Json) := do
  char '['
  let items ← attempt (do
    let first ← (do gap; item)
    let others ← repeated (do gap; char ','; gap; item)
    gap
    let _ ← attempt (char ',')
    pure (first :: others))
  gap
  char ']'
  pure (items.getD [])

def inlineTable (item : Scanner Json) : Scanner Json := do
  let pair := do
    let (path, last) ← key
    char '='
    blanks
    let json ← item
    blanks
    pure (path, last, json)
  char '\x7b'
  let pairs ← attempt (separated (← get).length (char ',') pair)
  blanks
  char '\x7d'
  match (pairs.getD []).foldlM (fun entries (path, last, json) => Entries.define entries path last json) [] with
  | some entries => pure (.object (entriesJson entries))
  | none => fail

def value : Nat → Scanner Json
  | 0 => scalar
  | levels + 1 => do
      match ← peek with
      | some '[' => Json.array <$> arrayItems (value levels)
      | some '\x7b' => inlineTable (value levels)
      | _ => scalar

inductive Statement where
  | blank
  | pair (path : List String) (key : String) (value : Json)
  | header (path : List String) (key : String)
  | elementHeader (path : List String) (key : String)

def statement : Scanner Statement := do
  blanks
  match ← peek with
  | some '#' | some '\n' | some '\r' => do
      let _ ← attempt comment
      newline <|> atEnd
      pure .blank
  | some '[' =>
      (do
        word "[["
        let (path, last) ← key
        word "]]"
        lineEnd
        pure (.elementHeader path last))
      <|> (do
        char '['
        let (path, last) ← key
        char ']'
        lineEnd
        pure (.header path last))
  | _ => do
      let (path, last) ← key
      char '='
      blanks
      let json ← value nesting
      lineEnd
      pure (.pair path last json)

def document : Scanner (List Statement) := do
  let _ ← attempt (char '\ufeff')
  let statements ← repeated statement
  blanks
  pure statements

def addPairs : List Statement → Entries → Option Entries
  | .pair path key json :: rest, entries => (entries.define path key json).bind (addPairs rest)
  | .blank :: rest, entries => addPairs rest entries
  | _, entries => some entries

def addTables : List Statement → Entries → Option Entries
  | [], entries => some entries
  | .header path key :: rest, entries => (entries.addTable path key (addPairs rest)).bind (addTables rest)
  | .elementHeader path key :: rest, entries =>
      (entries.addElement path key (addPairs rest)).bind (addTables rest)
  | _ :: rest, entries => addTables rest entries

def read? (text : String) : Option Json.Members := do
  let statements ← whole document text.toList
  let top ← addPairs statements []
  let entries ← addTables statements top
  some (entriesJson entries)

end MarkdownLayout.Toml
