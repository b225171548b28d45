import MarkdownLayout.Decimal.Layout
import MarkdownLayout.Json.Basic
import MarkdownLayout.Json.Quoted

set_option autoImplicit false

namespace MarkdownLayout.Json

def numberLayout : DecimalLayout := ⟨-5, 16⟩

def quote (text : String) : List Char := '"' :: Quoted.encode text.toList ++ ['"']

-- Integers are written without a point; what is not finite is written as null.
def Number.print : Number → List Char
  | .int value => (toString value).toList
  | .float value => (numberLayout.text? value).getD ['n', 'u', 'l', 'l']

def printScalar : Json → List Char
  | .null => ['n', 'u', 'l', 'l']
  | .bool true => ['t', 'r', 'u', 'e']
  | .bool false => ['f', 'a', 'l', 's', 'e']
  | .number n => n.print
  | .string s => quote s
  | .array _ => ['[', ']']
  | .object _ => ['\x7b', '\x7d']

mutual
def print : Json → List Char
  | .array (json :: rest) => '[' :: print json ++ printItems rest
  | .object ((name, json) :: rest) => '\x7b' :: quote name ++ ':' :: print json ++ printMembers rest
  | json => printScalar json
def printItems : List Json → List Char
  | [] => [']']
  | json :: rest => ',' :: print json ++ printItems rest
def printMembers : Members → List Char
  | [] => ['\x7d']
  | (name, json) :: rest => ',' :: quote name ++ ':' :: print json ++ printMembers rest
end

def newline (level : Nat) : List Char := '\n' :: List.replicate (2 * level) ' '

mutual
def pretty (level : Nat) : Json → List Char
  | .array (json :: rest) =>
      '[' :: newline (level + 1) ++ pretty (level + 1) json ++ prettyItems level rest
  | .object ((name, json) :: rest) =>
      '\x7b' :: newline (level + 1) ++ quote name ++ ':' :: ' ' :: pretty (level + 1) json
        ++ prettyMembers level rest
  | json => printScalar json
def prettyItems (level : Nat) : List Json → List Char
  | [] => newline level ++ [']']
  | json :: rest => ',' :: newline (level + 1) ++ pretty (level + 1) json ++ prettyItems level rest
def prettyMembers (level : Nat) : Members → List Char
  | [] => newline level ++ ['\x7d']
  | (name, json) :: rest =>
      ',' :: newline (level + 1) ++ quote name ++ ':' :: ' ' :: pretty (level + 1) json
        ++ prettyMembers level rest
end

def compactText (json : Json) : String := .ofList json.print

def prettyText (json : Json) : String := .ofList (json.pretty 0)

end MarkdownLayout.Json
