import MarkdownLayout.Dictionary

set_option autoImplicit false

namespace MarkdownLayout

inductive Json.Number where
  | int (value : Int)
  | float (value : Float)

inductive Json where
  | null
  | bool (value : Bool)
  | number (value : Json.Number)
  | string (value : String)
  | array (items : List Json)
  | object (members : List (String × Json))

namespace Json

instance : Inhabited Json := ⟨.null⟩

abbrev Members := List (String × Json)

def int (value : Int) : Json := .number (.int value)

def float (value : Float) : Json := .number (.float value)

def Number.same : Number → Number → Bool
  | .int a, .int b => a == b
  | .float a, .float b => a == b
  | _, _ => false

mutual
def same : Json → Json → Bool
  | .null, .null => true
  | .bool a, .bool b => a == b
  | .number a, .number b => a.same b
  | .string a, .string b => a == b
  | .array a, .array b => sameItems a b
  | .object a, .object b => sameMembers a b
  | _, _ => false
def sameItems : List Json → List Json → Bool
  | [], [] => true
  | a :: as, b :: bs => same a b && sameItems as bs
  | _, _ => false
def sameMembers : Members → Members → Bool
  | [], [] => true
  | (name, a) :: as, (other, b) :: bs => name == other && same a b && sameMembers as bs
  | _, _ => false
end

instance : BEq Json := ⟨same⟩

mutual
def ordered : Json → Json
  | .array items => .array (orderedItems items)
  | .object members => .object (Dictionary.ofList (orderedMembers members)).entries
  | json => json
def orderedItems : List Json → List Json
  | [] => []
  | json :: rest => ordered json :: orderedItems rest
def orderedMembers : Members → Members
  | [] => []
  | (name, json) :: rest => (name, ordered json) :: orderedMembers rest
end

mutual
def depth : Json → Nat
  | .array items => depthItems items + 1
  | .object members => depthMembers members + 1
  | _ => 0
def depthItems : List Json → Nat
  | [] => 0
  | json :: rest => max (depth json) (depthItems rest)
def depthMembers : Members → Nat
  | [] => 0
  | (_, json) :: rest => max (depth json) (depthMembers rest)
end

end Json

end MarkdownLayout
