import MarkdownLayout.Json.Basic

set_option autoImplicit false

namespace MarkdownLayout.Json

variable {α : Type}

structure Leniency where
  surplus : Bool
  payload : Json → Bool

def Leniency.plain : Leniency := ⟨false, fun | .null => true | _ => false⟩

def Leniency.nested : Leniency := ⟨false, fun | .null => true | .object [] => true | _ => false⟩

def Leniency.settings : Leniency := ⟨true, fun | .object [] => true | .array [] => true | _ => false⟩

def distinct (names : List String) (members : Members) : Option Members :=
  if names.all fun name => members.countP (fun member => member.1 == name) ≤ 1 then some members
  else none

def named (l : Leniency) (names : List String) (items : List Json) : Option Members :=
  if l.surplus ∨ items.length ≤ names.length then some (names.zip items) else none

def record? (l : Leniency) (names : List String) : Json → Option Members
  | .object members => distinct names members
  | .array items => named l names items
  | _ => none

def required (read : Json → Option α) (name : String) (members : Members) : Option α :=
  (members.lookup name).bind read

def orElse (default : α) (read : Json → Option α) (name : String) (members : Members) : Option α :=
  match members.lookup name with
  | none => some default
  | some json => read json

def nullable (read : Json → Option α) : Json → Option (Option α)
  | .null => some none
  | json => (read json).map some

def optional (read : Json → Option α) : String → Members → Option (Option α) := orElse none (nullable read)

def string? : Json → Option String
  | .string text => some text
  | _ => none

def bool? : Json → Option Bool
  | .bool b => some b
  | _ => none

def float? : Json → Option Float
  | .number (.int n) => some (.ofInt n)
  | .number (.float x) => some x
  | _ => none

def natBelow? (limit : Nat) : Json → Option Nat
  | .number (.int n) => if 0 ≤ n ∧ n < limit then some n.toNat else none
  | _ => none

def byte? (json : Json) : Option UInt8 := (natBelow? UInt8.size json).map Nat.toUInt8

def word? (json : Json) : Option UInt32 := (natBelow? UInt32.size json).map Nat.toUInt32

def array? (read : Json → Option α) : Json → Option (List α)
  | .array items => items.mapM read
  | _ => none

def alternative? (l : Leniency) (ofName? : String → Option α) : Json → Option α
  | .string name => ofName? name
  | .object [(name, json)] => if l.payload json then ofName? name else none
  | _ => none

def dictionary? (read : Json → Option α) : Json → Option (Dictionary α)
  | .object members => do
      let entries ← members.mapM fun (name, json) => (read json).map fun a => (name, a)
      some (.ofList entries)
  | _ => none

end MarkdownLayout.Json
