import MarkdownLayout.Json.Basic

/-!
The tables of a TOML document while it is read. A table is defined once: by a header, by a header
further in, or by dotted keys, and what may still be added to it depends on which of these it was.
-/

set_option autoImplicit false

namespace MarkdownLayout.Toml

inductive Origin where
  | header
  | implied
  | dotted
  deriving DecidableEq

inductive Branch where
  | value (json : Json)
  | table (origin : Origin) (entries : List (String × Branch))
  | tables (elements : List (List (String × Branch)))

abbrev Entries := List (String × Branch)

namespace Entries

def replace (entries : Entries) (key : String) (branch : Branch) : Entries :=
  entries.map fun (name, old) => if name = key then (name, branch) else (name, old)

-- Changes the table at the end of `path`. Missing tables on the way are made; dotted keys do not
-- enter tables that have a header.
def update (dotted : Bool) (edit : Origin → Entries → Option Entries) :
    List String → Origin → Entries → Option Entries
  | [], origin, entries => edit origin entries
  | key :: path, _, entries =>
      match entries.lookup key with
      | none => do
          let origin := if dotted then .dotted else .implied
          let inner ← update dotted edit path origin []
          some (entries ++ [(key, .table origin inner)])
      | some (.value _) => none
      | some (.table origin inner) =>
          if dotted ∧ origin = .header then none
          else do
            let inner ← update dotted edit path origin inner
            some (entries.replace key (.table origin inner))
      | some (.tables elements) => do
          let inner ← update dotted edit path .header (elements.getLastD [])
          some (entries.replace key (.tables (elements.dropLast ++ [inner])))

def define (entries : Entries) (path : List String) (key : String) (json : Json) : Option Entries :=
  update true
    (fun origin inner =>
      if path.isEmpty = decide (origin = .dotted) then none
      else if (inner.lookup key).isSome then none
      else some (inner ++ [(key, .value json)]))
    path .header entries

def addTable (entries : Entries) (path : List String) (key : String)
    (fill : Entries → Option Entries) : Option Entries :=
  update false
    (fun _ outer =>
      match outer.lookup key with
      | none => do some (outer ++ [(key, .table .header (← fill []))])
      | some (.table .implied inner) => do some (outer.replace key (.table .header (← fill inner)))
      | _ => none)
    path .header entries

def addElement (entries : Entries) (path : List String) (key : String)
    (fill : Entries → Option Entries) : Option Entries :=
  update false
    (fun _ outer =>
      match outer.lookup key with
      | none => do some (outer ++ [(key, .tables [← fill []])])
      | some (.tables elements) => do some (outer.replace key (.tables (elements ++ [← fill []])))
      | _ => none)
    path .header entries

end Entries

mutual
def Branch.toJson : Branch → Json
  | .value json => json
  | .table _ entries => .object (entriesJson entries)
  | .tables elements => .array (elementsJson elements)
def entriesJson : Entries → Json.Members
  | [] => []
  | (key, branch) :: rest => (key, branch.toJson) :: entriesJson rest
def elementsJson : List Entries → List Json
  | [] => []
  | entries :: rest => .object (entriesJson entries) :: elementsJson rest
end

end MarkdownLayout.Toml
