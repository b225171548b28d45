import MarkdownLayout.Dictionary
import MarkdownLayout.Slug.Basic

set_option autoImplicit false

namespace MarkdownLayout

structure Slugger where
  counters : Dictionary Nat

namespace Slugger

def fresh : Slugger := ⟨.empty⟩

def issued (s : Slugger) (slug : String) : Bool := (s.counters.get? slug).isSome

def size (s : Slugger) : Nat := s.counters.entries.length

def numbered (base : String) (number : Nat) : String := base ++ "-" ++ toString number

def freeNumber (s : Slugger) (base : String) (tries number : Nat) : Nat :=
  match tries with
  | 0 => number
  | tries + 1 => if s.issued (numbered base number) then s.freeNumber base tries (number + 1) else number

-- Issues the slug of `text`. As many tries as there are issued slugs reach a free number, because
-- the issued slugs include the unnumbered one.
def slug (s : Slugger) (text : String) : String × Slugger :=
  let base := slugify text
  match s.counters.get? base with
  | none => (base, ⟨s.counters.insert base 0⟩)
  | some last =>
      let number := s.freeNumber base s.size (last + 1)
      let slug := numbered base number
      (slug, ⟨(s.counters.insert base number).insert slug 0⟩)

def slugAll (s : Slugger) : List String → List String × Slugger
  | [] => ([], s)
  | text :: rest =>
      let (slug, next) := s.slug text
      let (slugs, last) := next.slugAll rest
      (slug :: slugs, last)

end Slugger

end MarkdownLayout
