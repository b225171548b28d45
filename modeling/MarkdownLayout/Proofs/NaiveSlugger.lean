import Mathlib.Order.Bounds.Basic
import Mathlib.Order.Nat
import MarkdownLayout.Proofs.Slugger

set_option autoImplicit false

namespace MarkdownLayout.Slugger

theorem free_number_exists (issued : List String) (base : String) :
    ∃ number, 1 ≤ number ∧ numbered base number ∉ issued := by
  refine Classical.by_contradiction fun none => ?_
  have taken : ∀ i < issued.length + 1, numbered base (1 + i) ∈ base :: issued := by
    intro i _
    exact List.mem_cons_of_mem base (Decidable.by_contra fun free => none ⟨1 + i, by omega, free⟩)
  exact Nat.lt_irrefl _ (numbered_run_below (base :: issued) base 1 (issued.length + 1) List.mem_cons_self taken)

def leastNumber (issued : List String) (base : String) : Nat := Nat.find (free_number_exists issued base)

def naiveSlug (issued : List String) (text : String) : String :=
  if slugify text ∈ issued then numbered (slugify text) (leastNumber issued (slugify text)) else slugify text

def naiveSlugs (issued : List String) : List String → List String
  | [] => []
  | text :: rest => naiveSlug issued text :: naiveSlugs (issued ++ [naiveSlug issued text]) rest

-- All numbers up to the one that a slug remembers are in use, so a search may start behind it.
def CountsIssued (s : Slugger) : Prop :=
  ∀ base last, s.counters.get? base = some last →
    ∀ number, 1 ≤ number → number ≤ last → s.issued (numbered base number) = true

theorem fresh_counts_issued : CountsIssued .fresh := by
  intro base last counter
  cases counter

theorem slug_counts_issued (s : Slugger) (text : String) (counts : CountsIssued s) :
    CountsIssued (s.slug text).2 := by
  intro base last counter number positive upTo
  rw [issued_after_slug]
  cases before : s.counters.get? (slugify text) with
  | none =>
      rw [slug_first s text before, Dictionary.get_insert] at counter
      by_cases atBase : base = slugify text
      · rw [if_pos atBase] at counter
        obtain rfl : 0 = last := Option.some.inj counter
        omega
      · rw [if_neg atBase] at counter
        exact .inl (counts base last counter number positive upTo)
  | some old =>
      rw [slug_repeated s text old before] at counter ⊢
      rw [Dictionary.get_insert, Dictionary.get_insert] at counter
      by_cases atSlug : base = numbered (slugify text) (s.freeNumber (slugify text) s.size (old + 1))
      · rw [if_pos atSlug] at counter
        obtain rfl : 0 = last := Option.some.inj counter
        omega
      · rw [if_neg atSlug] at counter
        by_cases atBase : base = slugify text
        · rw [if_pos atBase] at counter
          obtain rfl := Option.some.inj counter
          subst atBase
          by_cases counted : number ≤ old
          · exact .inl (counts _ old before number positive counted)
          · by_cases reached : number = s.freeNumber (slugify text) s.size (old + 1)
            · exact .inr (congrArg (numbered (slugify text)) reached)
            · exact .inl (issued_below_free_number s _ s.size (old + 1) number (by omega) (by omega))
        · rw [if_neg atBase] at counter
          exact .inl (counts base last counter number positive upTo)

theorem slug_all_counts_issued (s : Slugger) (texts : List String) (counts : CountsIssued s) :
    CountsIssued (s.slugAll texts).2 := by
  induction texts generalizing s with
  | nil => exact counts
  | cons text rest ih => exact ih _ (slug_counts_issued s text counts)

theorem least_number_is_least (issued : List String) (base : String) :
    IsLeast { number | 1 ≤ number ∧ numbered base number ∉ issued } (leastNumber issued base) :=
  Nat.isLeast_find (free_number_exists issued base)

theorem next_number_is_least (s : Slugger) (issued : List String) (base : String) (last : Nat)
    (counts : CountsIssued s) (holds : ∀ slug, s.issued slug = true ↔ slug ∈ issued)
    (counter : s.counters.get? base = some last) :
    IsLeast { number | 1 ≤ number ∧ numbered base number ∉ issued } (s.freeNumber base s.size (last + 1)) := by
  have taken := counted_issued s base last counter
  constructor
  · have bounds := free_number_bounds s base s.size (last + 1)
    have free := free_number_free s _ _ _ (free_number_within_tries s base (last + 1) taken)
    refine ⟨by omega, ?_⟩
    rw [← holds, free]
    exact Bool.false_ne_true
  · rintro number ⟨positive, unused⟩
    refine Nat.le_of_not_lt fun below => unused ((holds _).mp ?_)
    by_cases counted : number ≤ last
    · exact counts base last counter number positive counted
    · exact issued_below_free_number s base s.size (last + 1) number (by omega) below

theorem slug_is_naive (s : Slugger) (issued : List String) (text : String) (counts : CountsIssued s)
    (holds : ∀ slug, s.issued slug = true ↔ slug ∈ issued) : (s.slug text).1 = naiveSlug issued text := by
  cases counter : s.counters.get? (slugify text) with
  | none =>
      have free : slugify text ∉ issued := by
        rw [← holds, Slugger.issued, counter]
        exact Bool.false_ne_true
      rw [slug_first s text counter, naiveSlug, if_neg free]
  | some last =>
      have taken : slugify text ∈ issued := (holds _).mp (counted_issued s _ last counter)
      have least := next_number_is_least s issued _ last counts holds counter
      rw [slug_repeated s text last counter, naiveSlug, if_pos taken,
        least.unique (least_number_is_least issued (slugify text))]

theorem slug_all_is_naive (s : Slugger) (issued texts : List String) (counts : CountsIssued s)
    (holds : ∀ slug, s.issued slug = true ↔ slug ∈ issued) : (s.slugAll texts).1 = naiveSlugs issued texts := by
  induction texts generalizing s issued with
  | nil => rfl
  | cons text rest ih =>
      have same := slug_is_naive s issued text counts holds
      have holdsNext : ∀ slug, (s.slug text).2.issued slug = true ↔ slug ∈ issued ++ [naiveSlug issued text] := by
        intro slug
        rw [issued_after_slug, holds, same, List.mem_append, List.mem_singleton]
      rw [slug_all_cons, naiveSlugs, same, ih _ _ (slug_counts_issued s text counts) holdsNext]

theorem fresh_slug_all_holds (texts : List String) (slug : String) :
    (fresh.slugAll texts).2.issued slug = true ↔ slug ∈ (fresh.slugAll texts).1 := by
  have free : fresh.issued slug = false := rfl
  rw [issued_after_slug_all, free]
  simp

theorem slugs_take_least_free_number (texts : List String) :
    (fresh.slugAll texts).1 = naiveSlugs [] texts ∧
    ∀ before text,
      let issued := (fresh.slugAll before).1
      let slug := ((fresh.slugAll before).2.slug text).1
      if slugify text ∈ issued then
        ∃ number, IsLeast { k | 1 ≤ k ∧ slugify text ++ "-" ++ toString k ∉ issued } number ∧
          slug = slugify text ++ "-" ++ toString number
      else slug = slugify text := by
  refine ⟨slug_all_is_naive fresh [] texts fresh_counts_issued (fresh_slug_all_holds []), ?_⟩
  intro before text
  have counts := slug_all_counts_issued fresh before fresh_counts_issued
  have same := slug_is_naive _ _ text counts (fresh_slug_all_holds before)
  dsimp only
  rw [same, naiveSlug]
  split
  · exact ⟨_, least_number_is_least _ _, rfl⟩
  · rfl

end MarkdownLayout.Slugger
