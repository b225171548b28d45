import Mathlib.Logic.Function.Iterate
import MarkdownLayout.Proofs.NaiveSlugger

set_option autoImplicit false

namespace MarkdownLayout.Slugger

structure Search where
  counters : Dictionary Nat
  candidate : String

def Search.taken (search : Search) : Bool := (search.counters.get? search.candidate).isSome

def Search.round (base : String) (search : Search) : Search :=
  let number := (search.counters.get? base).getD 0 + 1
  ⟨search.counters.insert base number, numbered base number⟩

def searched (s : Slugger) (text : String) (rounds : Nat) : Search :=
  (Search.round (slugify text))^[rounds] ⟨s.counters, slugify text⟩

def Search.finish (search : Search) : String × Slugger :=
  (search.candidate, ⟨search.counters.insert search.candidate 0⟩)

section

variable (s : Slugger) (text : String) (last : Nat) (counter : s.counters.get? (slugify text) = some last)
include counter

theorem searched_further (k : Nat) :
    searched s text (k + 1) =
      ⟨s.counters.insert (slugify text) (last + k + 1), numbered (slugify text) (last + k + 1)⟩ := by
  induction k with
  | zero =>
      show Search.round (slugify text) ⟨s.counters, slugify text⟩ = _
      rw [Search.round, counter]
      rfl
  | succ k ih =>
      have next : searched s text (k + 2) = Search.round (slugify text) (searched s text (k + 1)) :=
        Function.iterate_succ_apply' _ _ _
      rw [next, ih, Search.round, Dictionary.get_insert, if_pos rfl, Option.getD_some, Dictionary.insert_again]
      rfl

theorem searched_counter (k : Nat) : (searched s text k).counters.get? (slugify text) = some (last + k) := by
  cases k with
  | zero => exact counter
  | succ k => rw [searched_further s text last counter, Dictionary.get_insert, if_pos rfl, Nat.add_assoc]

theorem searched_taken (k : Nat) :
    (searched s text (k + 1)).taken = s.issued (numbered (slugify text) (last + k + 1)) := by
  have different := numbered_ne_base (slugify text) (last + k + 1)
  rw [searched_further s text last counter, Search.taken, Dictionary.get_insert, if_neg different, issued]

theorem counted_below_size (counts : CountsIssued s) (k : Nat)
    (within : last + k < s.freeNumber (slugify text) s.size (last + 1)) : last + k < s.size := by
  have isBase := counted_issued s (slugify text) last counter
  refine numbered_run_below_size s (slugify text) 1 (last + k) isBase fun i below => ?_
  by_cases counted : 1 + i ≤ last
  · exact counts _ last counter (1 + i) (by omega) counted
  · exact issued_below_free_number s _ s.size (last + 1) (1 + i) (by omega) (by omega)

end

structure SearchEnds (s : Slugger) (text : String) (rounds : Nat) : Prop where
  taken : ∀ k < rounds, (searched s text k).taken = true
  counted : ∀ k < rounds, ∃ count, (searched s text k).counters.get? (slugify text) = some count ∧ count < s.size
  free : (searched s text rounds).taken = false
  found : s.slug text = (searched s text rounds).finish

theorem search_ends_at_once (s : Slugger) (text : String) (free : s.counters.get? (slugify text) = none) :
    SearchEnds s text 0 where
  taken := by simp
  counted := by simp
  free := by simp [searched, Search.taken, free]
  found := slug_first s text free

theorem search_ends_numbered (s : Slugger) (text : String) (last : Nat) (counts : CountsIssued s)
    (counter : s.counters.get? (slugify text) = some last) :
    SearchEnds s text (s.freeNumber (slugify text) s.size (last + 1) - last) := by
  have isBase := counted_issued s (slugify text) last counter
  have bounds := free_number_bounds s (slugify text) s.size (last + 1)
  have within := free_number_within_tries s (slugify text) (last + 1) isBase
  obtain ⟨more, number⟩ : ∃ more, s.freeNumber (slugify text) s.size (last + 1) = last + more + 1 :=
    ⟨s.freeNumber (slugify text) s.size (last + 1) - last - 1, by omega⟩
  have rounds : last + more + 1 - last = more + 1 := by omega
  rw [number, rounds]
  refine ⟨?_, ?_, ?_, ?_⟩
  · intro k before
    cases k with
    | zero => exact isBase
    | succ k =>
        rw [searched_taken s text last counter]
        exact issued_below_free_number s _ s.size (last + 1) (last + k + 1) (by omega) (by omega)
  · intro k before
    exact ⟨last + k, searched_counter s text last counter k,
      counted_below_size s text last counter counts k (by omega)⟩
  · rw [searched_taken s text last counter, ← number]
    exact free_number_free s _ _ _ within
  · rw [slug_repeated s text last counter, searched_further s text last counter, number]
    rfl

theorem search_ends (s : Slugger) (text : String) (counts : CountsIssued s) :
    ∃ rounds ≤ s.size, SearchEnds s text rounds := by
  cases counter : s.counters.get? (slugify text) with
  | none => exact ⟨0, Nat.zero_le _, search_ends_at_once s text counter⟩
  | some last =>
      have within := free_number_within_tries s (slugify text) (last + 1) (counted_issued s (slugify text) last counter)
      exact ⟨_, by omega, search_ends_numbered s text last counts counter⟩

theorem counters_below_size (s : Slugger) (counts : CountsIssued s) (slug : String) (count : Nat)
    (counter : s.counters.get? slug = some count) : count < s.size := by
  have taken := counted_issued s slug count counter
  exact numbered_run_below_size s slug 1 count taken fun i below =>
    counts slug count counter (1 + i) (by omega) (by omega)

theorem counters_kept (s : Slugger) (text slug : String) (count : Nat) (counter : s.counters.get? slug = some count) :
    ∃ later, (s.slug text).2.counters.get? slug = some later ∧ count ≤ later ∧
      (slug ≠ slugify text → later = count) := by
  have old : slug ≠ (s.slug text).1 := by
    rintro rfl
    have free := slug_fresh s text
    rw [counted_issued s _ count counter] at free
    cases free
  cases base : s.counters.get? (slugify text) with
  | none =>
      rw [slug_first s text base] at old ⊢
      exact ⟨count, by rw [Dictionary.get_insert, if_neg old, counter], Nat.le_refl _, fun _ => rfl⟩
  | some last =>
      rw [slug_repeated s text last base] at old ⊢
      rw [Dictionary.get_insert, if_neg old, Dictionary.get_insert]
      by_cases atBase : slug = slugify text
      · subst atBase
        obtain rfl : last = count := Option.some.inj (base.symm.trans counter)
        have bounds := free_number_bounds s (slugify text) s.size (last + 1)
        exact ⟨_, if_pos rfl, by omega, fun different => absurd rfl different⟩
      · exact ⟨count, by rw [if_neg atBase, counter], Nat.le_refl _, fun _ => rfl⟩

theorem size_after_run (texts : List String) :
    (fresh.slugAll texts).2.size = (fresh.slugAll texts).1.length := by
  have same := (List.perm_ext_iff_of_nodup (Dictionary.keys_distinct (fresh.slugAll texts).2.counters)
    (slug_all_distinct fresh texts)).mpr fun slug =>
      (issued_iff _ slug).symm.trans (fresh_slug_all_holds texts slug)
  rw [← keys_size, same.length_eq]

theorem run_extended (s : Slugger) (texts : List String) (text : String) :
    s.slugAll (texts ++ [text]) =
      ((s.slugAll texts).1 ++ [((s.slugAll texts).2.slug text).1], ((s.slugAll texts).2.slug text).2) :=
  slug_all_append s texts [text]

-- A counter in a machine word thus overflows only where the entries could not be counted in one either.
theorem slug_search_ends_with_small_counters (texts : List String) (text : String) :
    let issued := (fresh.slugAll texts).1
    let s := (fresh.slugAll texts).2
    let after := (s.slug text).2
    s.size = issued.length ∧ after.size = issued.length + 1 ∧
    (∃ rounds ≤ issued.length,
      (∀ k < rounds, (searched s text k).taken = true ∧
        ∃ count, (searched s text k).counters.get? (slugify text) = some count ∧ count + 1 ≤ s.size) ∧
      (searched s text rounds).taken = false ∧
      s.slug text = (searched s text rounds).finish) ∧
    (∀ slug count, s.counters.get? slug = some count →
      ∃ later, after.counters.get? slug = some later ∧ count ≤ later ∧ (slug ≠ slugify text → later = count)) ∧
    ∀ slug count, after.counters.get? slug = some count → count < after.size := by
  intro issued s after
  have counts : CountsIssued s := slug_all_counts_issued fresh texts fresh_counts_issued
  have size : s.size = issued.length := size_after_run texts
  have afterSize : after.size = issued.length + 1 := by
    have extended := size_after_run (texts ++ [text])
    rw [run_extended] at extended
    exact extended.trans List.length_append
  obtain ⟨rounds, few, ends⟩ := search_ends s text counts
  refine ⟨size, afterSize, ⟨rounds, size ▸ few, ?_, ends.free, ends.found⟩, counters_kept s text, ?_⟩
  · exact fun k before => ⟨ends.taken k before, ends.counted k before⟩
  · exact counters_below_size after (slug_counts_issued s text counts)

end MarkdownLayout.Slugger
