import MarkdownLayout.Proofs.Dictionary
import MarkdownLayout.Slug.Slugger

set_option autoImplicit false

namespace MarkdownLayout.Slugger

theorem issued_iff (s : Slugger) (slug : String) : s.issued slug = true ↔ slug ∈ s.counters.keys :=
  (Dictionary.mem_keys s.counters slug).symm

theorem counted_issued (s : Slugger) (slug : String) (count : Nat) (counter : s.counters.get? slug = some count) :
    s.issued slug = true := by
  rw [issued, counter]
  rfl

theorem keys_size (s : Slugger) : s.counters.keys.length = s.size := List.length_map _

theorem numbered_injective (base : String) (a b : Nat) (same : numbered base a = numbered base b) : a = b := by
  have digits : Nat.toDigits 10 a = Nat.toDigits 10 b := by
    have texts := congrArg String.toList same
    simpa [numbered] using texts
  have values := congrArg (fun chars => Nat.ofDigitChars 10 chars 0) digits
  simpa only [Nat.ofDigitChars_ten_toDigits] using values

theorem numbered_ne_base (base : String) (number : Nat) : numbered base number ≠ base := by
  intro same
  have lengths := congrArg String.length same
  have hyphen : "-".length = 1 := rfl
  simp only [numbered, String.length_append, hyphen] at lengths
  omega

theorem free_number_bounds (s : Slugger) (base : String) (tries number : Nat) :
    number ≤ s.freeNumber base tries number ∧ s.freeNumber base tries number ≤ number + tries := by
  induction tries generalizing number with
  | zero => exact ⟨Nat.le_refl _, Nat.le_refl _⟩
  | succ tries ih =>
      rw [freeNumber]
      split
      · have bounds := ih (number + 1)
        omega
      · omega

theorem issued_below_free_number (s : Slugger) (base : String) (tries number k : Nat)
    (lower : number ≤ k) (upper : k < s.freeNumber base tries number) :
    s.issued (numbered base k) = true := by
  induction tries generalizing number with
  | zero =>
      rw [freeNumber] at upper
      omega
  | succ tries ih =>
      rw [freeNumber] at upper
      split at upper
      · rename_i taken
        by_cases first : k = number
        · exact first ▸ taken
        · exact ih (number + 1) (by omega) upper
      · omega

theorem free_number_free (s : Slugger) (base : String) (tries number : Nat)
    (early : s.freeNumber base tries number < number + tries) :
    s.issued (numbered base (s.freeNumber base tries number)) = false := by
  induction tries generalizing number with
  | zero =>
      rw [freeNumber] at early
      omega
  | succ tries ih =>
      rw [freeNumber] at early ⊢
      split at early
      · rename_i taken
        rw [if_pos taken]
        exact ih (number + 1) (by omega)
      · rename_i free
        rw [if_neg free]
        simpa using free

-- As many numbered slugs in a row as are issued at all leave no room for the unnumbered one.
theorem numbered_run_below (issued : List String) (base : String) (start count : Nat) (isBase : base ∈ issued)
    (taken : ∀ i < count, numbered base (start + i) ∈ issued) : count < issued.length := by
  let candidates := base :: (List.range count).map fun i => numbered base (start + i)
  have distinct : candidates.Nodup := by
    refine List.nodup_cons.mpr ⟨?_, ?_⟩
    · intro member
      obtain ⟨i, -, same⟩ := List.mem_map.mp member
      exact numbered_ne_base base (start + i) same
    · rw [List.Nodup, List.pairwise_map]
      refine List.nodup_range.imp fun {i j} different same => different ?_
      have offsets := numbered_injective base _ _ same
      omega
  have among : candidates ⊆ issued := by
    intro slug member
    rcases List.mem_cons.mp member with rfl | numberedMember
    · exact isBase
    · obtain ⟨i, inRange, rfl⟩ := List.mem_map.mp numberedMember
      exact taken i (List.mem_range.mp inRange)
  have room := distinct.length_le_of_subset among
  simp only [candidates, List.length_cons, List.length_map, List.length_range] at room
  exact room

theorem numbered_run_below_size (s : Slugger) (base : String) (start count : Nat) (isBase : s.issued base = true)
    (taken : ∀ i < count, s.issued (numbered base (start + i)) = true) : count < s.size := by
  have below := numbered_run_below s.counters.keys base start count ((issued_iff s base).mp isBase)
    fun i within => (issued_iff s _).mp (taken i within)
  rwa [keys_size] at below

theorem free_number_within_tries (s : Slugger) (base : String) (number : Nat)
    (taken : s.issued base = true) : s.freeNumber base s.size number < number + s.size := by
  refine Decidable.by_contra fun late => ?_
  have allTaken : ∀ i < s.size, s.issued (numbered base (number + i)) = true := by
    intro i within
    exact issued_below_free_number s base s.size number (number + i) (by omega) (by omega)
  exact Nat.lt_irrefl _ (numbered_run_below_size s base number s.size taken allTaken)

theorem slug_first (s : Slugger) (text : String) (free : s.counters.get? (slugify text) = none) :
    s.slug text = (slugify text, ⟨s.counters.insert (slugify text) 0⟩) := by
  simp only [slug, free]

theorem slug_repeated (s : Slugger) (text : String) (last : Nat)
    (taken : s.counters.get? (slugify text) = some last) :
    let number := s.freeNumber (slugify text) s.size (last + 1)
    s.slug text = (numbered (slugify text) number,
      ⟨(s.counters.insert (slugify text) number).insert (numbered (slugify text) number) 0⟩) := by
  simp only [slug, taken]

theorem slug_fresh (s : Slugger) (text : String) : s.issued (s.slug text).1 = false := by
  cases counter : s.counters.get? (slugify text) with
  | none =>
      rw [slug_first s text counter]
      simp [issued, counter]
  | some last =>
      have taken := counted_issued s (slugify text) last counter
      rw [slug_repeated s text last counter]
      exact free_number_free s _ _ _ (free_number_within_tries s _ _ taken)

theorem issued_after_slug (s : Slugger) (text query : String) :
    (s.slug text).2.issued query = true ↔ s.issued query = true ∨ query = (s.slug text).1 := by
  cases counter : s.counters.get? (slugify text) with
  | none =>
      rw [slug_first s text counter]
      by_cases hit : query = slugify text <;> simp [issued, Dictionary.get_insert, hit]
  | some last =>
      rw [slug_repeated s text last counter]
      generalize numbered (slugify text) (s.freeNumber (slugify text) s.size (last + 1)) = issuedSlug
      by_cases hit : query = issuedSlug
      · simp [issued, Dictionary.get_insert, hit]
      · by_cases atBase : query = slugify text
        · subst atBase
          simp [issued, Dictionary.get_insert, hit, counter]
        · simp [issued, Dictionary.get_insert, hit, atBase]

theorem slug_all_cons (s : Slugger) (text : String) (rest : List String) :
    s.slugAll (text :: rest) =
      ((s.slug text).1 :: ((s.slug text).2.slugAll rest).1, ((s.slug text).2.slugAll rest).2) := rfl

theorem slug_all_append (s : Slugger) (a b : List String) :
    s.slugAll (a ++ b) =
      ((s.slugAll a).1 ++ ((s.slugAll a).2.slugAll b).1, ((s.slugAll a).2.slugAll b).2) := by
  induction a generalizing s with
  | nil => rfl
  | cons text rest ih => rw [List.cons_append, slug_all_cons, slug_all_cons, ih, List.cons_append]

theorem issued_after_slug_all (s : Slugger) (texts : List String) (query : String) :
    (s.slugAll texts).2.issued query = true ↔ s.issued query = true ∨ query ∈ (s.slugAll texts).1 := by
  induction texts generalizing s with
  | nil => simp [slugAll]
  | cons text rest ih => rw [slug_all_cons, ih, issued_after_slug, List.mem_cons, or_assoc]

theorem slug_all_fresh (s : Slugger) (texts : List String) (slug : String)
    (member : slug ∈ (s.slugAll texts).1) : s.issued slug = false := by
  induction texts generalizing s with
  | nil => simp [slugAll] at member
  | cons text rest ih =>
      rw [slug_all_cons] at member
      rcases List.mem_cons.mp member with rfl | later
      · exact slug_fresh s text
      · have free := ih (s.slug text).2 later
        refine Bool.eq_false_iff.mpr fun before => ?_
        have taken := (issued_after_slug s text slug).mpr (.inl before)
        exact Bool.false_ne_true (free.symm.trans taken)

theorem slug_all_distinct (s : Slugger) (texts : List String) : (s.slugAll texts).1.Nodup := by
  induction texts generalizing s with
  | nil => exact .nil
  | cons text rest ih =>
      have taken := (issued_after_slug s text (s.slug text).1).mpr (.inr rfl)
      rw [slug_all_cons]
      refine List.nodup_cons.mpr ⟨fun repeated => ?_, ih (s.slug text).2⟩
      have free := slug_all_fresh (s.slug text).2 rest (s.slug text).1 repeated
      exact Bool.false_ne_true (free.symm.trans taken)

end MarkdownLayout.Slugger
