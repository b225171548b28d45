import MarkdownLayout.Proofs.LowerCase
import MarkdownLayout.Proofs.Slugger

set_option autoImplicit false

namespace MarkdownLayout

def SlugSign (c : Char) : Prop :=
  c = '-' ∨ (isLetter c ∨ isMark c ∨ isNumber c ∨ isConnector c) ∧ lowercaseText [c] = [c]

structure NormalSlug (slug : String) : Prop where
  fixed : slugify slug = slug
  signs : ∀ c ∈ slug.toList, SlugSign c
  spaceless : ' ' ∉ slug.toList

theorem hyphen_settled : lowercase '-' = ['-'] := below_capitals '-' (by decide)

namespace SlugSign

theorem settled (c : Char) (sign : SlugSign c) : lowercase c = [c] := by
  rcases sign with rfl | ⟨-, alone⟩
  · exact hyphen_settled
  · exact (lowercase_alone c).mp alone

theorem kept (c : Char) (sign : SlugSign c) : isSlugChar c = true := by
  rcases sign with rfl | ⟨listed, -⟩
  · simp [isSlugChar]
  · rcases listed with letter | mark | number | connector <;> simp [isSlugChar, *]

theorem no_space (c : Char) (sign : SlugSign c) : c ≠ ' ' := by
  rintro rfl
  have unlisted : (isLetter ' ' || isMark ' ' || isNumber ' ' || isConnector ' ') = false := by decide +kernel
  rcases sign with hyphen | ⟨listed, -⟩
  · exact absurd hyphen (by decide)
  · simp only [Bool.or_eq_false_iff] at unlisted
    simp [unlisted] at listed

theorem of_kept (c : Char) (kept : isSlugChar c = true) (settled : lowercase c = [c]) : SlugSign (hyphenate c) := by
  by_cases space : c = ' '
  · rw [hyphenate, if_pos space]
    exact .inl rfl
  · rw [hyphenate, if_neg space]
    by_cases hyphen : c = '-'
    · exact .inl hyphen
    · refine .inr ⟨?_, (lowercase_alone c).mpr settled⟩
      simpa [isSlugChar, space, hyphen, or_assoc] using kept

theorem of_digit (c : Char) (digit : c.isDigit = true) : SlugSign c := by
  have low : 0x30 ≤ c.toNat ∧ c.toNat ≤ 0x39 := by
    simpa [Char.isDigit, Char.le_def, UInt32.le_iff_toNat_le] using digit
  have number : isNumber c = true :=
    (Spans.has_iff numbers c).mpr ⟨(0x30, 0x39), by simp [numbers], low⟩
  exact .inr ⟨.inr (.inr (.inl number)), (lowercase_alone c).mpr (below_capitals c (by omega))⟩

end SlugSign

theorem slug_signs (text : String) : ∀ c ∈ (slugify text).toList, SlugSign c := by
  intro c member
  rw [slugify, String.toList_ofList] at member
  obtain ⟨lower, present, rfl⟩ := List.mem_map.mp member
  obtain ⟨lowered, kept⟩ := List.mem_filter.mp present
  exact SlugSign.of_kept lower kept (lowered_settled [] text.toList lower lowered)

theorem normal_of_signs (slug : String) (signs : ∀ c ∈ slug.toList, SlugSign c) : NormalSlug slug := by
  refine ⟨?_, signs, fun space => SlugSign.no_space ' ' (signs ' ' space) rfl⟩
  have lowered : lowercaseText slug.toList = slug.toList :=
    settled_unchanged [] slug.toList fun c member => SlugSign.settled c (signs c member)
  have kept : slug.toList.filter isSlugChar = slug.toList :=
    List.filter_eq_self.mpr fun c member => SlugSign.kept c (signs c member)
  have hyphenated : slug.toList.map hyphenate = slug.toList := by
    refine (List.map_congr_left fun c member => ?_).trans (List.map_id slug.toList)
    rw [hyphenate, if_neg (SlugSign.no_space c (signs c member))]
    rfl
  rw [slugify, lowered, kept, hyphenated, String.ofList_toList]

theorem slugify_lowered (text : String) : slugify (.ofList (lowercaseText text.toList)) = slugify text := by
  rw [slugify, String.toList_ofList, lowercase_twice, slugify]

namespace Slugger

theorem numbered_signs (base : String) (number : Nat) (signs : ∀ c ∈ base.toList, SlugSign c) :
    ∀ c ∈ (numbered base number).toList, SlugSign c := by
  intro c member
  have parts : (numbered base number).toList = base.toList ++ '-' :: Nat.toDigits 10 number := by
    simp [numbered]
  rw [parts, List.mem_append, List.mem_cons] at member
  rcases member with inBase | rfl | digit
  · exact signs c inBase
  · exact .inl rfl
  · exact SlugSign.of_digit c (Nat.isDigit_of_mem_toDigits (by decide) (by decide) digit)

theorem slug_normal (s : Slugger) (text : String) : NormalSlug (s.slug text).1 := by
  have base := slug_signs text
  cases counter : s.counters.get? (slugify text) with
  | none =>
      rw [slug_first s text counter]
      exact normal_of_signs _ base
  | some last =>
      rw [slug_repeated s text last counter]
      exact normal_of_signs _ (numbered_signs _ _ base)

theorem slug_all_normal (s : Slugger) (texts : List String) :
    ∀ slug ∈ (s.slugAll texts).1, NormalSlug slug := by
  induction texts generalizing s with
  | nil => exact fun slug member => absurd member List.not_mem_nil
  | cons text rest ih =>
      intro slug member
      rw [slug_all_cons] at member
      rcases List.mem_cons.mp member with rfl | later
      · exact slug_normal s text
      · exact ih (s.slug text).2 slug later

theorem slugs_are_normal_forms :
    (∀ text, NormalSlug (slugify text) ∧ slugify (.ofList (lowercaseText text.toList)) = slugify text) ∧
    ∀ texts, ∀ slug ∈ (fresh.slugAll texts).1, NormalSlug slug :=
  ⟨fun text => ⟨normal_of_signs _ (slug_signs text), slugify_lowered text⟩, slug_all_normal fresh⟩

theorem final_sigma_slugs_normal :
    (fresh.slugAll ["ΟΔΟΣ İ!", "οδος i̇"]).1 = ["οδος-i̇", "οδος-i̇-1"] ∧ NormalSlug "οδος-i̇-1" := by
  have issued : (fresh.slugAll ["ΟΔΟΣ İ!", "οδος i̇"]).1 = ["οδος-i̇", "οδος-i̇-1"] := by decide +kernel
  have repeated : "οδος-i̇-1" ∈ (fresh.slugAll ["ΟΔΟΣ İ!", "οδος i̇"]).1 := by simp [issued]
  exact ⟨issued, slugs_are_normal_forms.2 _ _ repeated⟩

end Slugger

end MarkdownLayout
