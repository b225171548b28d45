import MarkdownLayout.Text.Lowercase

set_option autoImplicit false

namespace MarkdownLayout

namespace CaseRun

def misses (run other : CaseRun) : Bool :=
  Nat.blt (run.target + (run.last - run.first)) other.first || Nat.blt other.last run.target ||
    (run.stride == 2 || run.first == run.last) && other.stride == 2 && (run.target - other.first) % 2 == 1

theorem missed (run other : CaseRun) (code : Nat) (misses : run.misses other = true) (capital : run.has code = true) :
    other.has (run.target + (code - run.first)) = false := by
  simp only [has, Bool.and_eq_true, decide_eq_true_eq, beq_iff_eq] at capital
  obtain ⟨⟨lower, upper⟩, inStep⟩ := capital
  refine Bool.eq_false_iff.mpr fun hit => ?_
  simp only [has, Bool.and_eq_true, decide_eq_true_eq, beq_iff_eq] at hit
  obtain ⟨⟨lowerHit, upperHit⟩, hitInStep⟩ := hit
  simp only [CaseRun.misses, Bool.or_eq_true, Bool.and_eq_true, Nat.blt_eq, beq_iff_eq] at misses
  obtain (before | after) | ⟨⟨inTwos | single, otherInTwos⟩, odd⟩ := misses
  · omega
  · omega
  · rw [inTwos] at inStep
    rw [otherInTwos] at hitInStep
    omega
  · rw [otherInTwos] at hitInStep
    omega

def inRange (run : CaseRun) : Bool :=
  run.target + (run.last - run.first) < 0xD800 ||
    0xDFFF < run.target && run.target + (run.last - run.first) < 0x110000

theorem lower_code (run : CaseRun) (code : Nat) (valid : run.inRange = true) (capital : run.has code = true) :
    (Char.ofNat (run.target + (code - run.first))).toNat = run.target + (code - run.first) := by
  simp only [has, Bool.and_eq_true, decide_eq_true_eq, beq_iff_eq] at capital
  simp only [inRange, Bool.or_eq_true, Bool.and_eq_true, decide_eq_true_eq] at valid
  have point : (run.target + (code - run.first)).isValidChar := by
    rw [Nat.isValidChar]
    omega
  rw [Char.ofNat, dif_pos point]
  rfl

end CaseRun

def dottedCapital : CaseRun := ⟨0x130, 0x130, 1, 0x69⟩

theorem lower_cases_missed :
    (caseRuns.all fun run => run.inRange && (dottedCapital :: caseRuns).all run.misses) = true := by
  decide +kernel

theorem lower_of_run (run : CaseRun) (code : Nat) (listed : run ∈ caseRuns) (capital : run.has code = true) :
    lowercase (Char.ofNat (run.target + (code - run.first))) = [Char.ofNat (run.target + (code - run.first))] := by
  have checked := List.all_eq_true.mp lower_cases_missed run listed
  rw [Bool.and_eq_true] at checked
  have point := run.lower_code code checked.1 capital
  have missed : ∀ other ∈ dottedCapital :: caseRuns, other.has (run.target + (code - run.first)) = false :=
    fun other member => run.missed other code (List.all_eq_true.mp checked.2 other member) capital
  generalize Char.ofNat (run.target + (code - run.first)) = lower at point ⊢
  rw [← point] at missed
  have undotted : lower ≠ 'İ' := by
    rintro rfl
    exact absurd (missed dottedCapital List.mem_cons_self) (by decide)
  have noCapital : caseRuns.find? (·.has lower.toNat) = none := by
    refine List.find?_eq_none.mpr fun other member => ?_
    rw [missed other (List.mem_cons_of_mem _ member)]
    exact Bool.false_ne_true
  rw [lowercase, if_neg undotted, noCapital]

theorem lower_case_settled (c d : Char) (member : d ∈ lowercase c) : lowercase d = [d] := by
  by_cases dotted : c = 'İ'
  · rw [lowercase, if_pos dotted, List.mem_cons, List.mem_singleton] at member
    rcases member with rfl | rfl
    · decide +kernel
    · decide +kernel
  · cases found : caseRuns.find? (·.has c.toNat) with
    | none =>
        have own : lowercase c = [c] := by rw [lowercase, if_neg dotted, found]
        rw [own, List.mem_singleton] at member
        exact member ▸ own
    | some run =>
        rw [lowercase, if_neg dotted, found] at member
        obtain rfl := List.mem_singleton.mp member
        have capital := List.find?_some found
        exact lower_of_run run c.toNat (List.mem_of_find?_eq_some found) capital

theorem lower_sigma_settled (before after : List Char) :
    lowercase (lowercaseSigma before after) = [lowercaseSigma before after] := by
  rw [lowercaseSigma]
  split
  · decide +kernel
  · decide +kernel

theorem lowered_settled (before text : List Char) (d : Char) (member : d ∈ lowercaseAfter before text) :
    lowercase d = [d] := by
  induction text generalizing before with
  | nil => cases member
  | cons c rest ih =>
      rw [lowercaseAfter] at member
      rcases List.mem_append.mp member with own | later
      · by_cases sigma : c = 'Σ'
        · rw [if_pos sigma, List.mem_singleton] at own
          rw [own]
          exact lower_sigma_settled before rest
        · rw [if_neg sigma] at own
          exact lower_case_settled c d own
      · exact ih (c :: before) later

-- A capital sigma is no lower case, so a text of lower cases has none and their neighbours do not matter.
theorem settled_unchanged (before text : List Char) (settled : ∀ c ∈ text, lowercase c = [c]) :
    lowercaseAfter before text = text := by
  induction text generalizing before with
  | nil => rfl
  | cons c rest ih =>
      have own := settled c List.mem_cons_self
      have noSigma : c ≠ 'Σ' := by
        rintro rfl
        exact absurd own (by decide +kernel)
      rw [lowercaseAfter, if_neg noSigma, own, ih (c :: before) fun d member => settled d (List.mem_cons_of_mem c member)]
      rfl

theorem lowercase_twice (text : List Char) : lowercaseText (lowercaseText text) = lowercaseText text :=
  settled_unchanged [] (lowercaseText text) fun c => lowered_settled [] text c

theorem lowercase_alone (c : Char) : lowercaseText [c] = [c] ↔ lowercase c = [c] := by
  by_cases sigma : c = 'Σ'
  · subst sigma
    decide +kernel
  · rw [lowercaseText, lowercaseAfter, if_neg sigma, lowercaseAfter, List.append_nil]

theorem below_capitals (c : Char) (below : c.toNat < 0x41) : lowercase c = [c] := by
  have starts : (caseRuns.all fun run => 0x41 ≤ run.first) = true := by decide +kernel
  have undotted : c ≠ 'İ' := by
    rintro rfl
    exact absurd below (by decide)
  have noCapital : caseRuns.find? (·.has c.toNat) = none := by
    refine List.find?_eq_none.mpr fun run member => ?_
    have first : 0x41 ≤ run.first := of_decide_eq_true (List.all_eq_true.mp starts run member)
    simp only [CaseRun.has, Bool.and_eq_true, decide_eq_true_eq]
    omega
  rw [lowercase, if_neg undotted, noCapital]

end MarkdownLayout
