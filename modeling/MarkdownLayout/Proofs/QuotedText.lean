import MarkdownLayout.Json.Printer
import MarkdownLayout.Json.Quoted

set_option autoImplicit false

namespace MarkdownLayout.Json.Quoted

inductive Spelling (c : Char) : List Char → Prop where
  | letter (e : Char) (notNumber : e ≠ 'u') (stands : unescape? e = some c) : Spelling c ['\\', e]
  | number (control : c.toNat < 32) :
      Spelling c ['\\', 'u', '0', '0', hexDigit (c.toNat / 16), hexDigit (c.toNat % 16)]
  | itself (notQuote : c ≠ '"') (notEscape : c ≠ '\\') (printable : 32 ≤ c.toNat) : Spelling c [c]

theorem encode_char_spelling (c : Char) : Spelling c (encodeChar c) := by
  unfold encodeChar
  split
  · exact .letter '"' (by decide) rfl
  · exact .letter '\\' (by decide) rfl
  · exact .letter 'n' (by decide) rfl
  · exact .letter 'r' (by decide) rfl
  · exact .letter 't' (by decide) rfl
  · exact .letter 'b' (by decide) rfl
  · exact .letter 'f' (by decide) rfl
  · rename_i notQuote notEscape _ _ _ _ _
    by_cases control : c.toNat < 32
    · rw [if_pos control]
      exact .number control
    · rw [if_neg control]
      exact .itself notQuote notEscape (by omega)

theorem hex_value_digit (n : Nat) (small : n < 16) : hexValue? (hexDigit n) = some n := by
  have all : ∀ m < 16, hexValue? (hexDigit m) = some m := by decide
  exact all n small

theorem unit_of_control (n : Nat) (control : n < 32) :
    unit? '0' '0' (hexDigit (n / 16)) (hexDigit (n % 16)) = some n := by
  have high := hex_value_digit (n / 16) (by omega)
  have low := hex_value_digit (n % 16) (by omega)
  have zero : hexValue? '0' = some 0 := by decide
  simp only [unit?, zero, high, low, Option.bind_eq_bind, Option.bind_some, Option.some.injEq]
  omega

theorem split_escape (c : Char) (rest : List Char) :
    split ('\\' :: c :: rest) = (split rest).map fun (inside, after) => ('\\' :: c :: inside, after) := by
  rw [split]

theorem split_plain (c : Char) (rest : List Char) (notQuote : c ≠ '"') (notEscape : c ≠ '\\') :
    split (c :: rest) = (split rest).map fun (inside, after) => (c :: inside, after) := by
  rw [split]
  · exact fun same => notQuote same
  · intro other rest' same
    exact absurd same notEscape

theorem hex_digit_plain (n : Nat) (small : n < 16) : hexDigit n ≠ '"' ∧ hexDigit n ≠ '\\' := by
  have all : ∀ m < 16, hexDigit m ≠ '"' ∧ hexDigit m ≠ '\\' := by decide
  exact all n small

theorem split_spelling (c : Char) (spelled rest : List Char) (spelling : Spelling c spelled) :
    split (spelled ++ rest) = (split rest).map fun (inside, after) => (spelled ++ inside, after) := by
  cases spelling with
  | letter e notNumber stands => exact split_escape e rest
  | number control =>
      obtain ⟨highNotQuote, highNotEscape⟩ := hex_digit_plain (c.toNat / 16) (by omega)
      obtain ⟨lowNotQuote, lowNotEscape⟩ := hex_digit_plain (c.toNat % 16) (by omega)
      simp only [List.cons_append, List.nil_append]
      rw [split_escape, split_plain '0' _ (by decide) (by decide), split_plain '0' _ (by decide) (by decide),
        split_plain _ _ highNotQuote highNotEscape, split_plain _ _ lowNotQuote lowNotEscape]
      cases split rest <;> rfl
  | itself notQuote notEscape printable => exact split_plain c rest notQuote notEscape

theorem split_encode (text rest : List Char) : split (encode text ++ '"' :: rest) = some (encode text, rest) := by
  induction text with
  | nil => simp [encode, split]
  | cons c text ih =>
      have spelling := encode_char_spelling c
      have whole : encode (c :: text) = encodeChar c ++ encode text := List.flatMap_cons
      rw [whole, List.append_assoc, split_spelling c _ _ spelling, ih, Option.map_some]

theorem decode_letter (c e : Char) (rest : List Char) (notNumber : e ≠ 'u') (stands : unescape? e = some c) :
    decode ('\\' :: e :: rest) = (decode rest).map fun text => c :: text := by
  rw [decode]
  · rw [stands]
    cases decode rest <;> rfl
  · intro a b c d others same
    exact absurd same notNumber

theorem decode_number (c : Char) (rest : List Char) (control : c.toNat < 32) :
    decode ('\\' :: 'u' :: '0' :: '0' :: hexDigit (c.toNat / 16) :: hexDigit (c.toNat % 16) :: rest) =
      (decode rest).map fun text => c :: text := by
  have notLow : isLowSurrogate c.toNat = false := by
    rw [isLowSurrogate, Bool.and_eq_false_iff]
    exact .inl (decide_eq_false (by omega))
  have notHigh : isHighSurrogate c.toNat = false := by
    rw [isHighSurrogate, Bool.and_eq_false_iff]
    exact .inl (decide_eq_false (by omega))
  rw [decode, unit_of_control c.toNat control]
  simp only [Option.bind_eq_bind, Option.bind_some, notLow, notHigh, Bool.false_eq_true, if_false,
    Char.ofNat_toNat]
  cases decode rest <;> rfl

theorem decode_plain (c : Char) (rest : List Char) (notEscape : c ≠ '\\') (printable : 32 ≤ c.toNat) :
    decode (c :: rest) = (decode rest).map fun text => c :: text := by
  have allowed : ¬(c = '\\' ∨ c.toNat < 32) := by
    rintro (same | control)
    · exact notEscape same
    · omega
  rw [decode]
  · rw [if_neg allowed]
    cases decode rest <;> rfl
  · intro a b c' d others same
    exact absurd same notEscape
  · intro other others same
    exact absurd same notEscape

theorem decode_spelling (c : Char) (spelled rest : List Char) (spelling : Spelling c spelled) :
    decode (spelled ++ rest) = (decode rest).map fun text => c :: text := by
  cases spelling with
  | letter e notNumber stands => exact decode_letter c e rest notNumber stands
  | number control => exact decode_number c rest control
  | itself notQuote notEscape printable => exact decode_plain c rest notEscape printable

theorem decode_encode (text : List Char) : decode (encode text) = some text := by
  induction text with
  | nil => rfl
  | cons c text ih =>
      have whole : encode (c :: text) = encodeChar c ++ encode text := List.flatMap_cons
      rw [whole, decode_spelling c _ _ (encode_char_spelling c), ih, Option.map_some]

end MarkdownLayout.Json.Quoted
