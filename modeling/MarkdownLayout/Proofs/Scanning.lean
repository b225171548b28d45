import MarkdownLayout.Json.Printer
import MarkdownLayout.Json.Reader
import MarkdownLayout.Proofs.QuotedText

set_option autoImplicit false

namespace MarkdownLayout

namespace Scanner

variable {α β : Type}

theorem run_bind (p : Scanner α) (next : α → Scanner β) (cs : List Char) :
    (p >>= next) cs = (p cs).bind fun (a, rest) => next a rest := rfl

theorem run_map (f : α → β) (p : Scanner α) (cs : List Char) :
    (f <$> p) cs = (p cs).map fun (a, rest) => (f a, rest) := by
  have mapped : (f <$> p) cs = (p cs).bind fun (a, rest) => some (f a, rest) := rfl
  rw [mapped]
  cases p cs <;> rfl

theorem bind_taken (p : Scanner α) (next : α → Scanner β) (cs rest : List Char) (a : α)
    (taken : p cs = some (a, rest)) : (p >>= next) cs = next a rest := by
  rw [run_bind, taken]
  rfl

theorem bind_failed (p : Scanner α) (next : α → Scanner β) (cs : List Char) (failed : p cs = none) :
    (p >>= next) cs = none := by
  rw [run_bind, failed]
  rfl

theorem run_or_failed (p q : Scanner α) (cs : List Char) (failed : p cs = none) : (p <|> q) cs = q cs := by
  have either : (p <|> q) cs = (p cs <|> q cs) := rfl
  rw [either, failed]
  rfl

theorem char_taken (c : Char) (rest : List Char) : char c (c :: rest) = some ((), rest) := by
  simp [char]

theorem char_failed (c : Char) (cs : List Char) (other : cs.head? ≠ some c) : char c cs = none := by
  cases cs with
  | nil => rfl
  | cons d rest =>
      have different : d ≠ c := fun same => other (congrArg some same)
      simp [char, different]

theorem literal_taken (text rest : List Char) : literal text (text ++ rest) = some ((), rest) := by
  induction text with
  | nil => rfl
  | cons c text ih =>
      rw [literal, List.cons_append, bind_taken _ _ _ _ () (char_taken c _)]
      exact ih

theorem take_some (p : Char → Bool) (taken rest : List Char) (nonempty : taken ≠ []) (all : ∀ c ∈ taken, p c = true)
    (stops : ∀ c, rest.head? = some c → p c = false) : takeSome p (taken ++ rest) = some (taken, rest) := by
  have front : (taken ++ rest).takeWhile p = taken := by
    rw [List.takeWhile_append_of_pos all]
    cases rest with
    | nil => simp
    | cons c rest => simp [stops c rfl]
  have back : (taken ++ rest).dropWhile p = rest := by
    rw [List.dropWhile_append_of_pos all]
    cases rest with
    | nil => simp
    | cons c rest => simp [stops c rfl]
  have found : takeWhile p (taken ++ rest) = some (taken, rest) := by rw [takeWhile, front, back]
  have notEmpty : taken.isEmpty = false := by simpa using nonempty
  rw [takeSome, bind_taken _ _ _ _ _ found, notEmpty]
  rfl

end Scanner

namespace Json

open Scanner

def Followed (rest : List Char) : Prop := ∀ c, rest.head? = some c → c = ',' ∨ c = ']' ∨ c = '}'

theorem followed_not (rest : List Char) (followed : Followed rest) (p : Char → Bool)
    (none : p ',' = false ∧ p ']' = false ∧ p '}' = false) : ∀ c, rest.head? = some c → p c = false := by
  intro c first
  obtain ⟨comma, bracket, brace⟩ := none
  rcases followed c first with rfl | rfl | rfl
  · exact comma
  · exact bracket
  · exact brace

theorem followed_head (rest : List Char) (followed : Followed rest) (c : Char)
    (other : c ≠ ',' ∧ c ≠ ']' ∧ c ≠ '}') : rest.head? ≠ some c := by
  obtain ⟨comma, bracket, brace⟩ := other
  intro first
  rcases followed c first with same | same | same
  · exact comma same
  · exact bracket same
  · exact brace same

theorem blanks_none (cs : List Char) (first : ∀ c, cs.head? = some c → isBlank c = false) :
    blanks cs = some ((), cs) := by
  have front : cs.takeWhile isBlank = [] := by
    cases cs with
    | nil => rfl
    | cons c rest => simp [first c rfl]
  have back : cs.dropWhile isBlank = cs := by
    cases cs with
    | nil => rfl
    | cons c rest => simp [first c rfl]
  have found : takeWhile isBlank cs = some ([], cs) := by rw [takeWhile, front, back]
  rw [blanks, bind_taken _ _ _ _ _ found]
  rfl

namespace Numeral

theorem scan_digits (negative : Bool) (digits rest : List Char) (nonempty : digits ≠ [])
    (all : ∀ c ∈ digits, c.isDigit = true) (lead : ¬(1 < digits.length ∧ digits.head? = some '0'))
    (followed : Followed rest) :
    scan ((if negative then ['-'] else []) ++ digits ++ rest) = some (⟨negative, digits, [], none⟩, rest) := by
  have sign : attempt (char '-') ((if negative then ['-'] else []) ++ digits ++ rest) =
      some (if negative then some () else none, digits ++ rest) := by
    cases negative with
    | true => simp [attempt, char]
    | false =>
        have other : (digits ++ rest).head? ≠ some '-' := by
          cases digits with
          | nil => exact absurd rfl nonempty
          | cons c digits =>
              intro same
              have digit := all c List.mem_cons_self
              rw [Option.some.inj same] at digit
              exact absurd digit (by decide)
        have failed := char_failed '-' (digits ++ rest) other
        simp only [Bool.false_eq_true, if_false, List.nil_append, attempt, failed]
  have whole : takeSome Char.isDigit (digits ++ rest) = some (digits, rest) :=
    take_some _ digits rest nonempty all (followed_not rest followed _ (by decide))
  have noPoint : char '.' rest = none := char_failed '.' rest (followed_head rest followed '.' (by decide))
  have noExponent : scan.scanExponent rest = none := by
    have failed : satisfying (fun c => c = 'e' || c = 'E') rest = none := by
      cases rest with
      | nil => rfl
      | cons c rest =>
          have other := followed_not _ followed (fun c => c = 'e' || c = 'E') (by decide) c rfl
          simp only [Scanner.satisfying, other, Bool.false_eq_true, if_false]
    exact bind_failed _ _ _ failed
  have noFraction : ((do char '.'; takeSome Char.isDigit) <|> pure [] : Scanner (List Char)) rest =
      some ([], rest) := by
    rw [run_or_failed _ _ _ (bind_failed _ _ _ noPoint)]
    rfl
  have noPower : ((some <$> scan.scanExponent) <|> pure none : Scanner (Option (Bool × List Char))) rest =
      some (none, rest) := by
    have failed : (some <$> scan.scanExponent) rest = none := by rw [run_map, noExponent, Option.map_none]
    rw [run_or_failed _ _ _ failed]
    rfl
  rw [scan, bind_taken _ _ _ _ _ sign, bind_taken _ _ _ _ _ whole, if_neg lead, bind_taken _ _ _ _ _ noFraction,
    bind_taken _ _ _ _ _ noPower]
  cases negative <;> rfl

theorem digits_lead (n : Nat) (positive : 0 < n) : (Nat.toDigits 10 n).head? ≠ some '0' := by
  induction n using Nat.strongRecOn with
  | ind n ih =>
      by_cases small : n < 10
      · have all : ∀ m < 10, 0 < m → [m.digitChar].head? ≠ some '0' := by decide
        rw [Nat.toDigits_of_lt_base small]
        exact all n small positive
      · have same : (Nat.toDigits 10 n).head? = (Nat.toDigits 10 (n / 10)).head? := by
          rw [Nat.toDigits_of_base_le (by decide) (by omega)]
          cases upper : Nat.toDigits 10 (n / 10) with
          | nil => exact absurd upper Nat.toDigits_ne_nil
          | cons c rest => rfl
        rw [same]
        exact ih (n / 10) (by omega) (by omega)

theorem digits_not_padded (n : Nat) :
    ¬(1 < (Nat.toDigits 10 n).length ∧ (Nat.toDigits 10 n).head? = some '0') := by
  rintro ⟨long, zero⟩
  by_cases positive : 0 < n
  · exact digits_lead n positive zero
  · have nothing : n = 0 := by omega
    subst nothing
    exact absurd long (by decide)

theorem of_digits (n : Nat) : Decimal.ofDigits (Nat.toDigits 10 n) = n := by
  have same : Decimal.ofDigits (Nat.toDigits 10 n) = Nat.ofDigitChars 10 (Nat.toDigits 10 n) 0 := by
    rw [Decimal.ofDigits, Nat.ofDigitChars]
    congr 1
    funext sofar c
    rw [Nat.mul_comm, Decimal.digitValue]
  rw [same, Nat.ofDigitChars_ten_toDigits]

end Numeral

def Number.Fits (n : Int) : Prop := -(Decimal.signedRoom : Int) ≤ n ∧ n < Decimal.room

def integerNumeral (n : Int) : Numeral := ⟨decide (n < 0), Nat.toDigits 10 n.natAbs, [], none⟩

theorem integer_print (n : Int) :
    (Number.int n).print = (if decide (n < 0) then ['-'] else []) ++ Nat.toDigits 10 n.natAbs := by
  cases n with
  | ofNat m => simp [Number.print, Int.toString_eq_repr, Int.repr]
  | negSucc m => simp [Number.print, Int.toString_eq_repr, Int.repr]

theorem integer_scanned (n : Int) (rest : List Char) (followed : Followed rest) :
    Numeral.scan ((Number.int n).print ++ rest) = some (integerNumeral n, rest) := by
  have digits : ∀ c ∈ Nat.toDigits 10 n.natAbs, c.isDigit = true := fun c member =>
    Nat.isDigit_of_mem_toDigits (by decide) (by decide) member
  rw [integer_print]
  exact Numeral.scan_digits _ _ rest Nat.toDigits_ne_nil digits (Numeral.digits_not_padded _) followed

theorem integer_number (n : Int) (fits : Number.Fits n) : (integerNumeral n).number? = some (.int n) := by
  obtain ⟨lower, upper⟩ := fits
  have room : Decimal.room = 18446744073709551616 := rfl
  have signedRoom : Decimal.signedRoom = 9223372036854775808 := rfl
  have plain : (integerNumeral n).fraction.isEmpty ∧ (integerNumeral n).exponent.isNone ∧
      Decimal.ofDigits (integerNumeral n).whole < Decimal.room := by
    refine ⟨rfl, rfl, ?_⟩
    rw [integerNumeral, Numeral.of_digits]
    omega
  rw [Numeral.number?, if_pos plain, integerNumeral, Numeral.of_digits]
  by_cases negative : n < 0
  · have bounds : 0 < n.natAbs ∧ n.natAbs ≤ Decimal.signedRoom := by omega
    have value : -(n.natAbs : Int) = n := by omega
    simp only [negative, bounds, value, decide_true, Bool.not_true, Bool.false_eq_true, if_false, and_self, if_true]
  · have value : (n.natAbs : Int) = n := by omega
    simp only [negative, value, decide_false, Bool.not_false, if_true]

theorem integer_start (n : Int) : ∃ c cs, (Number.int n).print = c :: cs ∧ (c = '-' ∨ c.isDigit = true) := by
  rw [integer_print]
  cases decide (n < 0) with
  | true => exact ⟨'-', _, rfl, .inl rfl⟩
  | false =>
      cases digits : Nat.toDigits 10 n.natAbs with
      | nil => exact absurd digits Nat.toDigits_ne_nil
      | cons c cs =>
          have member : c ∈ Nat.toDigits 10 n.natAbs := by rw [digits]; exact List.mem_cons_self
          exact ⟨c, cs, rfl, .inr (Nat.isDigit_of_mem_toDigits (by decide) (by decide) member)⟩

theorem quoted_taken (text : String) (rest : List Char) :
    Reading.full.quoted (quote text ++ rest) = some (text, rest) := by
  have spelled : quote text ++ rest = '"' :: (Quoted.encode text.toList ++ '"' :: rest) := by
    rw [quote, List.append_assoc, List.cons_append]
    rfl
  have inside := Quoted.split_encode text.toList rest
  have decoded : Reading.full.text (Quoted.encode text.toList) = some text := by
    simp [Reading.full, Quoted.decode_encode]
  rw [spelled, Reading.quoted, bind_taken _ _ _ _ () (char_taken _ _), bind_taken _ _ _ _ _ inside, decoded]
  rfl

def listed {α : Type} (spell : α → List Char) : List α → List Char
  | [] => []
  | a :: rest => spell a ++ rest.flatMap fun b => ',' :: spell b

section Enclosed

variable {α : Type} (item : Scanner α) (spell : α → List Char) (closing : Char)

-- What an item needs to be read between brackets: it is told from blanks and from the closing one,
-- and nothing of what follows is taken with it.
structure ReadsBack (a : α) : Prop where
  start : ∃ c cs, spell a = c :: cs ∧ isBlank c = false ∧ c ≠ closing
  taken : ∀ rest, rest.head? = some ',' ∨ rest.head? = some closing → item (spell a ++ rest) = some (a, rest)

theorem no_blank_before (a : α) (readsBack : ReadsBack item spell closing a) (rest : List Char) :
    blanks (spell a ++ rest) = some ((), spell a ++ rest) := by
  obtain ⟨c, cs, spelled, solid, -⟩ := readsBack.start
  refine blanks_none _ fun d first => ?_
  rw [spelled] at first
  rw [← Option.some.inj first]
  exact solid

def comma : Scanner Unit := do
  blanks
  char ','
  blanks

theorem comma_taken (a : α) (readsBack : ReadsBack item spell closing a) (rest : List Char) :
    comma (',' :: (spell a ++ rest)) = some ((), spell a ++ rest) := by
  have before : blanks (',' :: (spell a ++ rest)) = some ((), ',' :: (spell a ++ rest)) :=
    blanks_none _ fun c first => by rw [← Option.some.inj first]; rfl
  have after := no_blank_before item spell closing a readsBack rest
  rw [comma, bind_taken _ _ _ _ () before, bind_taken _ _ _ _ () (char_taken ',' _), after]

theorem comma_failed (solid : isBlank closing = false) (notComma : closing ≠ ',') (rest : List Char) :
    comma (closing :: rest) = none := by
  have noBlank : blanks (closing :: rest) = some ((), closing :: rest) :=
    blanks_none _ fun c first => by rw [← Option.some.inj first]; exact solid
  have other : (closing :: rest).head? ≠ some ',' := fun same => notComma (Option.some.inj same)
  rw [comma, bind_taken _ _ _ _ () noBlank, bind_failed _ _ _ (char_failed ',' _ other)]

def continued (items : List α) (rest : List Char) : List Char :=
  (items.flatMap fun a => ',' :: spell a) ++ closing :: rest

theorem continued_head (items : List α) (rest : List Char) :
    (continued spell closing items rest).head? = some ',' ∨
      (continued spell closing items rest).head? = some closing := by
  cases items with
  | nil => exact .inr rfl
  | cons a items => exact .inl rfl

theorem continued_cons (a : α) (items : List α) (rest : List Char) :
    continued spell closing (a :: items) rest = ',' :: (spell a ++ continued spell closing items rest) := by
  rw [continued, List.flatMap_cons, List.append_assoc, List.cons_append, continued]

theorem others_taken (solid : isBlank closing = false) (notComma : closing ≠ ',') (items : List α) (bound : Nat)
    (few : items.length ≤ bound) (readBack : ∀ a ∈ items, ReadsBack item spell closing a) (rest : List Char) :
    many bound (do let _ ← comma; item) (continued spell closing items rest) =
      some (items, closing :: rest) := by
  induction items generalizing bound with
  | nil =>
      have stopped : (do let _ ← comma; item : Scanner α) (closing :: rest) = none :=
        bind_failed _ _ _ (comma_failed closing solid notComma rest)
      cases bound with
      | zero => rfl
      | succ bound => simp only [continued, List.flatMap_nil, List.nil_append, many, stopped]
  | cons a items ih =>
      cases bound with
      | zero => simp at few
      | succ bound =>
          have fewer : items.length ≤ bound := by simpa using few
          have later := ih bound fewer fun b member => readBack b (List.mem_cons_of_mem a member)
          have readsBack := readBack a List.mem_cons_self
          have step : (do let _ ← comma; item : Scanner α) (continued spell closing (a :: items) rest) =
              some (a, continued spell closing items rest) := by
            rw [continued_cons, bind_taken _ _ _ _ () (comma_taken item spell closing a readsBack _)]
            exact readsBack.taken _ (continued_head spell closing items rest)
          simp only [many, step, later]
          rfl

theorem enclosed_taken (opening : Char) (solid : isBlank closing = false) (notComma : closing ≠ ',')
    (items : List α) (bound : Nat) (few : items.length ≤ bound)
    (readBack : ∀ a ∈ items, ReadsBack item spell closing a) (rest : List Char) :
    Reading.enclosed bound opening closing item (opening :: (listed spell items ++ closing :: rest)) =
      some (items, rest) := by
  have closed : blanks (closing :: rest) = some ((), closing :: rest) :=
    blanks_none _ fun c first => by rw [← Option.some.inj first]; exact solid
  rw [Reading.enclosed, bind_taken _ _ _ _ () (char_taken opening _)]
  cases items with
  | nil =>
      rw [listed, List.nil_append, bind_taken _ _ _ _ () closed]
      have seen : peek (closing :: rest) = some (some closing, closing :: rest) := rfl
      rw [bind_taken _ _ _ _ _ seen, if_pos rfl, bind_taken _ _ _ _ () (char_taken closing rest)]
      rfl
  | cons a items =>
      have readsBack := readBack a List.mem_cons_self
      have later := others_taken item spell closing solid notComma items bound (by simp at few; omega)
        (fun b member => readBack b (List.mem_cons_of_mem a member)) rest
      have whole : listed spell (a :: items) ++ closing :: rest = spell a ++ continued spell closing items rest := by
        rw [listed, List.append_assoc, continued]
      have body : separated bound comma item (spell a ++ continued spell closing items rest) =
          some (a :: items, closing :: rest) := by
        have first := readsBack.taken _ (continued_head spell closing items rest)
        rw [separated, bind_taken _ _ _ _ _ first, bind_taken _ _ _ _ _ later]
        rfl
      have seen (cs : List Char) : peek cs = some (cs.head?, cs) := rfl
      have notClosed : (spell a ++ continued spell closing items rest).head? ≠ some closing := by
        obtain ⟨c, cs, spelled, -, other⟩ := readsBack.start
        rw [spelled]
        exact fun same => other (Option.some.inj same)
      rw [whole, bind_taken _ _ _ _ () (no_blank_before item spell closing a readsBack _),
        bind_taken _ _ _ _ _ (seen _), if_neg notClosed, ← comma, bind_taken _ _ _ _ _ body,
        bind_taken _ _ _ _ () closed, bind_taken _ _ _ _ () (char_taken closing rest)]
      rfl

end Enclosed

end Json

end MarkdownLayout
