import MarkdownLayout.Proofs.Scanning

set_option autoImplicit false

namespace MarkdownLayout.Json

open Scanner

-- The values whose compact text says all of them. Floating-point numbers are read in two roundings
-- and need not come back.
inductive Exact : Json → Prop where
  | null : Exact .null
  | bool (value : Bool) : Exact (.bool value)
  | number (n : Int) (fits : Number.Fits n) : Exact (.number (.int n))
  | string (text : String) : Exact (.string text)
  | array (items : List Json) (each : ∀ item ∈ items, Exact item) : Exact (.array items)
  | object (members : Members) (each : ∀ member ∈ members, Exact member.2) : Exact (.object members)

def printMember (member : String × Json) : List Char := quote member.1 ++ ':' :: print member.2

theorem print_array (items : List Json) : print (.array items) = '[' :: (listed print items ++ [']']) := by
  have others (rest : List Json) : printItems rest = (rest.flatMap fun item => ',' :: print item) ++ [']'] := by
    induction rest with
    | nil => rfl
    | cons item rest ih => simp [printItems, ih]
  cases items with
  | nil => rfl
  | cons item rest => simp [print, listed, others]

theorem print_object (members : Members) :
    print (.object members) = '{' :: (listed printMember members ++ ['}']) := by
  have others (rest : Members) :
      printMembers rest = (rest.flatMap fun member => ',' :: printMember member) ++ ['}'] := by
    induction rest with
    | nil => rfl
    | cons member rest ih => simp [printMembers, printMember, ih]
  cases members with
  | nil => rfl
  | cons member rest => simp [print, listed, printMember, others]

section Listed

variable {α : Type} (spell : α → List Char)

theorem listed_room (items : List α) (a : α) (member : a ∈ items) :
    (spell a).length ≤ (listed spell items).length := by
  have others (rest : List α) (later : a ∈ rest) :
      (spell a).length ≤ (rest.flatMap fun b => ',' :: spell b).length := by
    induction rest with
    | nil => cases later
    | cons b rest ih =>
        rw [List.flatMap_cons, List.length_append, List.length_cons]
        rcases List.mem_cons.mp later with rfl | further
        · omega
        · have bound := ih further
          omega
  cases items with
  | nil => cases member
  | cons first rest =>
      rw [listed, List.length_append]
      rcases List.mem_cons.mp member with rfl | later
      · omega
      · have bound := others rest later
        omega

theorem listed_count (items : List α) : items.length ≤ (listed spell items).length + 1 := by
  have others (rest : List α) : rest.length ≤ (rest.flatMap fun b => ',' :: spell b).length := by
    induction rest with
    | nil => exact Nat.le_refl 0
    | cons a rest ih =>
        rw [List.flatMap_cons, List.length_append, List.length_cons, List.length_cons]
        omega
  cases items with
  | nil => exact Nat.zero_le _
  | cons first rest =>
      have bound := others rest
      rw [listed, List.length_append, List.length_cons]
      omega

end Listed

theorem array_room (items : List Json) :
    items.length ≤ (print (.array items)).length ∧
      ∀ item ∈ items, item.print.length ≤ (print (.array items)).length := by
  have total : (print (.array items)).length = (listed print items).length + 2 := by simp [print_array]
  constructor
  · have count := listed_count print items
    omega
  · intro item member
    have room := listed_room print items item member
    omega

theorem object_room (members : Members) :
    members.length ≤ (print (.object members)).length ∧
      ∀ member ∈ members, member.2.print.length ≤ (print (.object members)).length := by
  have total : (print (.object members)).length = (listed printMember members).length + 2 := by
    simp [print_object]
  constructor
  · have count := listed_count printMember members
    omega
  · intro member present
    have room := listed_room printMember members member present
    rw [printMember, List.length_append, List.length_cons] at room
    omega

theorem depth_of_item (items : List Json) (item : Json) (member : item ∈ items) :
    item.depth ≤ depthItems items := by
  induction items with
  | nil => cases member
  | cons first rest ih =>
      rw [depthItems]
      rcases List.mem_cons.mp member with rfl | later
      · omega
      · have bound := ih later
        omega

theorem depth_of_member (members : Members) (member : String × Json) (present : member ∈ members) :
    member.2.depth ≤ depthMembers members := by
  induction members with
  | nil => cases present
  | cons first rest ih =>
      obtain ⟨name, json⟩ := first
      rw [depthMembers]
      rcases List.mem_cons.mp present with rfl | later
      · exact Nat.le_max_left _ _
      · have bound := ih later
        omega

theorem print_start (json : Json) (exact : Exact json) :
    ∃ c cs, json.print = c :: cs ∧ isBlank c = false ∧ c ≠ ']' ∧ c ≠ '}' := by
  cases exact with
  | null => exact ⟨_, _, rfl, by decide⟩
  | bool value => cases value <;> exact ⟨_, _, rfl, by decide⟩
  | string text => exact ⟨_, _, rfl, by decide⟩
  | array items each => exact ⟨_, _, print_array items, by decide⟩
  | object members each => exact ⟨_, _, print_object members, by decide⟩
  | number n fits =>
      obtain ⟨c, cs, printed, start⟩ := integer_start n
      refine ⟨c, cs, printed, ?_⟩
      rcases start with rfl | digit
      · decide
      · refine ⟨?_, ?_, ?_⟩
        · by_cases blank : isBlank c = true
          · simp only [isBlank, Bool.or_eq_true, decide_eq_true_eq] at blank
            rcases blank with ((rfl | rfl) | rfl) | rfl <;> exact absurd digit (by decide)
          · simpa using blank
        · rintro rfl
          exact absurd digit (by decide)
        · rintro rfl
          exact absurd digit (by decide)

theorem value_scalar (bound levels : Nat) (json : Json) (c : Char) (cs rest : List Char)
    (printed : json.print = c :: cs) (notArray : c ≠ '[') (notObject : c ≠ '{')
    (scalar : Reading.full.scalar (json.print ++ rest) = some (json, rest)) :
    value bound levels (json.print ++ rest) = some (json, rest) := by
  cases levels with
  | zero => exact scalar
  | succ levels =>
      have seen : peek (json.print ++ rest) = some (some c, json.print ++ rest) := by
        rw [printed]
        rfl
      rw [value, bind_taken _ _ _ _ _ seen]
      generalize head : some c = first
      split
      · exact absurd (Option.some.inj head) notArray
      · exact absurd (Option.some.inj head) notObject
      · exact scalar

theorem scalar_number (n : Int) (fits : Number.Fits n) (rest : List Char) (followed : Followed rest) :
    Reading.full.scalar ((Number.int n).print ++ rest) = some (.number (.int n), rest) := by
  have scanned := integer_scanned n rest followed
  have read : Reading.full.number (integerNumeral n) = some (.int n) := integer_number n fits
  obtain ⟨c, cs, printed, start⟩ := integer_start n
  have seen : peek ((Number.int n).print ++ rest) = some (some c, (Number.int n).print ++ rest) := by
    rw [printed]
    rfl
  rw [Reading.scalar, bind_taken _ _ _ _ _ seen]
  generalize head : some c = first
  split
  case h_5 =>
    rw [bind_taken _ _ _ _ _ scanned, read]
    rfl
  all_goals
    obtain rfl := Option.some.inj head
    rcases start with other | digit
    · exact absurd other (by decide)
    · exact absurd digit (by decide)

theorem scalar_string (text : String) (rest : List Char) :
    Reading.full.scalar (quote text ++ rest) = some (.string text, rest) := by
  have seen : peek (quote text ++ rest) = some (some '"', quote text ++ rest) := rfl
  rw [Reading.scalar, bind_taken _ _ _ _ _ seen]
  exact (run_map _ _ _).trans (by rw [quoted_taken]; rfl)

theorem word_taken (text : String) (json : Json) (rest : List Char) :
    (do word text; pure json : Scanner Json) (text.toList ++ rest) = some (json, rest) := by
  have taken : word text (text.toList ++ rest) = some ((), rest) := literal_taken text.toList rest
  rw [bind_taken _ _ _ _ () taken]
  rfl

theorem item_followed (rest : List Char) (closing : Char) (closes : closing = ']' ∨ closing = '}')
    (next : rest.head? = some ',' ∨ rest.head? = some closing) : Followed rest := by
  intro c first
  rcases next with comma | closed
  · rw [comma] at first
    exact .inl (Option.some.inj first).symm
  · rw [closed] at first
    exact .inr (Option.some.inj first ▸ closes)

theorem member_taken (value : String → Scanner Json) (member : String × Json) (rest : List Char)
    (exact : Exact member.2) (taken : value member.1 (member.2.print ++ rest) = some (member.2, rest)) :
    Reading.member value (printMember member ++ rest) = some (member, rest) := by
  obtain ⟨c, cs, printed, solid, -⟩ := print_start member.2 exact
  have spelled : printMember member ++ rest = quote member.1 ++ ':' :: (member.2.print ++ rest) := by
    rw [printMember, List.append_assoc, List.cons_append]
  have beforeColon : blanks (':' :: (member.2.print ++ rest)) = some ((), ':' :: (member.2.print ++ rest)) :=
    blanks_none _ fun d first => by rw [← Option.some.inj first]; rfl
  have afterColon : blanks (member.2.print ++ rest) = some ((), member.2.print ++ rest) := by
    refine blanks_none _ fun d first => ?_
    rw [printed] at first
    rw [← Option.some.inj first]
    exact solid
  rw [spelled, Reading.member, bind_taken _ _ _ _ _ (quoted_taken member.1 _), bind_taken _ _ _ _ () beforeColon,
    bind_taken _ _ _ _ () (char_taken ':' _), bind_taken _ _ _ _ () afterColon, bind_taken _ _ _ _ _ taken]
  rfl

theorem member_reads_back (value : String → Scanner Json) (member : String × Json) (exact : Exact member.2)
    (taken : ∀ after, Followed after → value member.1 (member.2.print ++ after) = some (member.2, after)) :
    ReadsBack (Reading.member value) printMember '}' member := by
  refine ⟨⟨'"', _, rfl, by decide, by decide⟩, fun after next => ?_⟩
  exact member_taken value member after exact (taken after (item_followed after '}' (.inr rfl) next))

theorem value_array (bound levels : Nat) (items : List Json) (cs rest : List Char)
    (taken : Reading.enclosed bound '[' ']' (value bound levels) ('[' :: cs) = some (items, rest)) :
    value bound (levels + 1) ('[' :: cs) = some (.array items, rest) := by
  have seen : peek ('[' :: cs) = some (some '[', '[' :: cs) := rfl
  rw [value, bind_taken _ _ _ _ _ seen]
  exact (run_map _ _ _).trans (by rw [taken]; rfl)

theorem value_object (bound levels : Nat) (members : Members) (cs rest : List Char)
    (taken : Reading.enclosed bound '{' '}' (Reading.member fun _ => value bound levels) ('{' :: cs) =
      some (members, rest)) :
    value bound (levels + 1) ('{' :: cs) = some (.object members, rest) := by
  have seen : peek ('{' :: cs) = some (some '{', '{' :: cs) := rfl
  rw [value, bind_taken _ _ _ _ _ seen]
  exact (run_map _ _ _).trans (by rw [taken]; rfl)

theorem value_taken (json : Json) (exact : Exact json) (bound levels : Nat) (room : json.print.length ≤ bound)
    (shallow : json.depth ≤ levels) (rest : List Char) (followed : Followed rest) :
    value bound levels (json.print ++ rest) = some (json, rest) := by
  induction exact generalizing levels rest with
  | null => exact value_scalar _ _ _ 'n' _ rest rfl (by decide) (by decide) (word_taken "null" .null rest)
  | bool value =>
      cases value with
      | true => exact value_scalar _ _ _ 't' _ rest rfl (by decide) (by decide) (word_taken "true" (.bool true) rest)
      | false => exact value_scalar _ _ _ 'f' _ rest rfl (by decide) (by decide) (word_taken "false" (.bool false) rest)
  | number n fits =>
      obtain ⟨c, cs, printed, start⟩ := integer_start n
      have notOpening : c ≠ '[' ∧ c ≠ '{' := by
        rcases start with rfl | digit
        · decide
        · constructor <;> rintro rfl <;> exact absurd digit (by decide)
      exact value_scalar _ _ _ c cs rest printed notOpening.1 notOpening.2 (scalar_number n fits rest followed)
  | string text => exact value_scalar _ _ _ '"' _ rest rfl (by decide) (by decide) (scalar_string text rest)
  | array items each ih =>
      cases levels with
      | zero => exact absurd shallow (Nat.not_succ_le_zero _)
      | succ levels =>
          obtain ⟨few, itemRoom⟩ := array_room items
          have readBack : ∀ item ∈ items, ReadsBack (value bound levels) print ']' item := by
            intro item member
            have itemDepth := depth_of_item items item member
            have below : depthItems items + 1 ≤ levels + 1 := shallow
            have fits := itemRoom item member
            obtain ⟨c, cs, printed, solid, notClosing, -⟩ := print_start item (each item member)
            refine ⟨⟨c, cs, printed, solid, notClosing⟩, fun after next => ?_⟩
            exact ih item member levels (by omega) (by omega) after (item_followed after ']' (.inl rfl) next)
          have taken := enclosed_taken (value bound levels) print ']' '[' (by decide) (by decide) items bound
            (by omega) readBack rest
          rw [print_array, List.cons_append, List.append_assoc]
          exact value_array bound levels items _ rest taken
  | object members each ih =>
      cases levels with
      | zero => exact absurd shallow (Nat.not_succ_le_zero _)
      | succ levels =>
          obtain ⟨few, memberRoom⟩ := object_room members
          have readBack : ∀ member ∈ members,
              ReadsBack (Reading.member fun _ => value bound levels) printMember '}' member := by
            intro member present
            have memberDepth := depth_of_member members member present
            have below : depthMembers members + 1 ≤ levels + 1 := shallow
            have fits := memberRoom member present
            apply member_reads_back _ member (each member present)
            intro after followed
            exact ih member present levels (by omega) (by omega) after followed
          have taken := enclosed_taken (Reading.member fun _ => value bound levels) printMember '}' '{' (by decide)
            (by decide) members bound (by omega) readBack rest
          rw [print_object, List.cons_append, List.append_assoc]
          exact value_object bound levels members _ rest taken

theorem followed_end : Followed [] := by
  intro c first
  cases first

theorem value_whole (json : Json) (exact : Exact json) (bound levels : Nat) (room : json.print.length ≤ bound)
    (shallow : json.depth ≤ levels) : value bound levels json.print = some (json, []) := by
  have taken := value_taken json exact bound levels room shallow [] followed_end
  rwa [List.append_nil] at taken

theorem print_injective (a b : Json) (exactA : Exact a) (exactB : Exact b) (same : a.print = b.print) : a = b := by
  have readA := value_whole a exactA b.print.length (max a.depth b.depth) (Nat.le_of_eq (congrArg List.length same))
    (Nat.le_max_left _ _)
  have readB := value_whole b exactB b.print.length (max a.depth b.depth) (Nat.le_refl _) (Nat.le_max_right _ _)
  rw [same, readB] at readA
  exact (congrArg Prod.fst (Option.some.inj readA)).symm

theorem whole_between (p : Scanner Json) (json : Json) (exact : Exact json)
    (taken : p json.print = some (json, [])) : whole (between p) json.print = some json := by
  obtain ⟨c, cs, printed, solid, -⟩ := print_start json exact
  have before : blanks json.print = some ((), json.print) := by
    refine blanks_none _ fun d first => ?_
    rw [printed] at first
    rw [← Option.some.inj first]
    exact solid
  have after : blanks [] = some ((), []) := rfl
  have ran : between p json.print = some (json, []) := by
    rw [between, bind_taken _ _ _ _ () before, bind_taken _ _ _ _ _ taken, bind_taken _ _ _ _ () after]
    rfl
  rw [whole, ran]

theorem read_members_compact_text (wanted : List String) (members : Members)
    (asked : ∀ member ∈ members, member.1 ∈ wanted) (exact : ∀ member ∈ members, Exact member.2)
    (shallow : depth (.object members) ≤ nesting) :
    readMembers wanted (compactText (.object members)) = some (.object members) := by
  obtain ⟨few, memberRoom⟩ := object_room members
  rw [readMembers, compactText, String.toList_ofList]
  apply whole_between _ _ (.object members exact)
  have seen : peek (print (.object members)) = some (some '{', print (.object members)) := by
    rw [print_object]
    rfl
  rw [bind_taken _ _ _ _ _ seen]
  refine (run_map _ _ _).trans ?_
  have readBack : ∀ member ∈ members, ReadsBack (Reading.member fun name =>
      if name ∈ wanted then value (print (.object members)).length (nesting - 1)
      else do
        let _ ← skimmed (print (.object members)).length (print (.object members)).length
        pure .null) printMember '}' member := by
    intro member present
    have memberDepth := depth_of_member members member present
    have below : depthMembers members + 1 ≤ nesting := shallow
    apply member_reads_back _ member (exact member present)
    intro after followed
    rw [if_pos (asked member present)]
    exact value_taken member.2 (exact member present) _ _ (memberRoom member present) (by omega) after followed
  have taken := enclosed_taken _ printMember '}' '{' (by decide) (by decide) members _ few readBack []
  rw [print_object] at taken ⊢
  rw [taken]
  rfl

end MarkdownLayout.Json
