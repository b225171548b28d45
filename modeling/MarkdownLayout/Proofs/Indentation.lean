import MarkdownLayout.Proofs.QuotedText
import MarkdownLayout.Proofs.Rendering
import MarkdownLayout.Proofs.Scanning

set_option autoImplicit false

namespace MarkdownLayout.Json

inductive Place where
  | outside
  | quoted
  | escaped
  deriving DecidableEq

def byteOf (c : Char) : UInt8 := UInt8.ofNat c.toNat

namespace Place

def next : Place → UInt8 → Place
  | .outside, byte => if byte = byteOf '"' then .quoted else .outside
  | .quoted, byte => if byte = byteOf '"' then .outside else if byte = byteOf '\\' then .escaped else .quoted
  | .escaped, _ => .quoted

def isLayout : Place → UInt8 → Bool
  | .outside, byte => byte = byteOf ' ' || byte = byteOf '\n'
  | _, _ => false

def after (place : Place) (bytes : List UInt8) : Place := bytes.foldl next place

def withoutLayout (place : Place) : List UInt8 → List UInt8
  | [] => []
  | byte :: rest =>
      if place.isLayout byte then (place.next byte).withoutLayout rest
      else byte :: (place.next byte).withoutLayout rest

theorem without_layout_append (place : Place) (a b : List UInt8) :
    place.withoutLayout (a ++ b) = place.withoutLayout a ++ (place.after a).withoutLayout b := by
  induction a generalizing place with
  | nil => rfl
  | cons byte rest ih =>
      rw [List.cons_append, withoutLayout, withoutLayout, ih]
      split
      · rfl
      · rfl

theorem after_append (place : Place) (a b : List UInt8) : place.after (a ++ b) = (place.after a).after b :=
  List.foldl_append

end Place

def withoutLayout (text : ByteArray) : ByteArray := (Place.outside.withoutLayout text.data.toList).toByteArray

def utf8 (text : List Char) : List UInt8 := text.flatMap String.utf8EncodeChar

structure Squeezes (place : Place) (indented plain : List Char) (last : Place) : Prop where
  kept : place.withoutLayout (utf8 indented) = utf8 plain
  left : place.after (utf8 indented) = last

theorem squeezes_nothing (place : Place) : Squeezes place [] [] place := ⟨rfl, rfl⟩

theorem squeezes_append (place middle last : Place) (a b plainA plainB : List Char)
    (first : Squeezes place a plainA middle) (second : Squeezes middle b plainB last) :
    Squeezes place (a ++ b) (plainA ++ plainB) last where
  kept := by
    rw [utf8, List.flatMap_append, Place.without_layout_append]
    show _ ++ (place.after (utf8 a)).withoutLayout (utf8 b) = _
    rw [first.left, second.kept]
    show place.withoutLayout (utf8 a) ++ _ = _
    rw [first.kept, utf8, utf8, utf8, List.flatMap_append]
  left := by
    rw [utf8, List.flatMap_append, Place.after_append]
    show (place.after (utf8 a)).after (utf8 b) = last
    rw [first.left, second.left]

theorem byte_of_char (c : Char) (byte : UInt8) (member : byte ∈ String.utf8EncodeChar c) :
    byte.toNat = c.toNat ∨ 128 ≤ byte.toNat := by
  have code : c.val.toNat = c.toNat := rfl
  simp only [String.utf8EncodeChar] at member
  split at member
  · left
    rw [List.mem_singleton.mp member, UInt8.toNat_ofNat']
    omega
  · right
    -- The bytes of two, three and four that write one character are all told from its ASCII bytes.
    split at member
    · simp only [List.mem_cons, List.not_mem_nil, or_false] at member
      rcases member with rfl | rfl <;> simp only [UInt8.toNat_ofNat'] <;> omega
    · split at member
      · simp only [List.mem_cons, List.not_mem_nil, or_false] at member
        rcases member with rfl | rfl | rfl <;> simp only [UInt8.toNat_ofNat'] <;> omega
      · simp only [List.mem_cons, List.not_mem_nil, or_false] at member
        rcases member with rfl | rfl | rfl | rfl <;> simp only [UInt8.toNat_ofNat'] <;> omega

theorem byte_alone (c ascii : Char) (small : ascii.toNat < 128) (member : byteOf ascii ∈ String.utf8EncodeChar c) :
    c = ascii := by
  have own : (byteOf ascii).toNat = ascii.toNat := by
    rw [byteOf, UInt8.toNat_ofNat']
    omega
  rcases byte_of_char c _ member with same | large
  · exact Char.ext (UInt32.toNat_inj.mp (same.symm.trans own))
  · omega

theorem utf8_ascii (c : Char) (small : c.toNat < 128) : utf8 [c] = [byteOf c] := by
  have code : c.val.toNat ≤ 127 := Nat.le_of_lt_succ small
  simp only [utf8, List.flatMap_cons, List.flatMap_nil, List.append_nil, String.utf8EncodeChar, if_pos code]
  rfl

def Plain (c : Char) : Prop := c ≠ ' ' ∧ c ≠ '\n' ∧ c ≠ '"' ∧ c ≠ '\\'

instance (c : Char) : Decidable (Plain c) := inferInstanceAs (Decidable (_ ∧ _ ∧ _ ∧ _))

theorem plain_of_all (text : List Char) (all : (text.all fun c => decide (Plain c)) = true) : ∀ c ∈ text, Plain c := by
  simpa only [List.all_eq_true, decide_eq_true_eq] using all

theorem plain_bytes (place : Place) (bytes : List UInt8)
    (stays : ∀ byte ∈ bytes, place.isLayout byte = false ∧ place.next byte = place) :
    place.withoutLayout bytes = bytes ∧ place.after bytes = place := by
  induction bytes with
  | nil => exact ⟨rfl, rfl⟩
  | cons byte rest ih =>
      obtain ⟨solid, same⟩ := stays byte List.mem_cons_self
      obtain ⟨kept, left⟩ := ih fun other member => stays other (List.mem_cons_of_mem byte member)
      constructor
      · rw [Place.withoutLayout, solid, same, kept]
        rfl
      · rw [Place.after, List.foldl_cons, same]
        exact left

theorem byte_not (text : List Char) (ascii : Char) (small : ascii.toNat < 128) (absent : ascii ∉ text) (byte : UInt8)
    (member : byte ∈ utf8 text) : byte ≠ byteOf ascii := by
  rintro rfl
  obtain ⟨c, inside, encoded⟩ := List.mem_flatMap.mp member
  exact absent (byte_alone c ascii small encoded ▸ inside)

theorem squeezes_plain (text : List Char) (plain : ∀ c ∈ text, Plain c) : Squeezes .outside text text .outside := by
  obtain ⟨kept, left⟩ := plain_bytes .outside (utf8 text) fun byte member => by
    have notSpace := byte_not text ' ' (by decide) (fun inside => (plain _ inside).1 rfl) byte member
    have notBreak := byte_not text '\n' (by decide) (fun inside => (plain _ inside).2.1 rfl) byte member
    have notQuote := byte_not text '"' (by decide) (fun inside => (plain _ inside).2.2.1 rfl) byte member
    simp [Place.isLayout, Place.next, notSpace, notBreak, notQuote]
  exact ⟨kept, left⟩

theorem squeezes_unescaped (c : Char) (notQuote : c ≠ '"') (notEscape : c ≠ '\\') :
    Squeezes .quoted [c] [c] .quoted := by
  obtain ⟨kept, left⟩ := plain_bytes .quoted (utf8 [c]) fun byte member => by
    have noQuote := byte_not [c] '"' (by decide) (by simpa using notQuote.symm) byte member
    have noEscape := byte_not [c] '\\' (by decide) (by simpa using notEscape.symm) byte member
    simp [Place.isLayout, Place.next, noQuote, noEscape]
  exact ⟨kept, left⟩

theorem squeezes_ascii (place : Place) (c : Char) (small : c.toNat < 128) (solid : place.isLayout (byteOf c) = false) :
    Squeezes place [c] [c] (place.next (byteOf c)) where
  kept := by rw [utf8_ascii c small, Place.withoutLayout, solid]; rfl
  left := by rw [utf8_ascii c small]; rfl

theorem squeezes_layout (c : Char) (small : c.toNat < 128) (layout : Place.outside.isLayout (byteOf c) = true)
    (stays : Place.outside.next (byteOf c) = .outside) : Squeezes .outside [c] [] .outside where
  kept := by rw [utf8_ascii c small, Place.withoutLayout, layout, stays]; rfl
  left := by rw [utf8_ascii c small]; exact stays

theorem squeezes_spaces (count : Nat) : Squeezes .outside (List.replicate count ' ') [] .outside := by
  induction count with
  | zero => exact squeezes_nothing .outside
  | succ count ih =>
      exact squeezes_append _ .outside _ [' '] _ [] [] (squeezes_layout ' ' (by decide) (by decide) (by decide)) ih

theorem squeezes_newline (level : Nat) : Squeezes .outside (newline level) [] .outside :=
  squeezes_append _ .outside _ ['\n'] _ [] [] (squeezes_layout '\n' (by decide) (by decide) (by decide))
    (squeezes_spaces (2 * level))

theorem squeezes_spelling (c : Char) (spelled : List Char) (spelling : Quoted.Spelling c spelled) :
    Squeezes .quoted spelled spelled .quoted := by
  have escape : Squeezes .quoted ['\\'] ['\\'] .escaped := squeezes_ascii .quoted '\\' (by decide) (by decide)
  cases spelling with
  | letter e notNumber stands =>
      have small : e.toNat < 128 := by
        unfold Quoted.unescape? at stands
        split at stands <;> first | decide | cases stands
      exact squeezes_append _ _ _ ['\\'] [e] ['\\'] [e] escape (squeezes_ascii .escaped e small rfl)
  | number control =>
      obtain ⟨highNotQuote, highNotEscape⟩ := Quoted.hex_digit_plain (c.toNat / 16) (by omega)
      obtain ⟨lowNotQuote, lowNotEscape⟩ := Quoted.hex_digit_plain (c.toNat % 16) (by omega)
      have sign : Squeezes .quoted ['\\', 'u'] ['\\', 'u'] .quoted :=
        squeezes_append _ _ _ ['\\'] ['u'] ['\\'] ['u'] escape (squeezes_ascii .escaped 'u' (by decide) rfl)
      have zero := squeezes_unescaped '0' (by decide) (by decide)
      have high := squeezes_unescaped _ highNotQuote highNotEscape
      have low := squeezes_unescaped _ lowNotQuote lowNotEscape
      have zeros := squeezes_append _ _ _ _ _ _ _ sign (squeezes_append _ _ _ _ _ _ _ zero zero)
      exact squeezes_append _ _ _ _ _ _ _ zeros (squeezes_append _ _ _ _ _ _ _ high low)
  | itself notQuote notEscape printable => exact squeezes_unescaped c notQuote notEscape

theorem squeezes_encoded (text : List Char) :
    Squeezes .quoted (Quoted.encode text) (Quoted.encode text) .quoted := by
  induction text with
  | nil => exact squeezes_nothing .quoted
  | cons c rest ih =>
      have whole : Quoted.encode (c :: rest) = Quoted.encodeChar c ++ Quoted.encode rest := List.flatMap_cons
      rw [whole]
      exact squeezes_append _ _ _ _ _ _ _ (squeezes_spelling c _ (Quoted.encode_char_spelling c)) ih

theorem squeezes_quote (text : String) : Squeezes .outside (quote text) (quote text) .outside := by
  have opening : Squeezes .outside ['"'] ['"'] .quoted := squeezes_ascii .outside '"' (by decide) (by decide)
  have closing : Squeezes .quoted ['"'] ['"'] .outside := squeezes_ascii .quoted '"' (by decide) (by decide)
  have inside := squeezes_append _ _ _ _ _ _ _ opening (squeezes_encoded text.toList)
  exact squeezes_append _ _ _ _ _ _ _ inside closing

theorem digits_plain (n : Nat) : ∀ c ∈ Nat.toDigits 10 n, Plain c := by
  intro c member
  have digit := Nat.isDigit_of_mem_toDigits (by decide) (by decide) member
  refine ⟨?_, ?_, ?_, ?_⟩
  all_goals
    rintro rfl
    exact absurd digit (by decide)

theorem positional_plain (digits : List Char) (leading : Int) (plain : ∀ c ∈ digits, Plain c) :
    ∀ c ∈ DecimalLayout.positional digits leading, Plain c := by
  have zeros (count : Nat) : ∀ c ∈ List.replicate count '0', Plain c := by
    intro c member
    rw [List.eq_of_mem_replicate member]
    decide
  rw [DecimalLayout.positional]
  split
  · exact List.forall_mem_append.mpr ⟨List.forall_mem_append.mpr ⟨plain_of_all _ (by decide), zeros _⟩, plain⟩
  · refine List.forall_mem_append.mpr ⟨List.forall_mem_append.mpr ⟨?_, zeros _⟩, ?_⟩
    · exact fun c member => plain c (List.mem_of_mem_take member)
    · refine List.forall_mem_cons.mpr ⟨by decide, ?_⟩
      split
      · exact plain_of_all _ (by decide)
      · exact fun c member => plain c (List.mem_of_mem_drop member)

theorem scientific_plain (digits : List Char) (leading : Int) (plain : ∀ c ∈ digits, Plain c) :
    ∀ c ∈ DecimalLayout.scientific digits leading, Plain c := by
  rw [DecimalLayout.scientific]
  refine List.forall_mem_append.mpr ⟨List.forall_mem_append.mpr ⟨?_, ?_⟩, ?_⟩
  · exact fun c member => plain c (List.mem_of_mem_take member)
  · split
    · exact plain_of_all _ (by decide)
    · exact List.forall_mem_cons.mpr ⟨by decide, fun c member => plain c (List.mem_of_mem_drop member)⟩
  · refine List.forall_mem_cons.mpr ⟨by decide, List.forall_mem_cons.mpr ⟨?_, digits_plain _⟩⟩
    split <;> decide

theorem finite_plain (layout : DecimalLayout) (bits : UInt64) : ∀ c ∈ layout.finite bits, Plain c := by
  have magnitude :
      ∀ c ∈ (if (Binary.ofBits bits).mantissa = 0 then ['0', '.', '0']
        else
          let d := (Binary.ofBits bits).shortest
          let digits := DecimalLayout.decimalDigits d.digits
          let leading := d.exponent + (digits.length - 1 : Nat)
          if layout.plainFrom ≤ leading ∧ leading < layout.plainBelow then DecimalLayout.positional digits leading
          else DecimalLayout.scientific digits leading), Plain c := by
    split
    · exact plain_of_all _ (by decide)
    · dsimp only
      split
      · exact positional_plain _ _ (digits_plain _)
      · exact scientific_plain _ _ (digits_plain _)
  rw [DecimalLayout.finite]
  split
  · exact List.forall_mem_cons.mpr ⟨by decide, magnitude⟩
  · exact magnitude

theorem number_plain (n : Number) : ∀ c ∈ n.print, Plain c := by
  cases n with
  | int value =>
      rw [integer_print]
      refine List.forall_mem_append.mpr ⟨?_, digits_plain _⟩
      split <;> exact plain_of_all _ (by decide)
  | float value =>
      rw [Number.print, DecimalLayout.text?]
      split
      · exact finite_plain _ _
      · exact plain_of_all _ (by decide)

theorem scalar_squeezes (json : Json) : Squeezes .outside (printScalar json) (printScalar json) .outside := by
  cases json with
  | null => exact squeezes_plain _ (plain_of_all _ (by decide))
  | bool value => cases value <;> exact squeezes_plain _ (plain_of_all _ (by decide))
  | number n => exact squeezes_plain _ (number_plain n)
  | string text => exact squeezes_quote text
  | array items => exact squeezes_plain ['[', ']'] (plain_of_all _ (by decide))
  | object members => exact squeezes_plain ['\x7b', '\x7d'] (plain_of_all _ (by decide))

theorem squeezes_line (c : Char) (level : Nat) (a b : List Char) (plain : Plain c)
    (part : Squeezes .outside a b .outside) : Squeezes .outside (c :: newline level ++ a) (c :: b) .outside := by
  have mark := squeezes_plain [c] (by simpa using plain)
  have line := squeezes_append _ _ _ _ _ _ _ mark (squeezes_newline level)
  exact squeezes_append _ _ _ _ _ _ _ line part

theorem squeezes_member (name : String) (a b : List Char) (value : Squeezes .outside a b .outside) :
    Squeezes .outside (quote name ++ ':' :: ' ' :: a) (quote name ++ ':' :: b) .outside := by
  have colon := squeezes_plain [':'] (plain_of_all _ (by decide))
  have space := squeezes_append _ _ _ _ _ _ _ colon (squeezes_spaces 1)
  exact squeezes_append _ _ _ _ _ _ _ (squeezes_quote name) (squeezes_append _ _ _ _ _ _ _ space value)

theorem squeezes_closing (c : Char) (level : Nat) (plain : Plain c) :
    Squeezes .outside (newline level ++ [c]) [c] .outside :=
  squeezes_append _ _ _ _ _ _ _ (squeezes_newline level) (squeezes_plain [c] (by simpa using plain))

mutual
theorem pretty_squeezes (level : Nat) (json : Json) : Squeezes .outside (json.pretty level) json.print .outside := by
  match json with
  | .array (json :: rest) =>
      rw [pretty, print]
      have first := squeezes_line '[' (level + 1) _ _ (by decide) (pretty_squeezes (level + 1) json)
      have whole := squeezes_append _ _ _ _ _ _ _ first (items_squeeze level rest)
      simpa only [List.append_assoc, List.cons_append] using whole
  | .object ((name, json) :: rest) =>
      rw [pretty, print]
      have value := squeezes_member name _ _ (pretty_squeezes (level + 1) json)
      have first := squeezes_line '\x7b' (level + 1) _ _ (by decide) value
      have whole := squeezes_append _ _ _ _ _ _ _ first (members_squeeze level rest)
      simpa only [List.append_assoc, List.cons_append] using whole
  | .array [] => exact scalar_squeezes (.array [])
  | .object [] => exact scalar_squeezes (.object [])
  | .null => exact scalar_squeezes .null
  | .bool value => exact scalar_squeezes (.bool value)
  | .number n => exact scalar_squeezes (.number n)
  | .string text => exact scalar_squeezes (.string text)
theorem items_squeeze (level : Nat) (items : List Json) :
    Squeezes .outside (prettyItems level items) (printItems items) .outside := by
  match items with
  | [] => exact squeezes_closing ']' level (by decide)
  | json :: rest =>
      rw [prettyItems, printItems]
      have first := squeezes_line ',' (level + 1) _ _ (by decide) (pretty_squeezes (level + 1) json)
      have whole := squeezes_append _ _ _ _ _ _ _ first (items_squeeze level rest)
      simpa only [List.append_assoc, List.cons_append] using whole
theorem members_squeeze (level : Nat) (members : Members) :
    Squeezes .outside (prettyMembers level members) (printMembers members) .outside := by
  match members with
  | [] => exact squeezes_closing '\x7d' level (by decide)
  | (name, json) :: rest =>
      rw [prettyMembers, printMembers]
      have value := squeezes_member name _ _ (pretty_squeezes (level + 1) json)
      have first := squeezes_line ',' (level + 1) _ _ (by decide) value
      have whole := squeezes_append _ _ _ _ _ _ _ first (members_squeeze level rest)
      simpa only [List.append_assoc, List.cons_append] using whole
end

theorem pretty_text_squeezed (json : Json) : withoutLayout json.prettyText.toUTF8 = json.compactText.toUTF8 := by
  have bytes (text : List Char) : (String.ofList text).toUTF8 = (utf8 text).toByteArray := rfl
  rw [prettyText, compactText, bytes, bytes, withoutLayout, List.data_toByteArray, (pretty_squeezes 0 json).kept]

end MarkdownLayout.Json

namespace MarkdownLayout

def SameButLayout : Except Fault Rendered → Except Fault Rendered → Prop
  | .ok indented, .ok plain =>
      Json.withoutLayout indented.text.toUTF8 = plain.text.toUTF8 ∧ indented.mediaType? = plain.mediaType?
  | .error fault, .error other => fault = other
  | _, _ => False

theorem of_mode_same_but_layout (mode : OutputMode) (indented plain : String)
    (squeezed : Json.withoutLayout indented.toUTF8 = plain.toUTF8) :
    SameButLayout (.ok (.ofMode mode jsonMediaType indented)) (.ok (.ofMode mode jsonMediaType plain)) := by
  cases mode with
  | buffer => exact ⟨squeezed, rfl⟩
  | blob => exact ⟨squeezed, rfl⟩

theorem indentation_is_layout_only :
    (∀ definition : Definition,
      Json.withoutLayout (definition.text true).toUTF8 = (definition.text false).toUTF8 ∧
        definition.text true = definition.toJson.prettyText ∧ definition.text false = definition.toJson.compactText) ∧
    ∀ (root : Mdast.Root) (options : Options),
      SameButLayout (render root options true) (render root options false) := by
  have squeezed (definition : Definition) :
      Json.withoutLayout (definition.text true).toUTF8 = (definition.text false).toUTF8 :=
    Json.pretty_text_squeezed definition.toJson
  refine ⟨fun definition => ⟨squeezed definition, rfl, rfl⟩, fun root options => ?_⟩
  rw [render, render]
  cases imagesOf root options with
  | error fault => rfl
  | ok images =>
      show SameButLayout (buildWith root options images _) (buildWith root options images _)
      rw [buildWith, buildWith]
      cases Definition.ofRoot root options images with
      | error fault => rfl
      | ok definition => exact of_mode_same_but_layout options.output _ _ (squeezed definition)

end MarkdownLayout
