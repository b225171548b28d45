import MarkdownLayout.Proofs.Members
import MarkdownLayout.Style.Basic

set_option autoImplicit false

namespace MarkdownLayout

open Json (Leniency Members)

inductive TypedProperty where
  | font
  | fontSize
  | lineHeight
  | bold
  | italics
  | alignment
  | color
  | background
  | decoration
  | margin
  deriving DecidableEq, Repr

namespace TypedProperty

abbrev Value : TypedProperty → Type
  | .font | .color | .background => String
  | .fontSize | .lineHeight => Float
  | .bold | .italics => Bool
  | .alignment => Alignment
  | .decoration => TextLine
  | .margin => Margin

def all : List TypedProperty :=
  [.font, .fontSize, .lineHeight, .bold, .italics, .alignment, .color, .background, .decoration, .margin]

def name : TypedProperty → String
  | .font => "font"
  | .fontSize => "fontSize"
  | .lineHeight => "lineHeight"
  | .bold => "bold"
  | .italics => "italics"
  | .alignment => "alignment"
  | .color => "color"
  | .background => "background"
  | .decoration => "decoration"
  | .margin => "margin"

def ofName? (name : String) : Option TypedProperty := all.find? fun p => p.name == name

def read (l : Leniency) : (p : TypedProperty) → Json → Option p.Value
  | .font | .color | .background => Json.string?
  | .fontSize | .lineHeight => Json.float?
  | .bold | .italics => Json.bool?
  | .alignment => Json.alternative? l Alignment.ofName?
  | .decoration => Json.alternative? l TextLine.ofName?
  | .margin => Margin.ofJson?

def write : (p : TypedProperty) → p.Value → Json
  | .font | .color | .background => .string
  | .fontSize | .lineHeight => .float
  | .bold | .italics => .bool
  | .alignment => fun alignment => .string alignment.name
  | .decoration => fun line => .string line.name
  | .margin => Margin.toJson

theorem all_names : all.map name = Style.typedNames := rfl

theorem mem_all (p : TypedProperty) : p ∈ all := by
  cases p <;> decide

theorem name_known (p : TypedProperty) : p.name ∈ Style.typedNames := all_names ▸ List.mem_map_of_mem p.mem_all

theorem of_name (p : TypedProperty) : ofName? p.name = some p := by
  cases p <;> rfl

theorem of_other_name (name : String) (other : name ∉ Style.typedNames) : ofName? name = none := by
  refine List.find?_eq_none.mpr fun p _ same => other ?_
  exact beq_iff_eq.mp same ▸ p.name_known

theorem read_write (l : Leniency) (p : TypedProperty) (value : p.Value) : p.read l (p.write value) = some value := by
  cases p with
  | alignment => cases value <;> rfl
  | decoration => cases value <;> rfl
  | margin => cases value <;> rfl
  | _ => rfl

theorem write_not_null (p : TypedProperty) (value : p.Value) : p.write value ≠ .null := by
  cases p with
  | margin => cases value <;> exact Json.noConfusion
  | _ => exact Json.noConfusion

end TypedProperty

namespace Style

def typed (style : Style) : (p : TypedProperty) → Option p.Value
  | .font => style.font
  | .fontSize => style.fontSize
  | .lineHeight => style.lineHeight
  | .bold => style.bold
  | .italics => style.italics
  | .alignment => style.alignment
  | .color => style.color
  | .background => style.background
  | .decoration => style.decoration
  | .margin => style.margin

theorem ext_properties (a b : Style) (typed : ∀ p, a.typed p = b.typed p) (extra : a.extra = b.extra) : a = b := by
  cases a
  cases b
  rw [Style.mk.injEq]
  exact ⟨typed .font, typed .fontSize, typed .lineHeight, typed .bold, typed .italics, typed .alignment,
    typed .color, typed .background, typed .decoration, typed .margin, extra⟩

theorem lookup_property {α : Type} (name query : String) (json : α → Json) (value : Option α) :
    (property name json value).lookup query = if query = name then value.map json else none := by
  cases value with
  | none => simp [property]
  | some a => rw [property, Dictionary.lookup_head, List.lookup_nil, Option.map_some]

theorem lookup_typed (style : Style) (p : TypedProperty) (absent : p.name ∉ style.extra.keys) :
    style.members.lookup p.name = (style.typed p).map p.write := by
  have noExtra : style.extra.entries.lookup p.name = none := Dictionary.lookup_absent _ _ absent
  cases p <;>
    · simp only [TypedProperty.name] at noExtra ⊢
      simp [members, List.lookup_append, lookup_property, noExtra, typed, TypedProperty.write]

theorem lookup_extra (style : Style) (name : String) (other : name ∉ typedNames) :
    style.members.lookup name = style.extra.get? name := by
  simp only [typedNames, List.mem_cons, List.not_mem_nil, or_false, not_or] at other
  simp [members, List.lookup_append, lookup_property, other, Dictionary.get?]

theorem read_iff (l : Leniency) (given : Members) (style : Style) :
    Style.ofJson? l (.object given) = some style ↔
      Json.Single typedNames given ∧ (∀ p, Json.optional (p.read l) p.name given = some (style.typed p)) ∧
        style.extra = .ofList (Json.orderedMembers (given.filter fun member => member.1 ∉ typedNames)) := by
  simp only [ofJson?, Option.bind_eq_bind, Option.bind_eq_some_iff, Json.distinct_iff]
  constructor
  · rintro ⟨_, ⟨rfl, single⟩, font, ofFont, fontSize, ofFontSize, lineHeight, ofLineHeight, bold, ofBold, italics,
      ofItalics, alignment, ofAlignment, color, ofColor, background, ofBackground, decoration, ofDecoration, margin,
      ofMargin, read⟩
    obtain rfl := Option.some.inj read
    refine ⟨single, fun p => ?_, rfl⟩
    cases p <;> assumption
  · rintro ⟨single, typed, extra⟩
    refine ⟨given, ⟨rfl, single⟩, _, typed .font, _, typed .fontSize, _, typed .lineHeight, _, typed .bold, _,
      typed .italics, _, typed .alignment, _, typed .color, _, typed .background, _, typed .decoration, _,
      typed .margin, ?_⟩
    rw [← extra]
    rfl

end Style

end MarkdownLayout
