import MarkdownLayout.Proofs.Dictionary
import MarkdownLayout.Proofs.StyleProperties
import MarkdownLayout.Style.Table

set_option autoImplicit false

namespace MarkdownLayout

namespace Style

theorem merge_typed (style overlay : Style) (p : TypedProperty) :
    (style.merge overlay).typed p = (overlay.typed p).or (style.typed p) := by
  cases p <;> rfl

theorem merge_extra (style overlay : Style) (name : String) :
    (style.merge overlay).extra.get? name = (overlay.extra.get? name).or (style.extra.get? name) := by
  have merged := Dictionary.get_merge (fun _ value => value) style.extra overlay.extra name
  refine merged.trans ?_
  cases style.extra.get? name <;> cases overlay.extra.get? name <;> rfl

theorem merge_assoc (style overlay later : Style) :
    (style.merge overlay).merge later = style.merge (overlay.merge later) := by
  apply ext_properties
  · intro p
    rw [merge_typed, merge_typed, merge_typed, merge_typed, Option.or_assoc]
  · exact Dictionary.merge_assoc (fun _ value => value) (fun _ _ _ => rfl) style.extra overlay.extra later.extra

theorem merge_self (style : Style) : style.merge style = style := by
  apply ext_properties
  · intro p
    rw [merge_typed, Option.or_self]
  · exact Dictionary.merge_self (fun _ value => value) (fun _ => rfl) style.extra

end Style

namespace StyleTable

theorem resolve_assoc (table overlay later : StyleTable) :
    (table.resolve overlay).resolve later = table.resolve (overlay.resolve later) :=
  Dictionary.merge_assoc Style.merge Style.merge_assoc table overlay later

theorem resolve_self (table : StyleTable) : table.resolve table = table :=
  Dictionary.merge_self Style.merge Style.merge_self table

theorem resolve_again (table overlay : StyleTable) : (table.resolve overlay).resolve overlay = table.resolve overlay := by
  rw [resolve_assoc, resolve_self]

theorem resolve_resolved (table overlay : StyleTable) :
    table.resolve (table.resolve overlay) = table.resolve overlay := by
  rw [← resolve_assoc, resolve_self]

-- Equality is that of the values as they are stored, so it also tells the two zeros apart.
theorem overlays_form_monoid (table overlay later : StyleTable) :
    ((∀ name, name ∈ (table.resolve overlay).keys ↔ name ∈ table.keys ∨ name ∈ overlay.keys) ∧
      (∀ name, (table.resolve overlay).get? name =
        match table.get? name, overlay.get? name with
        | none, none => none
        | some style, none => some style
        | none, some style => some style
        | some style, some above => some (style.merge above)) ∧
      ∀ style above : Style,
        (∀ p, (style.merge above).typed p = (above.typed p).or (style.typed p)) ∧
          ∀ name, (style.merge above).extra.get? name = (above.extra.get? name).or (style.extra.get? name)) ∧
    (table.resolve overlay).resolve later = table.resolve (overlay.resolve later) ∧
    (table.resolve? none = table ∧ table.resolve? (some .empty) = table ∧ StyleTable.resolve .empty table = table) ∧
    (table.resolve overlay).resolve overlay = table.resolve overlay ∧
    table.resolve (table.resolve overlay) = table.resolve overlay := by
  refine ⟨⟨fun name => ?_, fun name => ?_, fun style above => ?_⟩, resolve_assoc table overlay later,
    ⟨rfl, rfl, Dictionary.empty_merge Style.merge table⟩, resolve_again table overlay, resolve_resolved table overlay⟩
  · exact (Dictionary.keys_merge Style.merge table overlay name).trans or_comm
  · have merged := Dictionary.get_merge Style.merge table overlay name
    cases ofTable : table.get? name <;> cases ofOverlay : overlay.get? name <;>
      rw [ofTable, ofOverlay] at merged <;> exact merged
  · exact ⟨style.merge_typed above, style.merge_extra above⟩

end StyleTable

end MarkdownLayout
