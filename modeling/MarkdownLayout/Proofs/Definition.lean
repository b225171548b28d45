import MarkdownLayout.Document.Definition
import MarkdownLayout.Proofs.Comparison

set_option autoImplicit false

namespace MarkdownLayout.Definition

-- The walk through a document under its options, with a slugger of its own and before its images are known.
def walked (root : Mdast.Root) (options : Options) : Except Misplaced (List Content) :=
  ((contextOf options .empty).contentOf .plain root.children .fresh).1

theorem walked_supplied (root : Mdast.Root) (options : Options) (images : ImageMap) :
    ((contextOf options images).contentOf .plain root.children .fresh).1 = walked root options :=
  congrArg Prod.fst (Context.content_supplied (contextOf options images) .empty .plain root.children .fresh)

theorem of_root_stopped (root : Mdast.Root) (options : Options) (images : ImageMap) (part : Misplaced)
    (stopped : walked root options = .error part) : ofRoot root options images = .error (.misplaced part.kind.name) := by
  rw [ofRoot, contentOf, walked_supplied, stopped]
  rfl

theorem of_root_walked (root : Mdast.Root) (options : Options) (images : ImageMap) (content : List Content)
    (done : walked root options = .ok content) :
    ∃ definition, ofRoot root options images = .ok definition ∧
      definition.content = content ∧ definition.images = images := by
  rw [ofRoot, contentOf, walked_supplied, done]
  exact ⟨_, rfl, rfl, rfl⟩

theorem walked_of_root (root : Mdast.Root) (options : Options) (images : ImageMap) (definition : Definition)
    (made : ofRoot root options images = .ok definition) :
    walked root options = .ok definition.content ∧ definition.images = images := by
  cases walk : walked root options with
  | error part =>
      rw [of_root_stopped root options images part walk] at made
      cases made
  | ok content =>
      obtain ⟨other, same, ofContent, ofImages⟩ := of_root_walked root options images content walk
      rw [same] at made
      obtain rfl : other = definition := Except.ok.inj made
      exact ⟨by rw [ofContent], ofImages⟩

theorem of_root_fields (root : Mdast.Root) (options : Options) (images : ImageMap) (definition : Definition)
    (made : ofRoot root options images = .ok definition) :
    definition =
      { info := options.info
        keepsHeadings := options.preventOrphans
        pageMargins := options.pageMargins
        pageOrientation := options.pageOrientation
        pageSize := options.pageSize
        userPassword := options.userPassword
        ownerPassword := options.ownerPassword
        permissions := options.permissions
        version := options.version
        watermark := options.watermark
        content := definition.content
        images := definition.images
        defaultStyle := (options.defaultStyle.map baseStyle.merge).getD baseStyle
        styles := StyleTable.builtIn.resolve options.styles } := by
  obtain ⟨done, ofImages⟩ := walked_of_root root options images definition made
  rw [ofRoot, contentOf, walked_supplied, done, ← ofImages] at made
  exact (Except.ok.inj made).symm

theorem of_root_styles (root : Mdast.Root) (options : Options) (images : ImageMap) (definition : Definition)
    (made : ofRoot root options images = .ok definition) :
    definition.styles = StyleTable.builtIn.resolve options.styles ∧
      definition.defaultStyle = (options.defaultStyle.map baseStyle.merge).getD baseStyle := by
  have fields := of_root_fields root options images definition made
  exact ⟨congrArg styles fields, congrArg defaultStyle fields⟩

theorem of_root_keeps_headings (root : Mdast.Root) (options : Options) (images : ImageMap) (definition : Definition)
    (made : ofRoot root options images = .ok definition) : definition.keepsHeadings = options.preventOrphans :=
  congrArg keepsHeadings (of_root_fields root options images definition made)

end MarkdownLayout.Definition
