import MarkdownLayout.Document.Rendering
import MarkdownLayout.Proofs.Definition
import MarkdownLayout.Proofs.ImageUrls

set_option autoImplicit false

namespace MarkdownLayout

open Mdast

def Options.withImages (options : Options) (known? : Option ImageMap) : Options :=
  { options with resolver := known?.map .ofMap }

def firstUnknown? (root : Root) (known : ImageMap) : Option String :=
  (imageTargets root.children).find? fun url => (known.get? url).isNone

structure Supplied (root : Root) (known? : Option ImageMap) (definition : Definition) : Prop where
  data : ∀ url, definition.images.get? url =
    if url ∈ imageTargets root.children then known?.bind fun known => known.get? url else none
  keys : ∀ url, url ∈ definition.images.keys ↔ known?.isSome ∧ url ∈ imageTargets root.children
  shown : known?.isSome → ∀ url ∈ imageRefs definition.content, url ∈ definition.images.keys
  unresolved : known? = none → definition.images = .empty

theorem of_map_refuses (known : ImageMap) :
    (ImageResolver.ofMap known).refuses = fun url => (known.get? url).isNone := by
  funext url
  cases entry : known.get? url <;> simp [ImageResolver.refuses, ImageResolver.ofMap, entry, Except.toOption]

theorem of_map_answer (known : ImageMap) (url : String) :
    (ImageResolver.ofMap known url).toOption = known.get? url := by
  cases entry : known.get? url <;> simp [ImageResolver.ofMap, entry, Except.toOption]

theorem of_map_unknown (known : ImageMap) (url : String) (unknown : (known.get? url).isNone) :
    ImageResolver.ofMap known url = .error (.imageNotFound url) := by
  rw [ImageResolver.ofMap, Option.isNone_iff_eq_none.mp unknown]

theorem resolve_unknown (root : Root) (known : ImageMap) (url : String)
    (first : firstUnknown? root known = some url) :
    (ImageResolver.ofMap known).resolve root = .error (.imageNotFound url) := by
  have unknown := List.find?_some first
  refine ImageResolver.resolve_refused _ root url _ ?_ (of_map_unknown known url unknown)
  rw [of_map_refuses]
  exact first

theorem resolve_known (root : Root) (known : ImageMap) (allKnown : firstUnknown? root known = none) :
    ∃ images : ImageMap, (ImageResolver.ofMap known).resolve root = .ok images ∧
      ∀ url, images.get? url = if url ∈ imageTargets root.children then known.get? url else none := by
  have accepted : (imageTargets root.children).find? (ImageResolver.ofMap known).refuses = none := by
    rw [of_map_refuses]
    exact allKnown
  obtain ⟨images, resolved, entries⟩ := ImageResolver.resolve_found _ root accepted
  refine ⟨images, resolved, fun url => ?_⟩
  rw [entries, of_map_answer]

theorem known_of_target (root : Root) (known : ImageMap) (allKnown : firstUnknown? root known = none)
    (url : String) (member : url ∈ imageTargets root.children) : (known.get? url).isSome := by
  have present := List.find?_eq_none.mp allKnown url member
  exact Option.isSome_iff_ne_none.mpr (by simpa using present)

theorem images_known (root : Root) (options : Options) (known? : Option ImageMap)
    (allKnown : known?.bind (firstUnknown? root) = none) :
    ∃ images, imagesOf root (options.withImages known?) = .ok images ∧
      (∀ url, images.get? url =
        if url ∈ imageTargets root.children then known?.bind fun known => known.get? url else none) ∧
      (∀ url, url ∈ images.keys ↔ known?.isSome ∧ url ∈ imageTargets root.children) ∧
      (known? = none → images = .empty) := by
  cases known? with
  | none => exact ⟨.empty, rfl, by simp, by simp [Dictionary.mem_keys], fun _ => rfl⟩
  | some known =>
      obtain ⟨images, resolved, entries⟩ := resolve_known root known allKnown
      refine ⟨images, resolved, entries, fun url => ?_, by simp⟩
      rw [Dictionary.mem_keys, entries]
      by_cases member : url ∈ imageTargets root.children
      · simp [member, known_of_target root known allKnown url member]
      · simp [member]

theorem of_mode_text (mode : OutputMode) (mediaType text : String) :
    (Rendered.ofMode mode mediaType text).text = text := by
  cases mode <;> rfl

theorem render_unknown (root : Root) (options : Options) (known : ImageMap) (indented : Bool) (url : String)
    (first : firstUnknown? root known = some url) :
    render root (options.withImages (some known)) indented = .error (.imageNotFound url) := by
  have failed : imagesOf root (options.withImages (some known)) = .error (.imageNotFound url) :=
    resolve_unknown root known url first
  rw [render, failed]
  rfl

theorem build_stopped {α : Type} (root : Root) (options : Options) (images : ImageMap) (part : Misplaced)
    (build : Definition → Except Fault α) (stopped : Definition.walked root options = .error part) :
    buildWith root options images build = .error (.misplaced part.kind.name) := by
  rw [buildWith, Definition.of_root_stopped root options images part stopped]
  rfl

theorem render_built (root : Root) (options : Options) (indented : Bool) (definition : Definition)
    (resolved : imagesOf root options = .ok definition.images)
    (made : Definition.ofRoot root options definition.images = .ok definition) :
    render root options indented = .ok (.ofMode options.output jsonMediaType (definition.text indented)) := by
  rw [render, resolved]
  show buildWith root options definition.images _ = _
  rw [buildWith, made]
  rfl

theorem rendered_definition (root : Root) (options : Options) (indented : Bool) (rendered : Rendered)
    (done : render root options indented = .ok rendered) :
    ∃ definition : Definition, Definition.ofRoot root options definition.images = .ok definition ∧
      rendered.text = definition.text indented := by
  rw [render] at done
  cases resolved : imagesOf root options with
  | error fault =>
      rw [resolved] at done
      cases done
  | ok images =>
      rw [resolved] at done
      change buildWith root options images _ = _ at done
      rw [buildWith] at done
      cases made : Definition.ofRoot root options images with
      | error fault =>
          rw [made] at done
          cases done
      | ok definition =>
          rw [made] at done
          obtain rfl := Except.ok.inj done
          obtain ⟨-, rfl⟩ := Definition.walked_of_root root options images definition made
          exact ⟨definition, made, of_mode_text _ _ _⟩

theorem walked_images_shown (root : Root) (options : Options) (content : List Content)
    (done : Definition.walked root options = .ok content) :
    (imageRefs content).Sublist (imageTargets root.children) :=
  content_images_shown (Definition.contextOf options .empty) .plain root.children .fresh content done

theorem render_outcome (root : Root) (options : Options) (known? : Option ImageMap) (indented : Bool) :
    match known?.bind (firstUnknown? root) with
    | some url => render root (options.withImages known?) indented = .error (.imageNotFound url)
    | none =>
        match Definition.walked root options with
        | .error part =>
            render root (options.withImages known?) indented = .error (.misplaced part.kind.name) ∧
              ∀ (α : Type) (images : ImageMap) (build : Definition → Except Fault α),
                buildWith root (options.withImages known?) images build = .error (.misplaced part.kind.name)
        | .ok content =>
            ∃ definition : Definition,
              Definition.ofRoot root (options.withImages known?) definition.images = .ok definition ∧
              definition.content = content ∧ Supplied root known? definition ∧
              ∀ mode, ∃ rendered : Rendered,
                render root { options.withImages known? with output := mode } indented = .ok rendered ∧
                  rendered = .ofMode mode jsonMediaType (definition.text indented) ∧
                  rendered.text = definition.text indented := by
  cases missing : known?.bind (firstUnknown? root) with
  | some url =>
      obtain ⟨known, rfl, first⟩ := Option.bind_eq_some_iff.mp missing
      exact render_unknown root options known indented url first
  | none =>
      obtain ⟨images, resolved, data, keys, unresolved⟩ := images_known root options known? missing
      cases walk : Definition.walked root options with
      | error part =>
          have stopped : Definition.walked root (options.withImages known?) = .error part := walk
          refine ⟨?_, fun α others build => build_stopped root _ others part build stopped⟩
          rw [render, resolved]
          exact build_stopped root _ images part _ stopped
      | ok content =>
          obtain ⟨definition, made, ofContent, ofImages⟩ :=
            Definition.of_root_walked root (options.withImages known?) images content walk
          have shown : (imageRefs definition.content).Sublist (imageTargets root.children) := by
            rw [ofContent]
            exact walked_images_shown root options content walk
          subst ofImages
          refine ⟨definition, made, ofContent, ⟨data, keys, ?_, unresolved⟩, fun mode => ?_⟩
          · intro resolving url member
            exact (keys url).mpr ⟨resolving, shown.subset member⟩
          -- Neither the images nor the definition depend on the output mode.
          · have ran := render_built root { options.withImages known? with output := mode } indented definition
              resolved made
            exact ⟨_, ran, rfl, of_mode_text mode jsonMediaType _⟩

end MarkdownLayout
