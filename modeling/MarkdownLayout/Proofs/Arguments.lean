import MarkdownLayout.Command.Arguments

set_option autoImplicit false

namespace MarkdownLayout.Command

inductive Part where
  | operand (text : String)
  | option (name value : String)

namespace Signature

variable {Known : Type} (s : Signature Known) (finish : Known → Option Request)

def take (known : Known) : Part → Option Known
  | .operand text => s.operand known text
  | .option name value => s.option known name value

-- What is known before has no part in how the arguments are split and in how their reading ends.
structure InParts (reads : Known → Option Request) (parts : List Part) (ending : Known → Option Request) : Prop where
  ends : ending = finish ∨ (ending = fun _ => some .help) ∨ ending = fun _ => none
  taken : ∀ known, reads known = do ending (← parts.foldlM s.take known)

theorem in_parts_finished : s.InParts finish finish [] finish := ⟨.inl rfl, fun _ => rfl⟩

theorem in_parts_helped : s.InParts finish (fun _ => some .help) [] fun _ => some .help :=
  ⟨.inr (.inl rfl), fun _ => rfl⟩

theorem in_parts_refused : s.InParts finish (fun _ => none) [] fun _ => none := ⟨.inr (.inr rfl), fun _ => rfl⟩

theorem in_parts_operands (texts : List String) :
    s.InParts finish (fun known => do finish (← texts.foldlM s.operand known)) (texts.map .operand) finish where
  ends := .inl rfl
  taken known := by rw [List.foldlM_map]; rfl

theorem in_parts_cons (part : Part) (reads ending : Known → Option Request) (parts : List Part)
    (rest : s.InParts finish reads parts ending) :
    s.InParts finish (fun known => (s.take known part).bind reads) (part :: parts) ending where
  ends := rest.ends
  taken known := by
    rw [List.foldlM_cons]
    show _ = ((s.take known part).bind fun known => parts.foldlM s.take known).bind ending
    rw [Option.bind_assoc]
    exact congrArg (Option.bind _) (funext rest.taken)

def Splits (reads : Known → Option Request) : Prop := ∃ parts ending, s.InParts finish reads parts ending

theorem splits_refused : s.Splits finish fun _ => none := ⟨[], _, s.in_parts_refused finish⟩

theorem splits_helped : s.Splits finish fun _ => some .help := ⟨[], _, s.in_parts_helped finish⟩

theorem splits_cons (part : Part) (reads : Known → Option Request) (rest : s.Splits finish reads) :
    s.Splits finish fun known => (s.take known part).bind reads := by
  obtain ⟨parts, ending, split⟩ := rest
  exact ⟨part :: parts, ending, s.in_parts_cons finish part reads ending parts split⟩

theorem splits_valued (name : String) (attached : Option String) (rest : List String) :
    (∀ shorter : List String, shorter.length ≤ rest.length →
      s.Splits finish fun known => s.takeAll finish known shorter) →
    s.Splits finish fun known =>
      match attached, rest with
      | some value, rest => do s.takeAll finish (← s.option known name value) rest
      | none, value :: rest =>
          match Form.of value with
          | .operand => do s.takeAll finish (← s.option known name value) rest
          | _ => none
      | none, [] => none := by
  intro later
  cases attached with
  | some value => exact s.splits_cons finish (.option name value) _ (later rest (Nat.le_refl _))
  | none =>
      cases rest with
      | nil => exact s.splits_refused finish
      | cons value rest =>
          cases form : Form.of value with
          | operand =>
              simp only [form]
              exact s.splits_cons finish (.option name value) _ (later rest (Nat.le_succ _))
          | separator | long _ _ | letters _ _ => simpa only [form] using s.splits_refused finish

theorem take_all_splits (arguments : List String) :
    s.Splits finish fun known => s.takeAll finish known arguments := by
  -- An option may take the argument behind it along, so the induction is on the number of arguments.
  induction count : arguments.length using Nat.strongRecOn generalizing arguments with
  | ind total ih =>
    cases arguments with
    | nil => exact ⟨[], finish, s.in_parts_finished finish⟩
    | cons argument rest =>
        have later (shorter : List String) (fewer : shorter.length ≤ rest.length) :
            s.Splits finish fun known => s.takeAll finish known shorter :=
          ih shorter.length (by rw [List.length_cons] at count; omega) shorter rfl
        have next (part : Part) := s.splits_cons finish part _ (later rest (Nat.le_refl _))
        cases form : Form.of argument with
        | operand =>
            simp only [takeAll, form]
            exact next (.operand argument)
        | separator =>
            simp only [takeAll, form]
            exact ⟨_, finish, s.in_parts_operands finish rest⟩
        | long name attached =>
            simp only [takeAll, form]
            cases found : s.flags.find? fun flag => flag.name == name with
            | some flag =>
                by_cases valued : flag.valued = true
                · simp only [if_pos valued]
                  exact s.splits_valued finish flag.name attached rest later
                · simp only [if_neg valued]
                  cases attached with
                  | some value => exact s.splits_refused finish
                  | none => exact next (.option name "")
            | none =>
                by_cases asked : name = "help" ∧ attached.isNone = true
                · simpa only [if_pos asked] using s.splits_helped finish
                · simpa only [if_neg asked] using s.splits_refused finish
        | letters first letters =>
            simp only [takeAll, form]
            cases found : s.flags.find? fun flag => flag.letter == some first with
            | some flag => exact s.splits_valued finish flag.name (attachedValue letters) rest later
            | none =>
                by_cases asked : first = 'h'
                · simpa only [if_pos asked] using s.splits_helped finish
                · simpa only [if_neg asked] using s.splits_refused finish

structure Presets (preset : Known → Known) (isSet : Known → Bool) : Prop where
  kept : ∀ known part after, s.take known part = some after → isSet known → isSet after
  free : ∀ known part after, s.take known part = some after → isSet after = false →
    s.take (preset known) part = some (preset after)

section

variable (preset : Known → Known) (isSet : Known → Bool) (presets : s.Presets preset isSet)
include presets

theorem parts_kept (parts : List Part) (known after : Known) (taken : parts.foldlM s.take known = some after)
    (set : isSet known) : isSet after := by
  induction parts generalizing known with
  | nil =>
      obtain rfl := Option.some.inj taken
      exact set
  | cons part rest ih =>
      rw [List.foldlM_cons] at taken
      obtain ⟨middle, first, others⟩ := Option.bind_eq_some_iff.mp taken
      exact ih middle others (presets.kept known part middle first set)

theorem parts_preset (parts : List Part) (known after : Known) (taken : parts.foldlM s.take known = some after)
    (unset : isSet after = false) : parts.foldlM s.take (preset known) = some (preset after) := by
  induction parts generalizing known with
  | nil =>
      obtain rfl := Option.some.inj taken
      rfl
  | cons part rest ih =>
      rw [List.foldlM_cons] at taken
      obtain ⟨middle, first, others⟩ := Option.bind_eq_some_iff.mp taken
      have unsetYet : isSet middle = false := by
        cases set : isSet middle with
        | false => rfl
        | true =>
            rw [s.parts_kept preset isSet presets rest middle after others set] at unset
            cases unset
      rw [List.foldlM_cons, presets.free known part middle first unsetYet]
      exact ih middle others

theorem take_all_preset (known : Known) (arguments : List String) (request : Request) (notHelp : request ≠ .help)
    (read : s.takeAll finish known arguments = some request) :
    ∃ after, finish after = some request ∧
      (isSet after = false → s.takeAll finish (preset known) arguments = finish (preset after)) := by
  obtain ⟨parts, ending, ends, taken⟩ := s.take_all_splits finish arguments
  rw [taken] at read
  obtain ⟨after, reached, ended⟩ := Option.bind_eq_some_iff.mp read
  rcases ends with rfl | rfl | rfl
  · refine ⟨after, ended, fun unset => ?_⟩
    rw [taken, s.parts_preset preset isSet presets parts known after reached unset]
    rfl
  · exact absurd (Option.some.inj ended).symm notHelp
  · cases ended

end

end Signature

theorem once_sets {α : Type} (current value after : Option α) (given : once current value = some after) :
    after.isSome := by
  cases current with
  | some old => cases given
  | none =>
      cases value with
      | none => cases given
      | some new =>
          obtain rfl := Option.some.inj given
          rfl

namespace RenderKnown

def configured (path : String) (known : RenderKnown) : RenderKnown := { known with config := some path }

theorem take_config (known after : RenderKnown) (part : Part) (taken : signature.take known part = some after) :
    after.config.isSome ∨
      (after.config = known.config ∧
        ∀ path, signature.take (known.configured path) part = some (after.configured path)) := by
  cases part with
  | operand text =>
      obtain ⟨input, given, made⟩ := Option.bind_eq_some_iff.mp taken
      obtain rfl := Option.some.inj made
      refine .inr ⟨rfl, fun path => ?_⟩
      exact Option.bind_eq_some_iff.mpr ⟨input, given, rfl⟩
  | option name value =>
      simp only [Signature.take, signature] at taken
      split at taken
      · obtain ⟨output, given, made⟩ := Option.bind_eq_some_iff.mp taken
        obtain rfl := Option.some.inj made
        refine .inr ⟨rfl, fun path => ?_⟩
        exact Option.bind_eq_some_iff.mpr ⟨output, given, rfl⟩
      · obtain ⟨config, given, made⟩ := Option.bind_eq_some_iff.mp taken
        obtain rfl := Option.some.inj made
        exact .inl (once_sets _ _ _ given)
      · obtain ⟨mode, given, made⟩ := Option.bind_eq_some_iff.mp taken
        obtain rfl := Option.some.inj made
        refine .inr ⟨rfl, fun path => ?_⟩
        exact Option.bind_eq_some_iff.mpr ⟨mode, given, rfl⟩
      · rename_i notOutput notConfig notMode
        obtain ⟨indented, given, made⟩ := Option.bind_eq_some_iff.mp taken
        obtain rfl := Option.some.inj made
        refine .inr ⟨rfl, fun path => ?_⟩
        simp only [Signature.take, signature]
        exact Option.bind_eq_some_iff.mpr ⟨indented, given, rfl⟩

theorem config_presets (path : String) : signature.Presets (configured path) fun known => known.config.isSome where
  kept known part after taken set := by
    rcases take_config known after part taken with named | ⟨same, -⟩
    · exact named
    · rw [same]
      exact set
  free known part after taken unset := by
    rcases take_config known after part taken with named | ⟨-, alike⟩
    · rw [named] at unset
      cases unset
    · exact alike path

end RenderKnown

theorem styles_presets (path : String) : stylesSignature.Presets (fun _ => some path) Option.isSome where
  kept known part after taken _ := by
    cases part with
    | operand text => cases taken
    | option name value => exact once_sets known _ after taken
  free known part after taken unset := by
    cases part with
    | operand text => cases taken
    | option name value =>
        rw [once_sets known _ after taken] at unset
        cases unset

theorem form_of_config (path : String) : Form.of ("--config=" ++ path) = .long "config" (some path) := by
  have spelled : ("--config=" ++ path).toList = '-' :: '-' :: ("config".toList ++ '=' :: path.toList) := by
    rw [String.toList_append]
    rfl
  rw [Form.of, spelled]
  show Form.long "config" (some (.ofList path.toList)) = _
  rw [String.ofList_toList]

theorem path_of_text (path : String) (notEmpty : path ≠ "") : path? path = some path := if_neg notEmpty

theorem Signature.take_all_config {Known : Type} (s : Signature Known) (finish : Known → Option Request)
    (known after : Known) (path : String) (rest : List String)
    (flag : s.flags.find? (fun flag => flag.name == "config") = some ⟨"config", some 'c', true⟩)
    (set : s.option known "config" path = some after) :
    s.takeAll finish known (("--config=" ++ path) :: rest) = s.takeAll finish after rest := by
  rw [takeAll, form_of_config]
  simp only [flag, set, if_true]
  rfl

def RenderRequest.withConfig (path : String) (request : RenderRequest) : RenderRequest :=
  { request with config := some path }

def Request.withConfig (path : String) : Request → Request
  | .render request => .render (request.withConfig path)
  | .styles _ => .styles (some path)
  | request => request

def Request.Unconfigured : Request → Prop
  | .render request => request.config = none
  | .styles config => config = none
  | _ => False

def withConfig (path : String) : List String → List String
  | command :: rest => command :: ("--config=" ++ path) :: rest
  | [] => []

theorem render_with_config (rest : List String) (request : RenderRequest) (path : String) (notEmpty : path ≠ "")
    (unset : request.config = none) (asked : Request.ofArguments? ("render" :: rest) = some (.render request)) :
    Request.ofArguments? (withConfig path ("render" :: rest)) = some (.render (request.withConfig path)) := by
  obtain ⟨after, finished, preset⟩ :=
    RenderKnown.signature.take_all_preset RenderKnown.finish (RenderKnown.configured path) _
      (RenderKnown.config_presets path) .nothing rest _ (by simp) asked
  obtain ⟨input, given, made⟩ := Option.bind_eq_some_iff.mp finished
  obtain rfl := Request.render.inj (Option.some.inj made)
  have stillUnset : after.config.isSome = false := Option.isSome_eq_false_iff.mpr (Option.isNone_iff_eq_none.mpr unset)
  have set : RenderKnown.signature.option .nothing "config" path = some (RenderKnown.configured path .nothing) := by
    simp only [RenderKnown.signature, path_of_text path notEmpty]
    rfl
  calc Request.ofArguments? (withConfig path ("render" :: rest))
      = RenderKnown.signature.takeAll RenderKnown.finish .nothing (("--config=" ++ path) :: rest) := rfl
    _ = RenderKnown.signature.takeAll RenderKnown.finish (RenderKnown.configured path .nothing) rest :=
        RenderKnown.signature.take_all_config _ _ _ path rest rfl set
    _ = RenderKnown.finish (RenderKnown.configured path after) := preset stillUnset
    _ = _ := Option.bind_eq_some_iff.mpr ⟨input, given, rfl⟩

theorem styles_with_config (rest : List String) (path : String) (notEmpty : path ≠ "")
    (asked : Request.ofArguments? ("styles" :: rest) = some (.styles none)) :
    Request.ofArguments? (withConfig path ("styles" :: rest)) = some (.styles (some path)) := by
  obtain ⟨after, finished, preset⟩ :=
    stylesSignature.take_all_preset (fun config => some (.styles config)) (fun _ => some path) _
      (styles_presets path) none rest _ (by simp) asked
  obtain rfl := Request.styles.inj (Option.some.inj finished)
  have set : stylesSignature.option none "config" path = some (some path) := by
    simp only [stylesSignature, path_of_text path notEmpty]
    rfl
  calc Request.ofArguments? (withConfig path ("styles" :: rest))
      = stylesSignature.takeAll (fun config => some (.styles config)) none (("--config=" ++ path) :: rest) := rfl
    _ = stylesSignature.takeAll (fun config => some (.styles config)) (some path) rest :=
        stylesSignature.take_all_config _ _ _ path rest rfl set
    _ = some (.styles (some path)) := preset rfl

theorem request_with_config (arguments : List String) (request : Request) (path : String) (notEmpty : path ≠ "")
    (unset : request.Unconfigured) (asked : Request.ofArguments? arguments = some request) :
    Request.ofArguments? (withConfig path arguments) = some (request.withConfig path) := by
  have notHelp : request ≠ .help := by
    rintro rfl
    cases unset
  have read := asked
  rw [Request.ofArguments?.eq_def] at read
  split at read
  · cases read
  · rename_i rest
    cases request with
    | render request => exact render_with_config rest request path notEmpty unset asked
    | version | help => cases unset
    | styles config =>
        obtain ⟨after, finished, -⟩ :=
          RenderKnown.signature.take_all_preset _ _ _ (RenderKnown.config_presets path) _ _ _ notHelp read
        obtain ⟨input, -, made⟩ := Option.bind_eq_some_iff.mp finished
        cases made
  · rename_i rest
    cases request with
    | styles config =>
        obtain rfl : config = none := unset
        exact styles_with_config rest path notEmpty asked
    | version | help => cases unset
    | render request =>
        obtain ⟨after, finished, -⟩ :=
          stylesSignature.take_all_preset _ _ _ (styles_presets path) _ _ _ notHelp read
        cases finished
  · exact absurd (Option.some.inj read).symm notHelp
  · split at read
    · exact absurd (Option.some.inj read).symm notHelp
    · cases read
  · split at read <;> cases read <;> cases unset

end MarkdownLayout.Command
