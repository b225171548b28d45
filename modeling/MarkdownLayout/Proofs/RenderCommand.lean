import MarkdownLayout.Command.Run
import MarkdownLayout.Proofs.Configuration
import MarkdownLayout.Proofs.Files
import MarkdownLayout.Proofs.Outcome
import MarkdownLayout.Proofs.Rendering

set_option autoImplicit false

namespace MarkdownLayout

open Mdast

def Config.known? (config : Config) : Option ImageMap := if config.images.isEmpty then none else some config.images

namespace Command

def textAt? (tree : FileTree) (path : String) : Option String := (tree.read path).bind String.fromUTF8?

def configPath? (tree : FileTree) (request : RenderRequest) : Option String :=
  let beside := Path.sibling request.input configName
  request.config.or (if tree.present beside then some beside else none)

def inputRoot? (tree : FileTree) (request : RenderRequest) : Option Root :=
  (textAt? tree request.input).bind Root.read?

def configAt? (tree : FileTree) (path : String) : Option Config := (textAt? tree path).bind Config.readToml?

def chosenConfig? (tree : FileTree) (request : RenderRequest) : Option Config :=
  ((configPath? tree request).map (configAt? tree)).getD (some .default)

inductive Stage where
  | findInput
  | readInput
  | parseInput
  | readConfig
  | parseConfig
  | findImages
  | convert
  | writeOutput

def Stage.all : List Stage :=
  [.findInput, .readInput, .parseInput, .readConfig, .parseConfig, .findImages, .convert, .writeOutput]

-- How a stage fails on the files as they were before the run. What hangs on an earlier stage that
-- fails does not fail itself.
def Stage.failure? (tree : FileTree) (request : RenderRequest) : Stage → Option Failure
  | .findInput => if tree.present request.input then none else some (.inputMissing request.input)
  | .readInput => if (textAt? tree request.input).isSome then none else some (.inputUnreadable request.input)
  | .parseInput => if (inputRoot? tree request).isSome then none else some (.inputMalformed request.input)
  | .readConfig => do
      let path ← configPath? tree request
      if (textAt? tree path).isSome then none else some (.configUnreadable path)
  | .parseConfig => do
      let path ← configPath? tree request
      if (configAt? tree path).isSome then none else some (.configMalformed path)
  | .findImages => do
      let root ← inputRoot? tree request
      let config ← chosenConfig? tree request
      (config.known?.bind (firstUnknown? root)).map fun url => .notRendered (.imageNotFound url)
  | .convert => do
      let root ← inputRoot? tree request
      let config ← chosenConfig? tree request
      match Definition.walked root config.options with
      | .ok _ => none
      | .error part => some (.notRendered (.misplaced part.kind.name))
  | .writeOutput => do
      let path ← request.output
      if tree.accepts path then none else some (.outputUnwritable path)

def firstFailure? (tree : FileTree) (request : RenderRequest) : Option Failure :=
  Stage.all.findSome? (Stage.failure? tree request)

def summary (path : String) (size : Nat) (mode : OutputMode) : String :=
  "Render complete!\n" ++ "  Output: " ++ path ++ "\n" ++ "  Size: " ++ toString size ++ " bytes\n"
    ++ if mode = .blob then "  Type: " ++ jsonMediaType ++ "\n" else ""

def Settles {α : Type} (tree : FileTree) (failure? : Option Failure) (found? : Option α)
    (part : Run (StateM FileTree) α) : Prop :=
  match failure? with
  | some failure => part.run tree = (.error failure, tree)
  | none => ∃ a, found? = some a ∧ part.run tree = (.ok a, tree)

section

variable {α β : Type} (tree : FileTree)

theorem settles_found (a : α) : Settles tree none (some a) (pure a) := ⟨a, rfl, rfl⟩

theorem settles_failed (failure : Failure) (found? : Option α) :
    Settles tree (some failure) found? (throw failure) := rfl

theorem settles_same (part other : Run (StateM FileTree) α) (failure? : Option Failure) (found? : Option α)
    (same : part.run tree = other.run tree) (settles : Settles tree failure? found? other) :
    Settles tree failure? found? part := by
  rw [Settles.eq_def, same]
  exact settles

theorem settles_bind (first : Run (StateM FileTree) α) (next : α → Run (StateM FileTree) β)
    (firstFailure? nextFailure? : Option Failure) (found? : Option α) (result? : Option β)
    (head : Settles tree firstFailure? found? first)
    (tail : ∀ a, found? = some a → Settles tree nextFailure? result? (next a)) :
    Settles tree (firstFailure?.or nextFailure?) result? (first >>= next) := by
  cases firstFailure? with
  | some failure => exact run_bind_stopped first next tree tree failure head
  | none =>
      obtain ⟨a, found, ran⟩ := head
      have joined := run_bind_done first next tree tree a ran
      have follows := tail a found
      cases nextFailure? with
      | some failure => exact joined.trans follows
      | none =>
          obtain ⟨b, result, finished⟩ := follows
          exact ⟨b, result, joined.trans finished⟩

theorem settles_present (path : String) :
    Settles tree none (some (tree.present path)) (FileAccess.present path) := ⟨_, rfl, rfl⟩

theorem settles_read (path : String) : Settles tree none (some (tree.read path)) (FileAccess.read path) := ⟨_, rfl, rfl⟩

theorem settles_text (path : String) (failure : Failure) :
    Settles tree (if (textAt? tree path).isSome then none else some failure) (textAt? tree path)
      (readText path failure) := by
  show Settles tree (Option.or none (if (textAt? tree path).isSome then none else some failure)) _ _
  refine settles_bind tree _ _ _ _ _ _ (settles_read tree path) ?_
  rintro bytes same
  obtain rfl := Option.some.inj same
  rw [textAt?]
  cases (tree.read path).bind String.fromUTF8? with
  | some text => exact settles_found tree text
  | none => exact settles_failed tree failure none

theorem settles_parsed (path : String) (unreadable malformed : Failure) (parse? : String → Option α)
    (parser : String → Run (StateM FileTree) α)
    (parses : ∀ text,
      Settles tree (if (parse? text).isSome then none else some malformed) (parse? text) (parser text)) :
    Settles tree
      ((if (textAt? tree path).isSome then none else some unreadable).or
        (if ((textAt? tree path).bind parse?).isSome then none else some malformed))
      ((textAt? tree path).bind parse?) (readText path unreadable >>= parser) := by
  refine settles_bind tree _ _ _ _ _ _ (settles_text tree path unreadable) ?_
  rintro text found
  rw [found, Option.bind_some]
  exact parses text

end

theorem input_settles (tree : FileTree) (request : RenderRequest) :
    Settles tree
      ((Stage.findInput.failure? tree request).or
        ((Stage.readInput.failure? tree request).or (Stage.parseInput.failure? tree request)))
      (inputRoot? tree request) (readInput request.input) := by
  show Settles tree (Option.or none _) _ _
  refine settles_bind tree _ _ _ _ _ _ (settles_present tree request.input) ?_
  rintro found same
  obtain rfl := Option.some.inj same
  simp only [Stage.failure?]
  cases tree.present request.input with
  | false => exact settles_failed tree _ _
  | true =>
      refine settles_parsed tree request.input _ _ Root.read? _ fun text => ?_
      cases Root.read? text with
      | some root => exact settles_found tree root
      | none => exact settles_failed tree _ none

theorem read_config_settles (tree : FileTree) (path : String) :
    Settles tree
      ((if (textAt? tree path).isSome then none else some (.configUnreadable path)).or
        (if (configAt? tree path).isSome then none else some (.configMalformed path)))
      (configAt? tree path) (readConfig path) := by
  refine settles_parsed tree path _ _ Config.readToml? _ fun text => ?_
  cases Config.readToml? text with
  | some config => exact settles_found tree config
  | none => exact settles_failed tree _ none

theorem find_config_beside (tree : FileTree) (default : String) (present : tree.present default = true) :
    (findConfig none default : Run (StateM FileTree) Config).run tree =
      (readConfig default : Run (StateM FileTree) Config).run tree := by
  have found : (FileAccess.present default : Run (StateM FileTree) Bool).run tree = (.ok true, tree) := by
    rw [← present]
    rfl
  exact run_bind_done _ _ tree tree true found

theorem find_config_default (tree : FileTree) (default : String) (absent : tree.present default = false) :
    (findConfig none default : Run (StateM FileTree) Config).run tree = (.ok .default, tree) := by
  have found : (FileAccess.present default : Run (StateM FileTree) Bool).run tree = (.ok false, tree) := by
    rw [← absent]
    rfl
  exact run_bind_done _ _ tree tree false found

theorem config_settles (tree : FileTree) (request : RenderRequest) :
    Settles tree ((Stage.readConfig.failure? tree request).or (Stage.parseConfig.failure? tree request))
      (chosenConfig? tree request) (findConfig request.config (Path.sibling request.input configName)) := by
  cases named : request.config with
  | some path =>
      have chosen : configPath? tree request = some path := by rw [configPath?, named]; rfl
      simp only [Stage.failure?, chosenConfig?, chosen]
      exact read_config_settles tree path
  | none =>
      cases present : tree.present (Path.sibling request.input configName) with
      | true =>
          have chosen : configPath? tree request = some (Path.sibling request.input configName) := by
            rw [configPath?, named]
            simp [present]
          simp only [Stage.failure?, chosenConfig?, chosen]
          exact settles_same tree _ _ _ _ (find_config_beside tree _ present) (read_config_settles tree _)
      | false =>
          have chosen : configPath? tree request = none := by
            rw [configPath?, named]
            simp [present]
          simp only [Stage.failure?, chosenConfig?, chosen]
          exact ⟨.default, rfl, find_config_default tree _ present⟩

theorem chosen_config_resolver (tree : FileTree) (request : RenderRequest) (config : Config)
    (chosen : chosenConfig? tree request = some config) : config.options.resolver = none := by
  rw [chosenConfig?] at chosen
  cases path? : configPath? tree request with
  | none =>
      rw [path?] at chosen
      obtain rfl := Option.some.inj chosen
      rfl
  | some path =>
      rw [path?] at chosen
      obtain ⟨text, -, read⟩ := Option.bind_eq_some_iff.mp chosen
      obtain ⟨members, readFrom⟩ := Config.read_toml text config read
      exact readFrom.resolver

theorem options_of_config (config : Config) (mode : Option OutputMode) (unhooked : config.options.resolver = none) :
    optionsOf config mode =
      { config.options.withImages config.known? with output := mode.getD config.options.output } := by
  cases empty : config.images.isEmpty with
  | true => simp [optionsOf, Config.toOptions, Config.known?, Options.withImages, empty, unhooked]
  | false => simp [optionsOf, Config.toOptions, Config.known?, Options.withImages, empty]

theorem rendering_stages (root : Root) (config : Config) (indented : Bool)
    (unhooked : config.options.resolver = none) :
    match config.known?.bind (firstUnknown? root), Definition.walked root config.options with
    | some url, _ =>
        ∀ mode, MarkdownLayout.render root (optionsOf config mode) indented = .error (.imageNotFound url)
    | none, .error part =>
        ∀ mode, MarkdownLayout.render root (optionsOf config mode) indented = .error (.misplaced part.kind.name)
    | none, .ok _ =>
        ∃ text, ∀ mode, MarkdownLayout.render root (optionsOf config mode) indented =
          .ok (.ofMode (mode.getD config.options.output) jsonMediaType text) := by
  simp only [options_of_config config _ unhooked]
  cases missing : config.known?.bind (firstUnknown? root) with
  | some url =>
      intro mode
      obtain ⟨known, isKnown, first⟩ := Option.bind_eq_some_iff.mp missing
      rw [isKnown]
      exact render_unknown root { config.options with output := mode.getD config.options.output } known indented url
        first
  | none =>
      obtain ⟨images, resolved, -⟩ := images_known root config.options config.known? missing
      cases walk : Definition.walked root config.options with
      | error part =>
          intro mode
          have found : imagesOf root { config.options.withImages config.known? with
              output := mode.getD config.options.output } = .ok images := resolved
          rw [MarkdownLayout.render, found]
          exact build_stopped root _ images part _ walk
      | ok content =>
          obtain ⟨definition, made, -, ofImages⟩ :=
            Definition.of_root_walked root (config.options.withImages config.known?) images content walk
          subst ofImages
          exact ⟨definition.text indented, fun mode => render_built root _ indented definition resolved made⟩

theorem first_failure_cons (tree : FileTree) (request : RenderRequest) (stage : Stage) (rest : List Stage) :
    (stage :: rest).findSome? (Stage.failure? tree request) =
      (stage.failure? tree request).or (rest.findSome? (Stage.failure? tree request)) := by
  rw [List.findSome?_cons]
  cases stage.failure? tree request <;> rfl

theorem first_failure_split (tree : FileTree) (request : RenderRequest) :
    firstFailure? tree request =
      ((Stage.findInput.failure? tree request).or
        ((Stage.readInput.failure? tree request).or (Stage.parseInput.failure? tree request))).or
      (((Stage.readConfig.failure? tree request).or (Stage.parseConfig.failure? tree request)).or
        (((Stage.findImages.failure? tree request).or (Stage.convert.failure? tree request)).or
          (Stage.writeOutput.failure? tree request))) := by
  simp only [firstFailure?, Stage.all, first_failure_cons, List.findSome?_nil, Option.or_none, Option.or_assoc]

theorem report_is_summary (path : String) (size : Nat) (mode : OutputMode) (text : String) :
    report path size (.ofMode mode jsonMediaType text) = summary path size mode := by
  cases mode <;> rfl

def Delivered (tree : FileTree) (text : String) (mode : OutputMode) (output : Option String)
    (ran : Except Failure String × FileTree) : Prop :=
  match output with
  | none => ran = (.ok (text ++ "\n"), tree)
  | some path =>
      ∃ after, ran = (.ok (summary path text.toUTF8.size mode), after) ∧ tree.Rewritten after path text.toUTF8

theorem write_run (tree : FileTree) (path : String) (bytes : ByteArray) :
    (FileAccess.write path bytes : Run (StateM FileTree) Bool).run tree =
      (.ok (tree.write? path bytes).isSome, (tree.write? path bytes).getD tree) := by
  have lifted : (FileAccess.write path bytes : Run (StateM FileTree) Bool).run =
      Except.ok <$> (FileAccess.write path bytes : StateM FileTree Bool) := ExceptT.run_lift _
  have written : (FileAccess.write path bytes : StateM FileTree Bool).run tree =
      ((tree.write? path bytes).isSome, (tree.write? path bytes).getD tree) := by
    simp only [FileAccess.write, StateT.run_bind, StateT.run_get]
    cases written : tree.write? path bytes with
    | none =>
        simp only [pure_bind, written, StateT.run_pure]
        rfl
    | some after =>
        simp only [pure_bind, written, StateT.run_bind, StateT.run_set, StateT.run_pure]
        rfl
  rw [lifted]
  show StateT.run (Except.ok <$> (FileAccess.write path bytes : StateM FileTree Bool)) tree = _
  rw [StateT.run_map, written]
  rfl

theorem deliver_run (tree : FileTree) (request : RenderRequest) (mode : OutputMode) (text : String) :
    let ran := (deliver (.ofMode mode jsonMediaType text) request.output : Run (StateM FileTree) String).run tree
    match Stage.writeOutput.failure? tree request with
    | some failure => ran = (.error failure, tree)
    | none => Delivered tree text mode request.output ran := by
  have sameText := of_mode_text mode jsonMediaType text
  cases output : request.output with
  | none =>
      rw [deliver, sameText]
      simp only [Stage.failure?, output]
      rfl
  | some path =>
      have written := write_run tree path text.toUTF8
      simp only [Stage.failure?, output, Option.bind_eq_bind, Option.bind_some]
      rw [deliver, sameText, run_bind_done _ _ _ _ _ written]
      cases accepts : tree.accepts path with
      | false =>
          rw [FileTree.write_refused tree path _ accepts]
          rfl
      | true =>
          obtain ⟨after, wrote, rewritten⟩ := FileTree.write_accepted tree path text.toUTF8 accepts
          rw [wrote]
          exact ⟨after, congrArg (fun printed => (Except.ok printed, after)) (report_is_summary _ _ _ _), rewritten⟩

def produce (request : RenderRequest) (root : Root) (config : Config) : Run (StateM FileTree) String := do
  match MarkdownLayout.render root (optionsOf config request.mode) request.indented with
  | .ok rendered => deliver rendered request.output
  | .error fault => throw (.notRendered fault)

theorem produce_run (tree : FileTree) (request : RenderRequest) (root : Root) (config : Config)
    (input : inputRoot? tree request = some root) (chosen : chosenConfig? tree request = some config) :
    let ran := (produce request root config).run tree
    match ((Stage.findImages.failure? tree request).or (Stage.convert.failure? tree request)).or
      (Stage.writeOutput.failure? tree request) with
    | some failure => ran = (.error failure, tree)
    | none => ∃ text,
        (∀ mode, MarkdownLayout.render root (optionsOf config mode) request.indented =
          .ok (.ofMode (mode.getD config.options.output) jsonMediaType text)) ∧
        Delivered tree text (request.mode.getD config.options.output) request.output ran := by
  have stages := rendering_stages root config request.indented (chosen_config_resolver tree request config chosen)
  have images : Stage.findImages.failure? tree request =
      (config.known?.bind (firstUnknown? root)).map fun url => .notRendered (.imageNotFound url) := by
    simp only [Stage.failure?, input, chosen]
    rfl
  have converted : Stage.convert.failure? tree request =
      match Definition.walked root config.options with
      | .ok _ => none
      | .error part => some (.notRendered (.misplaced part.kind.name)) := by
    simp only [Stage.failure?, input, chosen]
    rfl
  rw [images, converted, produce]
  cases missing : config.known?.bind (firstUnknown? root) with
  | some url =>
      rw [missing] at stages
      rw [stages]
      rfl
  | none =>
      cases walk : Definition.walked root config.options with
      | error part =>
          rw [missing, walk] at stages
          rw [stages]
          rfl
      | ok content =>
          rw [missing, walk] at stages
          obtain ⟨text, rendered⟩ := stages
          have delivered := deliver_run tree request (request.mode.getD config.options.output) text
          rw [rendered]
          simp only [Option.map_none, Option.none_or]
          cases failure? : Stage.writeOutput.failure? tree request with
          | some failure =>
              rw [failure?] at delivered
              exact delivered
          | none =>
              rw [failure?] at delivered
              exact ⟨text, rendered, delivered⟩

theorem render_in_steps (request : RenderRequest) :
    (render request : Run (StateM FileTree) String) =
      (do
        let root ← readInput request.input
        let config ← findConfig request.config (Path.sibling request.input configName)
        produce request root config) := rfl

theorem render_run (tree : FileTree) (request : RenderRequest) :
    let ran := (render request : Run (StateM FileTree) String).run tree
    match firstFailure? tree request with
    | some failure => ran = (.error failure, tree)
    | none => ∃ root config text,
        inputRoot? tree request = some root ∧ chosenConfig? tree request = some config ∧
        (∀ mode, MarkdownLayout.render root (optionsOf config mode) request.indented =
          .ok (.ofMode (mode.getD config.options.output) jsonMediaType text)) ∧
        Delivered tree text (request.mode.getD config.options.output) request.output ran := by
  have input := input_settles tree request
  have config := config_settles tree request
  rw [first_failure_split, render_in_steps]
  cases inputFails : (Stage.findInput.failure? tree request).or
      ((Stage.readInput.failure? tree request).or (Stage.parseInput.failure? tree request)) with
  | some failure =>
      rw [inputFails] at input
      exact run_bind_stopped _ _ _ _ _ input
  | none =>
      rw [inputFails] at input
      obtain ⟨root, isRoot, readRoot⟩ := input
      rw [run_bind_done _ _ _ _ _ readRoot]
      cases configFails : (Stage.readConfig.failure? tree request).or (Stage.parseConfig.failure? tree request) with
      | some failure =>
          rw [configFails] at config
          exact run_bind_stopped _ _ _ _ _ config
      | none =>
          rw [configFails] at config
          obtain ⟨config, isConfig, readConfig⟩ := config
          rw [run_bind_done _ _ _ _ _ readConfig]
          have produced := produce_run tree request root config isRoot isConfig
          simp only [Option.none_or]
          cases lastFails : ((Stage.findImages.failure? tree request).or (Stage.convert.failure? tree request)).or
              (Stage.writeOutput.failure? tree request) with
          | some failure =>
              rw [lastFails] at produced
              exact produced
          | none =>
              rw [lastFails] at produced
              obtain ⟨text, rendered, delivered⟩ := produced
              exact ⟨root, config, text, isRoot, isConfig, rendered, delivered⟩

def outcomeOf : Except Failure String → Outcome
  | .ok printed => .done printed
  | .error failure => .failed failure

theorem run_performed (tree : FileTree) (arguments : List String) (request : Request)
    (asked : Request.ofArguments? arguments = some request) (result : Except Failure String) (after : FileTree)
    (ran : (perform request : Run (StateM FileTree) String).run tree = (result, after)) :
    (run arguments : StateM FileTree Outcome).run tree = (outcomeOf result, after) := by
  have performed : StateT.run (perform request : Run (StateM FileTree) String).run tree = (result, after) := ran
  rw [run, asked]
  simp only [StateT.run_bind, performed]
  cases result <;> rfl

theorem run_asked (tree : FileTree) (arguments : List String) (request : RenderRequest)
    (asked : Request.ofArguments? arguments = some (.render request)) (result : Except Failure String)
    (after : FileTree) (ran : (render request : Run (StateM FileTree) String).run tree = (result, after)) :
    (run arguments : StateM FileTree Outcome).run tree = (outcomeOf result, after) :=
  run_performed tree arguments (.render request) asked result after ran

theorem render_all_or_nothing (tree : FileTree) (arguments : List String) (request : RenderRequest)
    (asked : Request.ofArguments? arguments = some (.render request)) :
    let ran := (run arguments : StateM FileTree Outcome).run tree
    match firstFailure? tree request with
    | some failure => ran = (.failed failure, tree) ∧ ran.1.printed = ""
    | none =>
        ∃ root config text,
          inputRoot? tree request = some root ∧ chosenConfig? tree request = some config ∧
          (∀ mode, MarkdownLayout.render root (optionsOf config mode) request.indented =
            .ok (.ofMode (mode.getD config.options.output) jsonMediaType text)) ∧
          match request.output with
          | none => ran = (.done (text ++ "\n"), tree)
          | some path =>
              ∃ after, tree.Rewritten after path text.toUTF8 ∧
                ran = (.done (summary path text.toUTF8.size (request.mode.getD config.options.output)), after) := by
  have rendered := render_run tree request
  cases failure? : firstFailure? tree request with
  | some failure =>
      rw [failure?] at rendered
      have stopped := run_asked tree arguments request asked _ _ rendered
      exact ⟨stopped, by rw [stopped]; rfl⟩
  | none =>
      rw [failure?] at rendered
      obtain ⟨root, config, text, isRoot, isConfig, inAllModes, delivered⟩ := rendered
      refine ⟨root, config, text, isRoot, isConfig, inAllModes, ?_⟩
      cases output : request.output with
      | none =>
          rw [output] at delivered
          exact run_asked tree arguments request asked _ _ delivered
      | some path =>
          rw [output] at delivered
          obtain ⟨after, wrote, rewritten⟩ := delivered
          exact ⟨after, rewritten, run_asked tree arguments request asked _ _ wrote⟩

theorem empty_fails_nowhere (tree : FileTree) (request : RenderRequest) (present : tree.present request.input = true)
    (input : textAt? tree request.input = some "[[]]") (accepts : ∀ path ∈ request.output, tree.accepts path = true)
    (config : ∀ path ∈ configPath? tree request, textAt? tree path = some "") :
    firstFailure? tree request = none := by
  have root : inputRoot? tree request = some .empty := by
    rw [inputRoot?, input]
    rfl
  have settings : ∀ path ∈ configPath? tree request, configAt? tree path = some .default := by
    intro path counts
    rw [configAt?, config path counts]
    rfl
  have chosen : chosenConfig? tree request = some .default := by
    rw [chosenConfig?]
    cases path? : configPath? tree request with
    | none => rfl
    | some path => exact settings path path?
  have walked : Definition.walked .empty Config.default.options = .ok [] := rfl
  rw [firstFailure?, List.findSome?_eq_none_iff]
  rintro stage -
  cases stage with
  | findInput => simp [Stage.failure?, present]
  | readInput => simp [Stage.failure?, input]
  | parseInput => simp [Stage.failure?, root]
  | readConfig =>
      simp only [Stage.failure?]
      cases path? : configPath? tree request with
      | none => rfl
      | some path => simp [config path path?]
  | parseConfig =>
      simp only [Stage.failure?]
      cases path? : configPath? tree request with
      | none => rfl
      | some path => simp [settings path path?]
  | findImages =>
      simp [Stage.failure?, root, chosen, Config.known?, Config.default, Dictionary.isEmpty, Dictionary.empty]
  | convert => simp [Stage.failure?, root, chosen, walked]
  | writeOutput =>
      simp only [Stage.failure?]
      cases output : request.output with
      | none => rfl
      | some path => simp [accepts path output]

def overwriting : RenderRequest := ⟨"a", some "a", some "c", some .blob, false⟩

def beforeOverwriting : FileTree := ⟨[(["a"], .file "[[]]".toUTF8), (["c"], .file .empty)]⟩

deriving instance DecidableEq for RenderRequest, Request

theorem overwriting_asked :
    Request.ofArguments? ["render", "-o", "a", "--mode=blob", "a", "-cc"] = some (.render overwriting) := by
  decide +kernel

theorem letters_located (tree : FileTree) : tree.locate "a" = some ["a"] ∧ tree.locate "c" = some ["c"] := by
  constructor
  · exact tree.locate_name "a" (by decide) (by decide +kernel) (by decide) (by decide +kernel)
  · exact tree.locate_name "c" (by decide) (by decide +kernel) (by decide) (by decide +kernel)

theorem overwriting_fails_nowhere : firstFailure? beforeOverwriting overwriting = none := by
  refine empty_fails_nowhere beforeOverwriting overwriting ?_ ?_ ?_ ?_
  · show beforeOverwriting.present "a" = true
    rw [FileTree.present, (letters_located _).1]
    rfl
  · show textAt? beforeOverwriting "a" = _
    rw [textAt?, FileTree.read, (letters_located _).1]
    decide +kernel
  · rintro path ⟨⟩
    rw [FileTree.accepts, (letters_located _).1]
    rfl
  · rintro path ⟨⟩
    rw [textAt?, FileTree.read, (letters_located _).2]
    decide +kernel

theorem input_overwritten :
    Request.ofArguments? ["render", "-o", "a", "--mode=blob", "a", "-cc"] = some (.render overwriting) ∧
      firstFailure? beforeOverwriting overwriting = none ∧
      ∃ (text : String) (after : FileTree), beforeOverwriting.Rewritten after "a" text.toUTF8 ∧
        (run ["render", "-o", "a", "--mode=blob", "a", "-cc"] : StateM FileTree Outcome).run beforeOverwriting =
          (.done (summary "a" text.toUTF8.size .blob), after) := by
  have outcome := render_all_or_nothing beforeOverwriting _ overwriting overwriting_asked
  rw [overwriting_fails_nowhere] at outcome
  obtain ⟨root, config, text, -, -, -, after, rewritten, ran⟩ := outcome
  exact ⟨overwriting_asked, overwriting_fails_nowhere, text, after, rewritten, ran⟩

end Command
end MarkdownLayout
