import MarkdownLayout.Proofs.Arguments
import MarkdownLayout.Proofs.Paths
import MarkdownLayout.Proofs.RenderCommand

set_option autoImplicit false

namespace MarkdownLayout.Command

def Request.besides? : Request → Option String
  | .render ⟨input, _, none, _, _⟩ => some (Path.sibling input configName)
  | .styles none => some (Path.ofNames [".", configName])
  | _ => none

def Request.paths : Request → List String
  | .render request => request.input :: request.output.toList
  | _ => []

def Failure.renamed (old new : String) : Failure → Failure
  | .configUnreadable path => .configUnreadable (if path = old then new else path)
  | .configMalformed path => .configMalformed (if path = old then new else path)
  | failure => failure

def Outcome.renamed (old new : String) : Outcome → Outcome
  | .failed failure => .failed (failure.renamed old new)
  | outcome => outcome

theorem failure_unrenamed (path : String) (failure : Failure) : failure.renamed path path = failure := by
  cases failure with
  | configUnreadable named => exact congrArg Failure.configUnreadable (ite_eq_right_iff.mpr Eq.symm)
  | configMalformed named => exact congrArg Failure.configMalformed (ite_eq_right_iff.mpr Eq.symm)
  | inputMissing _ | inputUnreadable _ | inputMalformed _ | notRendered _ | outputUnwritable _ => rfl

theorem outcome_unrenamed (path : String) (outcome : Outcome) : outcome.renamed path path = outcome := by
  cases outcome with
  | failed failure => exact congrArg Outcome.failed (failure_unrenamed path failure)
  | usage | done _ => rfl

theorem outcome_of_renamed (old new : String) (result : Except Failure String) :
    outcomeOf (result.mapError (Failure.renamed old new)) = (outcomeOf result).renamed old new := by
  cases result <;> rfl

theorem input_failure_kept (tree : FileTree) (request : RenderRequest) (old new : String) :
    ((Stage.findInput.failure? tree request).or
        ((Stage.readInput.failure? tree request).or (Stage.parseInput.failure? tree request))).map
          (Failure.renamed old new) =
      (Stage.findInput.failure? tree request).or
        ((Stage.readInput.failure? tree request).or (Stage.parseInput.failure? tree request)) := by
  simp only [Stage.failure?]
  cases tree.present request.input with
  | false => rfl
  | true =>
      cases (textAt? tree request.input).isSome with
      | false => rfl
      | true => cases (inputRoot? tree request).isSome <;> rfl

section

-- How the files of the second run differ from those of the first, and how it calls the configuration.
variable (differ : FileTree → FileTree → Prop) (old new : String)

structure Mirrors {α : Type} (ran other : Except Failure α × FileTree) : Prop where
  result : other.1 = ran.1.mapError (Failure.renamed old new)
  files : differ ran.2 other.2

structure Reflects (tree other : FileTree) (path : String) : Prop where
  present : other.present path = tree.present path
  contents : other.read path = tree.read path
  written : ∀ bytes, Option.Rel differ (tree.write? path bytes) (other.write? path bytes)

theorem reflects_self (tree : FileTree) (path : String) : Reflects Eq tree tree path where
  present := rfl
  contents := rfl
  written bytes := by
    cases tree.write? path bytes with
    | none => exact .none
    | some after => exact .some rfl

theorem reflects_apart (tree larger : FileTree) (path : String) (bytes : ByteArray)
    (added : tree.Rewritten larger path bytes) (other : String) (apart : tree.locate other ≠ tree.locate path) :
    Reflects (fun tree larger => tree.Rewritten larger path bytes) tree larger other where
  present := added.present_kept other apart
  contents := added.read_kept other apart
  written text := by
    have accepts := added.accepts_kept other apart
    cases accepted : tree.accepts other with
    | false =>
        rw [FileTree.write_refused tree other text accepted,
          FileTree.write_refused larger other text (accepts.trans accepted)]
        exact .none
    | true =>
        obtain ⟨early, wrote, atOnce⟩ := FileTree.write_accepted tree other text accepted
        obtain ⟨late, wroteToo, afterwards⟩ := FileTree.write_accepted larger other text (accepts.trans accepted)
        rw [wrote, wroteToo]
        exact .some (added.swapped other apart text early late atOnce afterwards)

variable {α β : Type} (tree other : FileTree) (alike : differ tree other)
include alike

theorem mirrors_bind (first second : Run (StateM FileTree) α) (next follow : α → Run (StateM FileTree) β)
    (failure? : Option Failure) (found? : Option α) (settles : Settles tree failure? found? first)
    (settlesToo : Settles other (failure?.map (Failure.renamed old new)) found? second)
    (continues : ∀ a, found? = some a → Mirrors differ old new ((next a).run tree) ((follow a).run other)) :
    Mirrors differ old new ((first >>= next).run tree) ((second >>= follow).run other) := by
  cases failure? with
  | some failure =>
      rw [run_bind_stopped first next tree tree failure settles,
        run_bind_stopped second follow other other _ settlesToo]
      exact ⟨rfl, alike⟩
  | none =>
      obtain ⟨a, found, ran⟩ := settles
      obtain ⟨b, same, ranToo⟩ := settlesToo
      obtain rfl := Option.some.inj (found.symm.trans same)
      rw [run_bind_done first next tree tree a ran, run_bind_done second follow other other a ranToo]
      exact continues a found

theorem written_alike (after? afterToo? : Option FileTree) (written : Option.Rel differ after? afterToo?) :
    afterToo?.isSome = after?.isSome ∧ differ (after?.getD tree) (afterToo?.getD other) := by
  cases written with
  | none => exact ⟨rfl, alike⟩
  | some related => exact ⟨rfl, related⟩

theorem deliver_mirrors (rendered : Rendered) (output : Option String)
    (reflects : ∀ path ∈ output, Reflects differ tree other path) :
    Mirrors differ old new ((deliver rendered output : Run (StateM FileTree) String).run tree)
      ((deliver rendered output : Run (StateM FileTree) String).run other) := by
  cases output with
  | none => exact ⟨rfl, alike⟩
  | some path =>
      have wrote := write_run tree path rendered.text.toUTF8
      have wroteToo := write_run other path rendered.text.toUTF8
      rw [deliver, run_bind_done _ _ _ _ _ wrote, run_bind_done _ _ _ _ _ wroteToo]
      obtain ⟨accepted, files⟩ :=
        written_alike differ tree other alike _ _ ((reflects path rfl).written rendered.text.toUTF8)
      rw [accepted]
      cases (tree.write? path rendered.text.toUTF8).isSome with
      | false => exact ⟨rfl, files⟩
      | true => exact ⟨rfl, files⟩

theorem produce_mirrors (request : RenderRequest) (root : Mdast.Root) (config : Config)
    (reflects : ∀ path ∈ request.output, Reflects differ tree other path) :
    Mirrors differ old new ((produce request root config).run tree) ((produce request root config).run other) := by
  rw [produce]
  cases MarkdownLayout.render root (optionsOf config request.mode) request.indented with
  | ok rendered => exact deliver_mirrors differ old new tree other alike rendered request.output reflects
  | error fault => exact ⟨rfl, alike⟩

theorem input_mirrors (request : RenderRequest) (reflects : Reflects differ tree other request.input)
    (next follow : Mdast.Root → Run (StateM FileTree) String)
    (continues : ∀ root, Mirrors differ old new ((next root).run tree) ((follow root).run other)) :
    Mirrors differ old new ((readInput request.input >>= next).run tree)
      ((readInput request.input >>= follow).run other) := by
  have text : textAt? other request.input = textAt? tree request.input := by rw [textAt?, textAt?, reflects.contents]
  have root : inputRoot? other request = inputRoot? tree request := by rw [inputRoot?, inputRoot?, text]
  have sameFailure :
      (Stage.findInput.failure? other request).or
          ((Stage.readInput.failure? other request).or (Stage.parseInput.failure? other request)) =
        (Stage.findInput.failure? tree request).or
          ((Stage.readInput.failure? tree request).or (Stage.parseInput.failure? tree request)) := by
    simp only [Stage.failure?, reflects.present, text, root]
  have settlesToo := input_settles other request
  rw [sameFailure, root, ← input_failure_kept] at settlesToo
  exact mirrors_bind differ old new tree other alike _ _ next follow _ _ (input_settles tree request) settlesToo
    fun root _ => continues root

-- Two ways to a configuration: they fail alike but for the name they have for it, or both find the same.
def SameConfig (first second : Run (StateM FileTree) Config) : Prop :=
  ∃ failure? found?, Settles tree failure? found? first ∧
    Settles other (failure?.map (Failure.renamed old new)) found? second

theorem perform_mirrors (request : Request) (default path : String) (beside : request.besides? = some default)
    (config : SameConfig old new tree other (findConfig none default) (findConfig (some path) default))
    (reflects : ∀ touched ∈ request.paths, Reflects differ tree other touched) :
    Mirrors differ old new ((perform request : Run (StateM FileTree) String).run tree)
      ((perform (request.withConfig path) : Run (StateM FileTree) String).run other) := by
  obtain ⟨failure?, found?, settles, settlesToo⟩ := config
  cases request with
  | version | help => cases beside
  | styles config =>
      cases config with
      | some named => cases beside
      | none =>
          obtain rfl := Option.some.inj beside
          exact mirrors_bind differ old new tree other alike _ _ _ _ _ _ settles settlesToo fun _ _ => ⟨rfl, alike⟩
  | render request =>
      obtain ⟨input, output, config, mode, indented⟩ := request
      cases config with
      | some named => cases beside
      | none =>
          obtain rfl := Option.some.inj beside
          rw [Request.withConfig, perform, perform, render_in_steps, render_in_steps]
          refine input_mirrors differ old new tree other alike ⟨input, output, none, mode, indented⟩
            (reflects input List.mem_cons_self) _ _ fun root => ?_
          refine mirrors_bind differ old new tree other alike _ _ _ _ _ _ settles settlesToo fun config _ => ?_
          exact produce_mirrors differ old new tree other alike ⟨input, output, none, mode, indented⟩ root config
            fun path named => reflects path (List.mem_cons_of_mem _ (Option.mem_toList.mpr named))

end

def configFailure? (tree : FileTree) (path : String) : Option Failure :=
  (if (textAt? tree path).isSome then none else some (.configUnreadable path)).or
    (if (configAt? tree path).isSome then none else some (.configMalformed path))

theorem configured_beside (tree : FileTree) (default path : String) (present : tree.present default = true)
    (located : tree.locate path = tree.locate default) :
    SameConfig default path tree tree (findConfig none default) (findConfig (some path) default) := by
  have text : textAt? tree path = textAt? tree default := by
    rw [textAt?, textAt?, FileTree.read, FileTree.read, located]
  have config : configAt? tree path = configAt? tree default := by rw [configAt?, configAt?, text]
  have beside : Settles tree (configFailure? tree default) (configAt? tree default) (findConfig none default) :=
    settles_same tree _ _ _ _ (find_config_beside tree default present) (read_config_settles tree default)
  have named : Settles tree (configFailure? tree path) (configAt? tree path) (findConfig (some path) default) :=
    read_config_settles tree path
  have renamed : configFailure? tree path = (configFailure? tree default).map (Failure.renamed default path) := by
    rw [configFailure?, configFailure?, text, config]
    cases (textAt? tree default).isSome <;> cases (configAt? tree default).isSome <;> simp [Failure.renamed]
  rw [config, renamed] at named
  exact ⟨_, _, beside, named⟩

theorem configured_empty (tree larger : FileTree) (default path old new : String)
    (absent : tree.present default = false) (added : tree.Rewritten larger path .empty) :
    SameConfig old new tree larger (findConfig none default) (findConfig (some path) default) := by
  have text : textAt? larger path = some "" := by
    rw [textAt?, added.read_back]
    rfl
  have config : configAt? larger path = some .default := by
    rw [configAt?, text]
    rfl
  have settles := read_config_settles larger path
  rw [text, config] at settles
  exact ⟨none, some .default, ⟨.default, rfl, find_config_default tree default absent⟩, settles⟩

def runOn (tree : FileTree) (arguments : List String) : Outcome × FileTree :=
  (run arguments : StateM FileTree Outcome).run tree

theorem run_mirrored (differ : FileTree → FileTree → Prop) (old new : String) (tree other : FileTree)
    (arguments named : List String) (request : Request) (path : String)
    (asked : Request.ofArguments? arguments = some request)
    (askedToo : Request.ofArguments? named = some (request.withConfig path))
    (mirrors : Mirrors differ old new ((perform request : Run (StateM FileTree) String).run tree)
      ((perform (request.withConfig path) : Run (StateM FileTree) String).run other)) :
    let ran := runOn tree arguments
    ∃ after, runOn other named = (ran.1.renamed old new, after) ∧ differ ran.2 after := by
  cases first : (perform request : Run (StateM FileTree) String).run tree with
  | mk result after =>
      cases second : (perform (request.withConfig path) : Run (StateM FileTree) String).run other with
      | mk resultToo afterToo =>
          rw [first, second] at mirrors
          obtain ⟨rfl, files⟩ := mirrors
          have ran := run_performed tree arguments request asked result after first
          have ranToo := run_performed other named _ askedToo _ afterToo second
          rw [runOn, runOn, ran, ranToo, outcome_of_renamed]
          exact ⟨afterToo, rfl, files⟩

theorem unconfigured (request : Request) (default : String) (beside : request.besides? = some default) :
    request.Unconfigured := by
  cases request with
  | version | help => cases beside
  | render request =>
      obtain ⟨input, output, config, mode, indented⟩ := request
      cases config with
      | none => rfl
      | some path => cases beside
  | styles config =>
      cases config with
      | none => rfl
      | some path => cases beside

theorem property_elsewhere {α : Type} (name query : String) (json : α → Json) (value : Option α)
    (different : (name == query) = false) :
    (Style.property name json value).filter (fun member => member.1 == query) = [] := by
  cases value with
  | none => rfl
  | some a => rw [Style.property, List.filter_cons_of_neg (by simp [different]), List.filter_nil]

theorem definition_styles (definition : Definition) :
    ∃ members, definition.toJson = .object members ∧
      members.filter (fun member => member.1 == "styles") = [("styles", definition.styles.toJson)] := by
  refine ⟨_, rfl, ?_⟩
  simp (disch := decide) only [List.filter_append, property_elsewhere]
  rfl

theorem options_of_styles (config : Config) (mode : Option OutputMode) :
    (optionsOf config mode).styles = config.options.styles := by
  rw [optionsOf, Config.toOptions]
  split <;> rfl

theorem styles_run (tree : FileTree) (arguments : List String) (path : String) (config : Config)
    (asked : Request.ofArguments? arguments = some (.styles (some path))) (found : configAt? tree path = some config) :
    runOn tree arguments =
      (.done ((StyleTable.builtIn.resolve config.options.styles).toJson.prettyText ++ "\n"), tree) := by
  have read := read_config_settles tree path
  obtain ⟨text, isText, -⟩ := Option.bind_eq_some_iff.mp found
  rw [isText, found] at read
  obtain ⟨same, isSame, ran⟩ := read
  obtain rfl := Option.some.inj isSame
  exact run_performed tree arguments _ asked _ _ (run_bind_done _ _ tree tree config ran)

def RenderRequest.Shows (request : RenderRequest) (definition : Definition) (printed : String) (after : FileTree) :
    Prop :=
  let text := if request.indented then definition.toJson.prettyText else definition.toJson.compactText
  match request.output with
  | none => printed = text ++ "\n"
  | some output => after.read output = some text.toUTF8

theorem styles_of_rendering (tree : FileTree) (arguments : List String) (request : RenderRequest)
    (path printed : String) (after : FileTree) (asked : Request.ofArguments? arguments = some (.render request))
    (chosen : configPath? tree request = some path)
    (ran : runOn tree arguments = (.done printed, after)) :
    ∃ definition : Definition, request.Shows definition printed after ∧
      ∀ shown, Request.ofArguments? shown = some (.styles (some path)) →
        runOn tree shown = (.done (definition.styles.toJson.prettyText ++ "\n"), tree) := by
  have rendered := render_run tree request
  rw [runOn] at ran
  cases failure? : firstFailure? tree request with
  | some failure =>
      rw [failure?] at rendered
      rw [run_asked tree arguments request asked _ _ rendered] at ran
      cases ran
  | none =>
      rw [failure?] at rendered
      obtain ⟨root, config, text, -, isConfig, inAllModes, delivered⟩ := rendered
      obtain ⟨definition, made, isText⟩ := rendered_definition root _ request.indented _ (inAllModes none)
      have sameText :
          (if request.indented then definition.toJson.prettyText else definition.toJson.compactText) = text := by
        rw [← Definition.text, ← isText, of_mode_text]
      have found : configAt? tree path = some config := by
        rw [chosenConfig?, chosen] at isConfig
        exact isConfig
      have styles : definition.styles = StyleTable.builtIn.resolve config.options.styles := by
        rw [(Definition.of_root_styles root _ _ definition made).1, options_of_styles]
      refine ⟨definition, ?_, fun shown askedToo => ?_⟩
      · rw [RenderRequest.Shows, sameText]
        cases output : request.output with
        | none =>
            rw [output] at delivered
            rw [run_asked tree arguments request asked _ _ delivered] at ran
            cases ran
            rfl
        | some path =>
            rw [output] at delivered
            obtain ⟨written, wrote, rewritten⟩ := delivered
            rw [run_asked tree arguments request asked _ _ wrote] at ran
            cases ran
            exact rewritten.read_back
      · rw [styles]
        exact styles_run tree shown path config askedToo found

def Request.LooksBeside (tree : FileTree) (request : Request) (default : String) : Prop :=
  match request with
  | .render asking =>
      ∀ place, tree.locate asking.input = some place → tree.isDirectory place = false →
        tree.locate default =
          if default.utf8ByteSize ≤ Path.lengthLimit then some (place.dropLast ++ ["mdpdf.toml"]) else none
  | _ => tree.locate default = some ["mdpdf.toml"]

theorem config_located (tree : FileTree) : tree.locate "mdpdf.toml" = some ["mdpdf.toml"] :=
  tree.locate_name "mdpdf.toml" (by decide) (by decide +kernel) (by decide) (by decide +kernel)

theorem dotted_config_located (tree : FileTree) : tree.locate "./mdpdf.toml" = some ["mdpdf.toml"] := by
  have here : tree.isDirectory [] = true := rfl
  have names : Path.names "./mdpdf.toml" = [".", "mdpdf.toml"] := by decide
  have relative : FileTree.start "./mdpdf.toml" = [] := by decide +kernel
  have dot : FileTree.step [] "." = [] := by decide +kernel
  have name : FileTree.step [] "mdpdf.toml" = ["mdpdf.toml"] := by decide +kernel
  rw [FileTree.locate, if_pos (by decide), names, relative, FileTree.follow, if_pos ⟨here, by decide⟩, dot,
    FileTree.follow, if_pos ⟨here, by decide⟩, name, FileTree.follow]

theorem config_step (place : List String) : FileTree.step place configName = place ++ [configName] := by
  rw [FileTree.step, if_neg (by decide), if_neg (by decide)]

theorem looks_beside (tree : FileTree) (request : Request) (default : String)
    (beside : request.besides? = some default) : request.LooksBeside tree default := by
  cases request with
  | version | help => cases beside
  | styles config =>
      cases config with
      | some named => cases beside
      | none =>
          obtain rfl := Option.some.inj beside
          exact dotted_config_located tree
  | render asking =>
      obtain ⟨input, output, config, mode, indented⟩ := asking
      cases config with
      | some named => cases beside
      | none =>
          obtain rfl := Option.some.inj beside
          intro place located noDirectory
          exact tree.locate_sibling input configName place located noDirectory (by decide) (by decide) config_step

structure SameAsNamed (tree : FileTree) (arguments : List String) (request : Request) (default : String) : Prop where
  nameable : ∀ path, path ≠ "" →
    Request.ofArguments? (withConfig path arguments) = some (request.withConfig path)
  beside : ∀ named, tree.present default = true →
    Request.ofArguments? named = some (request.withConfig default) → runOn tree named = runOn tree arguments
  respelled : ∀ named path, tree.present default = true → tree.locate path = tree.locate default →
    Request.ofArguments? named = some (request.withConfig path) →
    runOn tree named = ((runOn tree arguments).1.renamed default path, (runOn tree arguments).2)
  additional : ∀ named path larger, tree.present default = false → tree.Rewritten larger path .empty →
    (∀ touched ∈ request.paths, tree.locate touched ≠ tree.locate path) →
    Request.ofArguments? named = some (request.withConfig path) →
    ∃ after, runOn larger named = ((runOn tree arguments).1, after) ∧
      (runOn tree arguments).2.Rewritten after path .empty

section

variable (tree : FileTree) (arguments named : List String) (request : Request) (default path : String)
  (asked : Request.ofArguments? arguments = some request) (isDefault : request.besides? = some default)
  (askedToo : Request.ofArguments? named = some (request.withConfig path))
include asked isDefault askedToo

theorem respelled_run (present : tree.present default = true) (located : tree.locate path = tree.locate default) :
    runOn tree named = ((runOn tree arguments).1.renamed default path, (runOn tree arguments).2) := by
  have mirrors := perform_mirrors Eq default path tree tree rfl request default path isDefault
    (configured_beside tree default path present located) fun touched _ => reflects_self tree touched
  obtain ⟨after, ran, same⟩ :=
    run_mirrored Eq default path tree tree arguments named request path asked askedToo mirrors
  rw [same]
  exact ran

theorem additional_run (larger : FileTree) (absent : tree.present default = false)
    (added : tree.Rewritten larger path .empty)
    (apart : ∀ touched ∈ request.paths, tree.locate touched ≠ tree.locate path) :
    ∃ after, runOn larger named = ((runOn tree arguments).1, after) ∧
      (runOn tree arguments).2.Rewritten after path .empty := by
  -- Neither run fails over its configuration, so that there is nothing to rename.
  have config := configured_empty tree larger default path path path absent added
  have mirrors := perform_mirrors (fun tree larger => tree.Rewritten larger path .empty) path path tree larger added
    request default path isDefault config
    fun touched member => reflects_apart tree larger path .empty added touched (apart touched member)
  obtain ⟨after, ran, files⟩ :=
    run_mirrored _ path path tree larger arguments named request path asked askedToo mirrors
  rw [outcome_unrenamed] at ran
  exact ⟨after, ran, files⟩

end

theorem configuration_routes_agree (tree : FileTree) (arguments : List String) (request : Request)
    (asked : Request.ofArguments? arguments = some request) :
    (∀ default, request.besides? = some default →
      request.LooksBeside tree default ∧ SameAsNamed tree arguments request default) ∧
    ∀ asking path printed after, request = .render asking → configPath? tree asking = some path →
      runOn tree arguments = (.done printed, after) →
      ∃ definition : Definition, asking.Shows definition printed after ∧
        (∃ members, definition.toJson = .object members ∧
          members.filter (fun member => member.1 == "styles") = [("styles", definition.styles.toJson)]) ∧
        ∀ shown, Request.ofArguments? shown = some (.styles (some path)) →
          runOn tree shown = (.done (definition.styles.toJson.prettyText ++ "\n"), tree) := by
  constructor
  · intro default isDefault
    refine ⟨looks_beside tree request default isDefault, ?_, ?_, ?_, ?_⟩
    · intro path notEmpty
      exact request_with_config arguments request path notEmpty (unconfigured request default isDefault) asked
    · intro named present askedToo
      rw [respelled_run tree arguments named request default default asked isDefault askedToo present rfl,
        outcome_unrenamed]
    · intro named path present located askedToo
      exact respelled_run tree arguments named request default path asked isDefault askedToo present located
    · intro named path larger absent added apart askedToo
      exact additional_run tree arguments named request default path asked isDefault askedToo larger absent added apart
  · intro asking path printed after isRender chosen ran
    subst isRender
    obtain ⟨definition, shownText, shownStyles⟩ :=
      styles_of_rendering tree arguments asking path printed after asked chosen ran
    exact ⟨definition, shownText, definition_styles definition, shownStyles⟩

def plainRender : RenderRequest := ⟨"d/a", none, none, none, false⟩

-- An empty document in a directory, without a configuration and with an empty one beside it. The configuration in the
-- working directory is malformed.
def unconfiguredFiles : FileTree :=
  ⟨[(["d"], .directory), (["d", "a"], .file "[[]]".toUTF8), (["mdpdf.toml"], .file "=".toUTF8)]⟩

def configuredFiles : FileTree := unconfiguredFiles.put ["d", "mdpdf.toml"] (.file .empty)

theorem plain_render_beside : (Request.render plainRender).besides? = some "d/mdpdf.toml" := by decide +kernel

theorem input_located :
    configuredFiles.locate "d/a" = some ["d", "a"] ∧ unconfiguredFiles.locate "d/a" = some ["d", "a"] ∧
      unconfiguredFiles.locate "c" = some ["c"] := by
  decide +kernel

theorem config_present :
    configuredFiles.present "d/mdpdf.toml" = true ∧ unconfiguredFiles.present "d/mdpdf.toml" = false := by
  decide +kernel

theorem configured_file_counts : configPath? configuredFiles plainRender = some "d/mdpdf.toml" := by
  have sibling : Path.sibling plainRender.input configName = "d/mdpdf.toml" := Option.some.inj plain_render_beside
  rw [configPath?, sibling, config_present.1]
  rfl

theorem plain_render_fails_nowhere : firstFailure? configuredFiles plainRender = none := by
  refine empty_fails_nowhere configuredFiles plainRender ?_ ?_ (by simp [plainRender]) ?_
  · decide +kernel
  · show textAt? configuredFiles "d/a" = _
    decide +kernel
  · rw [configured_file_counts]
    rintro path ⟨⟩
    decide +kernel

theorem routes_of_empty_document :
    Request.ofArguments? ["render", "d/a"] = some (.render plainRender) ∧
      (Request.render plainRender).besides? = some "d/mdpdf.toml" ∧
      configuredFiles.locate "d/mdpdf.toml" = some ["d", "mdpdf.toml"] ∧
      configuredFiles.present "d/mdpdf.toml" = true ∧ unconfiguredFiles.present "d/mdpdf.toml" = false ∧
      runOn configuredFiles ["render", "--config=d/mdpdf.toml", "d/a"] = runOn configuredFiles ["render", "d/a"] ∧
      (∃ larger after, unconfiguredFiles.Rewritten larger "c" .empty ∧
        runOn larger ["render", "--config=c", "d/a"] = ((runOn unconfiguredFiles ["render", "d/a"]).1, after) ∧
        (runOn unconfiguredFiles ["render", "d/a"]).2.Rewritten after "c" .empty) ∧
      runOn configuredFiles ["styles", "--config=mdpdf.toml"] =
        ((runOn configuredFiles ["styles"]).1.renamed "./mdpdf.toml" "mdpdf.toml",
          (runOn configuredFiles ["styles"]).2) ∧
      ∃ definition : Definition,
        runOn configuredFiles ["render", "d/a"] = (.done (definition.toJson.compactText ++ "\n"), configuredFiles) ∧
        runOn configuredFiles ["styles", "--config=d/mdpdf.toml"] =
          (.done (definition.styles.toJson.prettyText ++ "\n"), configuredFiles) := by
  have asked : Request.ofArguments? ["render", "d/a"] = some (.render plainRender) := by decide +kernel
  obtain ⟨routes, shows⟩ := configuration_routes_agree configuredFiles ["render", "d/a"] _ asked
  obtain ⟨looks, same⟩ := routes "d/mdpdf.toml" plain_render_beside
  have located := looks ["d", "a"] input_located.1 (by decide +kernel)
  have besideInput := same.beside _ config_present.1 (same.nameable "d/mdpdf.toml" (by decide))
  refine ⟨asked, plain_render_beside, located, config_present.1, config_present.2, besideInput, ?_, ?_, ?_⟩
  · obtain ⟨routes, -⟩ := configuration_routes_agree unconfiguredFiles ["render", "d/a"] _ asked
    obtain ⟨-, same⟩ := routes "d/mdpdf.toml" plain_render_beside
    obtain ⟨larger, -, added⟩ := FileTree.write_accepted unconfiguredFiles "c" .empty (by decide +kernel)
    have apart : ∀ touched ∈ (Request.render plainRender).paths,
        unconfiguredFiles.locate touched ≠ unconfiguredFiles.locate "c" := by
      intro touched member
      rw [List.mem_singleton.mp member]
      show unconfiguredFiles.locate "d/a" ≠ _
      rw [input_located.2.1, input_located.2.2]
      decide
    obtain ⟨after, ran, files⟩ :=
      same.additional _ "c" larger config_present.2 added apart (same.nameable "c" (by decide))
    exact ⟨larger, after, added, ran, files⟩
  · obtain ⟨routes, -⟩ := configuration_routes_agree configuredFiles ["styles"] (.styles none) (by decide +kernel)
    obtain ⟨dotted, same⟩ := routes "./mdpdf.toml" (by decide +kernel)
    have plain : configuredFiles.locate "mdpdf.toml" = configuredFiles.locate "./mdpdf.toml" := by
      rw [config_located]
      exact dotted.symm
    exact same.respelled _ "mdpdf.toml" (by decide +kernel) plain (same.nameable "mdpdf.toml" (by decide))
  · have rendered := render_run configuredFiles plainRender
    rw [plain_render_fails_nowhere] at rendered
    obtain ⟨root, config, text, -, -, -, delivered⟩ := rendered
    have ran := run_asked configuredFiles _ plainRender asked _ _ delivered
    obtain ⟨definition, printed, -, styles⟩ := shows plainRender "d/mdpdf.toml" _ _ rfl configured_file_counts ran
    refine ⟨definition, ?_, styles _ (by decide +kernel)⟩
    have sameText : text ++ "\n" = definition.toJson.compactText ++ "\n" := printed
    rw [← sameText]
    exact ran

end MarkdownLayout.Command
