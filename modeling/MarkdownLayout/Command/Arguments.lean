import MarkdownLayout.Options.Basic

set_option autoImplicit false

namespace MarkdownLayout.Command

structure RenderRequest where
  input : String
  output : Option String
  config : Option String
  mode : Option OutputMode
  indented : Bool

inductive Request where
  | version
  | help
  | render (request : RenderRequest)
  | styles (config : Option String)

structure Flag where
  name : String
  letter : Option Char
  valued : Bool

inductive Form where
  | operand
  | separator
  | long (name : String) (attached : Option String)
  | letters (first : Char) (rest : List Char)

def Form.of (argument : String) : Form :=
  match argument.toList with
  | ['-', '-'] => .separator
  | '-' :: '-' :: body =>
      match body.dropWhile fun c => c != '=' with
      | _ :: attached => .long (.ofList (body.takeWhile fun c => c != '=')) (some (.ofList attached))
      | [] => .long (.ofList body) none
  | '-' :: first :: rest => .letters first rest
  | _ => .operand

def attachedValue : List Char → Option String
  | [] => none
  | '=' :: value => some (.ofList value)
  | value => some (.ofList value)

structure Signature (Known : Type) where
  flags : List Flag
  operand : Known → String → Option Known
  option : Known → String → String → Option Known

namespace Signature

variable {Known : Type}

def takeAll (s : Signature Known) (finish : Known → Option Request) (known : Known) :
    List String → Option Request
  | [] => finish known
  | argument :: rest =>
      let valued (flag : Flag) (attached : Option String) : Option Request :=
        match attached, rest with
        | some value, rest => do s.takeAll finish (← s.option known flag.name value) rest
        | none, value :: rest =>
            match Form.of value with
            | .operand => do s.takeAll finish (← s.option known flag.name value) rest
            | _ => none
        | none, [] => none
      match Form.of argument with
      | .operand => do s.takeAll finish (← s.operand known argument) rest
      | .separator => do finish (← rest.foldlM s.operand known)
      | .long name attached =>
          match s.flags.find? fun flag => flag.name == name with
          | some flag =>
              if flag.valued then valued flag attached
              else if attached.isSome then none
              else do s.takeAll finish (← s.option known name "") rest
          | none => if name = "help" ∧ attached.isNone then some .help else none
      | .letters first letters =>
          match s.flags.find? fun flag => flag.letter == some first with
          | some flag => valued flag (attachedValue letters)
          | none => if first = 'h' then some .help else none

end Signature

def once {α : Type} (current value : Option α) : Option (Option α) :=
  if current.isSome then none else value.map some

def path? (text : String) : Option String := if text = "" then none else some text

structure RenderKnown where
  input : Option String
  output : Option String
  config : Option String
  mode : Option OutputMode
  indented : Option Unit

namespace RenderKnown

def nothing : RenderKnown := ⟨none, none, none, none, none⟩

def signature : Signature RenderKnown where
  flags := [⟨"output", some 'o', true⟩, ⟨"config", some 'c', true⟩, ⟨"mode", none, true⟩, ⟨"pretty", none, false⟩]
  operand known text := do some { known with input := ← once known.input (path? text) }
  option known name value :=
    match name with
    | "output" => do some { known with output := ← once known.output (path? value) }
    | "config" => do some { known with config := ← once known.config (path? value) }
    | "mode" => do some { known with mode := ← once known.mode (OutputMode.ofName? value) }
    | _ => do some { known with indented := ← once known.indented (some ()) }

def finish (known : RenderKnown) : Option Request := do
  some (.render ⟨← known.input, known.output, known.config, known.mode, known.indented.isSome⟩)

end RenderKnown

def stylesSignature : Signature (Option String) where
  flags := [⟨"config", some 'c', true⟩]
  operand _ _ := none
  option known _ value := once known (path? value)

def commandNames : List String := ["render", "styles", "help"]

def Request.ofArguments? : List String → Option Request
  | [] => none
  | "render" :: rest => RenderKnown.signature.takeAll RenderKnown.finish .nothing rest
  | "styles" :: rest => stylesSignature.takeAll (fun config => some (.styles config)) none rest
  | ["help"] => some .help
  | ["help", name] => if name ∈ commandNames then some .help else none
  | argument :: _ =>
      match Form.of argument with
      | .long "version" none => some .version
      | .long "help" none => some .help
      | .letters 'V' _ => some .version
      | .letters 'h' _ => some .help
      | _ => none

end MarkdownLayout.Command
