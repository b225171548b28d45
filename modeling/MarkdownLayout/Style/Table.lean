import MarkdownLayout.Style.Basic

set_option autoImplicit false

namespace MarkdownLayout

abbrev StyleTable := Dictionary Style

namespace StyleTable

def heading (fontSize : Float) (margin : Option Margin) : Style :=
  { Style.empty with fontSize := some fontSize, margin }

def body : Style :=
  { Style.empty with lineHeight := some 1.15, margin := some (.symmetric 0 5) }

def builtIn : StyleTable :=
  .ofList
    [("head1", heading 24 (some (.sides 0 20 0 16))),
      ("head2", heading 18 (some (.sides 0 14 0 10))),
      ("head3", heading 16 (some (.sides 0 10 0 8))),
      ("head4", heading 14 (some (.sides 0 6 0 2))),
      ("head5", heading 12 (some (.sides 0 4 0 0))),
      ("head6", heading 14 none),
      ("hrule", { Style.empty with color := some "#CCCCCC", margin := some (.sides 0 12 0 6) }),
      ("p", body),
      ("li", body),
      ("a", { Style.empty with color := some "blue", decoration := some .underline })]

def headingName? (depth : UInt8) : Option String :=
  match depth.toNat with
  | 1 => some "head1"
  | 2 => some "head2"
  | 3 => some "head3"
  | 4 => some "head4"
  | 5 => some "head5"
  | 6 => some "head6"
  | _ => none

def resolve (table overlay : StyleTable) : StyleTable := table.merge Style.merge overlay

def resolve? (table : StyleTable) : Option StyleTable → StyleTable
  | none => table
  | some overlay => table.resolve overlay

def toJson (table : StyleTable) : Json :=
  .object (table.entries.map fun (name, style) => (name, style.toJson))

def ofJson? (l : Json.Leniency) (json : Json) : Option StyleTable := json.dictionary? (Style.ofJson? l)

end StyleTable

end MarkdownLayout
