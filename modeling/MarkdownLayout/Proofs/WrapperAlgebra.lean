import MarkdownLayout.Proofs.Outcome
import MarkdownLayout.Proofs.Pruning

set_option autoImplicit false

namespace MarkdownLayout

open Mdast

def LinkTransform.ReadsText (transform : LinkTransform) : Prop :=
  ∀ url title a b, plainText a = plainText b → transform url title a = transform url title b

def Mdast.Parent.isLabelled : Parent → Bool
  | .heading _ | .link .. => true
  | _ => false

-- Sequences of nodes that differ by rewriting anywhere below them. Where `labelled` says that no
-- heading and no link stands around a sequence, silent nodes may go from it.
inductive Alike : Bool → List Node → List Node → Prop where
  | refl {labelled : Bool} (nodes : List Node) : Alike labelled nodes nodes
  | symm {labelled : Bool} {a b : List Node} (same : Alike labelled a b) : Alike labelled b a
  | trans {labelled : Bool} {a b c : List Node} (first : Alike labelled a b) (next : Alike labelled b c) :
      Alike labelled a c
  | beside {labelled : Bool} {a b : List Node} (before after : List Node) (same : Alike labelled a b) :
      Alike labelled (before ++ a ++ after) (before ++ b ++ after)
  | inParent {labelled : Bool} {a b : List Node} (p : Parent) (same : Alike (labelled || p.isLabelled) a b) :
      Alike labelled [.parent p a] [.parent p b]
  | inTable {labelled : Bool} {a b : List Node} (align : List (Option Column)) (above under : List Row)
      (left right : List Cell) (same : Alike labelled a b) :
      Alike labelled [.table align (above ++ (left ++ a :: right) :: under)]
        [.table align (above ++ (left ++ b :: right) :: under)]
  | inRow {labelled : Bool} {a b : List Node} (left right : List Cell) (same : Alike labelled a b) :
      Alike labelled [.tableRow (left ++ a :: right)] [.tableRow (left ++ b :: right)]
  | footnote {labelled : Bool} (nodes : List Node) : Alike labelled [.parent .footnote nodes] nodes
  | markTwice {labelled : Bool} (mark : Mark) (nodes : List Node) :
      Alike labelled [.parent (.mark mark) [.parent (.mark mark) nodes]] [.parent (.mark mark) nodes]
  | markSwapped {labelled : Bool} (outer inner : Mark) (nodes : List Node) :
      Alike labelled [.parent (.mark outer) [.parent (.mark inner) nodes]]
        [.parent (.mark inner) [.parent (.mark outer) nodes]]
  | markSplit {labelled : Bool} (mark : Mark) (a b : List Node) :
      Alike labelled [.parent (.mark mark) (a ++ b)] [.parent (.mark mark) a, .parent (.mark mark) b]
  | markLink {labelled : Bool} (mark : Mark) (url : String) (title : Option String) (nodes : List Node) :
      Alike labelled [.parent (.mark mark) [.parent (.link url title) nodes]]
        [.parent (.link url title) [.parent (.mark mark) nodes]]
  | markEmpty {labelled : Bool} (mark : Mark) : Alike labelled [.parent (.mark mark) []] []
  | linkEmpty {labelled : Bool} (url : String) (title : Option String) :
      Alike labelled [.parent (.link url title) []] []
  | linkTwice {labelled : Bool} (outer inner : String) (title innerTitle : Option String) (nodes : List Node) :
      Alike labelled [.parent (.link outer title) [.parent (.link inner innerTitle) nodes]]
        [.parent (.link inner innerTitle) nodes]
  | silent (node : Node) (isSilent : node.kind.isSilent = true) : Alike false [node] []

theorem plain_text_parent (p : Parent) (children : List Node) :
    plainText [.parent p children] = plainText children := plain_text_single _

theorem cells_text_append (a b : List Cell) : cellsText (a ++ b) = cellsText a ++ cellsText b := by
  induction a with
  | nil => simp [cellsText]
  | cons cell rest ih => simp [cellsText, ih, String.append_assoc]

theorem rows_text_append (a b : List Row) : rowsText (a ++ b) = rowsText a ++ rowsText b := by
  induction a with
  | nil => simp [rowsText]
  | cons row rest ih => simp [rowsText, ih, String.append_assoc]

-- No rewriting below a heading or a link changes its text: silent nodes stay there.
theorem alike_text (labelled : Bool) (a b : List Node) (alike : Alike labelled a b) (inLabel : labelled = true) :
    plainText a = plainText b := by
  induction alike with
  | refl nodes => rfl
  | symm same ih => exact (ih inLabel).symm
  | trans first next ih ihNext => exact (ih inLabel).trans (ihNext inLabel)
  | beside before after same ih => simp only [plain_text_append, ih inLabel]
  | inParent p same ih =>
      rw [plain_text_parent, plain_text_parent]
      apply ih
      rw [inLabel, Bool.true_or]
  | inTable align above under left right same ih =>
      simp only [plain_text_single, Node.plainText, rows_text_append, rowsText, cells_text_append, cellsText,
        ih inLabel]
  | inRow left right same ih =>
      simp only [plain_text_single, Node.plainText, cells_text_append, cellsText, ih inLabel]
  | footnote nodes => exact plain_text_parent _ _
  | markTwice mark nodes => exact plain_text_parent _ _
  | markSwapped outer inner nodes => simp only [plain_text_parent]
  | markSplit mark a b => simp [plainText, Node.plainText, plain_text_append]
  | markLink mark url title nodes => simp only [plain_text_parent]
  | markEmpty mark => exact plain_text_parent _ _
  | linkEmpty url title => exact plain_text_parent _ _
  | linkTwice outer inner title innerTitle nodes => exact plain_text_parent _ _
  | silent node isSilent => cases inLabel

namespace Decoration

theorem mark_twice (deco : Decoration) (m : Mark) : (deco.mark m).mark m = deco.mark m := by
  cases m <;> rfl

theorem mark_swapped (deco : Decoration) (m n : Mark) : (deco.mark m).mark n = (deco.mark n).mark m := by
  cases m <;> cases n <;> rfl

theorem mark_link (deco : Decoration) (m : Mark) (url : String) :
    (deco.mark m).withLink url = (deco.withLink url).mark m := by
  cases m <;> rfl

end Decoration

namespace Context

theorem convert_single (ctx : Context) (deco : Decoration) (node : Node) :
    ctx.convert deco [node] = ctx.convertNode deco node := by
  simp [convert]

theorem convert_append (ctx : Context) (deco : Decoration) (a b : List Node) :
    ctx.convert deco (a ++ b) = (do
      let first ← ctx.convert deco a
      let others ← ctx.convert deco b
      pure (first ++ others)) := by
  induction a with
  | nil => simp [convert]
  | cons node rest ih => simp [convert, ih, ← List.append_assoc]

theorem convert_mark (ctx : Context) (deco : Decoration) (m : Mark) (nodes : List Node) :
    ctx.convert deco [.parent (.mark m) nodes] = ctx.convert (deco.mark m) nodes := by
  rw [convert_single, convertNode]
  exact bind_pure _

theorem convert_link (ctx : Context) (deco : Decoration) (url : String) (title : Option String)
    (nodes : List Node) :
    ctx.convert deco [.parent (.link url title) nodes] =
      ctx.convert (deco.withLink (ctx.transform url title nodes)) nodes := by
  rw [convert_single, convertNode]
  exact bind_pure _

theorem convert_footnote (ctx : Context) (deco : Decoration) (nodes : List Node) :
    ctx.convert deco [.parent .footnote nodes] = ctx.convert deco nodes := by
  rw [convert_single, convertNode]
  exact bind_pure _

theorem convert_silent (ctx : Context) (deco : Decoration) (node : Node) (isSilent : node.kind.isSilent = true) :
    ctx.convertNode deco node = pure [] := by
  cases node with
  | leaf l => cases l <;> first | rfl | cases isSilent
  | parent p children =>
      cases p with
      | mark m => cases m <;> cases isSilent
      | _ => first | rfl | cases isSilent
  | table align rows => cases isSilent
  | tableRow cells => cases isSilent

theorem convert_below (ctx : Context) (reads : ctx.transform.ReadsText) (deco : Decoration) (p : Parent)
    (a b : List Node) (sameContent : ∀ deco, ctx.convert deco a = ctx.convert deco b)
    (sameText : p.isLabelled = true → plainText a = plainText b) :
    ctx.convertNode deco (.parent p a) = ctx.convertNode deco (.parent p b) := by
  have decorated : ctx.decorate deco a p = ctx.decorate deco b p := by
    cases p with
    | link url title =>
        have target := reads url title a b (sameText rfl)
        simp only [decorate, target]
    | _ => rfl
  have built (inner : List Content) : ctx.parentContent a inner p = ctx.parentContent b inner p := by
    cases p with
    | heading depth =>
        have text : plainText a = plainText b := sameText rfl
        unfold parentContent
        rw [text]
    | list ordered start spread => cases ordered <;> rfl
    | _ => rfl
  have bound : (ctx.parentContent a · p) = (ctx.parentContent b · p) := funext built
  rw [convertNode, convertNode, decorated, sameContent, bound]

theorem convert_cells_beside (ctx : Context) (deco : Decoration) (a b : Cell) (left right : List Cell)
    (same : ∀ deco, ctx.convert deco a = ctx.convert deco b) (aligns : List Alignment) :
    ctx.convertCells deco aligns (left ++ a :: right) = ctx.convertCells deco aligns (left ++ b :: right) := by
  induction left generalizing aligns with
  | nil => simp only [List.nil_append, convertCells, same]
  | cons cell rest ih => simp only [List.cons_append, convertCells, ih]

theorem convert_rows_beside (ctx : Context) (deco : Decoration) (a b : Row) (above under : List Row)
    (aligns : List Alignment) (same : ctx.convertCells deco aligns a = ctx.convertCells deco aligns b) :
    ctx.convertRows deco aligns (above ++ a :: under) = ctx.convertRows deco aligns (above ++ b :: under) := by
  induction above with
  | nil => simp only [List.nil_append, convertRows, same]
  | cons row rest ih => simp only [List.cons_append, convertRows, ih]

theorem convert_alike (ctx : Context) (reads : ctx.transform.ReadsText) (labelled : Bool) (a b : List Node)
    (alike : Alike labelled a b) (deco : Decoration) : ctx.convert deco a = ctx.convert deco b := by
  induction alike generalizing deco with
  | refl nodes => rfl
  | symm same ih => exact (ih deco).symm
  | trans first next ih ihNext => exact (ih deco).trans (ihNext deco)
  | beside before after same ih => simp only [convert_append, ih]
  | inParent p same ih =>
      rw [convert_single, convert_single]
      apply convert_below ctx reads deco p _ _ ih
      intro isLabelled
      apply alike_text _ _ _ same
      rw [isLabelled, Bool.or_true]
  | inTable align above under left right same ih =>
      rw [convert_single, convert_single, convertNode, convertNode]
      have cells := convert_cells_beside ctx deco _ _ left right ih (align.map columnAlignment)
      rw [convert_rows_beside ctx deco _ _ above under _ cells]
  | inRow left right same ih => rw [convert_single, convert_single, convertNode, convertNode]
  | footnote nodes => exact convert_footnote ctx deco nodes
  | markTwice mark nodes => rw [convert_mark, convert_mark, convert_mark, Decoration.mark_twice]
  | markSwapped outer inner nodes =>
      rw [convert_mark, convert_mark, convert_mark, convert_mark, Decoration.mark_swapped]
  | markSplit mark a b =>
      have halves := convert_append ctx deco [.parent (.mark mark) a] [.parent (.mark mark) b]
      rw [convert_mark, convert_append, ← convert_mark, ← convert_mark]
      exact halves.symm
  | markLink mark url title nodes =>
      have text : plainText [.parent (.mark mark) nodes] = plainText nodes := plain_text_parent _ _
      have target := reads url title _ _ text
      rw [convert_mark, convert_link, convert_link, convert_mark, target, Decoration.mark_link]
  | markEmpty mark => rw [convert_mark, convert, convert]
  | linkEmpty url title => rw [convert_link, convert, convert]
  | linkTwice outer inner title innerTitle nodes =>
      rw [convert_link, convert_link, convert_link]
      rfl
  | silent node isSilent =>
      rw [convert_single, convert_silent ctx deco node isSilent]
      rfl

theorem alike_nodes_convert_alike (ctx : Context) (reads : ctx.transform.ReadsText) (a b : List Node)
    (alike : Alike false a b) (deco : Decoration) (s : Slugger) :
    ctx.contentOf deco a s = ctx.contentOf deco b s := by
  rw [contentOf, contentOf, convert_alike ctx reads false a b alike deco]

def quotingContext : Context where
  images := .empty
  styles := .empty
  transform := fun url _ children => url ++ "?" ++ plainText children
  preventOrphans := false

theorem quoting_reads_text : quotingContext.transform.ReadsText := by
  intro url title a b same
  simp only [quotingContext, same]

def wrappedHeading : List Node :=
  [.parent (.heading 1)
    [.parent .footnote [.parent (.mark .strong) [.parent (.link "to" none) [.leaf (.text "word")]]]],
    .leaf (.yaml "key: value")]

def plainHeading : List Node :=
  [.parent (.heading 1) [.parent (.link "to" none) [.parent (.mark .strong) [.leaf (.text "word")]]]]

theorem headings_alike : Alike false wrappedHeading plainHeading := by
  apply Alike.trans (Alike.beside (wrappedHeading.take 1) [] (Alike.silent (.leaf (.yaml "key: value")) rfl))
  apply Alike.inParent
  exact Alike.trans (Alike.footnote _) (Alike.markLink .strong "to" none _)

theorem alike_headings_convert_alike :
    quotingContext.transform.ReadsText ∧ Alike false wrappedHeading plainHeading ∧
      quotingContext.contentOf .plain wrappedHeading .fresh = quotingContext.contentOf .plain plainHeading .fresh :=
  ⟨quoting_reads_text, headings_alike,
    alike_nodes_convert_alike quotingContext quoting_reads_text _ _ headings_alike .plain .fresh⟩

end Context

end MarkdownLayout
