import MarkdownLayout.Proofs.Comparison
import MarkdownLayout.Proofs.Definition
import MarkdownLayout.Proofs.RunOrigins

set_option autoImplicit false

namespace MarkdownLayout

open Mdast

namespace Erasure

def skeleton : Erasure := ⟨fun _ => .bare, fun _ => none, fun _ => none⟩

def unlevelled : Erasure := ⟨fun run => { run with headlineLevel := none }, id, id⟩

def relinked : Erasure := ⟨fun run => { run with link := run.link.map fun _ => "" }, id, id⟩

def unstyled : Erasure := ⟨fun run => { run with style := none, props := .empty }, fun _ => none, fun _ => none⟩

end Erasure

theorem except_map_map {ε α β γ : Type} (f : α → β) (g : β → γ) (found : Except ε α) :
    (found.map f).map g = found.map fun a => g (f a) := by
  cases found <;> rfl

def Origin.kept (origin : Origin) (run : Run) : Option StyleRef × Style :=
  (if origin.inItem then none else run.style, if origin.maker = .paragraph then .empty else run.props)

-- Results of the same shape that differ at most in the properties of paragraphs, in the styles of runs directly in a
-- list item and in rules.
structure Restyled (found : List Origin) (a b : Except Misplaced (List Content)) : Prop where
  erased : a.map (eraseAll .unstyled) = b.map (eraseAll .unstyled)
  counted : a.map (fun content => (runs content).length) = a.map fun _ => found.length
  kept : a.map (fun content => List.zipWith Origin.kept found (runs content)) =
    b.map fun content => List.zipWith Origin.kept found (runs content)

namespace Context

theorem skeleton_comparable (ctx other : Context) : Comparable .skeleton ctx other fun _ _ => True where
  decorated _ _ _ _ _ := trivial
  aligned _ _ _ _ := trivial
  text _ _ _ _ := rfl
  rule _ _ := rfl
  paragraph := rfl
  heading _ _ _ := rfl
  item _ _ _ := rfl

theorem decorate_same (ctx other : Context) (sameTransform : ctx.transform = other.transform) (deco : Decoration)
    (children : List Node) (p : Parent) : ctx.decorate deco children p = other.decorate deco children p := by
  cases p <;> simp [decorate, sameTransform]

theorem unlevelled_comparable (ctx : Context) (preventOrphans : Bool) :
    Comparable .unlevelled ctx { ctx with preventOrphans } Eq where
  decorated _ _ children p same := same ▸ decorate_same ctx _ rfl _ children p
  aligned _ _ _ same := by rw [same]
  text _ _ _ same := by rw [same]
  rule _ _ := rfl
  paragraph := rfl
  heading _ _ _ := rfl
  item _ _ same := congrArg (fun run : Run => { run with style := (ctx.styles.get? "li").map .inline }) same

def unlinked (deco : Decoration) : Decoration := { deco with link := deco.link.map fun _ => "" }

theorem unlinked_mark (deco : Decoration) (m : Mark) : unlinked (deco.mark m) = (unlinked deco).mark m := by
  cases m <;> rfl

theorem text_run_relinked (deco : Decoration) (literal : String) :
    (textRun deco literal).erase .relinked = textRun (unlinked deco) literal := by
  obtain ⟨strong, emphasis, delete, link, align⟩ := deco
  cases link <;> rfl

theorem relinked_comparable (ctx : Context) (transform : LinkTransform) :
    Comparable .relinked ctx { ctx with transform } fun deco deco' => unlinked deco = unlinked deco' where
  decorated deco deco' children p same := by
    cases p with
    | mark m =>
        change unlinked (deco.mark m) = unlinked (deco'.mark m)
        rw [unlinked_mark, unlinked_mark, same]
    | link url title =>
        change (unlinked deco).withLink "" = (unlinked deco').withLink ""
        rw [same]
    | _ => exact same
  aligned _ _ align same := congrArg (Decoration.withAlign · align) same
  text deco deco' literal same := by rw [text_run_relinked, text_run_relinked, same]
  rule _ _ := rfl
  paragraph := rfl
  heading _ _ _ := rfl
  item _ _ same := congrArg (fun run : Run => { run with style := (ctx.styles.get? "li").map .inline }) same

theorem unstyled_comparable (ctx : Context) (styles : StyleTable) :
    Comparable .unstyled ctx { ctx with styles } Eq where
  decorated _ _ children p same := same ▸ decorate_same ctx _ rfl _ children p
  aligned _ _ _ same := by rw [same]
  text _ _ _ same := by rw [same]
  rule _ _ := rfl
  paragraph := rfl
  heading _ _ _ := rfl
  item _ _ same := same

theorem kept_of_run (ctx : Context) (styles : StyleTable) (deco : Decoration) (origin : Origin) :
    origin.kept (runAt { ctx with styles } deco origin) = origin.kept (runAt ctx deco origin) := by
  obtain ⟨path, maker⟩ := origin
  have style : (ownRun { ctx with styles } deco ⟨path, maker⟩).style = (ownRun ctx deco ⟨path, maker⟩).style := by
    cases maker <;> rfl
  have props (other : maker ≠ .paragraph) :
      (ownRun { ctx with styles } deco ⟨path, maker⟩).props = (ownRun ctx deco ⟨path, maker⟩).props := by
    cases maker with
    | paragraph => exact absurd rfl other
    | _ => rfl
  refine Prod.ext ?_ ?_
  · cases inItem : Origin.inItem ⟨path, maker⟩ with
    | true => simp only [Origin.kept, inItem, if_true]
    | false => simpa only [Origin.kept, runAt, inItem, Bool.false_eq_true, if_false] using style
  · by_cases paragraph : maker = .paragraph
    · simp only [Origin.kept, paragraph, if_true]
    · simp only [Origin.kept, paragraph, if_false, run_at_props, props paragraph]

theorem kept_of_runs (ctx : Context) (deco : Decoration) (nodes : List Node) (s : Slugger) :
    (ctx.contentOf deco nodes s).1.map (fun content => List.zipWith Origin.kept (origins nodes) (runs content)) =
      (ctx.contentOf deco nodes s).1.map fun _ =>
        (origins nodes).map fun origin => origin.kept (runAt ctx deco origin) := by
  cases done : (ctx.contentOf deco nodes s).1 with
  | error part => rfl
  | ok content =>
      refine congrArg Except.ok ?_
      calc List.zipWith Origin.kept (origins nodes) (runs content)
        _ = List.zipWith Origin.kept (origins nodes) ((runs content).map Run.blankId) := by
            rw [List.zipWith_map_right]
            rfl
        _ = (origins nodes).map fun origin => origin.kept (runAt ctx deco origin) := by
            rw [runs_follow_origins ctx deco nodes s content done, List.zipWith_map_right, List.zipWith_self]

theorem same_outcome (ctx other : Context) (deco : Decoration) (nodes : List Node) (s : Slugger) :
    ((ctx.contentOf deco nodes s).1.map fun _ => ()) = ((other.contentOf deco nodes s).1.map fun _ => ()) ∧
      (ctx.contentOf deco nodes s).2 = (other.contentOf deco nodes s).2 := by
  obtain ⟨left, sluggers⟩ := (skeleton_comparable ctx other).outcome_left deco deco trivial nodes s
  have forgotten := congrArg (Except.map fun _ => ()) left
  rw [except_map_map, except_map_map] at forgotten
  exact ⟨forgotten, sluggers⟩

theorem restyled_content (ctx : Context) (styles : StyleTable) (deco : Decoration) (nodes : List Node) (s : Slugger) :
    Restyled (origins nodes) (ctx.contentOf deco nodes s).1 ({ ctx with styles }.contentOf deco nodes s).1 where
  erased := ((unstyled_comparable ctx styles).outcome_left deco deco rfl nodes s).1
  counted := by
    cases done : (ctx.contentOf deco nodes s).1 with
    | error part => rfl
    | ok content => exact congrArg Except.ok (runs_count ctx deco nodes s content done)
  kept := by
    have same : (fun origin : Origin => origin.kept (runAt { ctx with styles } deco origin)) =
        fun origin => origin.kept (runAt ctx deco origin) := funext (kept_of_run ctx styles deco)
    have finished := congrArg
      (Except.map fun _ => (origins nodes).map fun origin => origin.kept (runAt ctx deco origin))
      (same_outcome ctx { ctx with styles } deco nodes s).1
    rw [except_map_map, except_map_map] at finished
    rw [kept_of_runs, kept_of_runs, same, finished]

theorem settings_reach_their_own_part (ctx : Context) (deco : Decoration) (nodes : List Node) (s : Slugger) :
    (∀ other : Context,
      ((ctx.contentOf deco nodes s).1.map fun _ => ()) = ((other.contentOf deco nodes s).1.map fun _ => ()) ∧
        (ctx.contentOf deco nodes s).2 = (other.contentOf deco nodes s).2) ∧
    (∀ images : ImageMap, ctx.contentOf deco nodes s = { ctx with images }.contentOf deco nodes s) ∧
    (∀ root options images otherImages,
      Definition.ofRoot root options otherImages =
        (Definition.ofRoot root options images).map fun definition => { definition with images := otherImages }) ∧
    (∀ preventOrphans : Bool,
      (ctx.contentOf deco nodes s).1.map (eraseAll .unlevelled) =
        ({ ctx with preventOrphans }.contentOf deco nodes s).1.map (eraseAll .unlevelled)) ∧
    (∀ transform : LinkTransform,
      (ctx.contentOf deco nodes s).1.map (eraseAll .relinked) =
        ({ ctx with transform }.contentOf deco nodes s).1.map (eraseAll .relinked)) ∧
    ∀ styles : StyleTable,
      Restyled (origins nodes) (ctx.contentOf deco nodes s).1 ({ ctx with styles }.contentOf deco nodes s).1 := by
  refine ⟨fun other => same_outcome ctx other deco nodes s,
    fun images => ctx.content_supplied images deco nodes s, fun root options images otherImages => ?_,
    fun preventOrphans => ((unlevelled_comparable ctx preventOrphans).outcome_left deco deco rfl nodes s).1,
    fun transform => ((relinked_comparable ctx transform).outcome_left deco deco rfl nodes s).1,
    fun styles => restyled_content ctx styles deco nodes s⟩
  rw [Definition.ofRoot, Definition.ofRoot, Definition.contentOf, Definition.contentOf, Definition.walked_supplied,
    Definition.walked_supplied]
  cases Definition.walked root options <;> rfl

end Context

end MarkdownLayout
