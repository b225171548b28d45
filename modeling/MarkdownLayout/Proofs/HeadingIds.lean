import MarkdownLayout.Proofs.Definition
import MarkdownLayout.Proofs.Walk

set_option autoImplicit false

namespace MarkdownLayout

open Mdast

def resultIds : Except Misplaced (List Content) → List String
  | .ok content => ids content
  | .error _ => []

def Context.contentsOf (ctx : Context) (deco : Decoration) :
    List (List Node) → Slugger → List (Except Misplaced (List Content)) × Slugger
  | [], s => ([], s)
  | nodes :: rest, s =>
      let (content, next) := ctx.contentOf deco nodes s
      let (others, last) := ctx.contentsOf deco rest next
      (content :: others, last)

theorem ids_of_anchors (content : List Content) :
    ids content = (anchors (signs content)).filterMap Prod.fst := by
  rw [ids, anchors_of_signs, List.filterMap_map]
  rfl

namespace Context

-- A failed batch leaves the slugs of its finished headings taken but shows none of them.
theorem batch_slugs (ctx : Context) (deco : Decoration) (nodes : List Node) (s : Slugger) :
    ∃ texts, (ctx.contentOf deco nodes s).2 = (s.slugAll texts).2 ∧
      (resultIds (ctx.contentOf deco nodes s).1).Sublist (s.slugAll texts).1 := by
  rcases clear_or_stopped (visits nodes) with clear | ⟨before, visit, after, part, split, clear, isPart⟩
  · obtain ⟨content, ran, marked⟩ := content_of_clear ctx deco nodes s clear
    have shown : resultIds (ctx.contentOf deco nodes s).1 = (s.slugAll (headingTexts (visits nodes))).1 := by
      rw [ran, resultIds, ids_of_anchors, marked.slugs]
    exact ⟨headingTexts (visits nodes), congrArg Prod.snd ran, shown ▸ List.Sublist.refl _⟩
  · refine ⟨headingTexts before, ?_, ?_⟩
    · rw [content_of_stopped ctx deco nodes s before after visit part split clear isPart]
    · rw [content_of_stopped ctx deco nodes s before after visit part split clear isPart]
      exact List.nil_sublist _

theorem contents_ids_fresh (ctx : Context) (deco : Decoration) (batches : List (List Node)) (s : Slugger)
    (id : String) (member : id ∈ (ctx.contentsOf deco batches s).1.flatMap resultIds) :
    s.issued id = false := by
  induction batches generalizing s with
  | nil => simp [contentsOf] at member
  | cons nodes rest ih =>
      obtain ⟨texts, last, shown⟩ := batch_slugs ctx deco nodes s
      rw [contentsOf, List.flatMap_cons] at member
      rcases List.mem_append.mp member with first | later
      · exact Slugger.slug_all_fresh s texts id (shown.subset first)
      · have free := ih _ later
        rw [last] at free
        refine Bool.eq_false_iff.mpr fun before => ?_
        have taken := (Slugger.issued_after_slug_all s texts id).mpr (.inl before)
        exact Bool.false_ne_true (free.symm.trans taken)

theorem contents_ids_distinct (ctx : Context) (deco : Decoration) (batches : List (List Node)) (s : Slugger) :
    ((ctx.contentsOf deco batches s).1.flatMap resultIds).Nodup := by
  induction batches generalizing s with
  | nil => exact .nil
  | cons nodes rest ih =>
      obtain ⟨texts, last, shown⟩ := batch_slugs ctx deco nodes s
      rw [contentsOf, List.flatMap_cons, List.nodup_append]
      refine ⟨shown.nodup (Slugger.slug_all_distinct s texts), ih _, ?_⟩
      intro id first other later same
      subst same
      have free := contents_ids_fresh ctx deco rest _ id later
      have taken := (Slugger.issued_after_slug_all s texts id).mpr (.inr (shown.subset first))
      rw [last] at free
      exact Bool.false_ne_true (free.symm.trans taken)

theorem content_ids (ctx : Context) (deco : Decoration) (nodes : List Node) (s : Slugger)
    (content : List Content) (done : (ctx.contentOf deco nodes s).1 = .ok content) :
    ids content = (s.slugAll (headingTexts (visits nodes))).1 ∧
      (runs content).map (fun run => run.id.isSome) =
        (makers (visits nodes)).map fun node => (headingDepth? node).isSome := by
  have marked := (content_of_ok ctx deco nodes s content done).2
  refine ⟨(ids_of_anchors content).trans marked.slugs, ?_⟩
  rw [← marked.anchored, anchors_of_signs, List.map_map]
  rfl

theorem heading_ids_unique_in_post_order (ctx : Context) (deco : Decoration) (batches : List (List Node)) :
    ((ctx.contentsOf deco batches .fresh).1.flatMap resultIds).Nodup ∧
    (∀ nodes s content, (ctx.contentOf deco nodes s).1 = .ok content →
      ids content = (s.slugAll (headingTexts (visits nodes))).1 ∧
        (runs content).map (fun run => run.id.isSome) =
          (makers (visits nodes)).map fun node => (headingDepth? node).isSome) ∧
    ∀ root options images definition, Definition.ofRoot root options images = .ok definition →
      (ids definition.content).Nodup := by
  refine ⟨contents_ids_distinct ctx deco batches .fresh, content_ids ctx deco, ?_⟩
  intro root options images definition made
  have done := (Definition.walked_of_root root options images definition made).1
  rw [(content_ids _ _ _ _ _ done).1]
  exact Slugger.slug_all_distinct .fresh _

def nestedHeading : List Node := [.heading 1 [.heading 2 [.text "a"]]]

def brokenOff : List Node := [.strong [.heading 1 [.text "a"]], .tableRow []]

def quotedHeading : List Node := [.parent .blockquote [.heading 1 [.text "a"]]]

theorem ids_around_failed_batch :
    let ctx := Definition.contextOf .default .empty
    let ran := ctx.contentsOf .plain [nestedHeading, brokenOff, quotedHeading] .fresh
    let later := (ctx.contentsOf .plain [nestedHeading, brokenOff] .fresh).2
    ran.1.map resultIds = [["a", "a-1"], [], ["a-3"]] ∧ (ran.1.flatMap resultIds).Nodup ∧
      (∃ content, (ctx.contentOf .plain quotedHeading later).1 = .ok content ∧
        ids content = (later.slugAll (headingTexts (visits quotedHeading))).1) ∧
      ∃ definition, Definition.ofRoot ⟨nestedHeading⟩ .default .empty = .ok definition ∧
        (ids definition.content).Nodup := by
  intro ctx ran later
  obtain ⟨distinctIds, ofBatch, ofRoot⟩ :=
    heading_ids_unique_in_post_order ctx .plain [nestedHeading, brokenOff, quotedHeading]
  obtain ⟨quoted, quotedRan, -⟩ := content_of_clear ctx .plain quotedHeading later (by decide)
  obtain ⟨nested, nestedRan, -⟩ := content_of_clear ctx .plain nestedHeading .fresh (by decide)
  have quotedDone := congrArg Prod.fst quotedRan
  obtain ⟨definition, made, -⟩ :=
    Definition.of_root_walked ⟨nestedHeading⟩ .default .empty nested (congrArg Prod.fst nestedRan)
  refine ⟨by decide +kernel, distinctIds, ⟨quoted, quotedDone, (ofBatch _ _ _ quotedDone).1⟩, definition, made, ?_⟩
  exact ofRoot _ _ _ definition made

end Context

end MarkdownLayout
