import MarkdownLayout.Proofs.Walk

set_option autoImplicit false

namespace MarkdownLayout

open Mdast

def isTablePart (node : Node) : Bool := node.kind = .tableRow || node.kind = .tableCell

def Mdast.Visit.entered? : Visit → Option Node
  | .enter node => some node
  | .leave _ => none

def preorder (nodes : List Node) : List Node := (visits nodes).filterMap Visit.entered?

-- What is left here is complete: headings around the part are left only after it.
def visitsBeforePart (nodes : List Node) : List Visit :=
  (visits nodes).takeWhile fun visit => !visit.entered?.any isTablePart

theorem table_part_kind (node : Node) : (tablePart? node).map Misplaced.kind =
    if isTablePart node then some node.kind else none := by
  cases node with
  | leaf l => cases l <;> rfl
  | parent p children =>
      cases p with
      | mark m => cases m <;> rfl
      | _ => rfl
  | table align rows => rfl
  | tableRow cells => rfl

theorem part_of_visit (visit : Visit) : visit.part?.isSome = visit.entered?.any isTablePart := by
  cases visit with
  | leave node => rfl
  | enter node =>
      have kinds := congrArg Option.isSome (table_part_kind node)
      cases isPart : isTablePart node with
      | false => simpa [isPart, Visit.part?, Visit.entered?] using kinds
      | true => simpa [isPart, Visit.part?, Visit.entered?] using kinds

theorem kind_injective (a b : Misplaced) (same : a.kind = b.kind) : a = b := by
  cases a <;> cases b <;> first | rfl | cases same

theorem mem_preorder (nodes : List Node) (node : Node) : node ∈ preorder nodes ↔ Reached nodes node := by
  rw [← entered_iff_reached, preorder, List.mem_filterMap]
  constructor
  · rintro ⟨visit, member, entered⟩
    cases visit with
    | enter found =>
        obtain rfl : found = node := Option.some.inj entered
        exact member
    | leave _ => cases entered
  · intro member
    exact ⟨.enter node, member, rfl⟩

theorem not_part_of_clear (visit : Visit) (clear : visit.part? = none) :
    visit.entered?.any isTablePart = false := by
  rw [← part_of_visit, clear]
  rfl

theorem entered_not_part (sequence : List Visit) (clear : ∀ visit ∈ sequence, visit.part? = none) :
    (sequence.filterMap Visit.entered?).find? isTablePart = none := by
  refine List.find?_eq_none.mpr fun node entered isPart => ?_
  obtain ⟨visit, member, found⟩ := List.mem_filterMap.mp entered
  have notPart := not_part_of_clear visit (clear visit member)
  rw [found, Option.any_some] at notPart
  exact Bool.false_ne_true (notPart.symm.trans isPart)

theorem take_clear (before after : List Visit) (clear : ∀ visit ∈ before, visit.part? = none) :
    (before ++ after).takeWhile (fun visit => !visit.entered?.any isTablePart) =
      before ++ after.takeWhile fun visit => !visit.entered?.any isTablePart :=
  List.takeWhile_append_of_pos fun visit member => by rw [not_part_of_clear visit (clear visit member)]; rfl

theorem before_clear (nodes : List Node) (clear : ∀ visit ∈ visits nodes, visit.part? = none) :
    visitsBeforePart nodes = visits nodes := by
  have taken := take_clear (visits nodes) [] clear
  rw [List.append_nil, List.takeWhile_nil, List.append_nil] at taken
  exact taken

theorem before_split (nodes : List Node) (before after : List Visit) (visit : Visit) (part : Misplaced)
    (split : visits nodes = before ++ visit :: after) (clear : ∀ earlier ∈ before, earlier.part? = none)
    (isPart : visit.part? = some part) :
    visitsBeforePart nodes = before ∧
      ∃ node, (preorder nodes).find? isTablePart = some node ∧ node.kind = part.kind := by
  cases visit with
  | leave node => cases isPart
  | enter node =>
      have kinds := table_part_kind node
      rw [show tablePart? node = some part from isPart] at kinds
      cases found : isTablePart node with
      | false => simp [found] at kinds
      | true =>
          rw [found, if_pos rfl] at kinds
          constructor
          · rw [visitsBeforePart, split, take_clear before _ clear]
            simp [Visit.entered?, found]
          · refine ⟨node, ?_, (Option.some.inj kinds).symm⟩
            rw [preorder, split, List.filterMap_append, List.find?_append, entered_not_part before clear]
            simp [Visit.entered?, found]

namespace Context

theorem conversion_fails_at_first_table_part (ctx : Context) (deco : Decoration) (nodes : List Node)
    (s : Slugger) :
    ((∃ content, (ctx.contentOf deco nodes s).1 = .ok content) ↔
      ¬∃ node, Reached nodes node ∧ isTablePart node = true) ∧
    (∀ part, (ctx.contentOf deco nodes s).1 = .error part ↔
      ∃ node, (preorder nodes).find? isTablePart = some node ∧ node.kind = part.kind) ∧
    (ctx.contentOf deco nodes s).2 = (s.slugAll (headingTexts (visitsBeforePart nodes))).2 := by
  rcases clear_or_stopped (visits nodes) with clear | ⟨before, visit, after, part, split, clear, isPart⟩
  · obtain ⟨content, ran, -⟩ := content_of_clear ctx deco nodes s clear
    have noPart := entered_not_part (visits nodes) clear
    rw [ran, before_clear nodes clear]
    refine ⟨⟨?_, fun _ => ⟨content, rfl⟩⟩, fun part => ⟨?_, ?_⟩, rfl⟩
    · rintro - ⟨node, reached, isPart⟩
      have notPart := not_part_of_clear _ (clear _ (reached_entered nodes node reached))
      exact Bool.false_ne_true (notPart.symm.trans isPart)
    · intro failed
      cases failed
    · rintro ⟨node, found, -⟩
      rw [preorder, noPart] at found
      cases found
  · obtain ⟨taken, node, found, kind⟩ := before_split nodes before after visit part split clear isPart
    rw [content_of_stopped ctx deco nodes s before after visit part split clear isPart, taken]
    refine ⟨⟨?_, ?_⟩, fun other => ⟨?_, ?_⟩, rfl⟩
    · rintro ⟨content, failed⟩
      cases failed
    · intro absent
      have isPart := List.find?_some found
      exact absurd ⟨node, (mem_preorder nodes node).mp (List.mem_of_find?_eq_some found), isPart⟩ absent
    · intro same
      cases same
      exact ⟨node, found, kind⟩
    · rintro ⟨first, foundFirst, firstKind⟩
      obtain rfl : node = first := Option.some.inj (found.symm.trans foundFirst)
      rw [kind_injective part other (kind.symm.trans firstKind)]

end Context

end MarkdownLayout
