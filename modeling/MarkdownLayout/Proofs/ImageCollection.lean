import Mathlib.Data.List.Basic
import MarkdownLayout.Mdast.Image

set_option autoImplicit false

namespace MarkdownLayout.Mdast

structure FirstOccurrences (met found : List String) : Prop where
  distinct : found.Nodup
  same_members : ∀ url, url ∈ found ↔ url ∈ met
  in_order : found.Pairwise fun a b => met.idxOf a < met.idxOf b

namespace FirstOccurrences

theorem none : FirstOccurrences [] [] := ⟨.nil, fun _ => Iff.rfl, .nil⟩

theorem add (met found : List String) (url : String) (first : FirstOccurrences met found) :
    FirstOccurrences (met ++ [url]) (addUrl found url) := by
  -- What has been met before keeps its place when one more target is met.
  have kept : found.Pairwise fun a b => (met ++ [url]).idxOf a < (met ++ [url]).idxOf b := by
    refine first.in_order.imp_of_mem fun {a b} memberA memberB before => ?_
    rw [List.idxOf_append_of_mem ((first.same_members a).mp memberA),
      List.idxOf_append_of_mem ((first.same_members b).mp memberB)]
    exact before
  by_cases known : url ∈ found
  · rw [addUrl, if_pos known]
    refine ⟨first.distinct, fun other => ?_, kept⟩
    have metBefore := (first.same_members url).mp known
    rw [first.same_members, List.mem_append, List.mem_singleton]
    exact ⟨.inl, fun either => either.elim id fun same => same ▸ metBefore⟩
  · have unmet : url ∉ met := fun member => known ((first.same_members url).mpr member)
    rw [addUrl, if_neg known]
    refine ⟨?_, fun other => ?_, ?_⟩
    · refine List.nodup_append.mpr ⟨first.distinct, List.pairwise_singleton _ url, fun other member last isLast same => ?_⟩
      exact known ((same.trans (List.mem_singleton.mp isLast)) ▸ member)
    · rw [List.mem_append, List.mem_append, first.same_members]
    · refine List.pairwise_append.mpr ⟨kept, List.pairwise_singleton _ url, fun other member last isLast => ?_⟩
      obtain rfl := List.mem_singleton.mp isLast
      have metBefore := (first.same_members other).mp member
      have place := List.idxOf_lt_length_of_mem metBefore
      rw [List.idxOf_append_of_mem metBefore, List.idxOf_append_of_notMem unmet]
      omega

theorem add_all (met found urls : List String) (first : FirstOccurrences met found) :
    FirstOccurrences (met ++ urls) (urls.foldl addUrl found) := by
  induction urls generalizing met found with
  | nil => exact (List.append_nil met).symm ▸ first
  | cons url rest ih =>
      have next := ih (met ++ [url]) (addUrl found url) (add met found url first)
      rw [List.append_assoc] at next
      exact next

end FirstOccurrences

theorem find_added (wanted : String → Bool) (found : List String) (url : String) :
    (addUrl found url).find? wanted = (found ++ [url]).find? wanted := by
  by_cases known : url ∈ found
  · rw [addUrl, if_pos known, List.find?_append]
    cases earlier : found.find? wanted with
    | some _ => rfl
    | none =>
        have unwanted := List.find?_eq_none.mp earlier url known
        rw [List.find?_cons_of_neg unwanted]
        rfl
  · rw [addUrl, if_neg known]

-- What is left out stands behind an equal target, so it is never the first that `wanted` holds of.
theorem find_all_added (wanted : String → Bool) (found urls : List String) :
    (urls.foldl addUrl found).find? wanted = (found ++ urls).find? wanted := by
  induction urls generalizing found with
  | nil => rw [List.append_nil]; rfl
  | cons url rest ih =>
      rw [List.foldl_cons, ih, List.find?_append, find_added, ← List.find?_append, List.append_assoc]
      rfl

mutual
theorem node_gathered (found : List String) (node : Node) :
    node.gatherUrls found = node.imageUrls.foldl addUrl found := by
  cases node with
  | leaf l => cases l <;> rfl
  | parent p children => exact gathered found children
  | table align rows => exact rows_gathered found rows
  | tableRow cells => exact cells_gathered found cells
theorem gathered (found : List String) (nodes : List Node) :
    gatherUrls found nodes = (imageUrls nodes).foldl addUrl found := by
  cases nodes with
  | nil => rfl
  | cons node rest => rw [gatherUrls, imageUrls, List.foldl_append, node_gathered found node, gathered _ rest]
theorem cells_gathered (found : List String) (cells : List Cell) :
    gatherCellUrls found cells = (cellUrls cells).foldl addUrl found := by
  cases cells with
  | nil => rfl
  | cons cell rest => rw [gatherCellUrls, cellUrls, List.foldl_append, gathered found cell, cells_gathered _ rest]
theorem rows_gathered (found : List String) (rows : List Row) :
    gatherRowUrls found rows = (rowUrls rows).foldl addUrl found := by
  cases rows with
  | nil => rfl
  | cons row rest => rw [gatherRowUrls, rowUrls, List.foldl_append, cells_gathered found row, rows_gathered _ rest]
end

theorem distinct_urls_first (nodes : List Node) : FirstOccurrences (imageUrls nodes) (distinctUrls nodes) := by
  rw [distinctUrls, gathered]
  exact FirstOccurrences.add_all [] [] (imageUrls nodes) .none

theorem find_distinct (wanted : String → Bool) (nodes : List Node) :
    (distinctUrls nodes).find? wanted = (imageUrls nodes).find? wanted := by
  rw [distinctUrls, gathered, find_all_added]
  rfl

end MarkdownLayout.Mdast
