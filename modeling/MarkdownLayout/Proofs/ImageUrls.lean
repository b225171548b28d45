import MarkdownLayout.Document.Images
import MarkdownLayout.Proofs.Dictionary
import MarkdownLayout.Proofs.ImageCollection
import MarkdownLayout.Proofs.Walk

set_option autoImplicit false

namespace MarkdownLayout

open Mdast

mutual
def Mdast.Node.all : Node → List Node
  | .leaf l => [.leaf l]
  | .parent p children => .parent p children :: allNodes children
  | .table align rows => .table align rows :: rowNodes rows
  | .tableRow cells => .tableRow cells :: cellNodes cells
def allNodes : List Node → List Node
  | [] => []
  | node :: rest => node.all ++ allNodes rest
def cellNodes : List Cell → List Node
  | [] => []
  | cell :: rest => allNodes cell ++ cellNodes rest
def rowNodes : List Row → List Node
  | [] => []
  | row :: rest => cellNodes row ++ rowNodes rest
end

def imageTargets (nodes : List Node) : List String := (allNodes nodes).filterMap imageUrl?

mutual
theorem node_urls (node : Node) : node.imageUrls = node.all.filterMap imageUrl? := by
  cases node with
  | leaf l => cases l <;> rfl
  | parent p children => exact image_urls children
  | table align rows => exact row_urls rows
  | tableRow cells => exact cell_urls cells
theorem image_urls (nodes : List Node) : imageUrls nodes = imageTargets nodes := by
  cases nodes with
  | nil => rfl
  | cons node rest =>
      have later : imageUrls rest = (allNodes rest).filterMap imageUrl? := image_urls rest
      rw [imageUrls, imageTargets, allNodes, List.filterMap_append, node_urls node, later]
theorem cell_urls (cells : List Cell) : cellUrls cells = (cellNodes cells).filterMap imageUrl? := by
  cases cells with
  | nil => rfl
  | cons cell rest =>
      have first : imageUrls cell = (allNodes cell).filterMap imageUrl? := image_urls cell
      rw [cellUrls, cellNodes, List.filterMap_append, first, cell_urls rest]
theorem row_urls (rows : List Row) : rowUrls rows = (rowNodes rows).filterMap imageUrl? := by
  cases rows with
  | nil => rfl
  | cons row rest => rw [rowUrls, rowNodes, List.filterMap_append, cell_urls row, row_urls rest]
end

-- The walk passes over hidden parents, so it may see fewer images than there are, but no others.
mutual
theorem node_images_shown (node : Node) :
    (node.visits.filterMap Visit.imageUrl?).Sublist (node.all.filterMap imageUrl?) := by
  cases node with
  | leaf l => cases l <;> exact List.Sublist.refl _
  | parent p children =>
      have last : [Visit.leave (.parent p children)].filterMap Visit.imageUrl? = [] := rfl
      cases isOpen : p.isOpen with
      | false =>
          rw [Node.visits, isOpen]
          exact List.nil_sublist _
      | true =>
          have whole : (Node.parent p children).visits.filterMap Visit.imageUrl? =
              (visits children).filterMap Visit.imageUrl? := by
            rw [Node.visits, isOpen, if_pos rfl, List.filterMap_cons_none rfl, List.filterMap_append, last,
              List.append_nil]
          rw [whole]
          exact images_shown children
  | table align rows =>
      have last : [Visit.leave (.table align rows)].filterMap Visit.imageUrl? = [] := rfl
      rw [Node.visits, List.filterMap_cons_none rfl, List.filterMap_append, last, List.append_nil]
      exact row_images_shown rows
  | tableRow cells => exact List.nil_sublist _
theorem images_shown (nodes : List Node) :
    ((visits nodes).filterMap Visit.imageUrl?).Sublist (imageTargets nodes) := by
  cases nodes with
  | nil => exact List.Sublist.refl _
  | cons node rest =>
      rw [visits, imageTargets, allNodes, List.filterMap_append, List.filterMap_append]
      exact (node_images_shown node).append (images_shown rest)
theorem cell_images_shown (cells : List Cell) :
    ((cellVisits cells).filterMap Visit.imageUrl?).Sublist ((cellNodes cells).filterMap imageUrl?) := by
  cases cells with
  | nil => exact List.Sublist.refl _
  | cons cell rest =>
      rw [cellVisits, cellNodes, List.filterMap_append, List.filterMap_append]
      exact (images_shown cell).append (cell_images_shown rest)
theorem row_images_shown (rows : List Row) :
    ((rowVisits rows).filterMap Visit.imageUrl?).Sublist ((rowNodes rows).filterMap imageUrl?) := by
  cases rows with
  | nil => exact List.Sublist.refl _
  | cons row rest =>
      rw [rowVisits, rowNodes, List.filterMap_append, List.filterMap_append]
      exact (cell_images_shown row).append (row_images_shown rest)
end

theorem content_images_shown (ctx : Context) (deco : Decoration) (nodes : List Node) (s : Slugger)
    (content : List Content) (done : (ctx.contentOf deco nodes s).1 = .ok content) :
    (imageRefs content).Sublist (imageTargets nodes) := by
  have marked := (Context.content_of_ok ctx deco nodes s content done).2
  rw [← images_of_signs, marked.images]
  exact images_shown nodes

namespace ImageResolver

def refuses (resolver : ImageResolver) (url : String) : Bool := (resolver url).toOption.isNone

theorem accepted (resolver : ImageResolver) (url : String) (known : resolver.refuses url = false) :
    ∃ data, resolver url = .ok data := by
  cases answer : resolver url with
  | ok data => exact ⟨data, rfl⟩
  | error fault => simp [refuses, answer, Except.toOption] at known

theorem refused (resolver : ImageResolver) (url : String) (unknown : resolver.refuses url = true) :
    ∃ fault, resolver url = .error fault := by
  cases answer : resolver url with
  | ok data => simp [refuses, answer, Except.toOption] at unknown
  | error fault => exact ⟨fault, rfl⟩

theorem resolve_into_refused (resolver : ImageResolver) (found : ImageMap) (urls : List String) (url : String)
    (fault : Fault) (first : urls.find? resolver.refuses = some url) (refused : resolver url = .error fault) :
    resolver.resolveInto found urls = .error fault := by
  induction urls generalizing found with
  | nil => cases first
  | cons head rest ih =>
      cases known : resolver.refuses head with
      | true =>
          rw [List.find?_cons_of_pos known] at first
          obtain rfl : head = url := Option.some.inj first
          rw [resolveInto, refused]
          rfl
      | false =>
          rw [List.find?_cons_of_neg (by simp [known])] at first
          obtain ⟨data, answer⟩ := resolver.accepted head known
          rw [resolveInto, answer]
          exact ih (found.insert head data) first

theorem resolve_into_found (resolver : ImageResolver) (found : ImageMap) (urls : List String)
    (known : urls.find? resolver.refuses = none) :
    ∃ images, resolver.resolveInto found urls = .ok images ∧
      ∀ query, images.get? query = if query ∈ urls then (resolver query).toOption else found.get? query := by
  induction urls generalizing found with
  | nil => exact ⟨found, rfl, fun query => by simp⟩
  | cons head rest ih =>
      have clear := List.find?_eq_none.mp known
      have headKnown : resolver.refuses head = false := by simpa using clear head List.mem_cons_self
      have restKnown : rest.find? resolver.refuses = none :=
        List.find?_eq_none.mpr fun url member => clear url (List.mem_cons_of_mem head member)
      obtain ⟨data, answer⟩ := resolver.accepted head headKnown
      obtain ⟨images, resolved, entries⟩ := ih (found.insert head data) restKnown
      refine ⟨images, ?_, fun query => ?_⟩
      · rw [resolveInto, answer]
        exact resolved
      · rw [entries, Dictionary.get_insert]
        by_cases later : query ∈ rest
        · rw [if_pos later, if_pos (List.mem_cons_of_mem head later)]
        · by_cases same : query = head
          · rw [if_neg later, if_pos same, same, if_pos List.mem_cons_self, answer]
            rfl
          · have absent : query ∉ head :: rest := fun member => (List.mem_cons.mp member).elim same later
            rw [if_neg later, if_neg same, if_neg absent]

theorem resolve_refused (resolver : ImageResolver) (root : Root) (url : String) (fault : Fault)
    (first : (imageTargets root.children).find? resolver.refuses = some url)
    (refused : resolver url = .error fault) : resolver.resolve root = .error fault := by
  rw [← image_urls, ← find_distinct] at first
  exact resolver.resolve_into_refused .empty _ url fault first refused

theorem resolve_found (resolver : ImageResolver) (root : Root)
    (known : (imageTargets root.children).find? resolver.refuses = none) :
    ∃ images, resolver.resolve root = .ok images ∧
      ∀ query, images.get? query =
        if query ∈ imageTargets root.children then (resolver query).toOption else none := by
  rw [← image_urls, ← find_distinct] at known
  obtain ⟨images, resolved, entries⟩ := resolver.resolve_into_found .empty _ known
  refine ⟨images, resolved, fun query => ?_⟩
  rw [entries, Dictionary.get_empty]
  simp only [(distinct_urls_first root.children).same_members, image_urls]

theorem resolved_answers (resolver : ImageResolver) (urls : List String) (images : ImageMap)
    (known : urls.find? resolver.refuses = none)
    (entries : ∀ query, images.get? query = if query ∈ urls then (resolver query).toOption else none) :
    (∀ url, url ∈ images.keys ↔ url ∈ urls) ∧
      ∀ url data, images.get? url = some data ↔ url ∈ urls ∧ resolver url = .ok data := by
  have answers : ∀ url data, images.get? url = some data ↔ url ∈ urls ∧ resolver url = .ok data := by
    intro url data
    rw [entries]
    by_cases member : url ∈ urls
    · rw [if_pos member, and_iff_right member]
      cases resolver url <;> simp [Except.toOption]
    · simp [member]
  refine ⟨fun url => ?_, answers⟩
  rw [Dictionary.mem_keys, Option.isSome_iff_exists]
  constructor
  · intro found
    obtain ⟨data, entry⟩ := found
    exact ((answers url data).mp entry).1
  · intro member
    have clear := List.find?_eq_none.mp known url member
    obtain ⟨data, answer⟩ := resolver.accepted url (Bool.eq_false_iff.mpr clear)
    exact ⟨data, (answers url data).mpr ⟨member, answer⟩⟩

theorem image_url_iff (node : Node) (url : String) :
    imageUrl? node = some url ↔ ∃ title alt, node = .leaf (.image url title alt) := by
  cases node with
  | leaf l => cases l <;> simp [imageUrl?]
  | parent p children => simp [imageUrl?]
  | table align rows => simp [imageUrl?]
  | tableRow cells => simp [imageUrl?]

theorem image_among_targets (nodes : List Node) (url : String) :
    url ∈ imageTargets nodes ↔ ∃ title alt, .leaf (.image url title alt) ∈ allNodes nodes := by
  rw [imageTargets, List.mem_filterMap]
  constructor
  · intro ⟨node, member, target⟩
    obtain ⟨title, alt, rfl⟩ := (image_url_iff node url).mp target
    exact ⟨title, alt, member⟩
  · intro ⟨title, alt, member⟩
    exact ⟨_, member, rfl⟩

theorem images_found_once_in_order (nodes : List Node) (resolver : ImageResolver) :
    (distinctUrls nodes).Nodup ∧
    (∀ url, url ∈ distinctUrls nodes ↔ ∃ title alt, .leaf (.image url title alt) ∈ allNodes nodes) ∧
    (distinctUrls nodes).Pairwise (fun a b => (imageTargets nodes).idxOf a < (imageTargets nodes).idxOf b) ∧
    match (distinctUrls nodes).find? resolver.refuses with
    | some url => ∃ fault, resolver url = .error fault ∧ resolver.resolve ⟨nodes⟩ = .error fault
    | none =>
        ∃ images, resolver.resolve ⟨nodes⟩ = .ok images ∧
          (∀ url, url ∈ images.keys ↔ url ∈ distinctUrls nodes) ∧
          ∀ url data, images.get? url = some data ↔ url ∈ distinctUrls nodes ∧ resolver url = .ok data := by
  have first := distinct_urls_first nodes
  rw [image_urls] at first
  refine ⟨first.distinct, fun url => ?_, first.in_order, ?_⟩
  · rw [first.same_members, image_among_targets]
  · cases found : (distinctUrls nodes).find? resolver.refuses with
    | some url =>
        obtain ⟨fault, answer⟩ := resolver.refused url (List.find?_some found)
        exact ⟨fault, answer, resolver.resolve_into_refused .empty _ url fault found answer⟩
    | none =>
        obtain ⟨images, resolved, entries⟩ := resolver.resolve_into_found .empty _ found
        exact ⟨images, resolved, resolver.resolved_answers _ images found entries⟩

end ImageResolver

end MarkdownLayout
