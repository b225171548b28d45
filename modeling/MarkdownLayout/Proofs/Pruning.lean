import MarkdownLayout.Mdast.Image
import MarkdownLayout.Mdast.Kind
import MarkdownLayout.Mdast.PlainText

set_option autoImplicit false

namespace MarkdownLayout.Mdast

def Kind.isSilent : Kind → Bool
  | .yaml | .toml | .definition | .footnoteDefinition | .linkReference | .imageReference | .footnoteReference =>
      true
  | _ => false

-- The cells and rows of a table have no kind and always stay.
mutual
def Node.pruned (drop : Kind → Bool) : Node → Node
  | .leaf l => .leaf l
  | .parent p children => .parent p (pruned drop children)
  | .table align rows => .table align (prunedRows drop rows)
  | .tableRow cells => .tableRow (prunedCells drop cells)
def pruned (drop : Kind → Bool) : List Node → List Node
  | [] => []
  | node :: rest => if drop node.kind then pruned drop rest else node.pruned drop :: pruned drop rest
def prunedCells (drop : Kind → Bool) : List Cell → List Cell
  | [] => []
  | cell :: rest => pruned drop cell :: prunedCells drop rest
def prunedRows (drop : Kind → Bool) : List Row → List Row
  | [] => []
  | row :: rest => prunedCells drop row :: prunedRows drop rest
end

theorem plain_text_append (a b : List Node) : plainText (a ++ b) = plainText a ++ plainText b := by
  induction a with
  | nil => rw [List.nil_append, plainText, String.empty_append]
  | cons node rest ih => rw [List.cons_append, plainText, plainText, ih, String.append_assoc]

theorem plain_text_single (node : Node) : plainText [node] = node.plainText := by
  rw [plainText, plainText, String.append_empty]

theorem image_urls_append (a b : List Node) : imageUrls (a ++ b) = imageUrls a ++ imageUrls b := by
  induction a with
  | nil => rfl
  | cons node rest ih => rw [List.cons_append, imageUrls, imageUrls, ih, List.append_assoc]

theorem image_urls_single (node : Node) : imageUrls [node] = node.imageUrls := List.append_nil _

theorem pruned_cons (drop : Kind → Bool) (node : Node) (rest : List Node) :
    pruned drop (node :: rest) = pruned drop [node] ++ pruned drop rest := by
  by_cases dropped : drop node.kind = true
  · simp [pruned, dropped]
  · simp [pruned, dropped]

theorem pruned_dropped (drop : Kind → Bool) (node : Node) (dropped : drop node.kind = true) :
    pruned drop [node] = [] := by
  simp [pruned, dropped]

theorem pruned_single (drop : Kind → Bool) (node : Node) (kept : drop node.kind = false) :
    pruned drop [node] = [node.pruned drop] := by
  simp [pruned, kept]

end MarkdownLayout.Mdast
