import MarkdownLayout.Content.Basic

set_option autoImplicit false

namespace MarkdownLayout

namespace Content

-- A node follows what is inside it. For what has nothing inside this is document order.
mutual
def nodes : Content → List Content
  | .text run literal => [.text run literal]
  | .group run children => nodesOf children ++ [.group run children]
  | .orderedList items start => nodesOf items ++ [.orderedList items start]
  | .unorderedList items => nodesOf items ++ [.unorderedList items]
  | .table body => rowNodes body ++ [.table body]
  | .canvas margin lines => [.canvas margin lines]
  | .image url => [.image url]
def nodesOf : List Content → List Content
  | [] => []
  | content :: rest => content.nodes ++ nodesOf rest
def cellNodes : List (List Content) → List Content
  | [] => []
  | cell :: rest => nodesOf cell ++ cellNodes rest
def rowNodes : List (List (List Content)) → List Content
  | [] => []
  | row :: rest => cellNodes row ++ rowNodes rest
end

theorem nodes_of_append (a b : List Content) : nodesOf (a ++ b) = nodesOf a ++ nodesOf b := by
  induction a with
  | nil => rfl
  | cons content rest ih => rw [List.cons_append, nodesOf, nodesOf, ih, List.append_assoc]

theorem nodes_of_single (content : Content) : nodesOf [content] = content.nodes := List.append_nil _

def literal? : Content → Option (Run × String)
  | .text run literal => some (run, literal)
  | _ => none

def imageUrl? : Content → Option String
  | .image url => some url
  | _ => none

end Content

def runs (content : List Content) : List Run := (Content.nodesOf content).filterMap Content.run?

def ids (content : List Content) : List String := (runs content).filterMap Run.id

def literals (content : List Content) : List (Run × String) :=
  (Content.nodesOf content).filterMap Content.literal?

def imageRefs (content : List Content) : List String := (Content.nodesOf content).filterMap Content.imageUrl?

theorem literals_append (a b : List Content) : literals (a ++ b) = literals a ++ literals b := by
  rw [literals, Content.nodes_of_append, List.filterMap_append]
  rfl

theorem literals_enclosed (enclosing : Content) (inner : List Content)
    (around : enclosing.nodes = Content.nodesOf inner ++ [enclosing]) (notText : enclosing.literal? = none) :
    literals [enclosing] = literals inner := by
  rw [literals, Content.nodes_of_single, around, List.filterMap_append]
  simp [notText, literals]

theorem literals_of_table (body : List (List (List Content))) :
    literals [.table body] = (Content.rowNodes body).filterMap Content.literal? := by
  have notText : (Content.table body).literal? = none := rfl
  rw [literals, Content.nodes_of_single, Content.nodes, List.filterMap_append]
  simp [notText]

end MarkdownLayout
