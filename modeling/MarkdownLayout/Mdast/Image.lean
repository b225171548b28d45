import MarkdownLayout.Mdast.Basic

set_option autoImplicit false

namespace MarkdownLayout.Mdast

def Leaf.imageUrls : Leaf → List String
  | .image url _ _ => [url]
  | _ => []

mutual
def Node.imageUrls : Node → List String
  | .leaf l => l.imageUrls
  | .parent _ children => imageUrls children
  | .table _ rows => rowUrls rows
  | .tableRow cells => cellUrls cells
def imageUrls : List Node → List String
  | [] => []
  | node :: rest => node.imageUrls ++ imageUrls rest
def cellUrls : List Cell → List String
  | [] => []
  | cell :: rest => imageUrls cell ++ cellUrls rest
def rowUrls : List Row → List String
  | [] => []
  | row :: rest => cellUrls row ++ rowUrls rest
end

def addUrl (found : List String) (url : String) : List String :=
  if url ∈ found then found else found ++ [url]

mutual
def Node.gatherUrls (found : List String) : Node → List String
  | .leaf (.image url _ _) => addUrl found url
  | .leaf _ => found
  | .parent _ children => gatherUrls found children
  | .table _ rows => gatherRowUrls found rows
  | .tableRow cells => gatherCellUrls found cells
def gatherUrls (found : List String) : List Node → List String
  | [] => found
  | node :: rest => gatherUrls (node.gatherUrls found) rest
def gatherCellUrls (found : List String) : List Cell → List String
  | [] => found
  | cell :: rest => gatherCellUrls (gatherUrls found cell) rest
def gatherRowUrls (found : List String) : List Row → List String
  | [] => found
  | row :: rest => gatherRowUrls (gatherCellUrls found row) rest
end

def distinctUrls (nodes : List Node) : List String := gatherUrls [] nodes

end MarkdownLayout.Mdast
