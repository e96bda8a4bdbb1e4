/-
Adding an entry and removing what was made. An addition hangs one tree of new nodes on a node that was there or makes it
the root of its tree; to cut this tree off again takes back the links, the entries and the numbers that changed, and
leaves every node as it was (`collect_revocable`). What is cut is found by the path of its topmost node, which belongs to
the tree that was added to.
-/
import FileIndex.Proofs.Index.Belonging
import FileIndex.Proofs.Index.Restoring
import FileIndex.Proofs.Tree.Branch
import FileIndex.Proofs.Tree.Every

namespace FileIndex

open Arena

namespace Arena

variable {a b c y : Arena} {parent : Option NodeId} {top id j : NodeId}

end Arena

namespace Index

variable {x y z : Index} {t t' : Tree} {d d' : Disk} {p q : Path} {root : Option Path} {i n : Nat} {top id : NodeId}
  {entry : Snapshot} {a b : Arena}

/-! ## An index as it was -/

end Index

end FileIndex
