import Colloquy.Dialogue.Graph

/-!
# Numbering — the choices of a node by position

A node numbers its choices from zero in menu order. A number is paired with the choice at that
position and with no other, and the numbers increase.
-/

namespace Colloquy

/-- The positions of the numbered choices are increasing. -/
theorem Node.numbered_increasing (n : Node) :
    n.numbered.Pairwise fun a b => a.1 < b.1 := by
  simp only [Node.numbered, List.pairwise_map]
  refine List.pairwise_iff_getElem.2 fun i j hi hj hij => ?_
  simpa using hij

/-- A numbered choice is the choice at its position. -/
theorem Node.mem_numbered {n : Node} {index : Nat} {choice : Choice} :
    (index, choice) ∈ n.numbered ↔ n.choices[index]? = some choice := by
  simp only [Node.numbered, List.mem_map, Prod.exists, Prod.mk.injEq]
  constructor
  · rintro ⟨c, i, hmem, rfl, rfl⟩
    exact List.mem_zipIdx_iff_getElem?.1 hmem
  · intro hget
    exact ⟨choice, index, List.mem_zipIdx_iff_getElem?.2 hget, rfl, rfl⟩

end Colloquy
