import SearchWire.Tree.Basic

/-!
# Equality of trees

Two trees are equal when they are built alike and their leaves are equal. Leaves compare as numbers
where they are numbers, so a tree with a NaN in it does not equal itself, and the two zeros are
equal; weights alone compare by their bits, a weight that was never set counting as one.
-/

namespace SearchWire

/-- Equality of trees. -/
def Tree.eq : {c : Code} → Tree c → Tree c → Bool
  | _, record v, record w => v.eq w
  | _, node k v, node k' w => if h : k' = k then v.eq (h ▸ w) else false
  | _, criterion k v, criterion k' w => if h : k' = k then v.eq (h ▸ w) else false
  | _, nil, nil => true
  | _, cons v vs, cons w ws => v.eq w && vs.eq ws
  | .slot _ (.leaf _ l), leaf v, leaf w => l.eq v w
  | _, unset, unset => true
  | _, child v, child w => v.eq w
  | _, children vs, children ws => vs.eq ws
  | _, noParam, noParam => true
  | _, param k v, param k' w => if h : k' = k then v.eq (h ▸ w) else false
  | _, empty, empty => true
  | _, item v vs, item w ws => v.eq w && vs.eq ws
  | _, _, _ => false

end SearchWire
