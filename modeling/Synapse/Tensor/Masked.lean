import Synapse.Tensor.Shape

/-!
# `ops/masked.rs`

`with_mask` は mask の値の列（`mask.as_mask().into_values().into_values()`）をそのまま
受け取り、自分の値の列と位置ごとに組にする。shape と strides は自分のものを使う。
mask の strides と先頭位置は読まない。

要素の型 `T::Masked` は値と印の組 `α × Bool` で表す。印が「隠す」を意味するかどうかは
`MaskedValue` の側の取り決めで、ここで言うのは印がどこから来るかだけである。

`with_mask` は同じ形 `S` の mask をどの layout でも受け付けるが、印は位置で組にするので、
mask が `x` と違う strides か先頭位置を持つと、index `i` の印は mask の index `i` の
要素ではなくなる。

* `withMask_transposed_mask` — 転置した mask では、印が mask の要素と食い違う
-/

namespace Synapse

/-- `TensorValues::with_mask(mask)`：値の列の各位置に、mask の列の同じ位置の印を付ける。
先頭位置は値の側のもの。

`TensorValues::with_mask` と、mask の列を取り出す `Mask::into_values` は `src/` の外にある。
ここでは `with_mask` の呼び方から読める振る舞い（値の列の位置ごとの組）を置く。mask の列が
短ければ `List.zip` は残りの値を落とすが、同じ形の mask を既定の layout で作れば長さは揃う。 -/
def TensorValues.withMask (v : TensorValues α) (mask : List Bool) : TensorValues (α × Bool) :=
  ⟨v.buffer.zip mask, v.start⟩

/-- `with_mask(mask)`。 -/
def Tensor.withMask (x : Tensor α) (mask : Tensor Bool) : Tensor (α × Bool) :=
  ⟨x.values.withMask mask.values.buffer, x.shape, x.strides, x.strides_length⟩

namespace Tensor

/-- 既定の layout の mask `m` を `t()` で転置した `mt` を付けると、index `[0, 1]` の印は
`mt` の `[0, 1]` の要素（`false`）ではなく、値の列で同じ位置にある `m` の `[0, 1]` の
成分（`true`）になる。 -/
theorem withMask_transposed_mask :
    let x : Tensor Nat := ⟨⟨[0, 1, 2, 3], 0⟩, [2, 2], [2, 1], rfl⟩
    let m : Tensor Bool := ⟨⟨[false, true, false, false], 0⟩, [2, 2], [2, 1], rfl⟩
    let mt : Tensor Bool := ⟨⟨[false, true, false, false], 0⟩, [2, 2], [1, 2], rfl⟩
    m.t = some mt ∧ mt.shape = x.shape ∧ IsIndex [0, 1] x.shape ∧
      mt.get [0, 1] = some false ∧ (x.withMask mt).get [0, 1] = some (1, true) := by
  decide

end Tensor

end Synapse
