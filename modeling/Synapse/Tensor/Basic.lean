import Mathlib.Data.UInt
import Mathlib.Data.List.InsertIdx
import Mathlib.Data.List.GetD
import Mathlib.Algebra.BigOperators.Group.List
import Mathlib.Tactic.Ring

/-!
# テンソルの値と strided な読み出し

`synapse-tensor` の `Tensor<T, S>` は、共有される値の列（`TensorValues`）、形（shape）、
各軸の stride の三つ組である。`ops/shape.rs` の操作はどれも値の列を共有したまま
shape・strides・先頭位置だけを書き換える view の操作なので、ここではその三つと、
多重 index から値を読む規則を定める。

## 読み出しの規則

多重 index `i` の要素は、値の列の `start + Σ stride_offset(i_k, s_k)` 番目にある。
位置と stride は usize なので、足し算と掛け算は 2^64 で回る（`UInt64`）。
`invert_axis` が作る負の stride は 2 の補数で usize に入っている。

`Tensor::new`、`Shape`、`TensorValues` は crate の `ops/` の外にある。ここに置くのは
`ops/` が使う形だけで、軸は `Axis::index` が返す位置そのもの（`Nat`）として扱う。
-/

namespace Synapse

open scoped UInt64.CommRing

/-- 共有される値の列と、その中での先頭位置（`TensorValues`）。 -/
@[ext]
structure TensorValues (α : Type) where
  buffer : List α
  start : UInt64
  deriving DecidableEq, Repr

/-- `values.offset(n)`：先頭位置を `n` だけずらした view。 -/
def TensorValues.offset (v : TensorValues α) (n : UInt64) : TensorValues α :=
  { v with start := v.start + n }

/-- `stride_offset(n, stride)`。軸に沿って `n` 歩進んだときの位置の差。 -/
def strideOffset (n : Nat) (stride : UInt64) : UInt64 := UInt64.ofNat n * stride

/-- 多重 index の位置：各軸の `stride_offset` の和。 -/
def indexOffset : List Nat → List UInt64 → UInt64
  | i :: is, s :: ss => strideOffset i s + indexOffset is ss
  | _, _ => 0

/-- `Tensor<T, S>`。shape と strides は同じ型 `S` の値なので、長さが揃う。 -/
@[ext]
structure Tensor (α : Type) where
  values : TensorValues α
  shape : List Nat
  strides : List UInt64
  strides_length : strides.length = shape.length
  deriving DecidableEq

namespace Tensor

/-- 軸の数。 -/
def ndim (x : Tensor α) : Nat := x.shape.length

/-- 多重 index `i` の要素。値の列の外を指すときは `none`。 -/
def get (x : Tensor α) (i : List Nat) : Option α :=
  x.values.buffer[(x.values.start + indexOffset i x.strides).toNat]?

/-- 同じ値の列を見る二つの view は、位置が等しい index で同じ要素を読む。 -/
theorem get_eq_get {x y : Tensor α} {i j : List Nat} (hb : y.values.buffer = x.values.buffer)
    (h : y.values.start + indexOffset i y.strides = x.values.start + indexOffset j x.strides) :
    y.get i = x.get j := by
  simp only [get, hb, h]

end Tensor

/-- `i` が shape `sh` の index であること：長さが同じで、各成分が軸の長さ未満。 -/
def IsIndex (i sh : List Nat) : Prop := List.Forall₂ (· < ·) i sh

instance (i sh : List Nat) : Decidable (IsIndex i sh) :=
  inferInstanceAs (Decidable (List.Forall₂ _ i sh))

namespace Shape

/-- `Shape::size`：要素の数。 -/
def size (sh : List Nat) : Nat := sh.prod

end Shape

theorem ofNat_eq_cast (n : Nat) : UInt64.ofNat n = (n : UInt64) := rfl

@[simp] theorem set_getD_self {l : List β} {a : Nat} (d : β) : l.set a (l.getD a d) = l := by
  induction l generalizing a with
  | nil => simp
  | cons x l ih =>
    cases a <;> simp only [List.getD_cons_zero, List.getD_cons_succ, List.set_cons_zero,
      List.set_cons_succ, ih]

@[simp] theorem indexOffset_nil_left (s : List UInt64) : indexOffset [] s = 0 := by
  cases s <;> rfl

@[simp] theorem indexOffset_nil_right (i : List Nat) : indexOffset i [] = 0 := by
  cases i <;> rfl

@[simp] theorem indexOffset_cons (k : Nat) (i : List Nat) (t : UInt64) (s : List UInt64) :
    indexOffset (k :: i) (t :: s) = strideOffset k t + indexOffset i s := rfl

theorem indexOffset_append {i₁ i₂ : List Nat} {s₁ s₂ : List UInt64} (h : i₁.length = s₁.length) :
    indexOffset (i₁ ++ i₂) (s₁ ++ s₂) = indexOffset i₁ s₁ + indexOffset i₂ s₂ := by
  induction i₁ generalizing s₁ with
  | nil => cases s₁ <;> simp_all
  | cons k i ih =>
    cases s₁ with
    | nil => simp at h
    | cons t s => simp [ih (Nat.succ.inj h), add_assoc]

theorem indexOffset_reverse {i : List Nat} {s : List UInt64} (h : i.length = s.length) :
    indexOffset i.reverse s.reverse = indexOffset i s := by
  induction i generalizing s with
  | nil => simp
  | cons k i ih =>
    cases s with
    | nil => simp at h
    | cons t s =>
      have hl : i.reverse.length = s.reverse.length := by simpa using Nat.succ.inj h
      simp [indexOffset_append hl, ih (Nat.succ.inj h), add_comm]

@[simp] theorem indexOffset_replicate_zero (i : List Nat) (n : Nat) :
    indexOffset i (List.replicate n 0) = 0 := by
  induction i generalizing n with
  | nil => simp
  | cons k i ih => cases n <;> simp [List.replicate_succ, strideOffset, ih]

/--
一つの軸の index と stride を差し替えたときの位置の差。

`invert_axis`（stride の差し替え）と `swap_axes`（index と stride の両方）は、
どちらもこれで片付く。
-/
theorem indexOffset_set {i : List Nat} {s : List UInt64} {a : Nat} (hi : a < i.length)
    (hs : a < s.length) (u : Nat) (t : UInt64) :
    indexOffset (i.set a u) (s.set a t) + strideOffset (i.getD a 0) (s.getD a 0)
      = indexOffset i s + strideOffset u t := by
  induction i generalizing s a with
  | nil => simp at hi
  | cons k i ih =>
    cases s with
    | nil => simp at hs
    | cons r s =>
      cases a with
      | zero => simp only [List.set_cons_zero, indexOffset_cons, List.getD_cons_zero]; ring
      | succ a =>
        simp only [List.set_cons_succ, indexOffset_cons, List.getD_cons_succ]
        rw [add_assoc, ih (by simpa using hi) (by simpa using hs)]
        ring

/-- 長さの軸を一つ抜いた index に `0` を差し込むと、その軸の stride は効かない。 -/
theorem indexOffset_insertIdx_zero {i : List Nat} {s : List UInt64} {a : Nat}
    (hi : a ≤ i.length) :
    indexOffset (i.insertIdx a 0) s = indexOffset i (s.eraseIdx a) := by
  induction i generalizing s a with
  | nil =>
    cases a with
    | zero => cases s <;> simp [strideOffset, List.insertIdx_zero]
    | succ a => simp at hi
  | cons k i ih =>
    cases s with
    | nil => cases a <;> simp [List.insertIdx_zero, List.insertIdx_succ_cons]
    | cons r s =>
      cases a with
      | zero => simp [strideOffset, List.insertIdx_zero]
      | succ a =>
        simp [List.insertIdx_succ_cons, ih (Nat.le_of_succ_le_succ hi)]

/-- index と stride の同じ位置に軸を一つ差し込むと、その軸の分だけ位置が進む。 -/
theorem indexOffset_insertIdx_insertIdx {i : List Nat} {s : List UInt64} {a : Nat}
    (hi : a ≤ i.length) (hs : a ≤ s.length) (k : Nat) (t : UInt64) :
    indexOffset (i.insertIdx a k) (s.insertIdx a t) = strideOffset k t + indexOffset i s := by
  induction i generalizing s a with
  | nil =>
    cases a with
    | zero => simp [List.insertIdx_zero]
    | succ a => simp at hi
  | cons j i ih =>
    cases a with
    | zero => simp [List.insertIdx_zero]
    | succ a =>
      cases s with
      | nil => simp at hs
      | cons r s =>
        simp only [List.insertIdx_succ_cons, indexOffset_cons]
        rw [ih (by simpa using hi) (by simpa using hs)]
        ring

end Synapse
