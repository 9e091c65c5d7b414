import Synapse.Tensor.Basic

/-!
# `ops/shape.rs`

view を作る操作の写し。どれも値の列を共有したまま shape・strides・先頭位置を書き換える。
例外は `reshape` だけで、これは `to_standard_layout` で値を row-major に並べ直してから
既定の strides を付ける。

## panic の扱い

範囲外の軸（`strides()[ax]`、`slice.swap`、`insert_axis`、`remove_axis`）と
`reshape` の `assert_eq!` は panic する。ここでは `Option` の `none` で表す。
`Result` を返す `as_shape`・`broadcast_to`・`broadcast_with` は `Except ShapeError`。

`squeeze` の二つの `debug_assert!` は release では調べないので、本体には入れない。
軸の長さについての前提は、それを使う定理の側に置く。
-/

namespace Synapse

open scoped UInt64.CommRing

/-- `crate::Error` のうち shape の操作が返すもの。 -/
inductive ShapeError where
  /-- `Error::Broadcast(from, to)`。 -/
  | broadcast (src dst : List Nat)
  /-- `S2::from_shape` が長さの合わない列を受けたとき。列の長さ、求めた長さの順。 -/
  | ndim (found expected : Nat)
  deriving DecidableEq, Repr

/-- 形の型 `S`。`Const<N>` は長さ `N` の列だけを、`Dyn` はどの長さの列も表す。 -/
inductive Rank where
  | const (n : Nat)
  | dyn
  deriving DecidableEq, Repr

/-- 長さ `m` の列が型 `r` の値になれること。 -/
def Rank.Admits : Rank → Nat → Prop
  | .const n, m => m = n
  | .dyn, _ => True

instance : ∀ (r : Rank) (m : Nat), Decidable (r.Admits m)
  | .const n, m => inferInstanceAs (Decidable (m = n))
  | .dyn, _ => inferInstanceAs (Decidable True)

/-- `S2::from_shape`：列を型 `r` の値に移す。長さが合わなければ失敗する。 -/
def Rank.fromShape (r : Rank) (l : List β) : Except ShapeError (List β) :=
  match r with
  | .const n => if l.length = n then .ok l else .error (.ndim l.length n)
  | .dyn => .ok l

theorem Rank.fromShape_ok {r : Rank} {l l' : List β} (h : r.fromShape l = .ok l') : l' = l := by
  cases r with
  | const n =>
    simp only [fromShape] at h
    split at h <;> cases h
    rfl
  | dyn => cases h; rfl

theorem Rank.fromShape_of_admits {r : Rank} {l : List β} (h : r.Admits l.length) :
    r.fromShape l = .ok l := by
  cases r with
  | const n => simp only [Admits] at h; simp [fromShape, h]
  | dyn => rfl

/-- `slice.swap(a, b)`：`a` 番目と `b` 番目を入れ替える。 -/
def swapAt [Inhabited β] (l : List β) (a b : Nat) : List β :=
  (l.set a (l.getD b default)).set b (l.getD a default)

@[simp] theorem length_swapAt [Inhabited β] (l : List β) (a b : Nat) :
    (swapAt l a b).length = l.length := by
  simp [swapAt]

theorem getElem?_swapAt [Inhabited β] {l : List β} {a b : Nat} (ha : a < l.length)
    (hb : b < l.length) (k : Nat) :
    (swapAt l a b)[k]? = if k = b then l[a]? else if k = a then l[b]? else l[k]? := by
  simp only [swapAt, List.getElem?_set, List.length_set, List.getD_eq_getElem _ _ ha,
    List.getD_eq_getElem _ _ hb, List.getElem?_eq_getElem ha, List.getElem?_eq_getElem hb]
  split_ifs <;> first | rfl | omega

/-- 同じ二つを入れ替え直すと元に戻る。 -/
theorem swapAt_swapAt [Inhabited β] {l : List β} {a b : Nat} (ha : a < l.length)
    (hb : b < l.length) : swapAt (swapAt l a b) a b = l := by
  apply List.ext_getElem?
  intro k
  rw [getElem?_swapAt (by simpa) (by simpa)]
  simp only [getElem?_swapAt ha hb]
  split_ifs <;> subst_vars <;> rfl

/--
`broadcast_to` のループ。`from`・`self.strides()`・`new_stride`（最初は `to` の写し）を
末尾から組にして進む。引数はどれも逆順の列である。

`from` と strides が尽きたら、`new_stride` の残り（先頭側の軸）は `0` になる。
-/
def broadcastStrides : List Nat → List UInt64 → List Nat → Option (List UInt64)
  | er :: src, es :: strides, dr :: dst =>
    if dr = er then (es :: ·) <$> broadcastStrides src strides dst
    else if er = 1 then (0 :: ·) <$> broadcastStrides src strides dst
    else none
  | _, _, dst => some (dst.map fun _ => 0)

theorem length_broadcastStrides {src : List Nat} {strides : List UInt64} {dst : List Nat}
    {out : List UInt64} (h : broadcastStrides src strides dst = some out) :
    out.length = dst.length := by
  induction src, strides, dst using broadcastStrides.induct generalizing out with
  | case1 src es strides dr dst ih =>
    simp only [broadcastStrides, if_true, Option.map_eq_map, Option.map_eq_some'] at h
    obtain ⟨o, ho, rfl⟩ := h
    simp [ih ho]
  | case2 src es strides dr dst hne ih =>
    simp only [broadcastStrides, hne, if_false, if_true, Option.map_eq_map,
      Option.map_eq_some'] at h
    obtain ⟨o, ho, rfl⟩ := h
    simp [ih ho]
  | case3 er src es strides dr dst hne h1 => simp [broadcastStrides, hne, h1] at h
  | case4 src strides dst hcons =>
    rw [broadcastStrides] at h
    · cases h; simp
    · exact hcons

namespace Tensor

/-- `unsqueeze(axis)`。`insert_axis` は shape にも strides にも `1` を差し込む。 -/
def unsqueeze (x : Tensor α) (axis : Nat) : Option (Tensor α) :=
  if h : axis ≤ x.ndim then
    some ⟨x.values, x.shape.insertIdx axis 1, x.strides.insertIdx axis 1, by
      rw [List.length_insertIdx _ _ (x.strides_length ▸ h), List.length_insertIdx _ _ h,
        x.strides_length]⟩
  else none

/-- `swap_axes(ax1, ax2)`：shape と strides の二つの成分を入れ替える。 -/
def swapAxes (x : Tensor α) (ax1 ax2 : Nat) : Option (Tensor α) :=
  if ax1 < x.ndim ∧ ax2 < x.ndim then
    some ⟨x.values, swapAt x.shape ax1 ax2, swapAt x.strides ax1 ax2, by
      simp [x.strides_length]⟩
  else none

/-- `as_shape::<S2>()`：shape と strides を型 `r` に移すだけで、値は変えない。 -/
def asShape (x : Tensor α) (r : Rank) : Except ShapeError (Tensor α) :=
  match hs : r.fromShape x.shape, ht : r.fromShape x.strides with
  | .ok shape, .ok strides =>
    .ok ⟨x.values, shape, strides, by
      rw [Rank.fromShape_ok hs, Rank.fromShape_ok ht, x.strides_length]⟩
  | .error e, _ => .error e
  | .ok _, .error e => .error e

/-- `broadcast_to(shape)`。 -/
def broadcastTo (x : Tensor α) (dst : List Nat) : Except ShapeError (Tensor α) :=
  if dst.length < x.ndim then .error (.broadcast x.shape dst)
  else
    match h : broadcastStrides x.shape.reverse x.strides.reverse dst.reverse with
    | some rev => .ok ⟨x.values, dst, rev.reverse, by simpa using length_broadcastStrides h⟩
    | none => .error (.broadcast x.shape dst)

/-- `broadcast_with(other)`。`Shape::broadcast` は `ops/` の外にあるので引数で受ける。
結果の型 `<S as NdimMax<S2>>::Output` は `out`。 -/
def broadcastWith (broadcast : List Nat → List Nat → Except ShapeError (List Nat)) (out : Rank)
    (x : Tensor α) (y : Tensor β) : Except ShapeError (Tensor α × Tensor β) := do
  let shape ← broadcast x.shape y.shape
  let t1 ← (if shape = x.shape then x.asShape out else x.broadcastTo shape)
  let t2 ← (if shape = y.shape then y.asShape out else y.broadcastTo shape)
  pure (t1, t2)

/-- `invert_axis(axis)`：軸の向きを逆にする。先頭を軸の最後の要素へ動かし、stride の符号を
反転する。長さ 0 の軸では先頭を動かさない。 -/
def invertAxis (x : Tensor α) (axis : Nat) : Option (Tensor α) :=
  if h : axis < x.shape.length then
    have _hs : axis < x.strides.length := x.strides_length ▸ h
    let stride := x.strides[axis]
    let size := x.shape[axis]
    let values :=
      if size ≠ 0 then x.values.offset (strideOffset (size - 1) stride) else x.values
    some ⟨values, x.shape, x.strides.set axis (-stride), by simp [x.strides_length]⟩
  else none

/-- `squeeze(axis)`。`remove_axis` は shape と strides から同じ成分を抜く。 -/
def squeeze (x : Tensor α) (axis : Nat) : Option (Tensor α) :=
  if axis < x.ndim then
    some ⟨x.values, x.shape.eraseIdx axis, x.strides.eraseIdx axis, by
      simp [List.length_eraseIdx, x.strides_length]⟩
  else none

/-- `t()`：2 次元の tensor の転置。 -/
def t (x : Tensor α) : Option (Tensor α) := x.swapAxes 0 1

end Tensor

end Synapse
