import Synapse.Tensor.Shape
import Mathlib.Tactic.LinearCombination

/-!
# view の操作の性質

`invert_axis`・`swap_axes`（と `t`）・`squeeze`・`unsqueeze` が、値の列を共有したまま要素を並べ替える
ことを示す。どれも「新しい view の index `i` の位置」と「元の tensor の、並べ替えた
index の位置」が 2^64 を法として等しいことに帰着し、その計算は `indexOffset_set` と
`indexOffset_insertIdx_zero` で済む。

* `invertAxis_get_involutive` — 軸を逆向きに読み、二度逆にすると元の view に戻る
* `swapAxes_get_swapped` — 二つの軸を入れ替えて読む。`t` はその 2 次元の場合
* `squeeze_unit_axis` — 長さ 1 の軸を抜いても要素は変わらない
* `squeeze_empty_axis_grows` — `debug_assert!` の `<= 1` は長さ 0 の軸も通すので、
  要素のない tensor から要素のある view ができる
* `unsqueeze_inserts_unit_axis` — 長さ 1 の軸を差し込んでも要素は変わらず、`squeeze` で戻る
-/

namespace Synapse

open scoped UInt64.CommRing

/-! ## index の範囲 -/

theorem IsIndex.length_eq {i sh : List Nat} (h : IsIndex i sh) : i.length = sh.length :=
  List.Forall₂.length_eq h

theorem IsIndex.getD_lt {i sh : List Nat} (h : IsIndex i sh) {a : Nat} (ha : a < sh.length) :
    i.getD a 0 < sh.getD a 0 := by
  induction h generalizing a with
  | nil => simp at ha
  | cons hk _ ih =>
    cases a with
    | zero => exact hk
    | succ a => exact ih (Nat.lt_of_succ_lt_succ ha)

/-- 長さが正の軸を抜いた shape の index に `0` を差し込むと、元の shape の index になる。 -/
theorem IsIndex.insertIdx_zero : ∀ {i sh : List Nat} {a : Nat}, a < sh.length →
    0 < sh.getD a 0 → IsIndex i (sh.eraseIdx a) → IsIndex (i.insertIdx a 0) sh
  | i, n :: sh, 0, _, hpos, hi => List.Forall₂.cons hpos hi
  | [], _ :: _, _ + 1, _, _, hi => by simp [IsIndex] at hi
  | k :: i, n :: sh, a + 1, ha, hpos, hi => by
    simp only [IsIndex, List.eraseIdx_cons_succ, List.forall₂_cons] at hi
    exact List.Forall₂.cons hi.1 (IsIndex.insertIdx_zero (Nat.lt_of_succ_lt_succ ha) hpos hi.2)

/-- 長さ 1 の軸を差し込んだ shape の index は、その位置が `0` で、そこを抜くと元の shape の
index になる。 -/
theorem IsIndex.of_insertIdx_one : ∀ {i sh : List Nat} {a : Nat}, a ≤ sh.length →
    IsIndex i (sh.insertIdx a 1) → (i.eraseIdx a).insertIdx a 0 = i ∧ IsIndex (i.eraseIdx a) sh
  | [], _, 0, _, hi => by simp [IsIndex, List.insertIdx_zero] at hi
  | k :: i, _, 0, _, hi => by
    simp only [IsIndex, List.insertIdx_zero, List.forall₂_cons, Nat.lt_one_iff] at hi
    exact ⟨by simp [List.insertIdx_zero, hi.1], hi.2⟩
  | _, [], _ + 1, ha, _ => by simp at ha
  | [], _ :: _, _ + 1, _, hi => by simp [IsIndex, List.insertIdx_succ_cons] at hi
  | k :: i, n :: sh, a + 1, ha, hi => by
    simp only [IsIndex, List.insertIdx_succ_cons, List.forall₂_cons] at hi
    obtain ⟨hrt, hi'⟩ := IsIndex.of_insertIdx_one (Nat.le_of_succ_le_succ ha) hi.2
    exact ⟨by simp [List.insertIdx_succ_cons, hrt], List.Forall₂.cons hi.1 hi'⟩

/-- index と shape の同じ軸の成分を、範囲内の値で差し替えても index である。 -/
theorem IsIndex.set {i sh : List Nat} (h : IsIndex i sh) {a u n : Nat} (hu : u < n) :
    IsIndex (i.set a u) (sh.set a n) := by
  induction h generalizing a with
  | nil => exact List.Forall₂.nil
  | cons hk hrest ih =>
    cases a with
    | zero => exact List.Forall₂.cons hu hrest
    | succ a => exact List.Forall₂.cons hk ih

/-- index と shape を同じ二つの軸で入れ替えても index である。 -/
theorem IsIndex.swap {i sh : List Nat} (h : IsIndex i sh) {a b : Nat} (ha : a < sh.length)
    (hb : b < sh.length) : IsIndex (swapAt i a b) (swapAt sh a b) :=
  (h.set (h.getD_lt hb)).set (h.getD_lt ha)

/-- 入れ替えた shape の index の成分を入れ替え戻すと、元の shape の index になる。 -/
theorem IsIndex.of_swapAt {i sh : List Nat} {a b : Nat} (ha : a < sh.length) (hb : b < sh.length)
    (h : IsIndex i (swapAt sh a b)) : IsIndex (swapAt i a b) sh := by
  have h' := h.swap (by simpa using ha) (by simpa using hb)
  rwa [swapAt_swapAt ha hb] at h'

/-- 軸 `a` を逆向きに読んだ index（成分を `n - 1 - i_a` にしたもの）も index である。 -/
theorem IsIndex.set_reflect {i sh : List Nat} (h : IsIndex i sh) {a : Nat} (ha : a < sh.length) :
    IsIndex (i.set a (sh.getD a 0 - 1 - i.getD a 0)) sh := by
  have hlt := h.getD_lt ha
  have hs : IsIndex (i.set a (sh.getD a 0 - 1 - i.getD a 0)) (sh.set a (sh.getD a 0)) :=
    h.set (by omega)
  rwa [set_getD_self] at hs

@[simp] theorem getD_set_self {l : List β} {a : Nat} (d v : β) (h : a < l.length) :
    (l.set a v).getD a d = v := by
  simp [List.getElem?_set, h]

theorem getD_set_of_getD {l : List β} {a b : Nat} (d : β) :
    (l.set a (l.getD b d)).getD b d = l.getD b d := by
  by_cases h : a = b
  · subst h
    by_cases hl : a < l.length
    · exact getD_set_self _ _ hl
    · rw [List.set_eq_of_length_le (by omega)]
  · simp [List.getElem?_set_ne h]

/-- 軸 `a` を二度逆向きに読むと、元の index に戻る。 -/
theorem IsIndex.set_reflect_reflect {i sh : List Nat} (h : IsIndex i sh) {a : Nat}
    (ha : a < sh.length) :
    (i.set a (sh.getD a 0 - 1 - i.getD a 0)).set a
      (sh.getD a 0 - 1 - (i.set a (sh.getD a 0 - 1 - i.getD a 0)).getD a 0) = i := by
  have hlt := h.getD_lt ha
  rw [getD_set_self _ _ (h.length_eq ▸ ha), List.set_set,
    show sh.getD a 0 - 1 - (sh.getD a 0 - 1 - i.getD a 0) = i.getD a 0 by omega, set_getD_self]

/-- 抜いた成分を同じ位置に差し込み直すと、元の列に戻る。 -/
theorem insertIdx_eraseIdx_getD : ∀ {l : List Nat} {a : Nat}, a < l.length →
    (l.eraseIdx a).insertIdx a (l.getD a 0) = l
  | n :: l, 0, _ => by simp [List.insertIdx_zero]
  | n :: l, a + 1, h => by
    simp only [List.eraseIdx_cons_succ, List.getD_cons_succ, List.insertIdx_succ_cons,
      insertIdx_eraseIdx_getD (Nat.lt_of_succ_lt_succ h)]

/-- 要素の数は、抜いた軸の長さと残りの要素の数の積である。 -/
theorem size_eq_getD_mul_size_eraseIdx :
    ∀ {sh : List Nat} {a : Nat}, a < sh.length →
      Shape.size sh = sh.getD a 0 * Shape.size (sh.eraseIdx a)
  | n :: sh, 0, _ => by simp [Shape.size]
  | n :: sh, a + 1, ha => by
    have ih := @size_eq_getD_mul_size_eraseIdx sh a (Nat.lt_of_succ_lt_succ ha)
    simp only [Shape.size, List.prod_cons, List.getD_cons_succ, List.eraseIdx_cons_succ] at ih ⊢
    rw [ih]
    ring

/-- 長さ 1 の軸を差し込んでも要素の数は変わらない。 -/
theorem size_insertIdx_one {sh : List Nat} {a : Nat} (ha : a ≤ sh.length) :
    Shape.size (sh.insertIdx a 1) = Shape.size sh := by
  have hl : a < (sh.insertIdx a 1).length := by rw [List.length_insertIdx _ _ ha]; omega
  rw [size_eq_getD_mul_size_eraseIdx hl, List.eraseIdx_insertIdx, List.getD_eq_getElem _ _ hl,
    List.getElem_insertIdx_self _ _ _ ha, one_mul]

/-! ## 入れ替えと位置 -/

/-- index と stride を同じ二つの軸で入れ替えても、位置は変わらない。 -/
theorem indexOffset_swapAt {i : List Nat} {s : List UInt64} {a b : Nat} (hia : a < i.length)
    (hib : b < i.length) (hsa : a < s.length) (hsb : b < s.length) :
    indexOffset (swapAt i a b) (swapAt s a b) = indexOffset i s := by
  have h1 := indexOffset_set hia hsa (i.getD b 0) (s.getD b 0)
  have h2 := indexOffset_set (i := i.set a (i.getD b 0)) (s := s.set a (s.getD b 0)) (a := b)
    (by simpa) (by simpa) (i.getD a 0) (s.getD a 0)
  rw [getD_set_of_getD, getD_set_of_getD] at h2
  exact add_right_cancel (h2.trans h1)

namespace Tensor

/-! ## `invert_axis` -/

theorem invertAxis_some (x : Tensor α) {a : Nat} (ha : a < x.ndim) :
    x.invertAxis a = some
      ⟨if x.shape.getD a 0 ≠ 0 then
          x.values.offset (strideOffset (x.shape.getD a 0 - 1) (x.strides.getD a 0))
        else x.values,
        x.shape, x.strides.set a (-x.strides.getD a 0), by simp [x.strides_length]⟩ := by
  have hs : a < x.strides.length := by rw [x.strides_length]; exact ha
  simp only [invertAxis, dif_pos (show a < x.shape.length from ha), List.getD_eq_getElem _ _ hs,
    List.getD_eq_getElem _ _ (show a < x.shape.length from ha)]

/-- 逆向きの view の index `i` は、元の tensor の `n - 1 - i_a` 番目を読む。 -/
theorem invertAxis_get {x y : Tensor α} {a : Nat} (ha : a < x.ndim) (hy : x.invertAxis a = some y)
    {i : List Nat} (hi : IsIndex i x.shape) :
    y.get i = x.get (i.set a (x.shape.getD a 0 - 1 - i.getD a 0)) := by
  rw [invertAxis_some x ha, Option.some.injEq] at hy
  subst hy
  have hs : a < x.strides.length := x.strides_length ▸ ha
  have hia : a < i.length := hi.length_eq ▸ ha
  have hlt := hi.getD_lt ha
  rw [if_pos (by omega)]
  apply get_eq_get (by rfl)
  have h1 := indexOffset_set hia hs (i.getD a 0) (-x.strides.getD a 0)
  have h2 := indexOffset_set hia hs (x.shape.getD a 0 - 1 - i.getD a 0) (x.strides.getD a 0)
  rw [set_getD_self] at h1 h2
  have hu : ((x.shape.getD a 0 - 1 - i.getD a 0 : Nat) : UInt64) + (i.getD a 0 : Nat)
      = ((x.shape.getD a 0 - 1 : Nat) : UInt64) := by
    rw [← Nat.cast_add]; congr 1; omega
  simp only [TensorValues.offset, strideOffset, ofNat_eq_cast] at h1 h2 ⊢
  linear_combination h1 - h2 - x.strides.getD a 0 * hu

/-- 二度逆にすると元の view に戻る：先頭を `(n - 1)·(-s)` だけ戻し、stride の符号を戻す。 -/
theorem invertAxis_invertAxis {x y : Tensor α} {a : Nat} (ha : a < x.ndim)
    (hy : x.invertAxis a = some y) : y.invertAxis a = some x := by
  rw [invertAxis_some x ha, Option.some.injEq] at hy
  subst hy
  have hs : a < x.strides.length := x.strides_length ▸ ha
  rw [invertAxis_some _ (by exact ha)]
  congr 1
  ext1
  · dsimp only
    rw [getD_set_self _ _ hs]
    split_ifs
    · ext1
      · rfl
      · simp only [TensorValues.offset, strideOffset]; ring
    · rfl
  · rfl
  · simp only [getD_set_self _ _ hs, List.set_set, neg_neg, set_getD_self]

/--
**`invert_axis` は軸を逆向きに読み、二度で元に戻る。**

新しい先頭は軸の最後の要素の位置 `start + (n - 1)·s` で、stride は `-s` になる。
index `i` の位置はそこから `i_a` 歩戻るので、元の `n - 1 - i_a` 番目と同じ位置になる。
すでに負の stride や `0` の stride、長さ 0 の軸でも、2^64 を法とした計算はそのまま通る。
-/
theorem invertAxis_get_involutive (x : Tensor α) {a : Nat} (ha : a < x.ndim) :
    ∃ y, x.invertAxis a = some y ∧ y.shape = x.shape ∧
      (∀ i, IsIndex i x.shape →
        y.get i = x.get (i.set a (x.shape.getD a 0 - 1 - i.getD a 0))) ∧
      y.invertAxis a = some x :=
  ⟨_, invertAxis_some x ha, rfl, fun _ hi => invertAxis_get ha (invertAxis_some x ha) hi,
    invertAxis_invertAxis ha (invertAxis_some x ha)⟩

/-- 2 行 3 列の tensor の行を逆にする場合。 -/
theorem invertAxis_get_involutive_on_rows :
    let x : Tensor Nat := ⟨⟨[1, 2, 3, 4, 5, 6], 0⟩, [2, 3], [3, 1], rfl⟩
    0 < x.ndim ∧
      ∃ y, x.invertAxis 0 = some y ∧ y.shape = x.shape ∧
        (∀ i, IsIndex i x.shape →
          y.get i = x.get (i.set 0 (x.shape.getD 0 0 - 1 - i.getD 0 0))) ∧
        y.invertAxis 0 = some x :=
  ⟨by decide, invertAxis_get_involutive _ (by decide)⟩

/-! ## `swap_axes` と `t` -/

theorem swapAxes_some (x : Tensor α) {a b : Nat} (ha : a < x.ndim) (hb : b < x.ndim) :
    x.swapAxes a b = some
      ⟨x.values, swapAt x.shape a b, swapAt x.strides a b, by simp [x.strides_length]⟩ := by
  simp [swapAxes, ha, hb]

/-- 入れ替えた view の index `i` は、元の tensor の `swapAt i a b` を読む。 -/
theorem swapAxes_get {x y : Tensor α} {a b : Nat} (ha : a < x.ndim) (hb : b < x.ndim)
    (hy : x.swapAxes a b = some y) {i : List Nat} (hi : IsIndex i y.shape) :
    y.get i = x.get (swapAt i a b) := by
  rw [swapAxes_some x ha hb, Option.some.injEq] at hy
  subst hy
  have hl : i.length = x.ndim := by simpa using hi.length_eq
  have hsa : a < x.strides.length := x.strides_length ▸ ha
  have hsb : b < x.strides.length := x.strides_length ▸ hb
  apply get_eq_get (by rfl)
  rw [← indexOffset_swapAt (by simpa [hl]) (by simpa [hl]) hsa hsb,
    swapAt_swapAt (hl ▸ ha) (hl ▸ hb)]

/--
**`swap_axes` は二つの軸を入れ替えて読む。`t` はその 2 次元の場合。**

新しい view の index `i` の位置は、元の tensor の `swapAt i a b` の位置と同じである。
`swapAt` は二度で元に戻るので、`indexOffset_swapAt` に帰着する。
-/
theorem swapAxes_get_swapped (x : Tensor α) :
    (∀ a b, a < x.ndim → b < x.ndim →
      ∃ y, x.swapAxes a b = some y ∧ y.shape = swapAt x.shape a b ∧
        ∀ i, IsIndex i y.shape → y.get i = x.get (swapAt i a b)) ∧
    (x.ndim = 2 →
      ∃ y, x.t = some y ∧ y.shape = [x.shape.getD 1 0, x.shape.getD 0 0] ∧
        ∀ i j, IsIndex [i, j] y.shape → y.get [i, j] = x.get [j, i]) := by
  refine ⟨fun a b ha hb => ⟨_, swapAxes_some x ha hb, rfl,
    fun _ => swapAxes_get ha hb (swapAxes_some x ha hb)⟩, fun h2 => ?_⟩
  obtain ⟨p, q, hpq⟩ := List.length_eq_two.mp h2
  refine ⟨_, swapAxes_some x (by omega) (by omega), by simp [hpq, swapAt],
    fun i j => swapAxes_get (by omega) (by omega) (swapAxes_some x (by omega) (by omega))⟩

/-- 2 行 3 列の tensor の転置。 -/
theorem swapAxes_get_swapped_on_matrix :
    let x : Tensor Nat := ⟨⟨[1, 2, 3, 4, 5, 6], 0⟩, [2, 3], [3, 1], rfl⟩
    (0 < x.ndim ∧ 1 < x.ndim ∧
      ∃ y, x.swapAxes 0 1 = some y ∧ y.shape = swapAt x.shape 0 1 ∧
        ∀ i, IsIndex i y.shape → y.get i = x.get (swapAt i 0 1)) ∧
    (x.ndim = 2 ∧
      ∃ y, x.t = some y ∧ y.shape = [x.shape.getD 1 0, x.shape.getD 0 0] ∧
        ∀ i j, IsIndex [i, j] y.shape → y.get [i, j] = x.get [j, i]) :=
  ⟨⟨by decide, by decide, (swapAxes_get_swapped _).1 0 1 (by decide) (by decide)⟩,
    ⟨rfl, (swapAxes_get_swapped _).2 rfl⟩⟩

/-! ## `squeeze` -/

theorem squeeze_some (x : Tensor α) {a : Nat} (ha : a < x.ndim) :
    x.squeeze a = some ⟨x.values, x.shape.eraseIdx a, x.strides.eraseIdx a, by
      simp [List.length_eraseIdx, x.strides_length]⟩ := by
  simp [squeeze, ha]

/-- 長さ 1 の軸を `squeeze` しても、要素の数と各要素は変わらない。 -/
theorem squeeze_unit_axis (x : Tensor α) {a : Nat} (ha : a < x.ndim)
    (h1 : x.shape.getD a 0 = 1) :
    ∃ y, x.squeeze a = some y ∧ Shape.size y.shape = Shape.size x.shape ∧
      ∀ i, IsIndex i y.shape →
        IsIndex (i.insertIdx a 0) x.shape ∧ y.get i = x.get (i.insertIdx a 0) := by
  refine ⟨_, squeeze_some x ha, ?_, fun i hi => ⟨hi.insertIdx_zero ha (by omega), ?_⟩⟩
  · rw [size_eq_getD_mul_size_eraseIdx ha, h1, one_mul]
  · have hl : a ≤ i.length := by
      have h := hi.length_eq
      have hs : a < x.shape.length := ha
      rw [List.length_eraseIdx, if_pos hs] at h
      omega
    exact get_eq_get rfl (by rw [indexOffset_insertIdx_zero hl])

/-- `squeeze` の `debug_assert!` は長さ 0 の軸も通す。shape `[0, 3]` の tensor（要素なし）の
軸 0 を抜くと shape `[3]` の view になり、その index `[0]` は元の index に戻らず、
空の値の列の外を読む。 -/
theorem squeeze_empty_axis_grows :
    let x : Tensor Nat := ⟨⟨[], 0⟩, [0, 3], [3, 1], rfl⟩
    Shape.size x.shape = 0 ∧ x.shape.getD 0 0 ≤ 1 ∧
      ∃ y, x.squeeze 0 = some y ∧ Shape.size y.shape = 3 ∧ IsIndex [0] y.shape ∧
        ¬ IsIndex ([0].insertIdx 0 0) x.shape ∧ y.get [0] = none :=
  ⟨by decide, by decide, _, rfl, by decide, by decide, by decide⟩

/-! ## `unsqueeze` -/

theorem unsqueeze_some (x : Tensor α) {a : Nat} (ha : a ≤ x.ndim) :
    x.unsqueeze a = some ⟨x.values, x.shape.insertIdx a 1, x.strides.insertIdx a 1, by
      rw [List.length_insertIdx _ _ (x.strides_length ▸ ha), List.length_insertIdx _ _ ha,
        x.strides_length]⟩ := by
  simp [unsqueeze, ha]

/-- `unsqueeze` した view の index `i` は、元の tensor の `i.eraseIdx a` を読む。 -/
theorem unsqueeze_get {x y : Tensor α} {a : Nat} (ha : a ≤ x.ndim) (hy : x.unsqueeze a = some y)
    {i : List Nat} (hi : IsIndex i y.shape) : y.get i = x.get (i.eraseIdx a) := by
  rw [unsqueeze_some x ha, Option.some.injEq] at hy
  subst hy
  obtain ⟨hrt, hi'⟩ := hi.of_insertIdx_one ha
  refine get_eq_get rfl ?_
  rw [← hrt, indexOffset_insertIdx_insertIdx (hi'.length_eq ▸ ha) (x.strides_length ▸ ha),
    List.eraseIdx_insertIdx]
  simp [strideOffset]

/-- `unsqueeze` は長さ 1 の軸を差し込む。要素の数も各要素も変わらず、同じ軸を `squeeze` すると
元の shape と strides に戻り、値の列は共有したままである。 -/
theorem unsqueeze_inserts_unit_axis (x : Tensor α) {a : Nat} (ha : a ≤ x.ndim) :
    ∃ y, x.unsqueeze a = some y ∧ y.shape = x.shape.insertIdx a 1 ∧
      Shape.size y.shape = Shape.size x.shape ∧
      (∀ i, IsIndex i y.shape → y.get i = x.get (i.eraseIdx a)) ∧
      ∃ z, y.squeeze a = some z ∧ z.shape = x.shape ∧ z.strides = x.strides ∧
        z.values = x.values := by
  have hs : a ≤ x.strides.length := x.strides_length ▸ ha
  refine ⟨_, unsqueeze_some x ha, rfl, size_insertIdx_one ha, fun i hi => ?_, _,
    squeeze_some _ (by simp only [ndim, List.length_insertIdx _ _ ha]; exact Nat.lt_succ_of_le ha),
    List.eraseIdx_insertIdx _ _, List.eraseIdx_insertIdx _ _, rfl⟩
  obtain ⟨hrt, hi'⟩ := hi.of_insertIdx_one ha
  have hl : a ≤ (i.eraseIdx a).length := hi'.length_eq ▸ ha
  refine get_eq_get rfl ?_
  rw [← hrt, indexOffset_insertIdx_insertIdx hl hs, List.eraseIdx_insertIdx]
  simp [strideOffset]

/-- 2 行 3 列の tensor の真ん中に軸を差し込む。 -/
theorem unsqueeze_inserts_unit_axis_in_matrix :
    let x : Tensor Nat := ⟨⟨[1, 2, 3, 4, 5, 6], 0⟩, [2, 3], [3, 1], rfl⟩
    1 ≤ x.ndim ∧
      ∃ y, x.unsqueeze 1 = some y ∧ y.shape = x.shape.insertIdx 1 1 ∧
        Shape.size y.shape = Shape.size x.shape ∧
        (∀ i, IsIndex i y.shape → y.get i = x.get (i.eraseIdx 1)) ∧
        ∃ z, y.squeeze 1 = some z ∧ z.shape = x.shape ∧ z.strides = x.strides ∧
          z.values = x.values :=
  ⟨by decide, unsqueeze_inserts_unit_axis _ (by decide)⟩

end Tensor

end Synapse
