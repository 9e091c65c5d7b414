import Synapse.Tensor.Properties.Views
import Synapse.Tensor.Properties.Broadcast

/-!
# view の連鎖

`invert_axis`・`swap_axes`・`t`・`squeeze`・`unsqueeze`・`broadcast_to`・`as_shape` は、
どれも値の列を写さずに shape・strides・先頭位置だけを替える。これらを何回どの順に
重ねても、結果は元の tensor の要素を並べ替えて（伸ばして）読むだけであることを示す。

抽象の側は `IndexView`：結果の形と、結果の index から元の tensor の index への対応。
対応が結果の index を元の index に送ることは field に持たせるので、範囲外を読む
view は作れない。各操作の意図（軸を逆に読む、二つの軸を入れ替える、長さ 1 の軸を
抜く・差し込む、broadcast できる形に伸ばす）は `IndexView` の上の関数で書く。

code の側は `ViewOp.apply`：同じ操作を `ops/shape.rs` の関数で適用する。

* `ViewOp.apply_implements` — 一つの操作：抽象の操作が受け付ければ code の関数も成功し、
  結果は抽象の結果を実装する
* `runViews_implements` — 操作の列：抽象の列が受け付ければ code の列も成功し、
  値の列を共有したまま、有効な index ごとに元の tensor の有効な index を読む
* `runViews_reads_each_once` — `broadcast_to` を含まない列は元の要素を一つずつ読む
* `runViews_reads_every_element` — 結果が要素を持つなら、どの列も元の要素をすべて読む

`squeeze` の意図は長さ 1 の軸を抜くことなので、抽象の側は長さ 1 の軸だけを受け付ける。
code は長さ 0 の軸も通す（`squeeze_empty_axis_grows`）が、そこは抽象の外にある。
-/

namespace Synapse

/-- 形 `src` の tensor の上の view の意味：結果の形と、結果の index が読む元の index。 -/
structure IndexView (src : List Nat) where
  shape : List Nat
  source : List Nat → List Nat
  /-- 結果の index は元の index を読む。 -/
  source_valid : ∀ i, IsIndex i shape → IsIndex (source i) src

namespace IndexView

variable {src : List Nat}

/-- 何も変えない view。 -/
def identity (src : List Nat) : IndexView src := ⟨src, fun i => i, fun _ h => h⟩

/-- 軸 `a` を逆向きに読む。 -/
def invertAxis (v : IndexView src) (a : Nat) : Option (IndexView src) :=
  if ha : a < v.shape.length then
    some ⟨v.shape, fun i => v.source (i.set a (v.shape.getD a 0 - 1 - i.getD a 0)),
      fun _ hi => v.source_valid _ (hi.set_reflect ha)⟩
  else none

/-- 軸 `a` と `b` を入れ替える。 -/
def swapAxes (v : IndexView src) (a b : Nat) : Option (IndexView src) :=
  if h : a < v.shape.length ∧ b < v.shape.length then
    some ⟨swapAt v.shape a b, fun i => v.source (swapAt i a b),
      fun _ hi => v.source_valid _ (hi.of_swapAt h.1 h.2)⟩
  else none

/-- 2 次元の view の転置。 -/
def t (v : IndexView src) : Option (IndexView src) :=
  if v.shape.length = 2 then v.swapAxes 0 1 else none

/-- 長さ 1 の軸 `a` を抜く。 -/
def squeeze (v : IndexView src) (a : Nat) : Option (IndexView src) :=
  if h : a < v.shape.length ∧ v.shape.getD a 0 = 1 then
    some ⟨v.shape.eraseIdx a, fun i => v.source (i.insertIdx a 0),
      fun _ hi => v.source_valid _ (hi.insertIdx_zero h.1 (by omega))⟩
  else none

/-- 位置 `a` に長さ 1 の軸を差し込む。 -/
def unsqueeze (v : IndexView src) (a : Nat) : Option (IndexView src) :=
  if h : a ≤ v.shape.length then
    some ⟨v.shape.insertIdx a 1, fun i => v.source (i.eraseIdx a),
      fun _ hi => v.source_valid _ (hi.of_insertIdx_one h).2⟩
  else none

/-- 形 `dst` に broadcast する。 -/
def broadcastTo (v : IndexView src) (dst : List Nat) : Option (IndexView src) :=
  if h : Broadcastable v.shape dst then
    some ⟨dst, fun i => v.source (broadcastSource v.shape dst i),
      fun _ hi => v.source_valid _ (hi.broadcastSource h)⟩
  else none

/-- 形の型を `r` に移す。読み方は変わらない。 -/
def asShape (v : IndexView src) (r : Rank) : Option (IndexView src) :=
  if r.Admits v.shape.length then some v else none

variable {v w : IndexView src}

theorem invertAxis_eq_some {a : Nat} (h : v.invertAxis a = some w) :
    a < v.shape.length ∧ w.shape = v.shape ∧
      ∀ i, w.source i = v.source (i.set a (v.shape.getD a 0 - 1 - i.getD a 0)) := by
  unfold invertAxis at h
  split at h <;> cases h
  exact ⟨‹_›, rfl, fun _ => rfl⟩

theorem swapAxes_eq_some {a b : Nat} (h : v.swapAxes a b = some w) :
    a < v.shape.length ∧ b < v.shape.length ∧ w.shape = swapAt v.shape a b ∧
      ∀ i, w.source i = v.source (swapAt i a b) := by
  unfold swapAxes at h
  split at h <;> cases h
  exact ⟨‹_ ∧ _›.1, ‹_ ∧ _›.2, rfl, fun _ => rfl⟩

theorem squeeze_eq_some {a : Nat} (h : v.squeeze a = some w) :
    a < v.shape.length ∧ v.shape.getD a 0 = 1 ∧ w.shape = v.shape.eraseIdx a ∧
      ∀ i, w.source i = v.source (i.insertIdx a 0) := by
  unfold squeeze at h
  split at h <;> cases h
  exact ⟨‹_ ∧ _›.1, ‹_ ∧ _›.2, rfl, fun _ => rfl⟩

theorem unsqueeze_eq_some {a : Nat} (h : v.unsqueeze a = some w) :
    a ≤ v.shape.length ∧ w.shape = v.shape.insertIdx a 1 ∧
      ∀ i, w.source i = v.source (i.eraseIdx a) := by
  unfold unsqueeze at h
  split at h <;> cases h
  exact ⟨‹_›, rfl, fun _ => rfl⟩

theorem broadcastTo_eq_some {dst : List Nat} (h : v.broadcastTo dst = some w) :
    Broadcastable v.shape dst ∧ w.shape = dst ∧
      ∀ i, w.source i = v.source (broadcastSource v.shape dst i) := by
  unfold broadcastTo at h
  split at h <;> cases h
  exact ⟨‹_›, rfl, fun _ => rfl⟩

theorem asShape_eq_some {r : Rank} (h : v.asShape r = some w) :
    r.Admits v.shape.length ∧ w = v := by
  unfold asShape at h
  split at h <;> cases h
  exact ⟨‹_›, rfl⟩

end IndexView

/-- `ops/shape.rs` の、値の列を写さない操作。 -/
inductive ViewOp where
  | invertAxis (axis : Nat)
  | swapAxes (ax1 ax2 : Nat)
  | t
  | squeeze (axis : Nat)
  | unsqueeze (axis : Nat)
  | broadcastTo (shape : List Nat)
  | asShape (rank : Rank)
  deriving DecidableEq, Repr

namespace ViewOp

/-- 操作を code の関数で適用する。panic と `Err` はどちらも `none`。 -/
def apply : ViewOp → Tensor α → Option (Tensor α)
  | .invertAxis a, x => x.invertAxis a
  | .swapAxes a b, x => x.swapAxes a b
  | .t, x => x.t
  | .squeeze a, x => x.squeeze a
  | .unsqueeze a, x => x.unsqueeze a
  | .broadcastTo sh, x => (x.broadcastTo sh).toOption
  | .asShape r, x => (x.asShape r).toOption

/-- 操作の意図。 -/
def spec {src : List Nat} : ViewOp → IndexView src → Option (IndexView src)
  | .invertAxis a, v => v.invertAxis a
  | .swapAxes a b, v => v.swapAxes a b
  | .t, v => v.t
  | .squeeze a, v => v.squeeze a
  | .unsqueeze a, v => v.unsqueeze a
  | .broadcastTo sh, v => v.broadcastTo sh
  | .asShape r, v => v.asShape r

end ViewOp

/-- 操作の列を code の関数で順に適用する。 -/
def runViews : List ViewOp → Tensor α → Option (Tensor α)
  | [], x => some x
  | op :: ops, x => op.apply x >>= runViews ops

/-- 操作の列の意図。 -/
def specViews {src : List Nat} : List ViewOp → IndexView src → Option (IndexView src)
  | [], v => some v
  | op :: ops, v => op.spec v >>= specViews ops

/-- `y` は `x` の上の view `v` を実装する：値の列を共有し、形は `v` の形で、有効な
index では `x` の `v.source i` を読む。 -/
structure Implements (x y : Tensor α) (v : IndexView x.shape) : Prop where
  buffer : y.values.buffer = x.values.buffer
  shape : y.shape = v.shape
  get : ∀ i, IsIndex i y.shape → y.get i = x.get (v.source i)

namespace Implements

variable {x y y' : Tensor α} {v v' : IndexView x.shape}

theorem identity (x : Tensor α) : Implements x x (IndexView.identity x.shape) :=
  ⟨rfl, rfl, fun _ _ => rfl⟩

/-- 一歩：code の結果 `y'` の index `i` が `y` の `g i` を読み、抽象の結果が `v` の
`g i` を読むなら、`y'` は新しい view を実装する。 -/
theorem step (h : Implements x y v) {g : List Nat → List Nat}
    (hbuf : y'.values.buffer = y.values.buffer)
    (hg : ∀ i, IsIndex i y'.shape → IsIndex (g i) y.shape ∧ y'.get i = y.get (g i))
    (hs : y'.shape = v'.shape) (hsrc : ∀ i, v'.source i = v.source (g i)) :
    Implements x y' v' :=
  ⟨hbuf.trans h.buffer, hs, fun i hi => by
    obtain ⟨hv, hget⟩ := hg i hi
    rw [hget, h.get _ hv, hsrc]⟩

theorem swapAxes (h : Implements x y v) {a b : Nat} (hv : v.swapAxes a b = some v') :
    ∃ y', y.swapAxes a b = some y' ∧ Implements x y' v' := by
  obtain ⟨ha, hb, hs, hsrc⟩ := IndexView.swapAxes_eq_some hv
  rw [← h.shape] at ha hb hs
  refine ⟨_, Tensor.swapAxes_some y ha hb,
    h.step rfl (fun i hi => ⟨hi.of_swapAt ha hb, ?_⟩) hs.symm hsrc⟩
  exact Tensor.swapAxes_get ha hb (Tensor.swapAxes_some y ha hb) hi

end Implements

/-- 一つの操作：抽象の操作が受け付ければ、code の関数も成功して抽象の結果を実装する。 -/
theorem ViewOp.apply_implements {x y : Tensor α} {v v' : IndexView x.shape}
    (h : Implements x y v) (op : ViewOp) (hv : op.spec v = some v') :
    ∃ y', op.apply y = some y' ∧ Implements x y' v' := by
  cases op with
  | invertAxis a =>
    obtain ⟨ha, hs, hsrc⟩ := IndexView.invertAxis_eq_some hv
    rw [← h.shape] at ha hs hsrc
    have hy := Tensor.invertAxis_some y ha
    refine ⟨_, hy, h.step ?_ (fun i hi => ⟨hi.set_reflect ha, Tensor.invertAxis_get ha hy hi⟩)
      hs.symm hsrc⟩
    split_ifs <;> rfl
  | swapAxes a b => exact h.swapAxes hv
  | t =>
    simp only [ViewOp.spec, IndexView.t] at hv
    split_ifs at hv
    exact h.swapAxes hv
  | squeeze a =>
    obtain ⟨ha, h1, hs, hsrc⟩ := IndexView.squeeze_eq_some hv
    rw [← h.shape] at ha h1 hs
    obtain ⟨y', hy', -, hget⟩ := Tensor.squeeze_unit_axis y ha h1
    rw [Tensor.squeeze_some y ha, Option.some.injEq] at hy'
    subst hy'
    exact ⟨_, Tensor.squeeze_some y ha, h.step rfl hget hs.symm hsrc⟩
  | unsqueeze a =>
    obtain ⟨ha, hs, hsrc⟩ := IndexView.unsqueeze_eq_some hv
    rw [← h.shape] at ha hs
    have hy := Tensor.unsqueeze_some y ha
    exact ⟨_, hy, h.step rfl
      (fun i hi => ⟨(hi.of_insertIdx_one ha).2, Tensor.unsqueeze_get ha hy hi⟩) hs.symm hsrc⟩
  | broadcastTo dst =>
    obtain ⟨hb, hs, hsrc⟩ := IndexView.broadcastTo_eq_some hv
    rw [← h.shape] at hb hsrc
    obtain ⟨y', hy', -⟩ := Tensor.broadcastTo_get hb
    obtain ⟨-, hval, hsh, hget⟩ := Tensor.broadcastTo_reads hy'
    exact ⟨y', by simp [ViewOp.apply, hy', Except.toOption],
      h.step (by rw [hval]) (fun i hi => hget i (hsh ▸ hi)) (hsh.trans hs.symm) hsrc⟩
  | asShape r =>
    obtain ⟨hr, rfl⟩ := IndexView.asShape_eq_some hv
    rw [← h.shape] at hr
    exact ⟨y, by simp [ViewOp.apply, Tensor.asShape_of_admits y hr, Except.toOption], h⟩

/-- 操作の列：抽象の列が受け付ければ、code の列も成功して抽象の結果を実装する。 -/
theorem runViews_of_implements {x : Tensor α} :
    ∀ (ops : List ViewOp) {y : Tensor α} {v w : IndexView x.shape}, Implements x y v →
      specViews ops v = some w → ∃ z, runViews ops y = some z ∧ Implements x z w
  | [], _, _, _, h, hw => by cases hw; exact ⟨_, rfl, h⟩
  | op :: ops, _, _, _, h, hw => by
    obtain ⟨v', hv', hw'⟩ := Option.bind_eq_some.mp hw
    obtain ⟨y', hy', h'⟩ := op.apply_implements h hv'
    obtain ⟨z, hz, hzw⟩ := runViews_of_implements ops h' hw'
    exact ⟨z, by rw [runViews, hy']; exact hz, hzw⟩

/--
**view をどう重ねても、元の tensor の要素を読むだけである。**

操作の列を抽象の側で適用して `w` になるなら、code の関数で適用しても成功し、結果は
元の tensor と同じ値の列を持ち、形は `w` の形で、その有効な index `i` は元の tensor の
有効な index `w.source i` の要素を読む。
-/
theorem runViews_implements (x : Tensor α) (ops : List ViewOp) {w : IndexView x.shape}
    (hw : specViews ops (IndexView.identity x.shape) = some w) :
    ∃ y, runViews ops x = some y ∧ y.values.buffer = x.values.buffer ∧ y.shape = w.shape ∧
      ∀ i, IsIndex i y.shape → IsIndex (w.source i) x.shape ∧ y.get i = x.get (w.source i) := by
  obtain ⟨y, hy, h⟩ := runViews_of_implements ops (Implements.identity x) hw
  exact ⟨y, hy, h.buffer, h.shape, fun i hi =>
    ⟨w.source_valid i (h.shape ▸ hi), h.get i hi⟩⟩

/-- 2 行 3 列の tensor を転置し、先頭に軸を差し込み、2 枚に伸ばし、最後の軸を逆に読む。 -/
theorem runViews_implements_on_matrix :
    let x : Tensor Nat := ⟨⟨[1, 2, 3, 4, 5, 6], 0⟩, [2, 3], [3, 1], rfl⟩
    let ops := [ViewOp.t, .unsqueeze 0, .broadcastTo [2, 3, 2], .invertAxis 2]
    ∃ w, specViews ops (IndexView.identity x.shape) = some w ∧
      ∃ y, runViews ops x = some y ∧ y.values.buffer = x.values.buffer ∧ y.shape = w.shape ∧
        ∀ i, IsIndex i y.shape → IsIndex (w.source i) x.shape ∧ y.get i = x.get (w.source i) :=
  ⟨_, rfl, runViews_implements _ _ rfl⟩

/-! ## broadcast しない連鎖は要素を並べ替えるだけ -/

/-- `broadcast_to` かどうか。 -/
def ViewOp.broadcasts : ViewOp → Bool
  | .broadcastTo _ => true
  | _ => false

/-- `w` は `v` の index を一対一に付け替えて読む：`w` の index `i` は `v` の index `g i` を読み、
`g` は有効な index の間で逆 `ginv` を持つ。 -/
structure IndexView.Relabel {src : List Nat} (v w : IndexView src) (g ginv : List Nat → List Nat) :
    Prop where
  source : ∀ i, w.source i = v.source (g i)
  valid : ∀ i, IsIndex i w.shape → IsIndex (g i) v.shape
  inv : ∀ k, IsIndex k v.shape → IsIndex (ginv k) w.shape ∧ g (ginv k) = k
  left : ∀ i, IsIndex i w.shape → ginv (g i) = i

theorem IndexView.Relabel.swapAxes {src : List Nat} {v w : IndexView src} {a b : Nat}
    (h : v.swapAxes a b = some w) : v.Relabel w (swapAt · a b) (swapAt · a b) := by
  obtain ⟨ha, hb, hs, hsrc⟩ := IndexView.swapAxes_eq_some h
  have hl : ∀ {i}, IsIndex i w.shape → a < i.length ∧ b < i.length := fun hi => by
    rw [hi.length_eq, hs, length_swapAt]; exact ⟨ha, hb⟩
  exact ⟨hsrc, fun i hi => (hs ▸ hi).of_swapAt ha hb,
    fun k hk => ⟨hs ▸ hk.swap ha hb, swapAt_swapAt (hk.length_eq ▸ ha) (hk.length_eq ▸ hb)⟩,
    fun i hi => swapAt_swapAt (hl hi).1 (hl hi).2⟩

/-- 一つの操作：`broadcast_to` でなければ、抽象の結果は前の view の index を一対一に付け替える。 -/
theorem ViewOp.spec_relabel {src : List Nat} {v w : IndexView src} (op : ViewOp)
    (hop : op.broadcasts = false) (h : op.spec v = some w) : ∃ g ginv, v.Relabel w g ginv := by
  cases op with
  | invertAxis a =>
    obtain ⟨ha, hs, hsrc⟩ := IndexView.invertAxis_eq_some h
    let g := fun k : List Nat => k.set a (v.shape.getD a 0 - 1 - k.getD a 0)
    exact ⟨g, g, hsrc, fun i hi => (hs ▸ hi).set_reflect ha,
      fun k hk => ⟨hs ▸ hk.set_reflect ha, hk.set_reflect_reflect ha⟩,
      fun i hi => (hs ▸ hi).set_reflect_reflect ha⟩
  | swapAxes a b => exact ⟨_, _, IndexView.Relabel.swapAxes h⟩
  | t =>
    simp only [ViewOp.spec, IndexView.t] at h
    split_ifs at h
    exact ⟨_, _, IndexView.Relabel.swapAxes h⟩
  | squeeze a =>
    obtain ⟨ha, h1, hs, hsrc⟩ := IndexView.squeeze_eq_some h
    have hsh : (v.shape.eraseIdx a).insertIdx a 1 = v.shape := h1 ▸ insertIdx_eraseIdx_getD ha
    have hle : a ≤ (v.shape.eraseIdx a).length := by
      rw [List.length_eraseIdx, if_pos ha]; omega
    refine ⟨_, (·.eraseIdx a), hsrc, fun i hi => (hs ▸ hi).insertIdx_zero ha (by omega),
      fun k hk => ?_, fun i _ => List.eraseIdx_insertIdx _ _⟩
    rw [← hsh] at hk
    obtain ⟨hrt, hk'⟩ := hk.of_insertIdx_one hle
    exact ⟨hs ▸ hk', hrt⟩
  | unsqueeze a =>
    obtain ⟨ha, hs, hsrc⟩ := IndexView.unsqueeze_eq_some h
    have hl : a < (v.shape.insertIdx a 1).length := by rw [List.length_insertIdx _ _ ha]; omega
    refine ⟨_, (·.insertIdx a 0), hsrc, fun i hi => ((hs ▸ hi).of_insertIdx_one ha).2,
      fun k hk => ⟨hs ▸ IsIndex.insertIdx_zero hl ?_ ?_, List.eraseIdx_insertIdx _ _⟩,
      fun i hi => ((hs ▸ hi).of_insertIdx_one ha).1⟩
    · rw [List.getD_eq_getElem _ _ hl, List.getElem_insertIdx_self _ _ _ ha]; omega
    · rwa [List.eraseIdx_insertIdx]
  | broadcastTo dst => cases hop
  | asShape r =>
    obtain ⟨-, rfl⟩ := IndexView.asShape_eq_some h
    exact ⟨id, id, fun _ => rfl, fun _ hi => hi, fun _ hk => ⟨hk, rfl⟩, fun _ _ => rfl⟩

/-- 元の tensor の有効な index は、それを読む結果の有効な index をただ一つ持つ。 -/
def IndexView.Bijective {src : List Nat} (v : IndexView src) : Prop :=
  ∀ j, IsIndex j src → ∃! i, IsIndex i v.shape ∧ v.source i = j

namespace IndexView.Bijective

variable {src : List Nat} {v w : IndexView src}

theorem identity (src : List Nat) : (IndexView.identity src).Bijective :=
  fun j hj => ⟨j, ⟨hj, rfl⟩, fun _ h => h.2⟩

/-- 一対一の付け替えは一対一を保つ。 -/
theorem relabel (hv : v.Bijective) {g ginv : List Nat → List Nat} (h : v.Relabel w g ginv) :
    w.Bijective := by
  intro j hj
  obtain ⟨k, ⟨hk, hkj⟩, huniq⟩ := hv j hj
  refine ⟨ginv k, ⟨(h.inv k hk).1, by rw [h.source, (h.inv k hk).2, hkj]⟩, ?_⟩
  rintro i ⟨hi, hij⟩
  rw [← huniq (g i) ⟨h.valid i hi, by rw [← h.source, hij]⟩, h.left i hi]

end IndexView.Bijective

theorem specViews_bijective {src : List Nat} :
    ∀ (ops : List ViewOp) {v w : IndexView src}, (∀ op ∈ ops, op.broadcasts = false) →
      v.Bijective → specViews ops v = some w → w.Bijective
  | [], _, _, _, hv, hw => by cases hw; exact hv
  | op :: ops, _, _, hops, hv, hw => by
    obtain ⟨v', hv', hw'⟩ := Option.bind_eq_some.mp hw
    obtain ⟨g, ginv, hr⟩ := op.spec_relabel (hops op (List.mem_cons_self _ _)) hv'
    exact specViews_bijective ops (fun o ho => hops o (List.mem_cons_of_mem _ ho))
      (hv.relabel hr) hw'

/--
**`broadcast_to` を含まない view の連鎖は、元の要素を一つずつ読む。**

`invert_axis`・`swap_axes`・`t`・長さ 1 の軸の `squeeze`・`unsqueeze`・`as_shape` をどう
重ねても、code の結果は元の tensor と値の列を共有し、元の tensor の有効な index `j`
それぞれについて、`j` の要素を読む結果の有効な index がただ一つある。要素を落とすことも
二度読むこともない。
-/
theorem runViews_reads_each_once (x : Tensor α) (ops : List ViewOp)
    (hops : ∀ op ∈ ops, op.broadcasts = false) {w : IndexView x.shape}
    (hw : specViews ops (IndexView.identity x.shape) = some w) :
    ∃ y, runViews ops x = some y ∧ y.values.buffer = x.values.buffer ∧
      (∀ i, IsIndex i y.shape → y.get i = x.get (w.source i)) ∧
      ∀ j, IsIndex j x.shape → ∃! i, IsIndex i y.shape ∧ w.source i = j := by
  obtain ⟨y, hy, h⟩ := runViews_of_implements ops (Implements.identity x) hw
  refine ⟨y, hy, h.buffer, h.get, fun j hj => ?_⟩
  rw [h.shape]
  exact specViews_bijective ops hops (IndexView.Bijective.identity _) hw j hj

/-- 2 行 3 列の tensor を転置し、先頭に軸を差し込み、その軸を抜いて、行を逆に読む。 -/
theorem runViews_reads_each_once_on_matrix :
    let x : Tensor Nat := ⟨⟨[1, 2, 3, 4, 5, 6], 0⟩, [2, 3], [3, 1], rfl⟩
    let ops := [ViewOp.t, .unsqueeze 0, .squeeze 0, .invertAxis 0]
    (∀ op ∈ ops, op.broadcasts = false) ∧
      ∃ w, specViews ops (IndexView.identity x.shape) = some w ∧
        ∃ y, runViews ops x = some y ∧ y.values.buffer = x.values.buffer ∧
          (∀ i, IsIndex i y.shape → y.get i = x.get (w.source i)) ∧
          ∀ j, IsIndex j x.shape → ∃! i, IsIndex i y.shape ∧ w.source i = j :=
  ⟨by decide, _, rfl, runViews_reads_each_once _ _ (by decide) rfl⟩

/-! ## 空でない view は元の要素をすべて読む -/

/-- 元の tensor の有効な index は、どれもそれを読む結果の有効な index を持つ。 -/
def IndexView.Surjective {src : List Nat} (v : IndexView src) : Prop :=
  ∀ j, IsIndex j src → ∃ i, IsIndex i v.shape ∧ v.source i = j

theorem IndexView.Surjective.identity (src : List Nat) : (IndexView.identity src).Surjective :=
  fun j hj => ⟨j, hj, rfl⟩

/-- 一つの操作：結果の形が要素を持つなら、前の形も要素を持ち、前の view が元の要素を
すべて読むなら結果もそうである。`broadcast_to` では、結果の軸の長さがどれも正なので、
元の index の成分をそのまま（伸ばした軸と新しい軸には `0` を）置いた index が読む。 -/
theorem ViewOp.spec_surjective {src : List Nat} {v w : IndexView src} (op : ViewOp)
    (h : op.spec v = some w) (hne : ∃ i, IsIndex i w.shape) :
    (∃ k, IsIndex k v.shape) ∧ (v.Surjective → w.Surjective) := by
  obtain ⟨i, hi⟩ := hne
  by_cases hop : op.broadcasts = false
  · obtain ⟨g, ginv, hr⟩ := op.spec_relabel hop h
    refine ⟨⟨g i, hr.valid i hi⟩, fun hv j hj => ?_⟩
    obtain ⟨k, hk, hkj⟩ := hv j hj
    exact ⟨ginv k, (hr.inv k hk).1, by rw [hr.source, (hr.inv k hk).2, hkj]⟩
  · cases op with
    | broadcastTo dst =>
      obtain ⟨hb, hs, hsrc⟩ := IndexView.broadcastTo_eq_some h
      rw [hs] at hi
      refine ⟨⟨_, hi.broadcastSource hb⟩, fun hv j hj => ?_⟩
      obtain ⟨k, hk, hkj⟩ := hv j hj
      obtain ⟨i', hi', hik⟩ := hk.exists_broadcastSource_eq hb hi.pos
      exact ⟨i', hs ▸ hi', by rw [hsrc, hik, hkj]⟩
    | _ => exact absurd rfl hop

theorem specViews_surjective {src : List Nat} :
    ∀ (ops : List ViewOp) {v w : IndexView src}, specViews ops v = some w →
      (∃ i, IsIndex i w.shape) → (∃ k, IsIndex k v.shape) ∧ (v.Surjective → w.Surjective)
  | [], _, _, hw, hne => by cases hw; exact ⟨hne, id⟩
  | op :: ops, _, _, hw, hne => by
    obtain ⟨v', hv', hw'⟩ := Option.bind_eq_some.mp hw
    obtain ⟨hne', hsurj'⟩ := specViews_surjective ops hw' hne
    obtain ⟨hne'', hsurj⟩ := op.spec_surjective hv' hne'
    exact ⟨hne'', hsurj' ∘ hsurj⟩

/-- 要素の数が正の形は、成分がすべて `0` の index を持つ。 -/
theorem isIndex_replicate_of_size_pos : ∀ {sh : List Nat}, 0 < Shape.size sh →
    IsIndex (List.replicate sh.length 0) sh
  | [], _ => List.Forall₂.nil
  | n :: sh, h => by
    obtain ⟨hn, hsh⟩ := CanonicallyOrderedCommSemiring.mul_pos.mp h
    exact List.Forall₂.cons hn (isIndex_replicate_of_size_pos hsh)

/--
**要素を持つ view は、どう重ねても元の要素をすべて読む。**

`broadcast_to` を含めて操作をどう重ねても、結果の形が要素を一つでも持つなら、code の結果は
元の tensor と値の列を共有し、元の tensor の有効な index `j` それぞれについて、`j` の要素を
読む結果の有効な index がある。`broadcast_to` は要素を繰り返して読むことはあっても、
長さ 0 の軸へ伸ばさない限り要素を落とさず、途中の形はどれも要素を持つ。
-/
theorem runViews_reads_every_element (x : Tensor α) (ops : List ViewOp) {w : IndexView x.shape}
    (hw : specViews ops (IndexView.identity x.shape) = some w) (hne : 0 < Shape.size w.shape) :
    ∃ y, runViews ops x = some y ∧ y.values.buffer = x.values.buffer ∧
      (∀ i, IsIndex i y.shape → y.get i = x.get (w.source i)) ∧
      ∀ j, IsIndex j x.shape → ∃ i, IsIndex i y.shape ∧ w.source i = j := by
  obtain ⟨y, hy, h⟩ := runViews_of_implements ops (Implements.identity x) hw
  refine ⟨y, hy, h.buffer, h.get, fun j hj => ?_⟩
  rw [h.shape]
  exact (specViews_surjective ops hw ⟨_, isIndex_replicate_of_size_pos hne⟩).2
    (IndexView.Surjective.identity _) j hj

/-- 長さ 3 の列を 2 行に伸ばし、転置して、行を逆に読む。 -/
theorem runViews_reads_every_element_on_row :
    let x : Tensor Nat := ⟨⟨[1, 2, 3], 0⟩, [3], [1], rfl⟩
    let ops := [ViewOp.broadcastTo [2, 3], .t, .invertAxis 0]
    ∃ w, specViews ops (IndexView.identity x.shape) = some w ∧ 0 < Shape.size w.shape ∧
      ∃ y, runViews ops x = some y ∧ y.values.buffer = x.values.buffer ∧
        (∀ i, IsIndex i y.shape → y.get i = x.get (w.source i)) ∧
        ∀ j, IsIndex j x.shape → ∃ i, IsIndex i y.shape ∧ w.source i = j :=
  ⟨_, rfl, by decide, runViews_reads_every_element _ _ rfl (by decide)⟩

end Synapse
