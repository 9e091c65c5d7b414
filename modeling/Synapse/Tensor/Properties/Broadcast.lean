import Synapse.Tensor.Shape

/-!
# `broadcast_to` と `broadcast_with`

`broadcast_to` のループは `from`・strides・`to` を末尾から組にして進む。ここでは
その逆順の列の上で三つのこと（成功の条件、先頭側の stride が `0` になること、
位置の計算）を示し、最後に列を表向きに戻して、結果の index `i` が元の tensor の
`broadcastSource` の位置を読むことを言う。

* `broadcastTo_spec` — 成功の条件、結果の形と stride、各要素
* `broadcastWith_eq_broadcastTo` — 形が変わらないときの `as_shape` の近道は
  `broadcast_to` と同じ tensor を返すので、`broadcast_with` は二つの `broadcast_to` の組である
* `broadcastWith_aligns` — `broadcast_with` の成功の条件と、二つの結果が同じ index で
  それぞれの元の要素を読むこと

## 表向きに戻す

逆順の列の上の index の対応は `sourceIndex`（長さの揃った列を先頭から組にしたもの）で
書ける。`sourceIndex_append` で `to` の先頭側の余りを落とし、`sourceIndex_reverse` で
向きを戻すと、`d = to.ndim - from.ndim` だけ後ろへずらした対応になる。
-/

namespace Synapse

open scoped UInt64.CommRing

/-- 長さの揃った `from`・`to`・`i` を先頭から組にし、`from` と `to` の長さが違う軸
（伸ばした長さ 1 の軸）では `0` を、同じ軸では `i` の成分を取る。 -/
def sourceIndex (src dst i : List Nat) : List Nat :=
  List.zipWith (fun f p => if f = p.1 then p.2 else 0) src (List.zip dst i)

/-- 結果の index `i` が読む元の index `j`。`d = to.ndim - from.ndim` として、
`j_k` は `from_k ≠ to_{k+d}` なら `0`、そうでなければ `i_{k+d}`。 -/
def broadcastSource (src dst i : List Nat) : List Nat :=
  sourceIndex src (dst.drop (dst.length - src.length)) (i.drop (dst.length - src.length))

/-- `from` を `to` に broadcast できること。軸が少なくなく、末尾から `k` 番目の軸ごとに
`from` の長さが `to` の長さと等しいか `1` である。 -/
def Broadcastable (src dst : List Nat) : Prop :=
  src.length ≤ dst.length ∧
    ∀ k < src.length, src.reverse.getD k 0 = dst.reverse.getD k 0 ∨ src.reverse.getD k 0 = 1

instance (src dst : List Nat) : Decidable (Broadcastable src dst) :=
  inferInstanceAs (Decidable (_ ∧ _))

theorem sourceIndex_append {src dst i a b : List Nat} (h1 : src.length ≤ dst.length)
    (h2 : src.length ≤ i.length) : sourceIndex src (dst ++ a) (i ++ b) = sourceIndex src dst i := by
  induction src generalizing dst i with
  | nil => simp [sourceIndex]
  | cons f src ih =>
    cases dst with
    | nil => simp at h1
    | cons t dst =>
      cases i with
      | nil => simp at h2
      | cons k i =>
        have := @ih dst i (by simpa using h1) (by simpa using h2)
        simp only [sourceIndex, List.cons_append, List.zip_cons_cons, List.zipWith_cons_cons] at this ⊢
        rw [this]

theorem sourceIndex_reverse {src dst i : List Nat} (h1 : src.length = dst.length)
    (h2 : dst.length = i.length) :
    sourceIndex src.reverse dst.reverse i.reverse = (sourceIndex src dst i).reverse := by
  unfold sourceIndex
  rw [List.reverse_zipWith (by simp [h1, h2]), List.zip_eq_zipWith, List.zip_eq_zipWith,
    List.reverse_zipWith h2]

@[simp] theorem length_sourceIndex {src dst i : List Nat} :
    (sourceIndex src dst i).length = min src.length (min dst.length i.length) := by
  simp only [sourceIndex, List.length_zipWith, List.length_zip]

/-! ## 逆順の列の上のループ -/

/-- 末尾から数えて最初の軸の条件と、残りの軸の条件。 -/
theorem forall_broadcastable_cons {f t : Nat} {src dst : List Nat} :
    (∀ k < (f :: src).length, (f :: src).getD k 0 = (t :: dst).getD k 0 ∨ (f :: src).getD k 0 = 1) ↔
      (f = t ∨ f = 1) ∧ ∀ k < src.length, src.getD k 0 = dst.getD k 0 ∨ src.getD k 0 = 1 := by
  constructor
  · intro h
    exact ⟨h 0 (by simp), fun k hk => h (k + 1) (by simpa using hk)⟩
  · rintro ⟨h0, h⟩ (_ | k) hk
    · exact h0
    · exact h k (by simpa using hk)

/-- ループの最後の場合：どれかの列が尽きると、残りの `to` の軸の stride はすべて `0`。 -/
theorem broadcastStrides_exhausted {fr : List Nat} {sr : List UInt64} {tr : List Nat}
    (hcons : ∀ er src es strides dr dst, fr = er :: src → sr = es :: strides → tr = dr :: dst → False) :
    broadcastStrides fr sr tr = some (tr.map fun _ => 0) ∧ (fr = [] ∨ sr = [] ∨ tr = []) := by
  refine ⟨by rw [broadcastStrides]; exact hcons, ?_⟩
  rcases fr with _ | ⟨er, src⟩
  · exact .inl rfl
  rcases sr with _ | ⟨es, strides⟩
  · exact .inr (.inl rfl)
  rcases tr with _ | ⟨dr, dst⟩
  · exact .inr (.inr rfl)
  exact (hcons _ _ _ _ _ _ rfl rfl rfl).elim

theorem broadcastStrides_isSome {fr : List Nat} {sr : List UInt64} {tr : List Nat}
    (hs : fr.length = sr.length) (ht : fr.length ≤ tr.length) :
    (broadcastStrides fr sr tr).isSome ↔
      ∀ k < fr.length, fr.getD k 0 = tr.getD k 0 ∨ fr.getD k 0 = 1 := by
  induction fr, sr, tr using broadcastStrides.induct with
  | case1 src es strides dr dst ih =>
    simp only [broadcastStrides, if_true, Option.map_eq_map, Option.isSome_map']
    rw [ih (Nat.succ.inj hs) (Nat.le_of_succ_le_succ ht), forall_broadcastable_cons]
    simp only [true_or, true_and]
  | case2 src es strides dr dst hne ih =>
    simp only [broadcastStrides, hne, if_false, if_true, Option.map_eq_map, Option.isSome_map']
    rw [ih (Nat.succ.inj hs) (Nat.le_of_succ_le_succ ht), forall_broadcastable_cons]
    simp only [or_true, true_and]
  | case3 er src es strides dr dst hne h1 =>
    simp only [broadcastStrides, hne, h1, if_false, Option.isSome_none, Bool.false_eq_true,
      false_iff, not_forall]
    exact ⟨0, Nat.succ_pos _, by simp [Ne.symm hne, h1]⟩
  | case4 src strides dst hcons =>
    have h0 : src.length = 0 := by
      rcases (broadcastStrides_exhausted hcons).2 with rfl | rfl | rfl <;> simp_all
    simp [(broadcastStrides_exhausted hcons).1, h0]

theorem drop_broadcastStrides {fr : List Nat} {sr : List UInt64} {tr : List Nat}
    {out : List UInt64} (h : broadcastStrides fr sr tr = some out)
    (hs : fr.length = sr.length) (ht : fr.length ≤ tr.length) :
    out.drop fr.length = List.replicate (tr.length - fr.length) 0 := by
  induction fr, sr, tr using broadcastStrides.induct generalizing out with
  | case1 src es strides dr dst ih =>
    simp only [broadcastStrides, if_true, Option.map_eq_map, Option.map_eq_some'] at h
    obtain ⟨o, ho, rfl⟩ := h
    simpa only [List.length_cons, List.drop_succ_cons, Nat.add_sub_add_right] using
      ih ho (Nat.succ.inj hs) (Nat.le_of_succ_le_succ ht)
  | case2 src es strides dr dst hne ih =>
    simp only [broadcastStrides, hne, if_false, if_true, Option.map_eq_map,
      Option.map_eq_some'] at h
    obtain ⟨o, ho, rfl⟩ := h
    simpa only [List.length_cons, List.drop_succ_cons, Nat.add_sub_add_right] using
      ih ho (Nat.succ.inj hs) (Nat.le_of_succ_le_succ ht)
  | case3 er src es strides dr dst hne h1 => simp [broadcastStrides, hne, h1] at h
  | case4 src strides dst hcons =>
    rw [(broadcastStrides_exhausted hcons).1, Option.some.injEq] at h
    subst h
    rcases (broadcastStrides_exhausted hcons).2 with rfl | rfl | rfl <;> simp_all [List.map_const']

theorem indexOffset_broadcastStrides {fr : List Nat} {sr : List UInt64} {tr : List Nat}
    {out : List UInt64} (h : broadcastStrides fr sr tr = some out) (ir : List Nat) :
    indexOffset ir out = indexOffset (sourceIndex fr tr ir) sr := by
  induction fr, sr, tr using broadcastStrides.induct generalizing out ir with
  | case1 src es strides dr dst ih =>
    simp only [broadcastStrides, if_true, Option.map_eq_map, Option.map_eq_some'] at h
    obtain ⟨o, ho, rfl⟩ := h
    cases ir with
    | nil => simp [sourceIndex]
    | cons k ir =>
      have := ih ho ir
      simp only [sourceIndex] at this ⊢
      simp [this]
  | case2 src es strides dr dst hne ih =>
    simp only [broadcastStrides, hne, if_false, if_true, Option.map_eq_map,
      Option.map_eq_some'] at h
    obtain ⟨o, ho, rfl⟩ := h
    cases ir with
    | nil => simp [sourceIndex]
    | cons k ir =>
      have := ih ho ir
      simp only [sourceIndex] at this ⊢
      simp [this, show ¬1 = dr from fun h => hne h.symm, strideOffset]
  | case3 er src es strides dr dst hne h1 => simp [broadcastStrides, hne, h1] at h
  | case4 src strides dst hcons =>
    rw [(broadcastStrides_exhausted hcons).1, Option.some.injEq] at h
    subst h
    rw [List.map_const', indexOffset_replicate_zero]
    rcases (broadcastStrides_exhausted hcons).2 with rfl | rfl | rfl <;> simp [sourceIndex]

theorem broadcastStrides_self {fr : List Nat} {sr : List UInt64} (h : fr.length = sr.length) :
    broadcastStrides fr sr fr = some sr := by
  induction fr generalizing sr with
  | nil => cases sr <;> simp_all [broadcastStrides]
  | cons f fr ih =>
    cases sr with
    | nil => simp at h
    | cons s sr => simp [broadcastStrides, ih (by simpa using h)]

/-! ## 表向きの列 -/

/-- 先頭側の `d = to.ndim - from.ndim` 軸の stride は `0`。 -/
theorem take_reverse_broadcastStrides {src dst : List Nat} {strides out : List UInt64}
    (hout : broadcastStrides src.reverse strides.reverse dst.reverse = some out)
    (hs : src.length = strides.length) (hle : src.length ≤ dst.length) :
    out.reverse.take (dst.length - src.length) = List.replicate (dst.length - src.length) 0 := by
  have hlen : out.length = dst.length := by simpa using length_broadcastStrides hout
  have hdrop := drop_broadcastStrides hout (by simp [hs]) (by simpa using hle)
  simp only [List.length_reverse] at hdrop
  rw [List.take_reverse, hlen, show dst.length - (dst.length - src.length) = src.length by omega,
    hdrop, List.reverse_replicate]

theorem length_broadcastSource {src dst i : List Nat} (hle : src.length ≤ dst.length)
    (hil : i.length = dst.length) : (broadcastSource src dst i).length = src.length := by
  simp only [broadcastSource, length_sourceIndex, List.length_drop]
  omega

/-- 逆順の列の上の対応を表向きに戻すと、`broadcastSource` になる。 -/
theorem sourceIndex_reverse_eq {src dst i : List Nat} (hle : src.length ≤ dst.length)
    (hil : i.length = dst.length) :
    sourceIndex src.reverse dst.reverse i.reverse = (broadcastSource src dst i).reverse := by
  have hdl : (dst.drop (dst.length - src.length)).length = src.length := by rw [List.length_drop]; omega
  have hil' : (i.drop (dst.length - src.length)).length = src.length := by rw [List.length_drop]; omega
  have hdst : dst.reverse = (dst.drop (dst.length - src.length)).reverse
      ++ (dst.take (dst.length - src.length)).reverse := by
    rw [← List.reverse_append, List.take_append_drop]
  have hir : i.reverse = (i.drop (dst.length - src.length)).reverse
      ++ (i.take (dst.length - src.length)).reverse := by
    rw [← List.reverse_append, List.take_append_drop]
  rw [hdst, hir, sourceIndex_append (by simp [hdl]) (by simp [hil']),
    sourceIndex_reverse hdl.symm (by rw [hdl, hil']), broadcastSource]

/-- 結果の index `i` の位置は、`broadcastSource` が選ぶ元の index の位置。 -/
theorem indexOffset_broadcastSource {src dst i : List Nat} {strides out : List UInt64}
    (hout : broadcastStrides src.reverse strides.reverse dst.reverse = some out)
    (hs : src.length = strides.length) (hle : src.length ≤ dst.length) (hil : i.length = dst.length) :
    indexOffset i out.reverse = indexOffset (broadcastSource src dst i) strides := by
  have hlen : out.length = dst.length := by simpa using length_broadcastStrides hout
  calc indexOffset i out.reverse
      = indexOffset i.reverse out := by
        rw [← indexOffset_reverse (by simp [hil, hlen]), List.reverse_reverse]
    _ = indexOffset (sourceIndex src.reverse dst.reverse i.reverse) strides.reverse :=
        indexOffset_broadcastStrides hout _
    _ = indexOffset (broadcastSource src dst i).reverse strides.reverse := by
        rw [sourceIndex_reverse_eq hle hil]
    _ = indexOffset (broadcastSource src dst i) strides :=
        indexOffset_reverse (by rw [length_broadcastSource hle hil, hs])

/-- 逆順の列の上で：長さの条件を満たす `from` と、`to` の index から選んだ元の index は、
`from` の index である。伸ばした軸（長さ 1）では `0` を選ぶ。 -/
theorem IsIndex.sourceIndex : ∀ {fr tr ir : List Nat},
    (∀ k < fr.length, fr.getD k 0 = tr.getD k 0 ∨ fr.getD k 0 = 1) → fr.length ≤ tr.length →
      IsIndex ir tr → IsIndex (Synapse.sourceIndex fr tr ir) fr
  | [], _, _, _, _, _ => List.Forall₂.nil
  | _ :: _, [], _, _, hl, _ => by simp at hl
  | _ :: _, _ :: _, [], _, _, hi => by simp [IsIndex] at hi
  | f :: fr, t :: tr, k :: ir, hb, hl, hi => by
    obtain ⟨h0, hb⟩ := forall_broadcastable_cons.mp hb
    simp only [IsIndex, List.forall₂_cons] at hi
    refine List.Forall₂.cons ?_ (IsIndex.sourceIndex hb (Nat.le_of_succ_le_succ hl) hi.2)
    show (if f = t then k else 0) < f
    split_ifs with h
    · exact h ▸ hi.1
    · rcases h0 with h0 | h0
      · exact absurd h0 h
      · omega

/-- broadcast できるとき、結果の index から `broadcastSource` が選ぶ元の index は、
元の shape の index である：broadcast した view は元の要素の外を読まない。 -/
theorem IsIndex.broadcastSource {src dst i : List Nat} (hb : Broadcastable src dst)
    (hi : IsIndex i dst) : IsIndex (Synapse.broadcastSource src dst i) src := by
  have h := @IsIndex.sourceIndex src.reverse dst.reverse i.reverse (by simpa using hb.2)
    (by simpa using hb.1) (List.forall₂_reverse_iff.mpr hi)
  rw [sourceIndex_reverse_eq hb.1 hi.length_eq] at h
  exact List.forall₂_reverse_iff.mp h

/-- 要素を持つ形の軸は、どれも長さが正である。 -/
theorem IsIndex.pos {i sh : List Nat} (h : IsIndex i sh) : ∀ n ∈ sh, 0 < n := by
  induction h with
  | nil => simp
  | cons hk _ ih => exact List.forall_mem_cons.mpr ⟨Nat.zero_lt_of_lt hk, ih⟩

/-- 軸の長さがどれも正なら、成分がすべて `0` の列は index である。 -/
theorem isIndex_replicate_zero : ∀ {sh : List Nat}, (∀ n ∈ sh, 0 < n) →
    IsIndex (List.replicate sh.length 0) sh
  | [], _ => List.Forall₂.nil
  | _ :: _, h => List.Forall₂.cons (h _ (List.mem_cons_self _ _))
    (isIndex_replicate_zero fun n hn => h n (List.mem_cons_of_mem _ hn))

/-- 逆順の列の上で：`to` の軸の長さがどれも正なら、`from` の index はどれも、ある `to` の
index から選ばれる。伸ばした軸（長さ 1）の成分は `0` しかないので、`to` の側にも `0` を置き、
`to` だけにある軸にも `0` を置けばよい。 -/
theorem exists_sourceIndex_eq : ∀ {fr tr jr : List Nat},
    (∀ k < fr.length, fr.getD k 0 = tr.getD k 0 ∨ fr.getD k 0 = 1) → fr.length ≤ tr.length →
      (∀ n ∈ tr, 0 < n) → IsIndex jr fr → ∃ ir, IsIndex ir tr ∧ sourceIndex fr tr ir = jr
  | [], tr, _, _, _, hpos, hj => by
    cases hj
    exact ⟨_, isIndex_replicate_zero hpos, by simp [sourceIndex]⟩
  | _ :: _, [], _, _, hl, _, _ => by simp at hl
  | _ :: _, _ :: _, [], _, _, _, hj => by simp [IsIndex] at hj
  | f :: fr, t :: tr, k :: jr, hb, hl, hpos, hj => by
    obtain ⟨h0, hb⟩ := forall_broadcastable_cons.mp hb
    obtain ⟨hk, hj⟩ := List.forall₂_cons.mp hj
    obtain ⟨ir, hir, heq⟩ := exists_sourceIndex_eq hb (Nat.le_of_succ_le_succ hl)
      (fun n hn => hpos n (List.mem_cons_of_mem _ hn)) hj
    -- 伸ばした軸では `k < 1` なので `k = 0`
    have hkt : k < t ∧ (if f = t then k else 0) = k := by
      rcases h0 with h0 | h0
      · exact ⟨h0 ▸ hk, if_pos h0⟩
      · have hpt := hpos t (List.mem_cons_self _ _)
        split_ifs <;> omega
    exact ⟨k :: ir, List.Forall₂.cons hkt.1 hir, by
      show (if f = t then k else 0) :: sourceIndex fr tr ir = k :: jr
      rw [hkt.2, heq]⟩

/-- 軸の長さがどれも正な形 `to` に broadcast できるとき、元の shape のどの index も、
`broadcastSource` がある結果の index から選ぶ：broadcast した view は元の要素を落とさない。 -/
theorem IsIndex.exists_broadcastSource_eq {src dst j : List Nat} (hb : Broadcastable src dst)
    (hpos : ∀ n ∈ dst, 0 < n) (hj : IsIndex j src) :
    ∃ i, IsIndex i dst ∧ Synapse.broadcastSource src dst i = j := by
  obtain ⟨ir, hir, heq⟩ := @exists_sourceIndex_eq src.reverse dst.reverse j.reverse
    (by simpa using hb.2) (by simpa using hb.1) (by simpa using hpos)
    (List.forall₂_reverse_iff.mpr hj)
  have hl : ir.reverse.length = dst.length := by simpa using hir.length_eq
  refine ⟨ir.reverse, List.forall₂_reverse_iff.mp (by simpa using hir), ?_⟩
  rw [← List.reverse_inj, ← sourceIndex_reverse_eq hb.1 hl, List.reverse_reverse, heq]

namespace Tensor

theorem broadcastTo_eq_ok {x : Tensor α} {dst : List Nat} {y : Tensor α} :
    x.broadcastTo dst = .ok y ↔ x.ndim ≤ dst.length ∧
      ∃ out, broadcastStrides x.shape.reverse x.strides.reverse dst.reverse = some out ∧
        y.values = x.values ∧ y.shape = dst ∧ y.strides = out.reverse := by
  unfold broadcastTo
  split_ifs with hlt
  · simp only [reduceCtorEq, false_iff, not_and, not_exists]
    omega
  · split
    · rename_i out hout
      simp only [Except.ok.injEq]
      constructor
      · rintro rfl
        exact ⟨by omega, out, hout, rfl, rfl, rfl⟩
      · rintro ⟨-, o, ho, hv, hs, hst⟩
        rw [hout, Option.some.injEq] at ho
        subst ho
        ext1 <;> simp [hv, hs, hst]
    · rename_i hnone
      simp only [reduceCtorEq, false_iff, not_and, not_exists]
      intro _ o ho
      simp [hnone] at ho


/-- broadcast できれば `broadcast_to` は成功し、値の列を共有した結果の index `i` は
`broadcastSource` の選ぶ元の index を読む。 -/
theorem broadcastTo_get {x : Tensor α} {dst : List Nat} (hb : Broadcastable x.shape dst) :
    ∃ y, x.broadcastTo dst = .ok y ∧ y.values = x.values ∧ y.shape = dst ∧
      ∀ i, IsIndex i dst → y.get i = x.get (broadcastSource x.shape dst i) := by
  have hsr : x.shape.reverse.length = x.strides.reverse.length := by simp [x.strides_length]
  obtain ⟨out, hout⟩ := Option.isSome_iff_exists.mp
    ((@broadcastStrides_isSome _ _ dst.reverse hsr (by simpa using hb.1)).mpr (by simpa using hb.2))
  refine ⟨⟨x.values, dst, out.reverse, by simpa using length_broadcastStrides hout⟩,
    broadcastTo_eq_ok.mpr ⟨hb.1, out, hout, rfl, rfl, rfl⟩, rfl, rfl, fun i hi => ?_⟩
  exact get_eq_get rfl (by rw [indexOffset_broadcastSource hout x.strides_length.symm hb.1 hi.length_eq])

/--
**`broadcast_to` の成功の条件と結果。**

成功するのは `Broadcastable` のときだけで、そのとき結果は `x` の値を共有し、形は `to`、
先頭側の `d` 軸の stride は `0` である。結果の index `i` は `x` の
`broadcastSource x.shape to i` と同じ位置を読む。位置は 2^64 を法として等しい。
-/
theorem broadcastTo_spec (x : Tensor α) (dst : List Nat) :
    ((∃ y, x.broadcastTo dst = .ok y) ↔ Broadcastable x.shape dst) ∧
    ∀ y, x.broadcastTo dst = .ok y →
      y.shape = dst ∧ y.values = x.values ∧
      y.strides.take (dst.length - x.ndim) = List.replicate (dst.length - x.ndim) 0 ∧
      ∀ i, IsIndex i dst → y.get i = x.get (broadcastSource x.shape dst i) := by
  have hsr : x.shape.reverse.length = x.strides.reverse.length := by simp [x.strides_length]
  -- 逆順の列の上のループが成功する条件を、`x` の軸の数で数え直したもの
  have hloop (hle : x.ndim ≤ dst.length) :
      (broadcastStrides x.shape.reverse x.strides.reverse dst.reverse).isSome ↔ ∀ k < x.shape.length,
        x.shape.reverse.getD k 0 = dst.reverse.getD k 0 ∨ x.shape.reverse.getD k 0 = 1 := by
    simpa only [List.length_reverse] using
      broadcastStrides_isSome hsr (by simpa only [List.length_reverse] using hle)
  constructor
  · simp only [broadcastTo_eq_ok, Broadcastable]
    constructor
    · rintro ⟨y, hle, out, hout, -⟩
      exact ⟨hle, (hloop hle).mp (by simp [hout])⟩
    · rintro ⟨hle, hk⟩
      obtain ⟨out, hout⟩ := Option.isSome_iff_exists.mp ((hloop hle).mpr hk)
      exact ⟨⟨x.values, dst, out.reverse, by simpa using length_broadcastStrides hout⟩,
        hle, out, hout, rfl, rfl, rfl⟩
  · intro y hy
    obtain ⟨hle, out, hout, hv, hs, hst⟩ := broadcastTo_eq_ok.mp hy
    refine ⟨hs, hv, by rw [hst]; exact take_reverse_broadcastStrides hout x.strides_length.symm hle,
      fun i hi => get_eq_get (by rw [hv]) ?_⟩
    rw [hv, hst, indexOffset_broadcastSource hout x.strides_length.symm hle hi.length_eq]

/-- 長さ 3 の列を 2 行に伸ばす場合。 -/
theorem broadcastTo_spec_on_rows :
    let x : Tensor Nat := ⟨⟨[1, 2, 3], 0⟩, [3], [1], rfl⟩
    Broadcastable x.shape [2, 3] ∧
      ∃ y, x.broadcastTo [2, 3] = .ok y ∧ y.shape = [2, 3] ∧ y.values = x.values ∧
        y.strides.take 1 = [0] ∧
        ∀ i, IsIndex i [2, 3] → y.get i = x.get (broadcastSource x.shape [2, 3] i) := by
  intro x
  have h := broadcastTo_spec x [2, 3]
  have hb : Broadcastable x.shape [2, 3] := by decide
  obtain ⟨y, hy⟩ := h.1.mpr hb
  exact ⟨hb, y, hy, h.2 y hy⟩

/-! ## `as_shape` の近道 -/

theorem broadcastTo_self (x : Tensor α) : x.broadcastTo x.shape = .ok x :=
  broadcastTo_eq_ok.mpr ⟨le_refl _, x.strides.reverse,
    broadcastStrides_self (by simp [x.strides_length]), rfl, rfl, by simp⟩

theorem asShape_of_admits (x : Tensor α) {r : Rank} (h : r.Admits x.ndim) :
    x.asShape r = .ok x := by
  have hs := Rank.fromShape_of_admits (l := x.shape) h
  have ht := Rank.fromShape_of_admits (l := x.strides) (by rw [x.strides_length]; exact h)
  unfold asShape
  split
  · rename_i shape strides hs' ht'
    rw [hs, Except.ok.injEq] at hs'
    rw [ht, Except.ok.injEq] at ht'
    subst hs' ht'
    rfl
  · rename_i hs'
    rw [hs] at hs'
    cases hs'
  · rename_i ht'
    rw [ht] at ht'
    cases ht'

/-- 形が変わらないとき、`as_shape` も `broadcast_to` も `z` そのものを返す。 -/
theorem asShape_broadcastTo_self (z : Tensor γ) {r : Rank} {sh : List Nat} (hsh : sh = z.shape)
    (hr : r.Admits sh.length) : z.asShape r = .ok z ∧ z.broadcastTo sh = .ok z := by
  subst hsh
  exact ⟨asShape_of_admits z hr, broadcastTo_self z⟩

/-- `broadcast_with` の分かれ道：形が同じなら `as_shape`、違えば `broadcast_to`。どちらを
通っても `broadcast_to` と同じ結果になる。 -/
theorem broadcastWith_branch (z : Tensor γ) {out : Rank} {sh : List Nat}
    (hr : out.Admits sh.length) :
    (if sh = z.shape then z.asShape out else z.broadcastTo sh) = z.broadcastTo sh := by
  split_ifs with h
  · rw [(asShape_broadcastTo_self z h hr).1, (asShape_broadcastTo_self z h hr).2]
  · rfl

/--
**`broadcast_with` は二つの `broadcast_to` の組である。**

形 `sh` が `x` の形と同じとき、`broadcast_with` は `broadcast_to` の代わりに
`as_shape` を使う。`sh` は `Shape::broadcast` が返した型 `Output` の値なので、
その長さは `Output` が受ける長さである（`out.Admits sh.length`）。このとき
`as_shape` も `broadcast_to` も `x` そのものを返すので、近道は結果を変えない。
-/
theorem broadcastWith_eq_broadcastTo (x : Tensor α) :
    (∀ (r : Rank) (sh : List Nat), sh = x.shape → r.Admits sh.length →
        x.asShape r = .ok x ∧ x.broadcastTo sh = .ok x) ∧
    ∀ (broadcast : List Nat → List Nat → Except ShapeError (List Nat)) (out : Rank)
      (y : Tensor β) (sh : List Nat),
      broadcast x.shape y.shape = .ok sh → out.Admits sh.length →
        broadcastWith broadcast out x y = (do
          let t1 ← x.broadcastTo sh
          let t2 ← y.broadcastTo sh
          pure (t1, t2)) := by
  refine ⟨fun _ _ => asShape_broadcastTo_self x, fun broadcast out y sh hb hr => ?_⟩
  have hbind : ∀ (f : List Nat → Except ShapeError (Tensor α × Tensor β)),
      (Except.ok sh >>= f) = f sh := fun _ => rfl
  simp only [broadcastWith, hb, hbind, broadcastWith_branch _ hr]

/-- 形の同じ二つの列では、どちらも近道を通る。 -/
theorem broadcastWith_eq_broadcastTo_on_vectors :
    let x : Tensor Nat := ⟨⟨[1, 2, 3], 0⟩, [3], [1], rfl⟩
    let y : Tensor Bool := ⟨⟨[true, false, true], 0⟩, [3], [1], rfl⟩
    (x.asShape (.const 1) = .ok x ∧ x.broadcastTo [3] = .ok x) ∧
      broadcastWith (fun _ _ => .ok [3]) (.const 1) x y = (do
        let t1 ← x.broadcastTo [3]
        let t2 ← y.broadcastTo [3]
        pure (t1, t2)) :=
  ⟨(broadcastWith_eq_broadcastTo (β := Bool) _).1 (.const 1) [3] rfl rfl,
    (broadcastWith_eq_broadcastTo _).2 (fun _ _ => .ok [3]) (.const 1) _ [3] rfl rfl⟩

/-! ## `broadcast_with` が二つの tensor を並べること -/

/-- 成功した `broadcast_to` の結果は値の列を共有し、形は `to` で、その index は元の shape の
index を読む。 -/
theorem broadcastTo_reads {x y : Tensor α} {dst : List Nat} (h : x.broadcastTo dst = .ok y) :
    Broadcastable x.shape dst ∧ y.values = x.values ∧ y.shape = dst ∧
      ∀ i, IsIndex i dst → IsIndex (broadcastSource x.shape dst i) x.shape ∧
        y.get i = x.get (broadcastSource x.shape dst i) := by
  obtain ⟨hle, out, hout, -⟩ := broadcastTo_eq_ok.mp h
  have hsr : x.shape.reverse.length = x.strides.reverse.length := by simp [x.strides_length]
  have hb : Broadcastable x.shape dst :=
    ⟨hle, by simpa using (broadcastStrides_isSome hsr (by simpa using hle)).mp (by simp [hout])⟩
  obtain ⟨u, hu, hv, hs, hg⟩ := broadcastTo_get hb
  rw [h, Except.ok.injEq] at hu
  subst hu
  exact ⟨hb, hv, hs, fun i hi => ⟨hi.broadcastSource hb, hg i hi⟩⟩

/-- `Shape::broadcast` が `sh` を返したとき、`broadcast_with` が成功するのは二つの
`broadcast_to` がどちらも成功したときで、結果はその組である。 -/
theorem broadcastWith_eq_ok {broadcast : List Nat → List Nat → Except ShapeError (List Nat)}
    {out : Rank} {x : Tensor α} {y : Tensor β} {sh : List Nat}
    (hb : broadcast x.shape y.shape = .ok sh) (hr : out.Admits sh.length)
    {t₁ : Tensor α} {t₂ : Tensor β} :
    broadcastWith broadcast out x y = .ok (t₁, t₂) ↔
      x.broadcastTo sh = .ok t₁ ∧ y.broadcastTo sh = .ok t₂ := by
  have hbind : ∀ (f : List Nat → Except ShapeError (Tensor α × Tensor β)),
      (Except.ok sh >>= f) = f sh := fun _ => rfl
  simp only [broadcastWith, hb, hbind, broadcastWith_branch _ hr]
  cases x.broadcastTo sh <;> cases y.broadcastTo sh <;>
    simp [bind, Except.bind, pure, Except.pure]

/--
**`broadcast_with` は二つの tensor の要素を同じ index に並べる。**

`Shape::broadcast` が形 `sh` を返し、`sh` の長さを `Output` が受けるとき、`broadcast_with`
が成功するのは `x` と `y` の形がどちらも `sh` に broadcast できるときだけである。そのとき
二つの結果はどちらも形 `sh` を持って元の値の列を共有し、`sh` の index `i` ごとに、一つ目は
`x` の、二つ目は `y` の、`broadcastSource` の選ぶ index を読む。選ばれる index はそれぞれ
元の tensor の index なので、要素ごとの演算は二つの元の要素の組を読む。
-/
theorem broadcastWith_aligns (broadcast : List Nat → List Nat → Except ShapeError (List Nat))
    (out : Rank) (x : Tensor α) (y : Tensor β) {sh : List Nat}
    (hb : broadcast x.shape y.shape = .ok sh) (hr : out.Admits sh.length) :
    ((∃ p, broadcastWith broadcast out x y = .ok p) ↔
      Broadcastable x.shape sh ∧ Broadcastable y.shape sh) ∧
    ∀ t₁ t₂, broadcastWith broadcast out x y = .ok (t₁, t₂) →
      t₁.shape = sh ∧ t₂.shape = sh ∧ t₁.values = x.values ∧ t₂.values = y.values ∧
      ∀ i, IsIndex i sh →
        (IsIndex (broadcastSource x.shape sh i) x.shape ∧
          t₁.get i = x.get (broadcastSource x.shape sh i)) ∧
        (IsIndex (broadcastSource y.shape sh i) y.shape ∧
          t₂.get i = y.get (broadcastSource y.shape sh i)) := by
  refine ⟨⟨fun ⟨⟨t₁, t₂⟩, h⟩ => ?_, fun ⟨hx, hy⟩ => ?_⟩, fun t₁ t₂ h => ?_⟩
  · obtain ⟨h₁, h₂⟩ := (broadcastWith_eq_ok hb hr).mp h
    exact ⟨(broadcastTo_reads h₁).1, (broadcastTo_reads h₂).1⟩
  · obtain ⟨t₁, h₁, -⟩ := broadcastTo_get hx
    obtain ⟨t₂, h₂, -⟩ := broadcastTo_get hy
    exact ⟨(t₁, t₂), (broadcastWith_eq_ok hb hr).mpr ⟨h₁, h₂⟩⟩
  · obtain ⟨h₁, h₂⟩ := (broadcastWith_eq_ok hb hr).mp h
    obtain ⟨-, hv₁, hs₁, hg₁⟩ := broadcastTo_reads h₁
    obtain ⟨-, hv₂, hs₂, hg₂⟩ := broadcastTo_reads h₂
    exact ⟨hs₁, hs₂, hv₁, hv₂, fun i hi => ⟨hg₁ i hi, hg₂ i hi⟩⟩

/-- 長さ 3 の列と 2 行 3 列の行列を並べる場合：列は行ごとに繰り返され、行列は近道を通る。 -/
theorem broadcastWith_aligns_row_with_matrix :
    let x : Tensor Nat := ⟨⟨[1, 2, 3], 0⟩, [3], [1], rfl⟩
    let y : Tensor Nat := ⟨⟨[1, 2, 3, 4, 5, 6], 0⟩, [2, 3], [3, 1], rfl⟩
    let broadcast : List Nat → List Nat → Except ShapeError (List Nat) := fun _ _ => .ok [2, 3]
    broadcast x.shape y.shape = .ok [2, 3] ∧ (Rank.const 2).Admits [2, 3].length ∧
      ((∃ p, broadcastWith broadcast (.const 2) x y = .ok p) ↔
        Broadcastable x.shape [2, 3] ∧ Broadcastable y.shape [2, 3]) ∧
      ∀ t₁ t₂, broadcastWith broadcast (.const 2) x y = .ok (t₁, t₂) →
        t₁.shape = [2, 3] ∧ t₂.shape = [2, 3] ∧ t₁.values = x.values ∧ t₂.values = y.values ∧
        ∀ i, IsIndex i [2, 3] →
          (IsIndex (broadcastSource x.shape [2, 3] i) x.shape ∧
            t₁.get i = x.get (broadcastSource x.shape [2, 3] i)) ∧
          (IsIndex (broadcastSource y.shape [2, 3] i) y.shape ∧
            t₂.get i = y.get (broadcastSource y.shape [2, 3] i)) :=
  ⟨rfl, rfl, broadcastWith_aligns _ (.const 2) _ _ rfl rfl⟩

end Tensor

end Synapse
