import Synapse.Engine.Context

/-!
# `client.rs`：`use_catalog` と `use_schema`

どちらも `get_config(false)` で Connection の config を読み、builder で一つの欄を
書き換え、`set_config(&config, false)` で書き戻す。server の Connection の config は
一つの register で、`SetConfig` は上書きし、`GetConfig` は読む。`SynapseClient` の
clone は同じ bearer token を持つので、二つの clone の呼び出しは同じ register を
読み書きする。二つの呼び出しの RPC は、それぞれの順を保ったまま任意に混ざる
（`Interleave`）。

二つの呼び出しがどちらも `Ok` を返す run は、四つの RPC がどれも成功した run である。

* `interleave_pair` — 二つの呼び出しの RPC の混ざり方は六通り
* `useConfig_lost_update` — `GetConfig`, `GetConfig`, `SetConfig`, `SetConfig` の順では
  先に書いた `use_catalog` の更新が失われる
* `useConfig_interleavings` — 六通りのどれでも、最後の config は、呼び出しが重ならなければ
  二つの更新をどちらも含み、重なれば後に書いた方の更新だけを含む
* `useConfig_loses_updates_only` — 呼び出しがいくつあっても、最後の config は書き戻しの
  届いた呼び出しの部分列の更新を届いた順に施したもので、重ならなければすべての更新を含む
* `useAll_matches_client` — engine の context が受け付ける呼び出しの列では、engine と
  client は同じ config に行き着く
-/

namespace Synapse

/-- `Interleave t u w`：`w` は `t` と `u` をそれぞれの順を保って混ぜた列。 -/
inductive Interleave : List α → List α → List α → Prop
  | nil : Interleave [] [] []
  | left {a : α} {t u w : List α} : Interleave t u w → Interleave (a :: t) u (a :: w)
  | right {a : α} {t u w : List α} : Interleave t u w → Interleave t (a :: u) (a :: w)

/-- 二つずつの列の混ぜ方は六通り。 -/
theorem interleave_pair {a₁ a₂ b₁ b₂ : α} {l : List α} (h : Interleave [a₁, a₂] [b₁, b₂] l) :
    l = [a₁, a₂, b₁, b₂] ∨ l = [a₁, b₁, a₂, b₂] ∨ l = [a₁, b₁, b₂, a₂] ∨
    l = [b₁, a₁, a₂, b₂] ∨ l = [b₁, a₁, b₂, a₂] ∨ l = [b₁, b₂, a₁, a₂] := by
  rcases h with _ | ⟨h⟩ | ⟨h⟩ <;> rcases h with _ | ⟨h⟩ | ⟨h⟩ <;> rcases h with _ | ⟨h⟩ | ⟨h⟩ <;>
    rcases h with _ | ⟨h⟩ | ⟨h⟩ <;> rcases h <;> simp only [true_or, or_true]

/-- 呼び出しが送る RPC。 -/
inductive ConfigRpc where
  | getConfig
  | setConfig
  deriving DecidableEq, Repr

/-- client の `use_*` 呼び出し。 -/
inductive UseCall where
  | useCatalog (catalog : String)
  | useSchema (schema : String)
  deriving DecidableEq, Repr

/-- 読んだ config から書き戻す config を作る builder。 -/
def UseCall.build : UseCall → SynapseConfig → SynapseConfig
  | .useCatalog catalog, config => config.setDefaultCatalog catalog
  | .useSchema schema, config => config.setDefaultSchema schema

/-! ## Connection の config

clone がいくつあっても、それぞれの `use_*` 呼び出しは `GetConfig` と `SetConfig` を一つずつ
送る。呼び出しを `ι` の値で区別すると、Connection の config の register と、各呼び出しが
`GetConfig` の応答から作った config の組が状態になる。
-/

/-- 呼び出しが読み書きする Connection の config と、各呼び出しが作った config。 -/
structure Conn (ι : Type) where
  connection : SynapseConfig
  pending : ι → Option SynapseConfig

namespace Conn

variable {ι : Type} [DecidableEq ι] (calls : ι → UseCall)

/-- RPC を一つ server に届け、応答を呼び出しに返す。 -/
def step (s : Conn ι) : ι × ConfigRpc → Conn ι
  | (k, .getConfig) =>
    { s with pending := Function.update s.pending k (some ((calls k).build s.connection)) }
  | (k, .setConfig) =>
    match s.pending k with
    | some config => { s with connection := config }
    | none => s

/-- RPC の列を順に届ける。 -/
def run (s : Conn ι) (l : List (ι × ConfigRpc)) : Conn ι := l.foldl (step calls) s

end Conn

/-- 呼び出し `k` の RPC：`get_config(false)` の後に `set_config(&config, false)`。 -/
def callRpcs (k : ι) : List (ι × ConfigRpc) := [(k, .getConfig), (k, .setConfig)]

/-! ## 二つの呼び出し -/

/-- 二つの clone のどちらか。 -/
inductive Side where
  | left
  | right
  deriving DecidableEq, Repr

/-- 二つの呼び出しが重なった：二つ目の RPC も `GetConfig` である。 -/
def Overlapped (l : List (Side × ConfigRpc)) : Bool := (l.take 2).all (·.2 == .getConfig)

/-- 最後に RPC を送った呼び出し。 -/
def lastWriter (l : List (Side × ConfigRpc)) : Option Side := l.getLast?.map Prod.fst

/-- `use_catalog(c)` を左の clone が、`use_schema(s)` を右の clone が呼ぶ。 -/
def useCatalogSchema (c s : String) : Side → UseCall
  | .left => .useCatalog c
  | .right => .useSchema s

/-- 二つの `GetConfig` が二つの `SetConfig` より先に届くと、`use_catalog` の更新は
`use_schema` の書き戻しで消え、既定の catalog は最初のままになる。 -/
theorem useConfig_lost_update :
    let init : SynapseConfig := ⟨"datafusion", "public", "generic"⟩
    let l : List (Side × ConfigRpc) :=
      [(.left, .getConfig), (.right, .getConfig), (.left, .setConfig), (.right, .setConfig)]
    Interleave (callRpcs Side.left) (callRpcs Side.right) l ∧
      (Conn.run (useCatalogSchema "c" "s") ⟨init, fun _ => none⟩ l).connection =
        ⟨"datafusion", "s", "generic"⟩ :=
  ⟨.left (.right (.left (.right .nil))), rfl⟩

/--
**`use_catalog(c)` と `use_schema(s)` が混ざったときの最後の config。**

二つの呼び出しが重ならなければ、既定の catalog は `c`、既定の schema は `s` になる。
重なれば、後に `SetConfig` を送った方の欄だけが変わり、もう一方の欄は最初のままである。
-/
theorem useConfig_interleavings (init : SynapseConfig) (c s : String)
    (l : List (Side × ConfigRpc)) (h : Interleave (callRpcs Side.left) (callRpcs Side.right) l) :
    (Conn.run (useCatalogSchema c s) ⟨init, fun _ => none⟩ l).connection =
      if Overlapped l then
        (if lastWriter l = some .left then init.setDefaultCatalog c else init.setDefaultSchema s)
      else (init.setDefaultCatalog c).setDefaultSchema s := by
  rcases interleave_pair h with rfl | rfl | rfl | rfl | rfl | rfl <;> rfl

/-- 重ならない順：`use_schema` が `use_catalog` の書き戻しの後に読む。 -/
theorem useConfig_interleavings_serial :
    let init : SynapseConfig := ⟨"datafusion", "public", "generic"⟩
    let l : List (Side × ConfigRpc) :=
      [(.left, .getConfig), (.left, .setConfig), (.right, .getConfig), (.right, .setConfig)]
    Interleave (callRpcs Side.left) (callRpcs Side.right) l ∧
      (Conn.run (useCatalogSchema "c" "s") ⟨init, fun _ => none⟩ l).connection =
        (init.setDefaultCatalog "c").setDefaultSchema "s" :=
  ⟨.left (.left (.right (.right .nil))), useConfig_interleavings _ "c" "s" _
    (.left (.left (.right (.right .nil))))⟩

/-! ## 任意の数の呼び出し -/

/-- `SetConfig` を送った呼び出しを、届いた順に並べたもの。 -/
def writers (l : List (ι × ConfigRpc)) : List ι :=
  l.filterMap fun | (k, .setConfig) => some k | (_, .getConfig) => none

@[simp] theorem writers_append (l l' : List (ι × ConfigRpc)) :
    writers (l ++ l') = writers l ++ writers l' :=
  List.filterMap_append _ _ _

/-- 呼び出しの更新を `ks` の順に一つずつ config に施したもの：呼び出しを重ねずに順に
行ったときの config。 -/
def applyCalls (calls : ι → UseCall) (init : SynapseConfig) (ks : List ι) : SynapseConfig :=
  ks.foldl (fun config k => (calls k).build config) init

@[simp] theorem applyCalls_append (calls : ι → UseCall) (init : SynapseConfig) (ks ks' : List ι) :
    applyCalls calls init (ks ++ ks') = applyCalls calls (applyCalls calls init ks) ks' :=
  List.foldl_append _ _ _ _

section LostUpdates

variable {ι : Type} (calls : ι → UseCall) (init : SynapseConfig)

/-- 届いた `SetConfig` の列 `ws` に対する不変条件：register の config も、各呼び出しが作った
config も、`ws` の部分列の更新を順に施した config（呼び出しの作った config では、その上に
自分の更新を施したもの）である。 -/
def SublistInv (s : Conn ι) (ws : List ι) : Prop :=
  (∃ w, w.Sublist ws ∧ s.connection = applyCalls calls init w) ∧
    ∀ k config, s.pending k = some config →
      ∃ w, w.Sublist ws ∧ config = (calls k).build (applyCalls calls init w)

theorem SublistInv.mono {s : Conn ι} {ws ws' : List ι} (h : SublistInv calls init s ws)
    (hws : ws.Sublist ws') : SublistInv calls init s ws' :=
  ⟨let ⟨w, hw, hc⟩ := h.1; ⟨w, hw.trans hws, hc⟩,
    fun k config hk => let ⟨w, hw, hc⟩ := h.2 k config hk; ⟨w, hw.trans hws, hc⟩⟩

variable [DecidableEq ι]

theorem sublistInv_step {s : Conn ι} {ws : List ι} (h : SublistInv calls init s ws)
    (e : ι × ConfigRpc) : SublistInv calls init (Conn.step calls s e) (ws ++ writers [e]) := by
  obtain ⟨k, _ | _⟩ := e
  · -- GetConfig：呼び出し `k` は今の config に自分の更新を施したものを作る
    rw [show ws ++ writers [(k, ConfigRpc.getConfig)] = ws from List.append_nil ws]
    refine ⟨h.1, fun j config hj => ?_⟩
    by_cases hjk : j = k
    · subst hjk
      simp only [Conn.step, Function.update_same, Option.some.injEq] at hj
      obtain ⟨w, hw, hc⟩ := h.1
      exact ⟨w, hw, by rw [← hj, hc]⟩
    · simp only [Conn.step, Function.update_noteq hjk] at hj
      exact h.2 j config hj
  · -- SetConfig：`k` の作った config が register に入り、`k` が部分列の最後に加わる
    have hmono := h.mono calls init (List.sublist_append_left ws [k])
    simp only [Conn.step]
    split
    · rename_i config hk
      obtain ⟨w, hw, hc⟩ := h.2 k config hk
      exact ⟨⟨w ++ [k], hw.append (List.Sublist.refl _), by simp [hc, applyCalls]⟩, hmono.2⟩
    · exact hmono

theorem sublistInv_run {s : Conn ι} {ws : List ι} (h : SublistInv calls init s ws)
    (l : List (ι × ConfigRpc)) : SublistInv calls init (Conn.run calls s l) (ws ++ writers l) := by
  induction l generalizing s ws with
  | nil => simpa [writers] using h
  | cons e l ih =>
    have he := ih (sublistInv_step calls init h e)
    rwa [List.append_assoc, ← writers_append, List.singleton_append] at he

/-- 呼び出しを重ねずに順に行うと、すべての更新がその順に施される。 -/
theorem run_callRpcs (s : Conn ι) (ks : List ι) :
    (Conn.run calls s (ks.flatMap callRpcs)).connection = applyCalls calls s.connection ks := by
  induction ks generalizing s with
  | nil => rfl
  | cons k ks ih =>
    rw [List.flatMap_cons, Conn.run, List.foldl_append, ← Conn.run, ← Conn.run, ih]
    simp [Conn.run, callRpcs, Conn.step, applyCalls]

/--
**混ざった `use_*` 呼び出しは更新を失うだけで、順を入れ替えも作りもしない。**

いくつの呼び出しがどう混ざっても、最後の Connection の config は、`SetConfig` の届いた
呼び出しの部分列の更新を、届いた順に最初の config に施したものである：ある呼び出しの更新が
消えることはあっても（`useConfig_lost_update`）、後に書いた更新の前に別の更新が割り込んだり、
どの呼び出しも作らない config が現れたりはしない。呼び出しが重ならなければ、何も失われず、
すべての更新が順に施される。
-/
theorem useConfig_loses_updates_only :
    (∀ l : List (ι × ConfigRpc), ∃ w, w.Sublist (writers l) ∧
      (Conn.run calls ⟨init, fun _ => none⟩ l).connection = applyCalls calls init w) ∧
    ∀ ks : List ι, writers (ks.flatMap callRpcs) = ks ∧
      (Conn.run calls ⟨init, fun _ => none⟩ (ks.flatMap callRpcs)).connection =
        applyCalls calls init ks := by
  refine ⟨fun l => ?_, fun ks => ⟨?_, run_callRpcs calls _ ks⟩⟩
  · have h0 : SublistInv calls init ⟨init, fun _ => none⟩ [] :=
      ⟨⟨[], List.Sublist.slnil, rfl⟩, fun _ _ h => by cases h⟩
    simpa using (sublistInv_run calls init h0 l).1
  · induction ks with
    | nil => rfl
    | cons k ks ih => rw [List.flatMap_cons, writers_append, ih]; rfl

end LostUpdates

/-! ## engine の context との一致

client の `use_catalog`・`use_schema` は名前を確かめずに書き戻すが、engine の
`SynapseContext::use_catalog`・`use_schema` は名前を確かめてから同じ欄を書き換える。
engine が受け付ける呼び出しの列では、二つは同じ config に行き着く。
-/

namespace SynapseContext

variable {ε : Type}

/-- engine の context の上で呼び出しを一つ行う。 -/
def use (ctx : SynapseContext ε) : UseCall → Except EngineError (SynapseContext ε)
  | .useCatalog catalog => ctx.useCatalog catalog
  | .useSchema schema => ctx.useSchema schema

/-- 呼び出しの列を順に行う。`use_*` は `self` を受け取って新しい context を返すので、
誤りが出たところで止まる。 -/
def useAll (ctx : SynapseContext ε) : List UseCall → Except EngineError (SynapseContext ε)
  | [] => .ok ctx
  | call :: calls => ctx.use call >>= fun ctx' => ctx'.useAll calls

/-- 成功した呼び出しは、client の builder と同じ更新を config に施し、ほかは変えない。 -/
theorem use_eq_ok {ctx ctx' : SynapseContext ε} {call : UseCall} (h : ctx.use call = .ok ctx') :
    ctx' = { ctx with state := ctx.state.withConfig (call.build ctx.config) } := by
  cases call with
  | useCatalog catalog =>
    rw [use, useCatalog_eq] at h
    split_ifs at h
    cases h
    rfl
  | useSchema schema =>
    rw [use, useSchema_eq] at h
    split at h
    · cases h
    · split_ifs at h
      cases h
      rfl

theorem useAll_eq_ok {ctx ctx' : SynapseContext ε} :
    ∀ {calls : List UseCall}, ctx.useAll calls = .ok ctx' →
      ctx'.cluster = ctx.cluster ∧ ctx'.engine = ctx.engine ∧
        ctx'.config = applyCalls id ctx.config calls
  | [], h => by cases h; exact ⟨rfl, rfl, rfl⟩
  | call :: calls, h => by
    simp only [useAll, bind, Except.bind] at h
    split at h
    · cases h
    · rename_i ctx₁ h₁
      obtain ⟨hc, he, hcfg⟩ := useAll_eq_ok h
      rw [use_eq_ok h₁] at hc he hcfg
      exact ⟨hc, he, hcfg⟩

/--
**engine が受け付ける `use_*` の列では、client と engine の context は同じ config に行き着く。**

engine の context で `use_catalog`・`use_schema` の列がすべて成功するなら、cluster と
engine の slot は変わらず、最後の config は、同じ config から client が同じ呼び出しを
重ねずに順に行ったときの Connection の config に等しい。
-/
theorem useAll_matches_client (ctx : SynapseContext ε) (calls : List UseCall)
    {ctx' : SynapseContext ε} (h : ctx.useAll calls = .ok ctx') :
    ctx'.cluster = ctx.cluster ∧ ctx'.engine = ctx.engine ∧
      ctx'.config = (Conn.run id ⟨ctx.config, fun _ => none⟩ (calls.flatMap callRpcs)).connection := by
  rw [run_callRpcs]
  exact useAll_eq_ok h

/-- 既定の catalog `datafusion` と catalog `c` を持つ cluster で、`c` に移ってから schema `s`
を選ぶ。 -/
theorem useAll_matches_client_on_two_catalogs :
    let ctx : SynapseContext Unit :=
      ⟨⟨⟨"datafusion", "public", "generic"⟩, ⟨[("datafusion", ⟨["public"]⟩), ("c", ⟨["s"]⟩)]⟩⟩,
        some ()⟩
    let calls := [UseCall.useCatalog "c", .useSchema "s"]
    ∃ ctx', ctx.useAll calls = .ok ctx' ∧ ctx'.cluster = ctx.cluster ∧ ctx'.engine = ctx.engine ∧
      ctx'.config = (Conn.run id ⟨ctx.config, fun _ => none⟩ (calls.flatMap callRpcs)).connection :=
  ⟨_, rfl, useAll_matches_client _ _ rfl⟩

end SynapseContext

end Synapse
