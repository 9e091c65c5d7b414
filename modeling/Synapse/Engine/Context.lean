import Mathlib.Data.List.Basic

/-!
# `engine/context.rs`

`SynapseContext` は状態 `SynapseState`（config と cluster）と、engine を入れた共有の
slot（`Arc<Mutex<Option<Engine>>>`）を持つ。`Clone` は状態を写し、slot は共有する。

`Engine` と `Engine::start` はこの file の外にあるので、engine の型は `ε`、
`Engine::start` は引数 `start` とする。`SynapseConfig` のうちここと client と
Flight の handler が読む欄だけを持つ。

* `SynapseContext.new` — engine を起動して slot に入れる
* `useCatalog` / `useSchema` — cluster に名前があるかを確かめてから config の
  一つの欄を書き換える
* `useCatalog_useSchema_spec` — 成功する条件、成功したときに変わる欄、失敗したときの誤り
* slot を共有する clone たちの `shutdown()` は `Synapse.Engine.Shutdown` で扱う
-/

namespace Synapse

/-- `SynapseConfig` のうち、modelled な関数が読み書きする欄。 -/
structure SynapseConfig where
  defaultCatalog : String
  defaultSchema : String
  /-- `options().sql_parser.dialect`。 -/
  sqlParserDialect : String
  deriving DecidableEq, Repr

/-- `config.into_builder().default_catalog(catalog).build()`。 -/
def SynapseConfig.setDefaultCatalog (config : SynapseConfig) (catalog : String) : SynapseConfig :=
  { config with defaultCatalog := catalog }

/-- `config.into_builder().default_schema(schema).build()`。 -/
def SynapseConfig.setDefaultSchema (config : SynapseConfig) (schema : String) : SynapseConfig :=
  { config with defaultSchema := schema }

/-- `SynapseCatalog`。ここでは持っている schema の名前だけを見る。 -/
structure SynapseCatalog where
  schemas : List String
  deriving DecidableEq, Repr

/-- `SynapseCatalog::schema(name)`。 -/
def SynapseCatalog.schema (catalog : SynapseCatalog) (name : String) : Option String :=
  catalog.schemas.find? (· == name)

@[simp] theorem SynapseCatalog.schema_isSome (catalog : SynapseCatalog) (name : String) :
    (catalog.schema name).isSome ↔ name ∈ catalog.schemas := by
  simp [SynapseCatalog.schema]

/-- `SynapseCluster`：catalog の名前と中身の表。 -/
structure SynapseCluster where
  catalogs : List (String × SynapseCatalog)
  deriving DecidableEq, Repr

/-- `SynapseCluster::catalog(name)`。 -/
def SynapseCluster.catalog (cluster : SynapseCluster) (name : String) : Option SynapseCatalog :=
  cluster.catalogs.lookup name

@[simp] theorem SynapseCluster.catalog_isSome (cluster : SynapseCluster) (name : String) :
    (cluster.catalog name).isSome ↔ name ∈ cluster.catalogs.map Prod.fst := by
  simp [SynapseCluster.catalog, @eq_comm _ name]

theorem SynapseCluster.catalog_eq_none (cluster : SynapseCluster) (name : String) :
    cluster.catalog name = none ↔ name ∉ cluster.catalogs.map Prod.fst := by
  rw [← Option.not_isSome_iff_eq_none, SynapseCluster.catalog_isSome]

/-- `crate::Error` のうち context が返すもの。`engine` は `Engine::start` と
`Engine::shutdown` の返す誤りで、中身は見ない。 -/
inductive EngineError where
  | catalogNotFound (name : String)
  | schemaNotFound (name : String)
  | engine (message : String)
  deriving DecidableEq, Repr

/-- `option.ok_or_else(|| err)`。 -/
def okOrElse (o : Option α) (err : EngineError) : Except EngineError α :=
  match o with
  | some a => .ok a
  | none => .error err

/-- `SynapseState`。 -/
structure SynapseState where
  config : SynapseConfig
  cluster : SynapseCluster
  deriving DecidableEq, Repr

/-- `SynapseState::with_config(config)`。 -/
def SynapseState.withConfig (state : SynapseState) (config : SynapseConfig) : SynapseState :=
  { state with config := config }

/-- `SynapseContext`。`engine` は共有の slot の中身。 -/
structure SynapseContext (ε : Type) where
  state : SynapseState
  engine : Option ε

namespace SynapseContext

/-- `SynapseContext::new(state)`：`Engine::start` が失敗すればその誤りを返す。 -/
def new (start : SynapseState → Except EngineError ε) (state : SynapseState) :
    Except EngineError (SynapseContext ε) := do
  let engine ← start state
  pure ⟨state, some engine⟩

def config (ctx : SynapseContext ε) : SynapseConfig := ctx.state.config

def cluster (ctx : SynapseContext ε) : SynapseCluster := ctx.state.cluster

def defaultCatalog (ctx : SynapseContext ε) : String := ctx.config.defaultCatalog

def defaultSchema (ctx : SynapseContext ε) : String := ctx.config.defaultSchema

/-- `use_catalog(catalog)`。 -/
def useCatalog (ctx : SynapseContext ε) (catalog : String) :
    Except EngineError (SynapseContext ε) := do
  let _ ← okOrElse (ctx.cluster.catalog catalog) (.catalogNotFound catalog)
  let config := ctx.state.config.setDefaultCatalog catalog
  pure { ctx with state := ctx.state.withConfig config }

/-- `use_schema(schema)`：schema は今の既定の catalog の中で探す。 -/
def useSchema (ctx : SynapseContext ε) (schema : String) :
    Except EngineError (SynapseContext ε) := do
  let catalog ← okOrElse (ctx.cluster.catalog ctx.defaultCatalog)
    (.catalogNotFound ctx.defaultCatalog)
  let _ ← okOrElse (catalog.schema schema) (.schemaNotFound schema)
  let config := ctx.state.config.setDefaultSchema schema
  pure { ctx with state := ctx.state.withConfig config }

/-- `use_catalog` は名前を確かめ、あれば `default_catalog` だけを書き換えた context を返す。 -/
theorem useCatalog_eq (ctx : SynapseContext ε) (catalog : String) :
    ctx.useCatalog catalog =
      if catalog ∈ ctx.cluster.catalogs.map Prod.fst then
        .ok { ctx with state := ctx.state.withConfig (ctx.config.setDefaultCatalog catalog) }
      else .error (.catalogNotFound catalog) := by
  unfold useCatalog
  simp only [← SynapseCluster.catalog_isSome]
  cases ctx.cluster.catalog catalog <;> rfl

/-- `use_schema` は既定の catalog を引き、その中に schema があれば `default_schema` だけを
書き換えた context を返す。 -/
theorem useSchema_eq (ctx : SynapseContext ε) (schema : String) :
    ctx.useSchema schema =
      match ctx.cluster.catalog ctx.defaultCatalog with
      | none => .error (.catalogNotFound ctx.defaultCatalog)
      | some catalog =>
        if schema ∈ catalog.schemas then
          .ok { ctx with state := ctx.state.withConfig (ctx.config.setDefaultSchema schema) }
        else .error (.schemaNotFound schema) := by
  unfold useSchema
  simp only [← SynapseCatalog.schema_isSome]
  cases ctx.cluster.catalog ctx.defaultCatalog with
  | none => rfl
  | some catalog =>
    simp only [okOrElse, bind, Except.bind]
    cases catalog.schema schema <;> rfl

theorem new_eq_ok {start : SynapseState → Except EngineError ε} {state : SynapseState}
    {ctx : SynapseContext ε} (h : new start state = .ok ctx) :
    ∃ e, start state = .ok e ∧ ctx = ⟨state, some e⟩ := by
  simp only [new, bind, Except.bind, pure, Except.pure] at h
  split at h
  · cases h
  · rename_i e he
    cases h
    exact ⟨e, he, rfl⟩

/-- `use_catalog(c)` は cluster に catalog `c` があるときだけ成功し、config の
`default_catalog` だけを `c` に替える。`use_schema(s)` は既定の catalog があってその中に
schema `s` があるときだけ成功し、`default_schema` だけを `s` に替える。どちらも失敗すれば
名前の無い方の誤りを返すだけで、新しい context は作られず `with_config` も呼ばれないので、
`ctx` とその clone の config は変わらない。 -/
theorem useCatalog_useSchema_spec (ctx : SynapseContext ε) (c s : String) :
    ((∃ ctx', ctx.useCatalog c = .ok ctx') ↔ c ∈ ctx.cluster.catalogs.map Prod.fst) ∧
    (∀ ctx', ctx.useCatalog c = .ok ctx' →
      ctx'.config = { ctx.config with defaultCatalog := c } ∧
        ctx'.cluster = ctx.cluster ∧ ctx'.engine = ctx.engine) ∧
    (c ∉ ctx.cluster.catalogs.map Prod.fst →
      ctx.useCatalog c = .error (.catalogNotFound c)) ∧
    ((∃ ctx', ctx.useSchema s = .ok ctx') ↔
      ∃ catalog, ctx.cluster.catalog ctx.defaultCatalog = some catalog ∧ s ∈ catalog.schemas) ∧
    (∀ ctx', ctx.useSchema s = .ok ctx' →
      ctx'.config = { ctx.config with defaultSchema := s } ∧
        ctx'.cluster = ctx.cluster ∧ ctx'.engine = ctx.engine) ∧
    (ctx.defaultCatalog ∉ ctx.cluster.catalogs.map Prod.fst →
      ctx.useSchema s = .error (.catalogNotFound ctx.defaultCatalog)) ∧
    (∀ catalog, ctx.cluster.catalog ctx.defaultCatalog = some catalog → s ∉ catalog.schemas →
      ctx.useSchema s = .error (.schemaNotFound s)) := by
  rw [useCatalog_eq, useSchema_eq, ← SynapseCluster.catalog_eq_none ctx.cluster ctx.defaultCatalog]
  by_cases hc : c ∈ ctx.cluster.catalogs.map Prod.fst <;>
    cases ctx.cluster.catalog ctx.defaultCatalog with
    | none => simp [hc] <;> and_intros <;> rfl
    | some catalog => by_cases hs : s ∈ catalog.schemas <;> simp [hc, hs] <;> and_intros <;> rfl

/-- 既定の catalog `datafusion` と catalog `c` を持つ cluster で：`c` へは移れ、無い catalog と、
既定の catalog に無い schema は名前の無い方の誤りになる。 -/
theorem useCatalog_useSchema_spec_on_two_catalogs :
    let ctx : SynapseContext Unit :=
      ⟨⟨⟨"datafusion", "public", "generic"⟩, ⟨[("datafusion", ⟨["public"]⟩), ("c", ⟨["s"]⟩)]⟩⟩,
        some ()⟩
    (∃ ctx', ctx.useCatalog "c" = .ok ctx') ∧
      ctx.useCatalog "missing" = .error (.catalogNotFound "missing") ∧
      ctx.useSchema "missing" = .error (.schemaNotFound "missing") :=
  ⟨(useCatalog_useSchema_spec _ "c" "missing").1.mpr (by decide),
    (useCatalog_useSchema_spec _ "missing" "missing").2.2.1 (by decide),
    (useCatalog_useSchema_spec _ "missing" "missing").2.2.2.2.2.2 _ rfl (by decide)⟩

end SynapseContext

end Synapse
