import Synapse.Engine.Context
import Mathlib.Algebra.BigOperators.Group.List
import Mathlib.Algebra.Order.Ring.Nat
import Mathlib.Tactic.DeriveFintype

/-!
# `server/flight.rs`

`SynapseSqlService` の handler のうち、`src/` の中で意味が決まるものを置く：自分で誤りを
作るだけの 25 個の handler と、`do_put_statement_update`。ほかの handler は ticket、
FlightInfo、Arrow の stream を `src/` の外の library で組み立てる。

## `Status`

handler が返す誤りは tonic の `Status`（code と message）である。ここで扱う handler が
自分で作る誤りは `Status::unimplemented` だけなので、`Code` には `Unimplemented` と、下の
層から受け取ってそのまま返す誤りの code をまとめた `other` だけを置く。

## 実装されていない handler

25 個の handler は、要求を読まずに `Err(Status::unimplemented(message))` を返す
（`unimplementedHandler`）。message は handler ごとの文字列で、ほとんどは handler の名前を
含む（`"<name> not implemented"` か `"Implement <name>"`）。`get_flight_info_cross_reference`
だけは `get_flight_info_imported_keys` の message を返す。同じ誤りを `do_get` 側で返す
`do_get_cross_reference` は自分の名前を書いている。

* `handle_unimplemented` — どれも code `Unimplemented` の誤りを返す
* `message_names_handler` — cross reference 以外の message は自分の名前を含む
* `getFlightInfoCrossReference_eq_importedKeys` — cross reference の誤りは imported keys の
  誤りと同じで、client は二つを区別できない。ほかの二つの handler は必ず違う誤りを返す

## `do_put_statement_update`

`DoPut` の SQL を session の dialect で文に直し、`COPY this TO <topic>` のときだけ、
流れてくる record batch を topic の publisher に一つずつ送り、最後に `flush` して、
行数の合計を返す。ほかの文では `todo!()` に落ち、topic が無ければ `unwrap()` が
panic する。

流れ（`FlightRecordBatchStream`）は batch か誤りを順に出す有限の列とする。誤りを
出したところで handler は `?` で返るので、その先は読まれない。publisher は状態を
持ち、`send` と `flush` はそれぞれ失敗しうる。handler の結果は返した値か panic で、
publisher が受けた呼び出しの列と組にする。

行数 `rows` は `usize`（64 bit。release build では桁あふれで回る）で、`rows as i64`
は同じ 64 bit を 2 の補数で読む（`asI64`）。

* `sendBatches_append` — 誤りの無い batch の列を送り切ると、呼び出しの列はそれらの
  `send` で、行数はそれらの `num_rows` を足したもの
* `doPutStatementUpdate_copy` — `COPY this TO t` の三つの場合：すべて成功、途中で
  流れが誤りを出す、途中で `send` が失敗する
* `doPutStatementUpdate_panics` — 受け付けない文と無い topic では、ほかの `DoPut` の
  handler のように誤りを返さず panic する
-/

namespace Synapse

/-! ## `Status` -/

/-- tonic の `Code`。 -/
inductive Code where
  | unimplemented
  /-- ほかの code。下の層から受け取った誤りにだけ現れ、ここでは区別しない。 -/
  | other
  deriving DecidableEq, Repr

/-- tonic の `Status`。 -/
structure Status where
  code : Code
  message : String
  deriving DecidableEq, Repr

/-- `Status::unimplemented(message)`。 -/
def Status.unimplemented (message : String) : Status := ⟨.unimplemented, message⟩

/-! ## 実装されていない handler -/

/-- 実装されていない handler の本体：`Err(Status::unimplemented(message))`。 -/
def unimplementedHandler (message : String) : Except Status α := .error (.unimplemented message)

/-! ### handler -/

def getFlightInfoSubstraitPlan : Except Status α :=
  unimplementedHandler "get_flight_info_substrait_plan not implemented"

def getFlightInfoPreparedStatement : Except Status α :=
  unimplementedHandler "get_flight_info_prepared_statement not implemented"

def getFlightInfoTableTypes : Except Status α :=
  unimplementedHandler "get_flight_info_table_types not implemented"

def getFlightInfoPrimaryKeys : Except Status α :=
  unimplementedHandler "get_flight_info_primary_keys not implemented"

def getFlightInfoExportedKeys : Except Status α :=
  unimplementedHandler "get_flight_info_exported_keys not implemented"

def getFlightInfoImportedKeys : Except Status α :=
  unimplementedHandler "get_flight_info_imported_keys not implemented"

/-- message は `get_flight_info_imported_keys` のもの。 -/
def getFlightInfoCrossReference : Except Status α :=
  unimplementedHandler "get_flight_info_imported_keys not implemented"

def getFlightInfoXdbcTypeInfo : Except Status α :=
  unimplementedHandler "get_flight_info_xdbc_type_info not implemented"

def doGetPreparedStatement : Except Status α :=
  unimplementedHandler "do_get_prepared_statement not implemented"

def doGetTableTypes : Except Status α :=
  unimplementedHandler "do_get_table_types not implemented"

def doGetPrimaryKeys : Except Status α :=
  unimplementedHandler "do_get_primary_keys not implemented"

def doGetExportedKeys : Except Status α :=
  unimplementedHandler "do_get_exported_keys not implemented"

def doGetImportedKeys : Except Status α :=
  unimplementedHandler "do_get_imported_keys not implemented"

def doGetCrossReference : Except Status α :=
  unimplementedHandler "do_get_cross_reference not implemented"

def doGetXdbcTypeInfo : Except Status α :=
  unimplementedHandler "do_get_xdbc_type_info not implemented"

def doPutSubstraitPlan : Except Status α :=
  unimplementedHandler "do_put_substrait_plan not implemented"

def doPutPreparedStatementQuery : Except Status α :=
  unimplementedHandler "do_put_prepared_statement_query not implemented"

def doPutPreparedStatementUpdate : Except Status α :=
  unimplementedHandler "do_put_prepared_statement_update not implemented"

def doActionClosePreparedStatement : Except Status α :=
  unimplementedHandler "Implement do_action_close_prepared_statement"

def doActionCreatePreparedSubstraitPlan : Except Status α :=
  unimplementedHandler "Implement do_action_create_prepared_substrait_plan"

def doActionBeginTransaction : Except Status α :=
  unimplementedHandler "Implement do_action_begin_transaction"

def doActionEndTransaction : Except Status α :=
  unimplementedHandler "Implement do_action_end_transaction"

def doActionBeginSavepoint : Except Status α :=
  unimplementedHandler "Implement do_action_begin_savepoint"

def doActionEndSavepoint : Except Status α :=
  unimplementedHandler "Implement do_action_end_savepoint"

def doActionCancelQuery : Except Status α :=
  unimplementedHandler "Implement do_action_cancel_query"

/-! ### RPC から handler へ -/

/-- 実装されていない handler を呼ぶ RPC。 -/
inductive UnimplementedRpc where
  | getFlightInfoSubstraitPlan
  | getFlightInfoPreparedStatement
  | getFlightInfoTableTypes
  | getFlightInfoPrimaryKeys
  | getFlightInfoExportedKeys
  | getFlightInfoImportedKeys
  | getFlightInfoCrossReference
  | getFlightInfoXdbcTypeInfo
  | doGetPreparedStatement
  | doGetTableTypes
  | doGetPrimaryKeys
  | doGetExportedKeys
  | doGetImportedKeys
  | doGetCrossReference
  | doGetXdbcTypeInfo
  | doPutSubstraitPlan
  | doPutPreparedStatementQuery
  | doPutPreparedStatementUpdate
  | doActionClosePreparedStatement
  | doActionCreatePreparedSubstraitPlan
  | doActionBeginTransaction
  | doActionEndTransaction
  | doActionBeginSavepoint
  | doActionEndSavepoint
  | doActionCancelQuery
  deriving DecidableEq, Repr, Fintype

namespace UnimplementedRpc

/-- `FlightSqlService` の trait method の名前。 -/
def name : UnimplementedRpc → String
  | getFlightInfoSubstraitPlan => "get_flight_info_substrait_plan"
  | getFlightInfoPreparedStatement => "get_flight_info_prepared_statement"
  | getFlightInfoTableTypes => "get_flight_info_table_types"
  | getFlightInfoPrimaryKeys => "get_flight_info_primary_keys"
  | getFlightInfoExportedKeys => "get_flight_info_exported_keys"
  | getFlightInfoImportedKeys => "get_flight_info_imported_keys"
  | getFlightInfoCrossReference => "get_flight_info_cross_reference"
  | getFlightInfoXdbcTypeInfo => "get_flight_info_xdbc_type_info"
  | doGetPreparedStatement => "do_get_prepared_statement"
  | doGetTableTypes => "do_get_table_types"
  | doGetPrimaryKeys => "do_get_primary_keys"
  | doGetExportedKeys => "do_get_exported_keys"
  | doGetImportedKeys => "do_get_imported_keys"
  | doGetCrossReference => "do_get_cross_reference"
  | doGetXdbcTypeInfo => "do_get_xdbc_type_info"
  | doPutSubstraitPlan => "do_put_substrait_plan"
  | doPutPreparedStatementQuery => "do_put_prepared_statement_query"
  | doPutPreparedStatementUpdate => "do_put_prepared_statement_update"
  | doActionClosePreparedStatement => "do_action_close_prepared_statement"
  | doActionCreatePreparedSubstraitPlan => "do_action_create_prepared_substrait_plan"
  | doActionBeginTransaction => "do_action_begin_transaction"
  | doActionEndTransaction => "do_action_end_transaction"
  | doActionBeginSavepoint => "do_action_begin_savepoint"
  | doActionEndSavepoint => "do_action_end_savepoint"
  | doActionCancelQuery => "do_action_cancel_query"

/-- RPC を受けた service が呼ぶ handler。 -/
def handle : UnimplementedRpc → Except Status α
  | getFlightInfoSubstraitPlan => Synapse.getFlightInfoSubstraitPlan
  | getFlightInfoPreparedStatement => Synapse.getFlightInfoPreparedStatement
  | getFlightInfoTableTypes => Synapse.getFlightInfoTableTypes
  | getFlightInfoPrimaryKeys => Synapse.getFlightInfoPrimaryKeys
  | getFlightInfoExportedKeys => Synapse.getFlightInfoExportedKeys
  | getFlightInfoImportedKeys => Synapse.getFlightInfoImportedKeys
  | getFlightInfoCrossReference => Synapse.getFlightInfoCrossReference
  | getFlightInfoXdbcTypeInfo => Synapse.getFlightInfoXdbcTypeInfo
  | doGetPreparedStatement => Synapse.doGetPreparedStatement
  | doGetTableTypes => Synapse.doGetTableTypes
  | doGetPrimaryKeys => Synapse.doGetPrimaryKeys
  | doGetExportedKeys => Synapse.doGetExportedKeys
  | doGetImportedKeys => Synapse.doGetImportedKeys
  | doGetCrossReference => Synapse.doGetCrossReference
  | doGetXdbcTypeInfo => Synapse.doGetXdbcTypeInfo
  | doPutSubstraitPlan => Synapse.doPutSubstraitPlan
  | doPutPreparedStatementQuery => Synapse.doPutPreparedStatementQuery
  | doPutPreparedStatementUpdate => Synapse.doPutPreparedStatementUpdate
  | doActionClosePreparedStatement => Synapse.doActionClosePreparedStatement
  | doActionCreatePreparedSubstraitPlan => Synapse.doActionCreatePreparedSubstraitPlan
  | doActionBeginTransaction => Synapse.doActionBeginTransaction
  | doActionEndTransaction => Synapse.doActionEndTransaction
  | doActionBeginSavepoint => Synapse.doActionBeginSavepoint
  | doActionEndSavepoint => Synapse.doActionEndSavepoint
  | doActionCancelQuery => Synapse.doActionCancelQuery

/-- handler が返す誤りの message。 -/
def message (r : UnimplementedRpc) : String :=
  match (r.handle : Except Status Unit) with
  | .error s => s.message
  | .ok _ => ""

/-- どの handler も、自分の message を持つ `Unimplemented` の誤りを返す。 -/
theorem handle_unimplemented (r : UnimplementedRpc) :
    (r.handle : Except Status α) = .error (.unimplemented r.message) := by
  cases r <;> rfl

/-- cross reference のほかは、message が handler の名前を含む。 -/
theorem message_names_handler :
    ∀ r : UnimplementedRpc, r ≠ getFlightInfoCrossReference →
      r.message = r.name ++ " not implemented" ∨ r.message = "Implement " ++ r.name := by
  decide

/--
**`get_flight_info_cross_reference` の誤りは `get_flight_info_imported_keys` の誤りと同じ。**

ほかのどの二つの handler も違う message を返すので、client が誤りから handler を
見分けられないのはこの組だけである。`do_get` 側の `do_get_cross_reference` は
`do_get_imported_keys` と違う誤りを返す。
-/
theorem getFlightInfoCrossReference_eq_importedKeys :
    (getFlightInfoCrossReference.handle : Except Status α) = getFlightInfoImportedKeys.handle ∧
    (doGetCrossReference.handle : Except Status α) ≠ doGetImportedKeys.handle ∧
    ∀ r₁ r₂ : UnimplementedRpc, r₁.message = r₂.message → r₁ = r₂ ∨
      ({r₁, r₂} : Finset UnimplementedRpc) = {getFlightInfoCrossReference, getFlightInfoImportedKeys} := by
  refine ⟨rfl, fun h => ?_, by decide⟩
  rw [handle_unimplemented, handle_unimplemented] at h
  exact absurd (congrArg Status.message (Except.error.inj h)) (by decide)

end UnimplementedRpc

/-! ## `do_put_statement_update` -/

/-- sqlparser の `Ident`。 -/
structure Ident where
  value : String
  quoteStyle : Option Char
  deriving DecidableEq, Repr

/-- `Ident::new(value)`：引用符なし。 -/
def Ident.new (value : String) : Ident := ⟨value, none⟩

/-- `CopyToSource`。 -/
inductive CopyToSource where
  /-- `Relation(ObjectName(idents))`。 -/
  | relation (idents : List Ident)
  | query
  deriving DecidableEq, Repr

/-- sqlparser の `Statement`。handler が見るのは `CopyTo` の source と target だけ。 -/
inductive Statement where
  | copyTo (source : CopyToSource) (target : String)
  | other
  deriving DecidableEq, Repr

/-- handler が落ちる panic。 -/
inductive Panic where
  | todo
  /-- `Option::unwrap()` が `None` を受けた。 -/
  | unwrapNone
  deriving DecidableEq, Repr

/-- handler の終わり方。 -/
inductive Outcome (α : Type) where
  | returned (result : Except Status α)
  | panicked (reason : Panic)

/-- topic の publisher（`publish()` の返すもの）。`σ` は publisher の状態。 -/
structure Publisher (σ β : Type) where
  send : σ → β → Except Status σ
  flush : σ → Except Status σ

/-- publisher が受けた呼び出し。 -/
inductive PublisherCall (β : Type) where
  | send (batch : β)
  | flush
  deriving DecidableEq, Repr

/-- handler が使う engine の部分。 -/
structure FlightEngine (σ β : Type) where
  config : SynapseConfig
  /-- `state.sql_to_statement(query, dialect)`。 -/
  sqlToStatement : String → String → Except Status Statement
  /-- `engine.topic(target).get()` に続く `publish()`：topic があれば publisher の
  最初の状態。 -/
  topic : String → Option σ
  publisher : Publisher σ β
  numRows : β → UInt64

/-- `x as i64`：同じ 64 bit を 2 の補数で読む。 -/
def asI64 (x : UInt64) : Int := if x.toNat < 2 ^ 63 then x.toNat else x.toNat - 2 ^ 64

/-- `while let Some(batch) = stream.try_next().await? { rows += batch.num_rows();
pb.send(batch).await?; }`。結果（publisher の状態と行数）と、publisher が受けた
呼び出しの列を返す。 -/
def sendBatches (pb : Publisher σ β) (numRows : β → UInt64) :
    List (Except Status β) → σ → UInt64 → Except Status (σ × UInt64) × List (PublisherCall β)
  | [], st, rows => (.ok (st, rows), [])
  | .error e :: _, _, _ => (.error e, [])
  | .ok batch :: rest, st, rows =>
    match pb.send st batch with
    | .error e => (.error e, [.send batch])
    | .ok st' =>
      match sendBatches pb numRows rest st' (rows + numRows batch) with
      | (r, calls) => (r, .send batch :: calls)

/-- ループの後：`pb.flush().await?; Ok(rows as i64)`。 -/
def copyToTopic (eng : FlightEngine σ β) (pb : σ) (stream : List (Except Status β)) :
    Except Status Int × List (PublisherCall β) :=
  match sendBatches eng.publisher eng.numRows stream pb 0 with
  | (.error e, calls) => (.error e, calls)
  | (.ok (pb, rows), calls) =>
    match eng.publisher.flush pb with
    | .error e => (.error e, calls ++ [.flush])
    | .ok _ => (.ok (asI64 rows), calls ++ [.flush])

/-- `do_put_statement_update(ticket, request)`。 -/
def doPutStatementUpdate (eng : FlightEngine σ β) (query : String)
    (stream : List (Except Status β)) : Outcome Int × List (PublisherCall β) :=
  match eng.sqlToStatement query eng.config.sqlParserDialect with
  | .error e => (.returned (.error e), [])
  | .ok (.copyTo (.relation idents) target) =>
    if idents = [Ident.new "this"] then
      match eng.topic target with
      | some pb =>
        match copyToTopic eng pb stream with
        | (r, calls) => (.returned r, calls)
      | none => (.panicked .unwrapNone, [])
    else (.panicked .todo, [])
  | .ok _ => (.panicked .todo, [])

/-- 誤り無く `bs` を順に送り切った publisher の状態。 -/
def Publisher.sendAll (pb : Publisher σ β) : σ → List β → Except Status σ
  | st, [] => .ok st
  | st, b :: bs => pb.send st b >>= fun st' => pb.sendAll st' bs

theorem sendAll_cons {pb : Publisher σ β} {st st' : σ} {b : β} {bs : List β}
    (h : pb.sendAll st (b :: bs) = .ok st') : ∃ st₁, pb.send st b = .ok st₁ ∧ pb.sendAll st₁ bs = .ok st' := by
  simp only [Publisher.sendAll, bind, Except.bind] at h
  split at h
  · cases h
  · exact ⟨_, ‹_›, h⟩

/-- 誤りの無い batch の列を送り切ると、publisher はそれらを順に一度ずつ受け、行数には
それらの `num_rows` が足される。その先は残りの流れ次第である。 -/
theorem sendBatches_append (pb : Publisher σ β) (numRows : β → UInt64) (rest : List (Except Status β)) :
    ∀ {bs : List β} {st st' : σ} (rows : UInt64), pb.sendAll st bs = .ok st' →
      sendBatches pb numRows (bs.map .ok ++ rest) st rows =
        ((sendBatches pb numRows rest st' (bs.foldl (fun r b => r + numRows b) rows)).1,
          bs.map .send ++ (sendBatches pb numRows rest st' (bs.foldl (fun r b => r + numRows b) rows)).2)
  | [], _, _, _, h => by cases h; rfl
  | b :: bs, _, _, rows, h => by
    obtain ⟨st₁, h1, h2⟩ := sendAll_cons h
    rw [List.map_cons, List.cons_append, sendBatches, h1]
    simp only [sendBatches_append pb numRows rest (rows + numRows b) h2, List.foldl_cons,
      List.map_cons, List.cons_append]

/-- 足し合わせた行数を自然数で読む。 -/
theorem toNat_foldl_add (f : β → UInt64) :
    ∀ (bs : List β) (rows : UInt64),
      (bs.foldl (fun r b => r + f b) rows).toNat = (rows.toNat + (bs.map fun b => (f b).toNat).sum) % 2 ^ 64
  | [], rows => by simpa using (Nat.mod_eq_of_lt (show rows.toNat < 2 ^ 64 from rows.toBitVec.isLt)).symm
  | b :: bs, rows => by
    have hadd : (rows + f b).toNat = (rows.toNat + (f b).toNat) % 2 ^ 64 := rfl
    rw [List.foldl_cons, toNat_foldl_add f bs, hadd, List.map_cons, List.sum_cons, Nat.mod_add_mod,
      Nat.add_assoc]

/-- 2^63 より小さい行数は `as i64` で変わらない。 -/
theorem asI64_of_lt {x : UInt64} (h : x.toNat < 2 ^ 63) : asI64 x = x.toNat := by
  rw [asI64, if_pos h]

/-- SQL が `COPY this TO t` に直り、topic `t` があれば、handler は panic せず
`copyToTopic` の結果を返す。 -/
theorem doPutStatementUpdate_of_copy {eng : FlightEngine σ β} {query target : String} {pb₀ : σ}
    (hq : eng.sqlToStatement query eng.config.sqlParserDialect =
      .ok (.copyTo (.relation [Ident.new "this"]) target))
    (ht : eng.topic target = some pb₀) (stream : List (Except Status β)) :
    doPutStatementUpdate eng query stream =
      (.returned (copyToTopic eng pb₀ stream).1, (copyToTopic eng pb₀ stream).2) := by
  simp only [doPutStatementUpdate, hq, ht, ↓reduceIte]

/--
**`COPY this TO t` の結果と publisher が受ける呼び出し。**

SQL が `COPY this TO t` に直り、topic `t` があるとする。流れが batch `bs` を出した後に

* 終われば、publisher は `bs` を順に一度ずつ受けてから `flush` を一度受ける。どちらも
  成功し、行数の合計が `i64::MAX` 以下なら、その合計を返す
* 誤り `e` を出せば、`bs` を送っただけで `e` を返す
* 次の batch `b` の `send` が失敗すれば、`bs` と `b` を送っただけで誤りを返す

どちらの誤りの場合も `flush` は呼ばれない。
-/
theorem doPutStatementUpdate_copy (eng : FlightEngine σ β) (query target : String) (pb₀ : σ)
    (hq : eng.sqlToStatement query eng.config.sqlParserDialect =
      .ok (.copyTo (.relation [Ident.new "this"]) target))
    (ht : eng.topic target = some pb₀) (bs : List β) :
    (∀ pb₁ pb₂, eng.publisher.sendAll pb₀ bs = .ok pb₁ → eng.publisher.flush pb₁ = .ok pb₂ →
      (doPutStatementUpdate eng query (bs.map .ok)).2 = bs.map .send ++ [.flush] ∧
      ((bs.map fun b => (eng.numRows b).toNat).sum ≤ 2 ^ 63 - 1 →
        (doPutStatementUpdate eng query (bs.map .ok)).1 =
          .returned (.ok (bs.map fun b => (eng.numRows b).toNat).sum))) ∧
    (∀ pb₁ e rest, eng.publisher.sendAll pb₀ bs = .ok pb₁ →
      doPutStatementUpdate eng query (bs.map .ok ++ .error e :: rest) =
        (.returned (.error e), bs.map .send)) ∧
    (∀ pb₁ b e rest, eng.publisher.sendAll pb₀ bs = .ok pb₁ → eng.publisher.send pb₁ b = .error e →
      doPutStatementUpdate eng query (bs.map .ok ++ .ok b :: rest) =
        (.returned (.error e), (bs ++ [b]).map .send)) := by
  have hcopy := doPutStatementUpdate_of_copy hq ht
  refine ⟨fun pb₁ pb₂ hs hf => ?_, fun pb₁ e rest hs => ?_, fun pb₁ b e rest hs he => ?_⟩
  · have h := sendBatches_append eng.publisher eng.numRows [] 0 hs
    rw [List.append_nil] at h
    simp only [hcopy, copyToTopic, h, sendBatches, hf, List.append_nil]
    refine ⟨trivial, fun hsum => ?_⟩
    have hrows := toNat_foldl_add eng.numRows bs 0
    rw [UInt64.toNat_zero, Nat.zero_add, Nat.mod_eq_of_lt (by omega)] at hrows
    rw [asI64_of_lt (by omega), hrows]
  · simp only [hcopy, copyToTopic, sendBatches_append eng.publisher eng.numRows _ 0 hs, sendBatches,
      List.append_nil]
  · simp only [hcopy, copyToTopic, sendBatches_append eng.publisher eng.numRows _ 0 hs, sendBatches, he,
      List.map_append, List.map_cons, List.map_nil]

/-- 10、20、30 行の三つの batch を `COPY this TO t` で送ると、publisher は三つを順に受けて
`flush` を受け、handler は 60 を返す。 -/
theorem doPutStatementUpdate_copy_three :
    let eng : FlightEngine Unit Nat :=
      ⟨⟨"datafusion", "public", "generic"⟩,
        fun _ _ => .ok (.copyTo (.relation [Ident.new "this"]) "t"), fun _ => some (),
        ⟨fun _ _ => .ok (), fun _ => .ok ()⟩, UInt64.ofNat⟩
    eng.sqlToStatement "COPY this TO t" eng.config.sqlParserDialect =
        .ok (.copyTo (.relation [Ident.new "this"]) "t") ∧
      eng.topic "t" = some () ∧
      (doPutStatementUpdate eng "COPY this TO t" ([10, 20, 30].map .ok)).2 =
        [.send 10, .send 20, .send 30, .flush] ∧
      (doPutStatementUpdate eng "COPY this TO t" ([10, 20, 30].map .ok)).1 = .returned (.ok 60) := by
  intro eng
  have h := (doPutStatementUpdate_copy eng "COPY this TO t" "t" () rfl rfl [10, 20, 30]).1 () () rfl rfl
  exact ⟨rfl, rfl, h.1, h.2 (by decide)⟩

/-- 受け付けない文と無い topic では panic する。ほかの `DoPut` の handler
（`do_put_substrait_plan` など）は `Unimplemented` の誤りを返すが、`do_put_statement_update`
は、引用符つきの `"this"` を source とする `COPY` と `COPY` でない文では `todo!()` に落ち、
無い topic への `COPY this TO missing` では `unwrap()` で panic する。 -/
theorem doPutStatementUpdate_panics :
    let eng (st : Statement) : FlightEngine Unit Nat :=
      ⟨⟨"datafusion", "public", "generic"⟩, fun _ _ => .ok st,
        fun t => if t = "t" then some () else none, ⟨fun _ _ => .ok (), fun _ => .ok ()⟩,
        UInt64.ofNat⟩
    (doPutSubstraitPlan : Except Status Int) =
        .error (.unimplemented "do_put_substrait_plan not implemented") ∧
      (eng (.copyTo (.relation [⟨"this", some '"'⟩]) "t")).topic "t" = some () ∧
      (doPutStatementUpdate (eng (.copyTo (.relation [⟨"this", some '"'⟩]) "t"))
        "COPY \"this\" TO t" []).1 = .panicked .todo ∧
      (doPutStatementUpdate (eng .other) "INSERT INTO t VALUES (1)" []).1 = .panicked .todo ∧
      (eng (.copyTo (.relation [Ident.new "this"]) "missing")).topic "missing" = none ∧
      (doPutStatementUpdate (eng (.copyTo (.relation [Ident.new "this"]) "missing"))
        "COPY this TO missing" []).1 = .panicked .unwrapNone :=
  ⟨rfl, rfl, rfl, rfl, rfl, rfl⟩

end Synapse
