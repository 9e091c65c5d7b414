import Synapse.Engine.Context

/-!
# 並行な `shutdown()`

`SynapseContext` の clone たちは engine の slot を共有する。`shutdown()` の一回の
呼び出しは

1. `lock_owned().await` で lock を取り、
2. `std::mem::take` で slot の中身を取り出し（slot は `None` になる）、
3. 中身が `Some(engine)` なら `engine.shutdown().await?` を待ち、
4. guard を落として返る。

guard は `if let` の条件式の一時値なので、本体が終わるまで lock は放されない。
始まった呼び出しの段を一つの状態に並べ、どの呼び出しが次に進むかを任意に選ぶ
step 関係で interleaving を表す。新しい呼び出しはいつ始まってもよいので、clone の数に
上限はない。`invoked` は `Engine::shutdown` に渡された engine の記録で、code の
振る舞いには関わらない。

* `reachable_inv` — `new` が作った context から届くどの状態でも `ShutdownInv` が
  成り立つ
* `shutdown_at_most_once` — `Engine::shutdown` は高々一回、`new` が起動した engine に
  対して呼ばれ、空の slot を見た呼び出しは `Ok(())` を返す
* `lock_blocked_during_teardown` — 後始末の間、ほかの呼び出しは lock を待つ
* `shutdown_all_return` — どの届く状態からも、すべての呼び出しが返る状態へ進める
* `teardown_exclusive` — `Engine::shutdown` を待つ呼び出しは高々一つで、その間 lock は取れない
* `shutdown_completes_exactly_once` — 呼び出しが一つでもあれば、すべてが返り、engine が
  ちょうど一回止まった状態へ進める
-/

namespace Synapse

/-- 一つの `shutdown()` 呼び出しがどこにいるか。 -/
inductive ShutdownPhase (ε : Type) where
  /-- `lock_owned().await` で lock を待っている。 -/
  | locking
  /-- lock を持ち、取り出した engine の `Engine::shutdown` を待っている。 -/
  | tearingDown (engine : ε)
  /-- 返った。`tookEngine` は slot から engine を取り出したかどうか。 -/
  | returned (tookEngine : Bool) (result : Except EngineError Unit)

/-- まだ返っていない。 -/
def ShutdownPhase.pending : ShutdownPhase ε → Bool
  | .returned _ _ => false
  | _ => true

/-- slot から engine を取り出した：`Engine::shutdown` を待っているか、それから返った。 -/
def ShutdownPhase.tookEngine : ShutdownPhase ε → Bool
  | .locking => false
  | .tearingDown _ => true
  | .returned tookEngine _ => tookEngine

/-- 始まった `shutdown()` 呼び出しと共有の slot。 -/
structure ShutdownState (ε : Type) where
  slot : Option ε
  /-- lock を持っている呼び出しの番号。 -/
  holder : Option Nat
  /-- 始まった呼び出しの段。番号は始まった順。 -/
  calls : List (ShutdownPhase ε)
  /-- `Engine::shutdown` に渡された engine の記録。 -/
  invoked : List ε

/-- 次に起こること。 -/
inductive ShutdownEvent where
  /-- clone の一つが `shutdown()` を呼ぶ。 -/
  | call
  /-- 呼び出し `i` が lock を取り、slot の中身を取り出す。空なら guard を落として
  `Ok(())` を返す。 -/
  | lock (i : Nat)
  /-- 呼び出し `i` の `Engine::shutdown` が `r` で終わる。guard を落として `r` を返す。 -/
  | teardownDone (i : Nat) (r : Except EngineError Unit)

namespace ShutdownState

/-- `new` が作った context の slot。まだ誰も呼んでいない。 -/
def init (ctx : SynapseContext ε) : ShutdownState ε := ⟨ctx.engine, none, [], []⟩

/-- 一歩。起こりえない event には `none`。 -/
def step (s : ShutdownState ε) : ShutdownEvent → Option (ShutdownState ε)
  | .call => some { s with calls := s.calls ++ [.locking] }
  | .lock i =>
    match s.calls[i]?, s.holder, s.slot with
    | some .locking, none, some e =>
      some { s with slot := none, holder := some i, calls := s.calls.set i (.tearingDown e),
                    invoked := s.invoked ++ [e] }
    | some .locking, none, none => some { s with calls := s.calls.set i (.returned false (.ok ())) }
    | _, _, _ => none
  | .teardownDone i r =>
    match s.calls[i]? with
    | some (.tearingDown _) => some { s with holder := none, calls := s.calls.set i (.returned true r) }
    | _ => none

/-- `s₀` から event の列で届く状態。 -/
inductive Reachable (s₀ : ShutdownState ε) : ShutdownState ε → Prop
  | refl : Reachable s₀ s₀
  | step {s s' : ShutdownState ε} (e : ShutdownEvent) :
      Reachable s₀ s → s.step e = some s' → Reachable s₀ s'

/-- event の列を順に起こす。 -/
def run (s : ShutdownState ε) : List ShutdownEvent → Option (ShutdownState ε)
  | [] => some s
  | e :: es => s.step e >>= fun s' => s'.run es

theorem reachable_of_run {s₀ s t : ShutdownState ε} (hs : Reachable s₀ s) :
    ∀ es, s.run es = some t → Reachable s₀ t
  | [], h => by cases h; exact hs
  | e :: es, h => by
    simp only [run, Option.bind_eq_bind, Option.bind_eq_some] at h
    obtain ⟨s', h1, h2⟩ := h
    exact reachable_of_run (hs.step e h1) es h2

/-! ## 一歩でできること -/

/-- `step` の逆：一歩でできることの全部。 -/
theorem step_cases {s s' : ShutdownState ε} {ev : ShutdownEvent} (h : s.step ev = some s') :
    s' = { s with calls := s.calls ++ [.locking] } ∨
    (∃ i e, s.calls[i]? = some .locking ∧ s.holder = none ∧ s.slot = some e ∧
      s' = { s with slot := none, holder := some i, calls := s.calls.set i (.tearingDown e),
                    invoked := s.invoked ++ [e] }) ∨
    (∃ i, s.calls[i]? = some .locking ∧ s.holder = none ∧ s.slot = none ∧
      s' = { s with calls := s.calls.set i (.returned false (.ok ())) }) ∨
    (∃ i e r, s.calls[i]? = some (.tearingDown e) ∧
      s' = { s with holder := none, calls := s.calls.set i (.returned true r) }) := by
  cases ev with
  | call => cases h; exact .inl rfl
  | lock i =>
    simp only [step] at h
    split at h
    · cases h; exact .inr (.inl ⟨i, _, ‹_›, ‹_›, ‹_›, rfl⟩)
    · cases h; exact .inr (.inr (.inl ⟨i, ‹_›, ‹_›, ‹_›, rfl⟩))
    · cases h
  | teardownDone i r =>
    simp only [step] at h
    split at h
    · cases h; exact .inr (.inr (.inr ⟨i, _, r, ‹_›, rfl⟩))
    · cases h

/-! ## 不変条件 -/

/-- 届く状態で成り立つこと。`e₀` は `new` が起動した engine。 -/
structure ShutdownInv (e₀ : ε) (s : ShutdownState ε) : Prop where
  /-- engine は slot にあるか、ただ一度 `Engine::shutdown` に渡された。 -/
  engine : (s.slot = some e₀ ∧ s.invoked = []) ∨ (s.slot = none ∧ s.invoked = [e₀])
  /-- `Engine::shutdown` を待つ呼び出しは lock を持っている。 -/
  tearingDown_holder : ∀ i e, s.calls[i]? = some (.tearingDown e) → s.holder = some i
  /-- lock を持つ呼び出しは `Engine::shutdown` を待っている。 -/
  holder_tearingDown : ∀ i, s.holder = some i → ∃ e, s.calls[i]? = some (.tearingDown e)
  /-- 空の slot を見た呼び出しは `Ok(())` を返した。 -/
  emptyOk : ∀ r, .returned false r ∈ s.calls → r = .ok ()

variable {e₀ : ε}

theorem inv_init {state : SynapseState} : ShutdownInv e₀ (init ⟨state, some e₀⟩) where
  engine := .inl ⟨rfl, rfl⟩
  tearingDown_holder _ _ h := by simp [ShutdownState.init] at h
  holder_tearingDown _ h := by cases h
  emptyOk _ h := by cases h

/-- 呼び出し `i` の段を `p` に変えた列の `j` 番目。 -/
theorem getElem?_set_phase {l : List (ShutdownPhase ε)} {i j : Nat} {p : ShutdownPhase ε}
    (hi : i < l.length) : (l.set i p)[j]? = if i = j then some p else l[j]? := by
  rw [List.getElem?_set]
  split_ifs <;> rfl

theorem step_inv {s s' : ShutdownState ε} {ev : ShutdownEvent} (hi : ShutdownInv e₀ s)
    (h : s.step ev = some s') : ShutdownInv e₀ s' := by
  rcases step_cases h with rfl | ⟨i, e, hc, hh, hs, rfl⟩ | ⟨i, hc, hh, hs, rfl⟩ | ⟨i, e, r, hc, rfl⟩
  · -- call：新しい呼び出しは lock を待つ
    refine ⟨hi.engine, fun j e hj => ?_, fun j hj => ?_, fun r hr => ?_⟩
    · rcases Nat.lt_or_ge j s.calls.length with hlt | hge
      · exact hi.tearingDown_holder j e (by rwa [List.getElem?_append_left hlt] at hj)
      · rw [List.getElem?_append_right hge] at hj
        cases h : j - s.calls.length <;> simp [h] at hj
    · obtain ⟨e, he⟩ := hi.holder_tearingDown j hj
      exact ⟨e, by rw [List.getElem?_append_left (List.getElem?_eq_some_iff.mp he).1, he]⟩
    · rcases List.mem_append.mp hr with hr | hr
      · exact hi.emptyOk r hr
      · simp at hr
  · -- lock：engine を取り出した
    have hlt : i < s.calls.length := (List.getElem?_eq_some_iff.mp hc).1
    refine ⟨?_, fun j e' hj => ?_, fun j hj => ⟨e, ?_⟩, fun r hr => ?_⟩
    · rcases hi.engine with ⟨h1, h2⟩ | ⟨h1, -⟩
      · rw [hs] at h1; cases h1
        exact .inr ⟨rfl, by simp [h2]⟩
      · rw [hs] at h1; cases h1
    · rw [getElem?_set_phase hlt] at hj
      split_ifs at hj with hij
      · exact congrArg some hij
      · simpa [hh] using hi.tearingDown_holder j e' hj
    · cases hj; simp [getElem?_set_phase hlt]
    · rcases List.mem_or_eq_of_mem_set hr with hr | hr
      · exact hi.emptyOk r hr
      · cases hr
  · -- lock：slot は空だった
    have hlt : i < s.calls.length := (List.getElem?_eq_some_iff.mp hc).1
    refine ⟨hi.engine, fun j e' hj => ?_, fun j hj => by simp [hh] at hj, fun r hr => ?_⟩
    · rw [getElem?_set_phase hlt] at hj
      split_ifs at hj
      · cases hj
      · simpa [hh] using hi.tearingDown_holder j e' hj
    · rcases List.mem_or_eq_of_mem_set hr with hr | hr
      · exact hi.emptyOk r hr
      · cases hr; rfl
  · -- teardownDone：guard を落とす
    have hlt : i < s.calls.length := (List.getElem?_eq_some_iff.mp hc).1
    have hhi := hi.tearingDown_holder i e hc
    refine ⟨hi.engine, fun j e' hj => ?_, fun j hj => (by cases hj), fun r' hr => ?_⟩
    · rw [getElem?_set_phase hlt] at hj
      split_ifs at hj with hij
      · cases hj
      · rw [hi.tearingDown_holder j e' hj] at hhi
        exact absurd (Option.some.inj hhi).symm hij
    · rcases List.mem_or_eq_of_mem_set hr with hr | hr
      · exact hi.emptyOk r' hr
      · cases hr

theorem Reachable.inv {s₀ s : ShutdownState ε} (h : Reachable s₀ s) (h₀ : ShutdownInv e₀ s₀) :
    ShutdownInv e₀ s := by
  induction h with
  | refl => exact h₀
  | step _ _ hstep ih => exact step_inv ih hstep

/-- `new` が作った context から届くどの状態でも `ShutdownInv` が成り立つ。 -/
theorem reachable_inv {start : SynapseState → Except EngineError ε} {state : SynapseState}
    {ctx : SynapseContext ε} (hnew : SynapseContext.new start state = .ok ctx)
    {s : ShutdownState ε} (hs : (init ctx).Reachable s) :
    ∃ e₀, start state = .ok e₀ ∧ ShutdownInv e₀ s := by
  obtain ⟨e₀, he, rfl⟩ := SynapseContext.new_eq_ok hnew
  exact ⟨e₀, he, hs.inv inv_init⟩

/--
**`shutdown()` は engine を高々一回止める。**

`new` が作った context の clone たちが何回 `shutdown()` を呼んでも、どう混ざっても、
`Engine::shutdown` に渡されるのは `new` が起動した engine だけで、高々一回である。
空の slot を見た呼び出しは `Ok(())` を返す。
-/
theorem shutdown_at_most_once (start : SynapseState → Except EngineError ε)
    (state : SynapseState) (ctx : SynapseContext ε)
    (hnew : SynapseContext.new start state = .ok ctx) (s : ShutdownState ε)
    (hs : (init ctx).Reachable s) :
    ∃ e₀, start state = .ok e₀ ∧ (s.invoked = [] ∨ s.invoked = [e₀]) ∧
      ∀ r, .returned false r ∈ s.calls → r = .ok () := by
  obtain ⟨e₀, he, hi⟩ := reachable_inv hnew hs
  exact ⟨e₀, he, hi.engine.imp And.right And.right, hi.emptyOk⟩

/-- 二つの clone が続けて `shutdown()` を呼ぶ。一つ目が engine を止め、二つ目は空の
slot を見て `Ok(())` を返す。 -/
theorem shutdown_at_most_once_twice :
    let state : SynapseState := ⟨⟨"datafusion", "public", "generic"⟩, ⟨[]⟩⟩
    let s : ShutdownState Nat :=
      ⟨none, none, [.returned true (.ok ()), .returned false (.ok ())], [7]⟩
    SynapseContext.new (fun _ => .ok 7) state = .ok ⟨state, some 7⟩ ∧
      (init ⟨state, some 7⟩).Reachable s ∧
      ∃ e₀, (fun _ => Except.ok 7 : SynapseState → Except EngineError Nat) state = .ok e₀ ∧
        (s.invoked = [] ∨ s.invoked = [e₀]) ∧ ∀ r, .returned false r ∈ s.calls → r = .ok () := by
  intro state s
  have hs : (init ⟨state, some 7⟩).Reachable s :=
    reachable_of_run .refl [.call, .call, .lock 0, .teardownDone 0 (.ok ()), .lock 1] rfl
  exact ⟨rfl, hs, shutdown_at_most_once (fun _ => .ok 7) state ⟨state, some 7⟩ rfl s hs⟩

/-- `Engine::shutdown` を待つ呼び出しがある間は、ほかのどの呼び出しも lock を取れない。
guard は `if let` の本体が終わるまで落ちないので、後から来た `shutdown()` は先の
呼び出しの後始末が終わるまで返らない。 -/
theorem lock_blocked_during_teardown {s : ShutdownState ε} (hi : ShutdownInv e₀ s) {i : Nat} {e : ε}
    (h : s.calls[i]? = some (.tearingDown e)) (j : Nat) : s.step (.lock j) = none := by
  have hh := hi.tearingDown_holder i e h
  simp only [step, hh]
  split <;> simp_all

/-! ## すべての呼び出しが返ること -/

/-- 返っていない呼び出しの数。 -/
def pendingCount (s : ShutdownState ε) : Nat := s.calls.countP ShutdownPhase.pending

theorem run_append (s : ShutdownState ε) (es₁ es₂ : List ShutdownEvent) :
    s.run (es₁ ++ es₂) = s.run es₁ >>= fun t => t.run es₂ := by
  induction es₁ generalizing s with
  | nil => rfl
  | cons e es ih =>
    simp only [List.cons_append, run, Option.bind_eq_bind]
    cases s.step e with
    | none => rfl
    | some s' => exact ih s'

/-- 返っていない呼び出しの段を返った段に変えると、返っていない呼び出しが一つ減る。 -/
theorem countP_set_returned {l : List (ShutdownPhase ε)} {i : Nat} {c : ShutdownPhase ε}
    (h : l[i]? = some c) (hc : c.pending = true) (b : Bool) (r : Except EngineError Unit) :
    (l.set i (.returned b r)).countP ShutdownPhase.pending + 1 = l.countP ShutdownPhase.pending := by
  obtain ⟨hlt, hget⟩ := List.getElem?_eq_some_iff.mp h
  have hpos : 0 < l.countP ShutdownPhase.pending :=
    List.countP_pos_iff.mpr ⟨c, List.mem_iff_getElem?.mpr ⟨i, h⟩, hc⟩
  rw [List.countP_set _ _ _ _ hlt, hget, hc]
  simp only [if_true, ShutdownPhase.pending, Bool.false_eq_true, if_false]
  omega

/--
返っていない呼び出しがあれば、一つか二つの event で、返っていない呼び出しが一つ減る。

lock を持つ呼び出しがあれば、その `Engine::shutdown` が終わる。なければ待っている
呼び出しが lock を取り、slot が空ならそのまま返り、engine があればそれを止めて返る。
-/
theorem ShutdownInv.progress {s : ShutdownState ε} (hi : ShutdownInv e₀ s) (hp : 0 < s.pendingCount) :
    ∃ es t, s.run es = some t ∧ t.pendingCount + 1 = s.pendingCount := by
  cases hh : s.holder with
  | some j =>
    obtain ⟨e, he⟩ := hi.holder_tearingDown j hh
    refine ⟨[.teardownDone j (.ok ())], _, by simp only [run, step, he]; rfl, ?_⟩
    exact countP_set_returned he rfl true (.ok ())
  | none =>
    obtain ⟨c, hc, hpc⟩ := List.countP_pos_iff.mp hp
    obtain ⟨i, hci⟩ := List.mem_iff_getElem?.mp hc
    have hlt : i < s.calls.length := (List.getElem?_eq_some_iff.mp hci).1
    cases c with
    | returned => cases hpc
    | tearingDown e => rw [hi.tearingDown_holder i e hci] at hh; cases hh
    | locking =>
      cases hsl : s.slot with
      | none =>
        refine ⟨[.lock i], _, by simp only [run, step, hci, hh, hsl]; rfl, ?_⟩
        exact countP_set_returned hci rfl false (.ok ())
      | some e =>
        refine ⟨[.lock i, .teardownDone i (.ok ())], _, by
          simp only [run, step, hci, hh, hsl, Option.bind_eq_bind, Option.some_bind,
            List.getElem?_set_self hlt, List.set_set]; rfl, ?_⟩
        exact countP_set_returned hci rfl true (.ok ())

/--
**`shutdown()` の呼び出しはどれも返ることができる。**

どの届く状態からも、event を選んで進めれば、始まった呼び出しがすべて返った状態に届く。
lock を持ったまま止まる呼び出しや、lock を待ち続ける呼び出しは残らない。
-/
theorem shutdown_all_return {start : SynapseState → Except EngineError ε} {state : SynapseState}
    {ctx : SynapseContext ε} (hnew : SynapseContext.new start state = .ok ctx)
    {s : ShutdownState ε} (hs : (init ctx).Reachable s) :
    ∃ es t, s.run es = some t ∧ ∀ c ∈ t.calls, c.pending = false := by
  suffices h : ∀ n (s : ShutdownState ε), (init ctx).Reachable s → s.pendingCount = n →
      ∃ es t, s.run es = some t ∧ t.pendingCount = 0 by
    obtain ⟨es, t, ht, h0⟩ := h _ s hs rfl
    exact ⟨es, t, ht, fun c hc => by
      simpa using List.countP_eq_zero.mp h0 c hc⟩
  intro n
  induction n with
  | zero => exact fun s _ h0 => ⟨[], s, rfl, h0⟩
  | succ n ih =>
    intro s hs hn
    obtain ⟨e₀, -, hi⟩ := reachable_inv hnew hs
    obtain ⟨es₁, t₁, h₁, hc⟩ := hi.progress (by omega)
    obtain ⟨es₂, t, h₂, h0⟩ := ih t₁ (reachable_of_run hs es₁ h₁) (by omega)
    exact ⟨es₁ ++ es₂, t, by rw [run_append, h₁]; exact h₂, h0⟩

/-! ## 後始末の排他と、ちょうど一回 -/

/--
**後始末は排他的である。**

`new` が作った context から届くどの状態でも、`Engine::shutdown` を待つ呼び出しは高々
一つで、その間ほかのどの呼び出しも lock を取れない。
-/
theorem teardown_exclusive {start : SynapseState → Except EngineError ε} {state : SynapseState}
    {ctx : SynapseContext ε} (hnew : SynapseContext.new start state = .ok ctx)
    {s : ShutdownState ε} (hs : (init ctx).Reachable s) {i j : Nat} {e e' : ε}
    (hi : s.calls[i]? = some (.tearingDown e)) (hj : s.calls[j]? = some (.tearingDown e')) :
    i = j ∧ ∀ k, s.step (.lock k) = none := by
  obtain ⟨e₀, -, hinv⟩ := reachable_inv hnew hs
  exact ⟨Option.some.inj ((hinv.tearingDown_holder i e hi).symm.trans
    (hinv.tearingDown_holder j e' hj)), lock_blocked_during_teardown hinv hi⟩

/-- 二つの clone が `shutdown()` を呼び、一つ目が engine を止めている間。 -/
theorem teardown_exclusive_while_first_tears_down :
    let state : SynapseState := ⟨⟨"datafusion", "public", "generic"⟩, ⟨[]⟩⟩
    let s : ShutdownState Nat := ⟨none, some 0, [.tearingDown 7, .locking], [7]⟩
    SynapseContext.new (fun _ => .ok 7) state = .ok ⟨state, some 7⟩ ∧
      (init ⟨state, some 7⟩).Reachable s ∧ s.calls[0]? = some (.tearingDown 7) ∧
      ∀ k, s.step (.lock k) = none := by
  intro state s
  have hs : (init ⟨state, some 7⟩).Reachable s := reachable_of_run .refl [.call, .call, .lock 0] rfl
  exact ⟨rfl, hs, rfl, (@teardown_exclusive _ (fun _ => .ok 7) _ _ rfl _ hs 0 0 7 7 rfl rfl).2⟩

/-- engine を取り出した呼び出しと `Engine::shutdown` の記録の関係。 -/
structure TakeInv (s : ShutdownState ε) : Prop where
  /-- engine を取り出した呼び出しの数は、`Engine::shutdown` に渡した回数に等しい。 -/
  took : s.calls.countP ShutdownPhase.tookEngine = s.invoked.length
  /-- 空の slot を見て返った呼び出しがあれば、slot は空のままである。 -/
  emptySlot : ∀ r, .returned false r ∈ s.calls → s.slot = none

theorem takeInv_init (ctx : SynapseContext ε) : TakeInv (init ctx) :=
  ⟨rfl, fun _ h => by cases h⟩

theorem step_takeInv {s s' : ShutdownState ε} {ev : ShutdownEvent} (hi : TakeInv s)
    (h : s.step ev = some s') : TakeInv s' := by
  rcases step_cases h with rfl | ⟨i, e, hc, -, -, rfl⟩ | ⟨i, hc, -, hs, rfl⟩ | ⟨i, e, r, hc, rfl⟩
  · -- call：新しい呼び出しはまだ何も取り出していない
    refine ⟨by simp [List.countP_append, hi.took, ShutdownPhase.tookEngine], fun r hr => ?_⟩
    rcases List.mem_append.mp hr with hr | hr
    · exact hi.emptySlot r hr
    · simp at hr
  · -- lock：engine を取り出し、`Engine::shutdown` に渡す
    obtain ⟨hlt, hget⟩ := List.getElem?_eq_some_iff.mp hc
    exact ⟨by simp [List.countP_set _ _ _ _ hlt, hget, ShutdownPhase.tookEngine, hi.took],
      fun _ _ => rfl⟩
  · -- lock：slot は空だった
    obtain ⟨hlt, hget⟩ := List.getElem?_eq_some_iff.mp hc
    exact ⟨by simp [List.countP_set _ _ _ _ hlt, hget, ShutdownPhase.tookEngine, hi.took],
      fun _ _ => hs⟩
  · -- teardownDone：取り出した呼び出しが返る
    obtain ⟨hlt, hget⟩ := List.getElem?_eq_some_iff.mp hc
    have hpos : 0 < s.calls.countP ShutdownPhase.tookEngine :=
      List.countP_pos_iff.mpr ⟨_, List.mem_iff_getElem?.mpr ⟨i, hc⟩, rfl⟩
    refine ⟨?_, fun r' hr => ?_⟩
    · rw [List.countP_set _ _ _ _ hlt, hget]
      simp only [ShutdownPhase.tookEngine, if_true]
      have := hi.took
      omega
    · rcases List.mem_or_eq_of_mem_set hr with hr | hr
      · exact hi.emptySlot r' hr
      · cases hr

theorem Reachable.takeInv {s₀ s : ShutdownState ε} (h : Reachable s₀ s) (h₀ : TakeInv s₀) :
    TakeInv s := by
  induction h with
  | refl => exact h₀
  | step _ _ hstep ih => exact step_takeInv ih hstep

/-- 始まった呼び出しがすべて返っていれば、`Engine::shutdown` はちょうど一回、`new` が起動した
engine に対して呼ばれ、engine を取り出して返った呼び出しはちょうど一つである。 -/
theorem all_returned_exactly_once {start : SynapseState → Except EngineError ε}
    {state : SynapseState} {ctx : SynapseContext ε}
    (hnew : SynapseContext.new start state = .ok ctx) {s : ShutdownState ε}
    (hs : (init ctx).Reachable s) (hne : s.calls ≠ []) (hret : ∀ c ∈ s.calls, c.pending = false) :
    ∃ e₀, start state = .ok e₀ ∧ s.invoked = [e₀] ∧
      s.calls.countP ShutdownPhase.tookEngine = 1 := by
  obtain ⟨e₀, he, hinv⟩ := reachable_inv hnew hs
  have ht := hs.takeInv (takeInv_init ctx)
  rcases hinv.engine with ⟨hsl, hinv0⟩ | ⟨-, hinv1⟩
  · -- 誰も engine を取り出していなければ、返った呼び出しは空の slot を見たはずである
    obtain ⟨c, hc⟩ := List.exists_mem_of_ne_nil _ hne
    have h0 : c.tookEngine = false := by
      by_contra hc'
      have := List.countP_pos_iff.mpr ⟨c, hc, by simpa using hc'⟩
      rw [ht.took, hinv0] at this
      cases this
    cases c with
    | locking => cases hret _ hc
    | tearingDown => cases h0
    | returned b r =>
      cases h0
      rw [ht.emptySlot r hc] at hsl
      cases hsl
  · exact ⟨e₀, he, hinv1, by rw [ht.took, hinv1]; rfl⟩

theorem length_calls_le_of_step {s s' : ShutdownState ε} {ev : ShutdownEvent}
    (h : s.step ev = some s') : s.calls.length ≤ s'.calls.length := by
  rcases step_cases h with rfl | ⟨i, e, -, -, -, rfl⟩ | ⟨i, -, -, -, rfl⟩ | ⟨i, e, r, -, rfl⟩ <;> simp

theorem length_calls_le_of_run {s t : ShutdownState ε} :
    ∀ es, s.run es = some t → s.calls.length ≤ t.calls.length
  | [], h => by cases h; rfl
  | e :: es, h => by
    simp only [run, Option.bind_eq_bind, Option.bind_eq_some] at h
    obtain ⟨s', h1, h2⟩ := h
    exact (length_calls_le_of_step h1).trans (length_calls_le_of_run es h2)

/--
**どの届く状態からも、すべての呼び出しが返り、engine はちょうど一回止まる。**

`new` が作った context から届く状態で `shutdown()` が一度でも呼ばれていれば、event を選んで
進めると、始まった呼び出しがすべて返り、`Engine::shutdown` は `new` が起動した engine に
対してちょうど一回呼ばれ、engine を取り出して返った呼び出しはちょうど一つである状態に届く。
-/
theorem shutdown_completes_exactly_once {start : SynapseState → Except EngineError ε}
    {state : SynapseState} {ctx : SynapseContext ε}
    (hnew : SynapseContext.new start state = .ok ctx) {s : ShutdownState ε}
    (hs : (init ctx).Reachable s) (hne : s.calls ≠ []) :
    ∃ e₀, start state = .ok e₀ ∧ ∃ es t, s.run es = some t ∧
      (∀ c ∈ t.calls, c.pending = false) ∧ t.invoked = [e₀] ∧
      t.calls.countP ShutdownPhase.tookEngine = 1 := by
  obtain ⟨es, t, ht, hret⟩ := shutdown_all_return hnew hs
  have hne' : t.calls ≠ [] :=
    List.ne_nil_of_length_pos ((List.length_pos.mpr hne).trans_le (length_calls_le_of_run es ht))
  obtain ⟨e₀, he, hinv, hcount⟩ :=
    all_returned_exactly_once hnew (reachable_of_run hs es ht) hne' hret
  exact ⟨e₀, he, es, t, ht, hret, hinv, hcount⟩

/-- 二つの clone が `shutdown()` を呼び、一つ目が engine を止めている間から。 -/
theorem shutdown_completes_exactly_once_from_two_calls :
    let state : SynapseState := ⟨⟨"datafusion", "public", "generic"⟩, ⟨[]⟩⟩
    let s : ShutdownState Nat := ⟨none, some 0, [.tearingDown 7, .locking], [7]⟩
    SynapseContext.new (fun _ => .ok 7) state = .ok ⟨state, some 7⟩ ∧
      (init ⟨state, some 7⟩).Reachable s ∧ s.calls ≠ [] ∧
      ∃ e₀, (fun _ => Except.ok 7 : SynapseState → Except EngineError Nat) state = .ok e₀ ∧
        ∃ es t, s.run es = some t ∧ (∀ c ∈ t.calls, c.pending = false) ∧ t.invoked = [e₀] ∧
          t.calls.countP ShutdownPhase.tookEngine = 1 := by
  intro state s
  have hs : (init ⟨state, some 7⟩).Reachable s := reachable_of_run .refl [.call, .call, .lock 0] rfl
  exact ⟨rfl, hs, List.cons_ne_nil _ _,
    @shutdown_completes_exactly_once _ (fun _ => .ok 7) _ _ rfl _ hs (List.cons_ne_nil _ _)⟩

end ShutdownState

end Synapse
