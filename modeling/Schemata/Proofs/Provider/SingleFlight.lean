import Schemata.Proofs.Provider.Requests
import Schemata.Provider.Binder

/-!
# Single flight

What the callers of a bound driver can rely on, however their calls interleave and whoever gives up
(`Binder.single_flight`): a capability is invoked by one task at a time, no more once an invocation has
produced a value, and every value that is handed out is this value, while an error goes to the one
caller whose own task met it. To give up is to drop a future and nothing else: a run differs from the
same run without the callers who give up in dropped futures only (`Flight.Forgets`).

A binder serves requests, and nothing else happens to its cells (`Binder.Serves`). So all of this holds
after any requests, and a further one answers everybody who waits (`Binder.Shares`).
-/

namespace Schemata

namespace Flight

variable {α : Type} {factory : Factory α} {s u : Flight α}

/-! ## What lasts -/

/-- Once the cell is filled, it stays so, and the factory is not invoked again. -/
theorem Moves.filled {e : Event} (h : Moves factory s e u) (hs : Inv factory s) {v : α}
    (hv : s.value = some v) : u.value = some v ∧ u.invocations = s.invocations := by
  cases h with
  | invoked hi hempty hfree =>
    rw [hv] at hempty
    cases hempty
  | settled hi =>
    obtain ⟨⟨-, hempty⟩, -⟩ := hs.sound _ (List.mem_of_getElem? hi)
    rw [hv] at hempty
    cases hempty
  | _ => exact ⟨hv, rfl⟩

theorem filled_run (hs : Inv factory s) {v : α} (hv : s.value = some v) (events : List Event) :
    (s.run factory events).value = some v ∧
      (s.run factory events).invocations = s.invocations := by
  induction events generalizing s with
  | nil => exact ⟨hv, rfl⟩
  | cons e events ih =>
    have hmoves := moves_step factory s e
    obtain ⟨hv', hinvocations⟩ := hmoves.filled hs hv
    rw [run_cons, ← hinvocations]
    exact ih (hs.moves hmoves) hv'

theorem Inv.inFlight_of_filled (hs : Inv factory s) {v : α} (hv : s.value = some v) :
    s.inFlight = 0 := by
  refine List.countP_eq_zero.2 fun c hc hinvoking => ?_
  have hsound := hs.sound c hc
  rcases c with ⟨_ | _ | n | _, future⟩ <;> try cases hinvoking
  obtain ⟨⟨-, hempty⟩, -⟩ := hsound
  rw [hv] at hempty
  cases hempty

theorem getElem?_replaced {l : List (Call α)} {i j : Nat} {c d : Call α} (hi : l[i]? = some c)
    (hj : l[j]? = some d) (d' : Call α) :
    (l.set j d')[i]? = some c ∨ (j = i ∧ c = d ∧ (l.set j d')[i]? = some d') := by
  by_cases hji : j = i
  · subst hji
    obtain ⟨hlt, -⟩ := List.getElem?_eq_some_iff.1 hi
    exact .inr ⟨rfl, Option.some.inj (hi.symm.trans hj), List.getElem?_set_self hlt⟩
  · exact .inl (by rw [List.getElem?_set_ne hji, hi])

theorem Moves.invoking {e : Event} (h : Moves factory s e u) {i n : Nat} {future : Future α}
    (hi : s.calls[i]? = some ⟨some (.invoking n), future⟩) (he : e ≠ .settle i) :
    ∃ future', u.calls[i]? = some ⟨some (.invoking n), future'⟩ := by
  obtain ⟨hlt, -⟩ := List.getElem?_eq_some_iff.1 hi
  cases h with
  | stays => exact ⟨future, hi⟩
  | served hv => exact ⟨future, (List.getElem?_append_left hlt).trans hi⟩
  | asked hv => exact ⟨future, (List.getElem?_append_left hlt).trans hi⟩
  | dropped hj =>
    rcases getElem?_replaced hi hj _ with h | ⟨rfl, heq, h⟩
    · exact ⟨future, h⟩
    · cases heq
      exact ⟨.dropped, h⟩
  | joined hj hv =>
    rcases getElem?_replaced hi hj _ with h | ⟨-, heq, -⟩
    · exact ⟨future, h⟩
    · cases heq
  | invoked hj hv hfree =>
    rcases getElem?_replaced hi hj _ with h | ⟨-, heq, -⟩
    · exact ⟨future, h⟩
    · cases heq
  | settled hj =>
    rcases getElem?_replaced hi hj _ with h | ⟨rfl, -, -⟩
    · exact ⟨future, h⟩
    · exact absurd rfl he
  | finished hj =>
    rcases getElem?_replaced hi hj _ with h | ⟨-, heq, -⟩
    · exact ⟨future, h⟩
    · cases heq

theorem invoking_run {i n : Nat} {future : Future α}
    (hi : s.calls[i]? = some ⟨some (.invoking n), future⟩) {events : List Event}
    (hevents : .settle i ∉ events) :
    ∃ future', (s.run factory events).calls[i]? = some ⟨some (.invoking n), future'⟩ := by
  induction events generalizing s future with
  | nil => exact ⟨future, hi⟩
  | cons e events ih =>
    rw [List.mem_cons, not_or] at hevents
    obtain ⟨future', hi'⟩ := (moves_step factory s e).invoking hi (Ne.symm hevents.1)
    exact ih hi' hevents.2

/-- A value that an invocation in flight produces is kept, whatever happens meanwhile. -/
theorem value_run (hs : Inv factory s) {i n : Nat} {future : Future α}
    (hi : s.calls[i]? = some ⟨some (.invoking n), future⟩) {v : α} (hv : factory n = .value v)
    {events : List Event} (hevents : .settle i ∈ events) :
    (s.run factory events).value = some v := by
  induction events generalizing s future with
  | nil => cases hevents
  | cons e events ih =>
    rw [run_cons]
    by_cases he : e = .settle i
    · subst he
      have hsettled : (s.step factory (.settle i)).value = some v := by
        simp only [step, settle, hi, hv]
      exact (filled_run (hs.moves (moves_step factory s _)) hsettled events).1
    · obtain ⟨future', hi'⟩ := (moves_step factory s e).invoking hi he
      exact ih (hs.moves (moves_step factory s e)) hi'
        ((List.mem_cons.1 hevents).resolve_left (Ne.symm he))

/-! ## Callers who give up -/

/-- A caller with the same task, who has given up or is in the same place. -/
def Call.Forgets (c d : Call α) : Prop :=
  c.task = d.task ∧ (c.future = .dropped ∨ c.future = d.future)

/-- The same cell and tasks, and the same futures unless they are dropped. -/
structure Forgets (s u : Flight α) : Prop where
  value : s.value = u.value
  locked : s.locked = u.locked
  invocations : s.invocations = u.invocations
  length : s.calls.length = u.calls.length
  calls : ∀ (i : Nat) (c d : Call α),
    s.calls[i]? = some c → u.calls[i]? = some d → c.Forgets d

def Event.isAbandon : Event → Bool
  | .abandon _ => true
  | _ => false

namespace Forgets

theorem refl (s : Flight α) : s.Forgets s where
  value := rfl
  locked := rfl
  invocations := rfl
  length := rfl
  calls i c d hc hd := by
    obtain rfl := Option.some.inj (hc.symm.trans hd)
    exact ⟨rfl, .inr rfl⟩

theorem getElem? (h : s.Forgets u) (i : Nat) :
    (s.calls[i]? = none ∧ u.calls[i]? = none) ∨
      ∃ c d, s.calls[i]? = some c ∧ u.calls[i]? = some d ∧ c.Forgets d := by
  cases hc : s.calls[i]? with
  | none =>
    refine .inl ⟨rfl, ?_⟩
    rw [List.getElem?_eq_none_iff] at hc ⊢
    exact h.length ▸ hc
  | some c =>
    cases hd : u.calls[i]? with
    | none =>
      rw [List.getElem?_eq_none_iff, ← h.length, ← List.getElem?_eq_none_iff, hc] at hd
      cases hd
    | some d => exact .inr ⟨c, d, rfl, rfl, h.calls i c d hc hd⟩

theorem set (h : s.Forgets u) (i : Nat) {c d : Call α} (hcd : c.Forgets d) :
    Forgets { s with calls := s.calls.set i c } { u with calls := u.calls.set i d } where
  value := h.value
  locked := h.locked
  invocations := h.invocations
  length := by simpa using h.length
  calls j c' d' hc hd := by
    by_cases hij : i = j
    · subst hij
      obtain ⟨hlt, -⟩ := List.getElem?_eq_some_iff.1 hc
      obtain ⟨hlt', -⟩ := List.getElem?_eq_some_iff.1 hd
      rw [List.length_set] at hlt hlt'
      rw [List.getElem?_set_self hlt, Option.some.injEq] at hc
      rw [List.getElem?_set_self hlt', Option.some.injEq] at hd
      exact hc ▸ hd ▸ hcd
    · simp only [List.getElem?_set_ne hij] at hc hd
      exact h.calls j c' d' hc hd

theorem set_left (h : s.Forgets u) {i : Nat} {c d : Call α} (hd : u.calls[i]? = some d)
    (hcd : c.Forgets d) : Forgets { s with calls := s.calls.set i c } u := by
  obtain ⟨hlt, rfl⟩ := List.getElem?_eq_some_iff.1 hd
  have hset := h.set i hcd
  rwa [List.set_getElem_self] at hset

theorem set_right (h : s.Forgets u) {i : Nat} {c d : Call α} (hc : s.calls[i]? = some c)
    (hcd : c.Forgets d) : s.Forgets { u with calls := u.calls.set i d } := by
  obtain ⟨hlt, rfl⟩ := List.getElem?_eq_some_iff.1 hc
  have hset := h.set i hcd
  rwa [List.set_getElem_self] at hset

theorem append (h : s.Forgets u) (c : Call α) :
    Forgets { s with calls := s.calls ++ [c] } { u with calls := u.calls ++ [c] } where
  value := h.value
  locked := h.locked
  invocations := h.invocations
  length := by simpa using h.length
  calls j c' d' hc hd := by
    rw [List.getElem?_append] at hc hd
    rw [← h.length] at hd
    by_cases hj : j < s.calls.length
    · rw [if_pos hj] at hc hd
      exact h.calls j c' d' hc hd
    · rw [if_neg hj] at hc hd
      obtain rfl := Option.some.inj (hc.symm.trans hd)
      exact ⟨rfl, .inr rfl⟩

theorem abandon (h : s.Forgets u) (i : Nat) : (s.abandon i).Forgets u := by
  unfold Flight.abandon
  split
  · next task hc =>
    rcases h.getElem? i with ⟨hnone, -⟩ | ⟨c, d, hc', hd, hcd⟩
    · rw [hc] at hnone
      cases hnone
    · rw [hc, Option.some.injEq] at hc'
      subst hc'
      exact h.set_left hd ⟨hcd.1, .inl rfl⟩
  · exact h

theorem step (h : s.Forgets u) {e : Event} (he : e.isAbandon = false) :
    (s.step factory e).Forgets (u.step factory e) := by
  rcases s with ⟨value, locked, invocations, calls⟩
  rcases u with ⟨value', locked', invocations', calls'⟩
  obtain rfl : value = value' := h.value
  obtain rfl : locked = locked' := h.locked
  obtain rfl : invocations = invocations' := h.invocations
  cases e with
  | call => cases value <;> exact h.append _
  | abandon i => cases he
  | enter i =>
    rcases h.getElem? i with ⟨hc, hd⟩ | ⟨⟨task, future⟩, ⟨task', future'⟩, hc, hd, htask, hfuture⟩
    · simpa only [Flight.step, enter, hc, hd] using h
    · obtain rfl : task = task' := htask
      simp only [Flight.step, enter, hc, hd]
      rcases task with _ | _ | n | ⟨own, result⟩
      · exact h
      · cases value with
        | some v => exact h.set i ⟨rfl, hfuture⟩
        | none =>
          cases locked with
          | true => exact h
          | false =>
            have hset := h.set i (c := ⟨some (.invoking invocations), future⟩)
              (d := ⟨some (.invoking invocations), future'⟩) ⟨rfl, hfuture⟩
            exact ⟨rfl, rfl, rfl, hset.length, hset.calls⟩
      · exact h
      · exact h
  | settle i =>
    rcases h.getElem? i with ⟨hc, hd⟩ | ⟨⟨task, future⟩, ⟨task', future'⟩, hc, hd, htask, hfuture⟩
    · simpa only [Flight.step, settle, hc, hd] using h
    · obtain rfl : task = task' := htask
      simp only [Flight.step, settle, hc, hd]
      rcases task with _ | _ | n | ⟨own, result⟩
      · exact h
      · exact h
      · have hset := h.set i (c := ⟨some (.ended (some n) (factory n)), future⟩)
          (d := ⟨some (.ended (some n) (factory n)), future'⟩) ⟨rfl, hfuture⟩
        exact ⟨rfl, rfl, rfl, hset.length, hset.calls⟩
      · exact h
  | finish i =>
    rcases h.getElem? i with ⟨hc, hd⟩ | ⟨⟨task, future⟩, ⟨task', future'⟩, hc, hd, htask, hfuture⟩
    · simpa only [Flight.step, finish, hc, hd] using h
    · obtain rfl : task = task' := htask
      simp only [Flight.step, finish, hc, hd]
      rcases task with _ | _ | n | ⟨own, result⟩
      · exact h
      · exact h
      · exact h
      · rcases hfuture with hdropped | hsame
        · -- the caller has given up in the first state, so its answer is dropped there
          subst hdropped
          cases future' with
          | pending => exact h.set_right hc ⟨rfl, .inl rfl⟩
          | dropped => exact h
          | ready answer => exact h
        · subst hsame
          cases future with
          | pending => exact h.set i ⟨rfl, .inr rfl⟩
          | dropped => exact h
          | ready answer => exact h

/-- The callers who give up may be left out. -/
theorem run (h : s.Forgets u) (events : List Event) :
    (s.run factory events).Forgets (u.run factory (events.filter fun e => !e.isAbandon)) := by
  induction events generalizing s u with
  | nil => exact h
  | cons e events ih =>
    cases he : e.isAbandon with
    | false =>
      rw [List.filter_cons_of_pos (by simp [he])]
      exact ih (h.step he)
    | true =>
      rw [List.filter_cons_of_neg (by simp [he])]
      cases e with
      | abandon i => exact ih (h.abandon i)
      | _ => cases he

end Forgets

/-! ## What callers can rely on -/

/-- What holds of a cell and its calls at any time. -/
structure Coherent (factory : Factory α) (s : Flight α) : Prop where
  /-- Two invocations are never in flight together. -/
  alone : s.inFlight ≤ 1
  /-- Two tasks never share an invocation. -/
  own : ∀ (i j : Nat) (c d : Call α) (n : Nat), s.calls[i]? = some c → s.calls[j]? = some d →
    c.invocation? = some n → d.invocation? = some n → i = j
  /-- At most one invocation has produced a value. -/
  once : s.succeeded ≤ 1
  /-- Every caller who has got a value has got the value of that invocation. -/
  shared : ∀ c ∈ s.calls, ∀ v, c.future = .ready (.value v) →
    ∃ d ∈ s.calls, ∃ n, d.task = some (.ended (some n) (.value v)) ∧ factory n = .value v
  /-- A caller who has got an error has got it from the invocation that its own task made. -/
  blamed : ∀ c ∈ s.calls, ∀ answer, c.future = .ready answer → (∀ v, answer ≠ .value v) →
    ∃ n, c.task = some (.ended (some n) answer) ∧ factory n = answer
  /-- Every invocation has failed, is in flight or has produced the value. -/
  total : s.invocations = s.failed + s.inFlight + s.succeeded
  /-- There are no more invocations than calls. -/
  bounded : s.invocations ≤ s.calls.length

/-- What callers of a cell can rely on, in whatever order events arrive. -/
structure SingleFlight (factory : Factory α) (cell : Flight α) : Prop where
  coherent : ∀ events, Coherent factory (cell.run factory events)
  /-- After an invocation that produced a value none starts, and none is in flight. -/
  last : ∀ events more, ∀ c ∈ (cell.run factory events).calls, ∀ n v,
    c.task = some (.ended (some n) (.value v)) →
    (cell.run factory (events ++ more)).invocations = n + 1 ∧
      (cell.run factory (events ++ more)).inFlight = 0
  /-- Callers who give up change nothing but their own futures. -/
  forgets : ∀ events, (cell.run factory events).Forgets
    (cell.run factory (events.filter fun e => !e.isAbandon))
  /-- An invocation in flight stays in flight until it ends, -/
  uncancelled : ∀ events more (i n : Nat) future,
    (cell.run factory events).calls[i]? = some ⟨some (.invoking n), future⟩ →
    .settle i ∉ more → ∃ future',
      (cell.run factory (events ++ more)).calls[i]? = some ⟨some (.invoking n), future'⟩
  /-- and then its value is kept, even if its caller has given up. -/
  kept : ∀ events more (i n : Nat) future v,
    (cell.run factory events).calls[i]? = some ⟨some (.invoking n), future⟩ →
    factory n = .value v → .settle i ∈ more →
    (cell.run factory (events ++ more)).value = some v

/-- A filled cell has its value from an invocation. -/
theorem Inv.exists_succeeded (hs : Inv factory s) {v : α} (hv : s.value = some v) :
    ∃ d ∈ s.calls, ∃ n, d.task = some (.ended (some n) (.value v)) ∧ factory n = .value v := by
  have hpos : 0 < s.calls.countP Call.hasSucceeded := by
    have hone : s.calls.countP Call.hasSucceeded = s.value.toList.length := hs.succeeded
    rw [hone, hv]
    exact Nat.one_pos
  obtain ⟨d, hd, hsucceeded⟩ := List.countP_pos_iff.1 hpos
  have hsound := hs.sound d hd
  rcases d with ⟨_ | _ | n | ⟨_ | n, w | reason | _⟩, future⟩ <;> try cases hsucceeded
  obtain ⟨⟨hresult, hvalue⟩, -⟩ := hsound
  obtain rfl : v = w := Option.some.inj (hv.symm.trans (hvalue w rfl).1)
  exact ⟨_, hd, n, rfl, hresult.symm⟩

theorem eq_of_nodup_filterMap {l : List (Call α)} (h : (l.filterMap Call.invocation?).Nodup)
    {i j : Nat} {c d : Call α} {n : Nat} (hi : l[i]? = some c) (hj : l[j]? = some d)
    (hc : c.invocation? = some n) (hd : d.invocation? = some n) : i = j := by
  obtain ⟨hilt, rfl⟩ := List.getElem?_eq_some_iff.1 hi
  obtain ⟨hjlt, rfl⟩ := List.getElem?_eq_some_iff.1 hj
  have hpairs := List.pairwise_iff_getElem.1 (List.pairwise_filterMap.1 h)
  rcases Nat.lt_trichotomy i j with hlt | heq | hlt
  · exact absurd rfl (hpairs i j hilt hjlt hlt n hc n hd)
  · exact heq
  · exact absurd rfl (hpairs j i hjlt hilt hlt n hd n hc)

theorem Inv.coherent (hs : Inv factory s) : Coherent factory s where
  alone := hs.locked ▸ s.locked.toNat_le
  own i j c d n hi hj hc hd :=
    eq_of_nodup_filterMap (hs.numbers.nodup_iff.2 List.nodup_range) hi hj hc hd
  once := by
    rw [hs.succeeded]
    cases s.value <;> simp
  shared c hc v hfuture := by
    have hsound := hs.sound c hc
    rcases c with ⟨_ | task, future⟩
    · obtain ⟨w, hw, hvalue⟩ := hsound
      obtain rfl : v = w := by simpa using hfuture.symm.trans hw
      exact hs.exists_succeeded hvalue
    · obtain ⟨htask, hended⟩ := hsound
      obtain ⟨own, rfl⟩ := hended _ hfuture
      cases own with
      | none =>
        obtain ⟨w, hw, hvalue⟩ := htask
        obtain rfl : v = w := by simpa using hw
        exact hs.exists_succeeded hvalue
      | some n => exact ⟨_, hc, n, rfl, htask.1.symm⟩
  blamed c hc answer hfuture herror := by
    have hsound := hs.sound c hc
    rcases c with ⟨_ | task, future⟩
    · obtain ⟨w, hw, -⟩ := hsound
      exact absurd (by simpa using hfuture.symm.trans hw) (herror w)
    · obtain ⟨htask, hended⟩ := hsound
      obtain ⟨own, rfl⟩ := hended _ hfuture
      cases own with
      | none =>
        obtain ⟨w, hw, -⟩ := htask
        exact absurd hw (herror w)
      | some n => exact ⟨n, rfl, htask.1.symm⟩
  total := by
    have hlength := hs.numbers.length_eq
    rw [length_invocations, List.length_range] at hlength
    exact hlength.symm
  bounded := by
    have hlength := hs.numbers.length_eq
    rw [List.length_range] at hlength
    exact hlength ▸ List.length_filterMap_le _ _

theorem Inv.singleFlight (hs : Inv factory s) : SingleFlight factory s where
  coherent events := (hs.run events).coherent
  last events more c hc n v htask := by
    have hrun := hs.run events
    have hsound := hrun.sound c hc
    rcases c with ⟨task, future⟩
    obtain rfl : task = _ := htask
    obtain ⟨⟨-, hvalue⟩, -⟩ := hsound
    obtain ⟨hfilled, hn⟩ := hvalue v rfl
    obtain ⟨hlater, hinvocations⟩ := filled_run hrun hfilled more
    rw [run_append]
    exact ⟨hinvocations.trans hn.symm, (hrun.run more).inFlight_of_filled hlater⟩
  forgets events := (Forgets.refl s).run events
  uncancelled events more i n future hi hmore := by
    rw [run_append]
    exact invoking_run hi hmore
  kept events more i n future v hi hv hmore := by
    rw [run_append]
    exact value_run (hs.run events) hi hv hmore

end Flight

namespace Binder

/-! ## Requests to a binder -/

/-- A request for a value: callers who give up at once, and then callers who wait together. -/
inductive Request where
  | connection (abandoned callers : Nat)
  | options (abandoned callers : Nat)
  | ddlGenerator
deriving Repr, DecidableEq

section Serve

variable {γ ω : Type}

/-- The binder after a request. -/
def after (b : Binder γ ω) : Request → Binder γ ω
  | .connection abandoned callers => (b.requestConnection abandoned callers).2
  | .options abandoned callers => (b.requestOptions abandoned callers).2
  | .ddlGenerator => b.ddlGenerator.2

/-- The binder after requests, one after the other. -/
def serve (b : Binder γ ω) (requests : List Request) : Binder γ ω :=
  requests.foldl after b

end Serve

section Cell

variable {α : Type} {capability : Capability α} {factory : Factory α} {cell : Flight α}

/-- Between requests the invariant holds of the cell of a capability, and nothing is in flight. -/
def Rests (capability : Capability α) (cell : Flight α) : Prop :=
  ∀ factory, capability.factory? = some factory → Flight.Inv factory cell ∧ cell.locked = false

/-- What the callers of a capability can rely on. -/
structure Shares (provider : String) (name : CapabilityName) (capability : Capability α)
    (factory : Factory α) (cell : Flight α) : Prop where
  singleFlight : Flight.SingleFlight factory cell
  /-- A further request is a run of events, and hands out what calls for the value have got. -/
  answered : ∀ abandoned callers, ∃ events,
    (resolve provider name capability abandoned callers cell).2 = cell.run factory events ∧
    ∀ result ∈ (resolve provider name capability abandoned callers cell).1,
      ∃ c ∈ (cell.run factory events).calls, ∃ answer,
        c.future = .ready answer ∧ result = resultOf provider name answer
  /-- Everybody who waits is answered. -/
  served : ∀ abandoned callers,
    (resolve provider name capability abandoned callers cell).1.length = callers

theorem resolve_of_factory (provider : String) (name : CapabilityName)
    (hfactory : capability.factory? = some factory) (abandoned callers : Nat) (cell : Flight α) :
    resolve provider name capability abandoned callers cell =
      ((cell.request factory abandoned callers).1.map (resultOf provider name),
        (cell.request factory abandoned callers).2) := by
  simp only [resolve, hfactory]

theorem Rests.start (capability : Capability α) : Rests capability Flight.start :=
  fun factory _ => ⟨.start factory, rfl⟩

theorem Rests.resolve (h : Rests capability cell) (provider : String) (name : CapabilityName)
    (abandoned callers : Nat) :
    Rests capability (resolve provider name capability abandoned callers cell).2 := by
  intro factory hfactory
  obtain ⟨hinv, hfree⟩ := h factory hfactory
  obtain ⟨events, hevents⟩ := Flight.request_run factory abandoned callers cell
  rw [resolve_of_factory provider name hfactory]
  exact ⟨hevents ▸ hinv.run events, Flight.locked_request hinv hfree abandoned callers⟩

theorem Rests.settle (h : Rests capability cell) : Rests capability (settle capability cell) := by
  intro factory hfactory
  obtain ⟨hinv, hfree⟩ := h factory hfactory
  simp only [Binder.settle, hfactory]
  exact ⟨hinv.run _, (Flight.turns hinv hfree (Nat.le_refl _)).1⟩

theorem Rests.shares (h : Rests capability cell) (provider : String) (name : CapabilityName)
    (hfactory : capability.factory? = some factory) :
    Shares provider name capability factory cell where
  singleFlight := (h factory hfactory).1.singleFlight
  answered abandoned callers := by
    obtain ⟨events, hevents⟩ := Flight.request_run factory abandoned callers cell
    rw [resolve_of_factory provider name hfactory]
    refine ⟨events, hevents, fun result hresult => ?_⟩
    obtain ⟨answer, hanswer, rfl⟩ := List.mem_map.1 hresult
    obtain ⟨c, hc, hfuture⟩ := Flight.exists_of_mem_request hanswer
    exact ⟨c, hevents ▸ hc, answer, hfuture, rfl⟩
  served abandoned callers := by
    obtain ⟨hinv, hfree⟩ := h factory hfactory
    rw [resolve_of_factory provider name hfactory, List.length_map,
      Flight.length_request hinv hfree abandoned callers]

end Cell

/-! ## What requests keep -/

section Serves

variable {γ ω : Type} {p : Provider γ ω} {b : Binder γ ω}

/-- What requests keep: the driver, and cells at rest. -/
structure Serves (p : Provider γ ω) (b : Binder γ ω) : Prop where
  name : b.name = p.name
  connectionCapability : b.connectionCapability = (bind p).connectionCapability
  optionsCapability : b.optionsCapability = (bind p).optionsCapability
  connection : Rests b.connectionCapability b.connection
  options : Rests b.optionsCapability b.options

namespace Serves

theorem start (p : Provider γ ω) : Serves p (bind p) where
  name := rfl
  connectionCapability := rfl
  optionsCapability := rfl
  connection := .start _
  options := .start _

theorem requestConnection (h : Serves p b) (abandoned callers : Nat) :
    Serves p (b.requestConnection abandoned callers).2 where
  name := h.name
  connectionCapability := h.connectionCapability
  optionsCapability := h.optionsCapability
  connection := h.connection.resolve _ _ _ _
  options := by
    simp only [Binder.requestConnection]
    split
    · exact h.options.settle
    · exact h.options

theorem requestOptions (h : Serves p b) (abandoned callers : Nat) :
    Serves p (b.requestOptions abandoned callers).2 where
  name := h.name
  connectionCapability := h.connectionCapability
  optionsCapability := h.optionsCapability
  connection := by
    simp only [Binder.requestOptions]
    split
    · exact h.connection.settle
    · exact h.connection
  options := h.options.resolve _ _ _ _

theorem ddlGenerator (h : Serves p b) : Serves p b.ddlGenerator.2 := by
  unfold Binder.ddlGenerator
  split
  · exact h
  · split
    · exact ⟨h.name, h.connectionCapability, h.optionsCapability, h.connection, h.options⟩
    · exact h

theorem after (h : Serves p b) (request : Request) : Serves p (b.after request) := by
  cases request with
  | connection abandoned callers => exact h.requestConnection abandoned callers
  | options abandoned callers => exact h.requestOptions abandoned callers
  | ddlGenerator => exact h.ddlGenerator

theorem serve (h : Serves p b) (requests : List Request) : Serves p (b.serve requests) := by
  induction requests generalizing b with
  | nil => exact h
  | cons request requests ih => exact ih (h.after request)

end Serves

end Serves

/-- **Single flight**: after any requests, whichever form of a capability is used, and however its
invocations end. -/
theorem single_flight {γ ω : Type} (p : Provider γ ω) (requests : List Request) :
    (∀ factory, (bind p).connectionCapability.factory? = some factory →
      Shares p.name .connectionFactory (bind p).connectionCapability factory
        ((bind p).serve requests).connection) ∧
    (∀ factory, (bind p).optionsCapability.factory? = some factory →
      Shares p.name .optionsFactory (bind p).optionsCapability factory
        ((bind p).serve requests).options) := by
  have h := (Serves.start p).serve requests
  refine ⟨fun factory hfactory => ?_, fun factory hfactory => ?_⟩
  · exact (h.connectionCapability ▸ h.connection).shares p.name _ hfactory
  · exact (h.optionsCapability ▸ h.options).shares p.name _ hfactory

/-- An opening that fails, then panics, and then succeeds. -/
def flakyFactory : Factory Nat
  | 0 => .failed "busy"
  | 1 => .panicked
  | n + 2 => .value n

def flakyDriver : Provider Nat Nat where
  name := "flaky"
  connection := ⟨none, some flakyFactory⟩
  options := .none
  generator := none

/-- After the failure, an invocation that panics and one in flight. -/
def flakyEvents : List Flight.Event :=
  [.call, .call, .enter 1, .enter 2, .abandon 1, .settle 1, .finish 1, .enter 2]

theorem single_flight_flaky :
    (bind flakyDriver).connectionCapability.factory? = some flakyFactory ∧
    ((bind flakyDriver).serve [.connection 0 1, .options 0 1]).connection.invocations = 1 ∧
    (((bind flakyDriver).serve [.connection 0 1, .options 0 1]).connection.run flakyFactory
      (flakyEvents ++ [.abandon 2, .call, .settle 2, .enter 3])).value = some 0 :=
  ⟨rfl, by decide, ((single_flight flakyDriver [.connection 0 1, .options 0 1]).1 flakyFactory
    rfl).singleFlight.kept flakyEvents [.abandon 2, .call, .settle 2, .enter 3] 2 2 .pending 0
    (by decide) rfl (by decide)⟩

end Binder

end Schemata
