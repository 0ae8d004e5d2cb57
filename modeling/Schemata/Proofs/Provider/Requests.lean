import Schemata.Proofs.Provider.Cell

/-!
# Requests for a value

A request is a run of events (`Flight.request_run`), so whatever holds under any events holds of the
cell behind it, and what it hands out is what calls for the value have got
(`Flight.exists_of_mem_request`).

Everybody who waits is answered (`Flight.length_request`), even behind invocations that fail or panic
and callers who give up. Nothing is in flight between two turns, so a task that waits for its turn ends
in it (`Flight.turn`): either the value is there, or the cell is free for an invocation of its own.
-/

namespace Schemata

namespace Flight

variable {α : Type} {factory : Factory α} {s : Flight α}

/-! ## The events of a request -/

theorem giveUp_run (factory : Factory α) (n : Nat) (s : Flight α) :
    ∃ events, s.giveUp factory n = s.run factory events := by
  induction n generalizing s with
  | zero => exact ⟨[], rfl⟩
  | succ n ih =>
    obtain ⟨events, h⟩ := ih (s.run factory [.call, .abandon s.calls.length])
    exact ⟨[.call, .abandon s.calls.length] ++ events, by rw [giveUp, h, run_append]⟩

theorem Inv.giveUp (hs : Inv factory s) (n : Nat) : Inv factory (s.giveUp factory n) := by
  obtain ⟨events, h⟩ := giveUp_run factory n s
  exact h ▸ hs.run events

/-- A request is a run of events. -/
theorem request_run (factory : Factory α) (abandoned callers : Nat) (s : Flight α) :
    ∃ events, (s.request factory abandoned callers).2 = s.run factory events := by
  obtain ⟨left, hleft⟩ := giveUp_run factory abandoned s
  simp only [request, drain, hleft]
  split <;> simp only [← run_append] <;> exact ⟨_, rfl⟩

theorem exists_of_answer? {i : Nat} {answer : Attempt α} (h : s.answer? i = some answer) :
    ∃ c ∈ s.calls, c.future = .ready answer := by
  simp only [answer?] at h
  split at h
  · next hi =>
    cases h
    exact ⟨_, List.mem_of_getElem? hi, rfl⟩
  · cases h

theorem exists_of_mem_request {abandoned callers : Nat} {answer : Attempt α}
    (h : answer ∈ (s.request factory abandoned callers).1) :
    ∃ c ∈ (s.request factory abandoned callers).2.calls, c.future = .ready answer := by
  obtain ⟨i, -, hi⟩ := List.mem_filterMap.1 h
  exact exists_of_answer? hi

/-! ## Turns -/

/-- A task that has a turn while nothing is in flight has ended behind it, and nothing is in flight. -/
theorem turn (hs : Inv factory s) (hfree : s.locked = false) {i : Nat} {c : Call α}
    (hi : s.calls[i]? = some c) :
    ∃ c', c'.HasEnded ∧ c'.future = c.future ∧
      (s.run factory [.enter i, .settle i]).calls = s.calls.set i c' ∧
      (s.run factory [.enter i, .settle i]).locked = false := by
  obtain ⟨hlt, hget⟩ := List.getElem?_eq_some_iff.1 hi
  have hidle := hs.isInvoking_eq_false hfree c (List.mem_of_getElem? hi)
  have hstays (hended : c.HasEnded) : s.run factory [.enter i, .settle i] = s := by
    obtain ⟨henter, hsettle⟩ := step_of_hasEnded factory hi hended
    rw [run_cons, henter, run_cons, hsettle]
    rfl
  have hsame : s.calls.set i c = s.calls := by rw [← hget, List.set_getElem_self]
  rcases c with ⟨_ | _ | n | ⟨own, result⟩, future⟩
  · have hended := Call.hasEnded_none future
    exact ⟨_, hended, rfl, by rw [hstays hended, hsame], by rw [hstays hended, hfree]⟩
  · cases hv : s.value with
    | some v =>
      have hset : (s.calls.set i ⟨some (.ended none (.value v)), future⟩)[i]? = some _ :=
        List.getElem?_set_self hlt
      refine ⟨_, Call.hasEnded_ended none (.value v) future, rfl, ?_, ?_⟩ <;>
        simp only [run, List.foldl_cons, List.foldl_nil, step, enter, settle, hi, hv, hset, hfree]
    | none =>
      have hset : (s.calls.set i ⟨some (.invoking s.invocations), future⟩)[i]? = some _ :=
        List.getElem?_set_self hlt
      refine ⟨_, Call.hasEnded_ended (some s.invocations) (factory s.invocations) future, rfl,
        ?_, ?_⟩ <;>
        simp [run, step, enter, settle, hi, hv, hset, hfree]
  · cases hidle
  · have hended := Call.hasEnded_ended own result future
    exact ⟨_, hended, rfl, by rw [hstays hended, hsame], by rw [hstays hended, hfree]⟩

/-- Behind a turn of each of the first callers their tasks have ended, and no caller has noticed. -/
theorem turns (hs : Inv factory s) (hfree : s.locked = false) {n : Nat} (hn : n ≤ s.calls.length) :
    let u := s.run factory ((List.range n).flatMap fun i => [.enter i, .settle i])
    u.locked = false ∧ ∀ (i : Nat) c, s.calls[i]? = some c →
      ∃ d, u.calls[i]? = some d ∧ d.future = c.future ∧ (i < n → d.HasEnded) := by
  induction n with
  | zero => exact ⟨hfree, fun i c hi => ⟨c, hi, rfl, fun h => absurd h (Nat.not_lt_zero i)⟩⟩
  | succ n ih =>
    obtain ⟨hfree', hcalls⟩ := ih (Nat.le_of_succ_le hn)
    have hs' := hs.run ((List.range n).flatMap fun i => [.enter i, .settle i])
    rw [List.range_succ, List.flatMap_append, List.flatMap_singleton, run_append]
    obtain ⟨d, hd, -⟩ := hcalls n _ (List.getElem?_eq_getElem hn)
    obtain ⟨d', hended, hfuture, hset, hfree''⟩ := turn hs' hfree' hd
    refine ⟨hfree'', fun i c hi => ?_⟩
    obtain ⟨e, he, hsame, hbefore⟩ := hcalls i c hi
    rw [hset]
    by_cases hin : i = n
    · subst hin
      obtain rfl : d = e := Option.some.inj (hd.symm.trans he)
      obtain ⟨hlt, -⟩ := List.getElem?_eq_some_iff.1 hd
      exact ⟨d', List.getElem?_set_self hlt, hfuture.trans hsame, fun _ => hended⟩
    · refine ⟨e, by rw [List.getElem?_set_ne (Ne.symm hin), he], hsame, fun hlt => hbefore ?_⟩
      omega

/-! ## Answers -/

/-- The answer of a caller who has not given up is there, whether or not the caller has looked. -/
def IsSettled (s : Flight α) (i : Nat) : Prop :=
  ∃ c, s.calls[i]? = some c ∧ c.HasEnded ∧ c.future ≠ .dropped

theorem IsSettled.finish {i : Nat} (h : s.IsSettled i) (j : Nat) : (s.finish j).IsSettled i := by
  obtain ⟨c, hi, hended, hkept⟩ := h
  unfold Flight.finish
  split
  · next own result hj =>
    by_cases hji : j = i
    · subst hji
      obtain ⟨hlt, -⟩ := List.getElem?_eq_some_iff.1 hj
      exact ⟨_, List.getElem?_set_self hlt, Call.hasEnded_ended _ _ _, by simp⟩
    · exact ⟨c, by rw [List.getElem?_set_ne hji, hi], hended, hkept⟩
  · exact ⟨c, hi, hended, hkept⟩

theorem IsSettled.isSome_answer? {i : Nat} (h : s.IsSettled i) (hs : Inv factory s) :
    ((s.finish i).answer? i).isSome := by
  obtain ⟨⟨_ | task, future⟩, hi, hended, hkept⟩ := h
  · -- a caller without a task has had the value at once
    obtain ⟨v, rfl, -⟩ := hs.sound _ (List.mem_of_getElem? hi)
    simp [Flight.finish, answer?, hi]
  · obtain ⟨own, result, rfl⟩ := hended task rfl
    obtain ⟨hlt, -⟩ := List.getElem?_eq_some_iff.1 hi
    cases future with
    | pending =>
      simp only [Flight.finish, answer?, hi, List.getElem?_set_self hlt, Option.isSome_some]
    | dropped => exact absurd rfl hkept
    | ready answer => simp [Flight.finish, answer?, hi]

theorem isSome_answer?_finish {i : Nat} (h : (s.answer? i).isSome) (j : Nat) :
    ((s.finish j).answer? i).isSome := by
  unfold Flight.finish
  split
  · next own result hj =>
    have hji : j ≠ i := by
      rintro rfl
      simp [answer?, hj] at h
    simpa only [answer?, List.getElem?_set_ne hji] using h
  · exact h

/-- Callers whose answers are there have them once they have looked. -/
theorem isSome_answer?_run_finish (hs : Inv factory s) {looking : List Nat} {i : Nat}
    (h : (s.answer? i).isSome ∨ s.IsSettled i ∧ i ∈ looking) :
    ((s.run factory (looking.map .finish)).answer? i).isSome := by
  induction looking generalizing s with
  | nil => exact h.resolve_right fun h => List.not_mem_nil h.2
  | cons j looking ih =>
    refine ih (hs.run [.finish j]) ?_
    rcases h with h | ⟨hsettled, hmem⟩
    · exact .inl (isSome_answer?_finish h j)
    · rcases List.mem_cons.1 hmem with rfl | hmem
      · exact .inl (hsettled.isSome_answer? hs)
      · exact .inr ⟨hsettled.finish j, hmem⟩

/-! ## The lock -/

theorem locked_call (s : Flight α) : s.call.locked = s.locked := by
  unfold call
  split <;> rfl

theorem locked_abandon (s : Flight α) (i : Nat) : (s.abandon i).locked = s.locked := by
  unfold abandon
  split <;> rfl

theorem locked_finish (s : Flight α) (i : Nat) : (s.finish i).locked = s.locked := by
  unfold finish
  split <;> rfl

theorem locked_giveUp (factory : Factory α) (n : Nat) (s : Flight α) :
    (s.giveUp factory n).locked = s.locked := by
  induction n generalizing s with
  | zero => rfl
  | succ n ih =>
    rw [giveUp, ih]
    exact (locked_abandon s.call _).trans (locked_call s)

theorem locked_run_finish (factory : Factory α) (looking : List Nat) (s : Flight α) :
    (s.run factory (looking.map .finish)).locked = s.locked := by
  induction looking generalizing s with
  | nil => rfl
  | cons j looking ih => exact (ih (s.finish j)).trans (locked_finish s j)

/-! ## Requests -/

/-- The callers who ask together stand behind the earlier ones, and have not given up. -/
theorem run_replicate_call (factory : Factory α) (n : Nat) (s : Flight α) :
    (s.run factory (List.replicate n .call)).locked = s.locked ∧
      ∃ asked, (s.run factory (List.replicate n .call)).calls = s.calls ++ asked ∧
        asked.length = n ∧ ∀ c ∈ asked, c.future ≠ .dropped := by
  induction n generalizing s with
  | zero => exact ⟨rfl, [], by simp [run]⟩
  | succ n ih =>
    obtain ⟨hlocked, asked, hcalls, hlength, hkept⟩ := ih s.call
    have hcall : ∃ c, s.call.calls = s.calls ++ [c] ∧ c.future ≠ .dropped := by
      unfold call
      split
      · exact ⟨_, rfl, by simp⟩
      · exact ⟨_, rfl, by simp⟩
    obtain ⟨c, hc, hfuture⟩ := hcall
    rw [List.replicate_succ, run_cons]
    refine ⟨hlocked.trans (locked_call s), c :: asked, ?_, by simp [hlength], ?_⟩
    · rw [step, hcalls, hc, List.append_assoc, List.singleton_append]
    · simpa [hfuture] using hkept

theorem locked_request (hs : Inv factory s) (hfree : s.locked = false) (abandoned callers : Nat) :
    (s.request factory abandoned callers).2.locked = false := by
  have hleft := (locked_giveUp factory abandoned s).trans hfree
  have hasked := (run_replicate_call factory callers (s.giveUp factory abandoned)).1.trans hleft
  simp only [request, locked_run_finish]
  split
  · exact hasked
  · exact (turns ((hs.giveUp abandoned).run _) hasked (Nat.le_refl _)).1

/-- **Everybody who waits is answered**, as long as nothing is in flight when the request is made. -/
theorem length_request (hs : Inv factory s) (hfree : s.locked = false) (abandoned callers : Nat) :
    (s.request factory abandoned callers).1.length = callers := by
  have hleft := (locked_giveUp factory abandoned s).trans hfree
  obtain ⟨hlocked, asked, hcalls, hlength, hkept⟩ :=
    run_replicate_call factory callers (s.giveUp factory abandoned)
  have hasked := (hs.giveUp abandoned).run (List.replicate callers .call)
  obtain ⟨-, hturns⟩ := turns hasked (hlocked.trans hleft) (Nat.le_refl _)
  simp only [request]
  refine (List.filterMap_length_eq_length.2 fun i hi => ?_).trans List.length_range'
  obtain ⟨hfrom, hto⟩ := List.mem_range'_1.1 hi
  rw [if_neg (by omega : callers ≠ 0)]
  -- the caller is one of those who ask together, so it has not given up
  have hlt : i - (s.giveUp factory abandoned).calls.length < asked.length := by omega
  have hcall : ((s.giveUp factory abandoned).calls ++ asked)[i]? = asked[_]? :=
    List.getElem?_append_right hfrom
  rw [← hcalls, List.getElem?_eq_getElem hlt] at hcall
  obtain ⟨hbound, -⟩ := List.getElem?_eq_some_iff.1 hcall
  obtain ⟨d, hd, hfuture, hended⟩ := hturns i _ hcall
  refine isSome_answer?_run_finish (hasked.run _) (.inr ⟨⟨d, hd, hended hbound, ?_⟩, hi⟩)
  rw [hfuture]
  exact hkept _ (List.getElem_mem hlt)

end Flight

end Schemata
