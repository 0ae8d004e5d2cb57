import Mathlib.Data.List.Perm.Basic
import Schemata.Provider.Flight

/-!
# The cell under any events

`Flight.Moves` lists what an event can do to a cell and its calls, so that every fact about all events
is a case distinction over this list. The invariant `Flight.Inv` holds in every state that a cell
reaches from the start, in whatever order events arrive: the lock stands for the one invocation in
flight, the invocations are numbered without gaps and belong to different tasks, and what tasks and
callers have got agrees with the factory and with the cell.
-/

namespace Schemata

namespace Flight

variable {α : Type} {factory : Factory α} {s u : Flight α}

/-! ## What an event can do -/

/-- The states that an event may lead to. An event that is not possible leads nowhere. -/
inductive Moves (factory : Factory α) (s : Flight α) : Event → Flight α → Prop where
  | stays (e : Event) : Moves factory s e s
  | served {v : α} (hv : s.value = some v) :
    Moves factory s .call { s with calls := s.calls ++ [⟨none, .ready (.value v)⟩] }
  | asked (hv : s.value = none) :
    Moves factory s .call { s with calls := s.calls ++ [⟨some .waiting, .pending⟩] }
  | dropped {i : Nat} {task : Option (Task α)} (hi : s.calls[i]? = some ⟨task, .pending⟩) :
    Moves factory s (.abandon i) { s with calls := s.calls.set i ⟨task, .dropped⟩ }
  | joined {i : Nat} {future : Future α} {v : α} (hi : s.calls[i]? = some ⟨some .waiting, future⟩)
      (hv : s.value = some v) :
    Moves factory s (.enter i)
      { s with calls := s.calls.set i ⟨some (.ended none (.value v)), future⟩ }
  | invoked {i : Nat} {future : Future α} (hi : s.calls[i]? = some ⟨some .waiting, future⟩)
      (hv : s.value = none) (hfree : s.locked = false) :
    Moves factory s (.enter i) { s with
      locked := true
      invocations := s.invocations + 1
      calls := s.calls.set i ⟨some (.invoking s.invocations), future⟩ }
  | settled {i n : Nat} {future : Future α}
      (hi : s.calls[i]? = some ⟨some (.invoking n), future⟩) :
    Moves factory s (.settle i) { s with
      value := match factory n with
        | .value v => some v
        | _ => s.value
      locked := false
      calls := s.calls.set i ⟨some (.ended (some n) (factory n)), future⟩ }
  | finished {i : Nat} {own : Option Nat} {result : Attempt α}
      (hi : s.calls[i]? = some ⟨some (.ended own result), .pending⟩) :
    Moves factory s (.finish i)
      { s with calls := s.calls.set i ⟨some (.ended own result), .ready result⟩ }

theorem moves_step (factory : Factory α) (s : Flight α) (e : Event) :
    Moves factory s e (s.step factory e) := by
  cases e with
  | call =>
    simp only [step, call]
    split
    · next hv => exact .served hv
    · next hv => exact .asked hv
  | abandon i =>
    simp only [step, abandon]
    split
    · next hi => exact .dropped hi
    · exact .stays _
  | enter i =>
    simp only [step, enter]
    split
    · next hi =>
      split
      · next hv => exact .joined hi hv
      · next hv =>
        split
        · exact .stays _
        · next hfree => exact .invoked hi hv (by simpa using hfree)
    · exact .stays _
  | settle i =>
    simp only [step, settle]
    split
    · next hi => exact .settled hi
    · exact .stays _
  | finish i =>
    simp only [step, finish]
    split
    · next hi => exact .finished hi
    · exact .stays _

theorem run_cons (factory : Factory α) (s : Flight α) (e : Event) (events : List Event) :
    s.run factory (e :: events) = (s.step factory e).run factory events := rfl

theorem run_append (factory : Factory α) (s : Flight α) (before events : List Event) :
    s.run factory (before ++ events) = (s.run factory before).run factory events :=
  List.foldl_append

theorem run_induction {P : Flight α → Prop}
    (step : ∀ {s u e}, P s → Moves factory s e u → P u) :
    ∀ (events : List Event) {s : Flight α}, P s → P (s.run factory events)
  | [], _, hs => hs
  | e :: events, s, hs => run_induction step events (step hs (moves_step factory s e))

/-! ## Tasks that have ended -/

/-- Whether a task has nothing more to do. -/
def Call.HasEnded (c : Call α) : Prop :=
  ∀ task, c.task = some task → ∃ own result, task = .ended own result

theorem Call.hasEnded_none (future : Future α) : HasEnded ⟨none, future⟩ := by
  rintro task ⟨⟩

theorem Call.hasEnded_ended (own : Option Nat) (result : Attempt α) (future : Future α) :
    HasEnded ⟨some (.ended own result), future⟩ := by
  rintro task ⟨⟩
  exact ⟨own, result, rfl⟩

variable (factory) in
theorem step_of_hasEnded {i : Nat} {c : Call α} (hi : s.calls[i]? = some c) (hc : c.HasEnded) :
    s.step factory (.enter i) = s ∧ s.step factory (.settle i) = s := by
  obtain ⟨task, future⟩ := c
  cases task with
  | none => simp only [step, enter, settle, hi, and_self]
  | some task =>
    obtain ⟨own, result, rfl⟩ := hc task rfl
    simp only [step, enter, settle, hi, and_self]

/-! ## Counting invocations -/

namespace Call

/-- Whether the caller's task has an invocation in flight. -/
def isInvoking (c : Call α) : Bool :=
  match c.task with
  | some (.invoking _) => true
  | _ => false

def hasSucceeded (c : Call α) : Bool :=
  match c.task with
  | some (.ended (some _) (.value _)) => true
  | _ => false

def hasFailed (c : Call α) : Bool :=
  match c.task with
  | some (.ended (some _) (.failed _)) => true
  | some (.ended (some _) .panicked) => true
  | _ => false

/-- The invocation that the caller's task made. -/
def invocation? (c : Call α) : Option Nat :=
  match c.task with
  | some (.invoking n) => some n
  | some (.ended own _) => own
  | _ => none

end Call

def inFlight (s : Flight α) : Nat :=
  s.calls.countP Call.isInvoking

def succeeded (s : Flight α) : Nat :=
  s.calls.countP Call.hasSucceeded

def failed (s : Flight α) : Nat :=
  s.calls.countP Call.hasFailed

theorem Call.count_invocation (c : Call α) :
    (if c.invocation?.isSome then 1 else 0)
      = (if c.hasFailed then 1 else 0) + (if c.isInvoking then 1 else 0)
        + (if c.hasSucceeded then 1 else 0) := by
  rcases c with ⟨_ | _ | n | ⟨_ | n, _ | reason | _⟩, future⟩ <;> rfl

theorem length_invocations (calls : List (Call α)) :
    (calls.filterMap Call.invocation?).length
      = calls.countP Call.hasFailed + calls.countP Call.isInvoking
        + calls.countP Call.hasSucceeded := by
  rw [List.length_filterMap_eq_countP]
  induction calls with
  | nil => rfl
  | cons c calls ih =>
    simp only [List.countP_cons, ih, c.count_invocation]
    omega

/-! ## The invariant -/

/-- What a task has got agrees with the factory and the cell. -/
def Task.Sound (factory : Factory α) (value : Option α) (invocations : Nat) : Task α → Prop
  | .waiting => True
  | .invoking n => n + 1 = invocations ∧ value = none
  | .ended none result => ∃ v, result = .value v ∧ value = some v
  | .ended (some n) result =>
    result = factory n ∧ ∀ v, result = .value v → value = some v ∧ n + 1 = invocations

/-- What a caller has got agrees with its task, or with the cell if it started none. -/
def Call.Sound (factory : Factory α) (value : Option α) (invocations : Nat) (c : Call α) : Prop :=
  match c.task with
  | none => ∃ v, c.future = .ready (.value v) ∧ value = some v
  | some task =>
    task.Sound factory value invocations ∧
      ∀ answer, c.future = .ready answer → ∃ own, task = .ended own answer

/-- As long as the cell is empty, calls without an invocation in flight do not depend on it. -/
theorem Call.Sound.of_empty {c : Call α} {n : Nat} (hc : c.Sound factory none n)
    (hinvoking : c.isInvoking = false) (value : Option α) (m : Nat) : c.Sound factory value m := by
  rcases c with ⟨_ | _ | k | ⟨_ | k, result⟩, future⟩
  · obtain ⟨v, -, hv⟩ := hc
    cases hv
  · exact ⟨trivial, hc.2⟩
  · cases hinvoking
  · obtain ⟨⟨v, -, hv⟩, -⟩ := hc
    cases hv
  · obtain ⟨⟨hresult, hvalue⟩, hfuture⟩ := hc
    refine ⟨⟨hresult, fun v hv => ?_⟩, hfuture⟩
    cases (hvalue v hv).1

structure Inv (factory : Factory α) (s : Flight α) : Prop where
  /-- The cell is locked by the one invocation in flight. -/
  locked : s.inFlight = s.locked.toNat
  /-- Every invocation so far belongs to one task. -/
  numbers : (s.calls.filterMap Call.invocation?).Perm (List.range s.invocations)
  /-- The value comes from the one invocation that produced it. -/
  succeeded : s.succeeded = s.value.toList.length
  sound : ∀ c ∈ s.calls, c.Sound factory s.value s.invocations

namespace Inv

theorem start (factory : Factory α) : Inv factory start where
  locked := rfl
  numbers := .nil
  succeeded := rfl
  sound c hc := by cases hc

theorem perm (hs : Inv factory s) {calls : List (Call α)} (h : s.calls.Perm calls) :
    Inv factory { s with calls } where
  locked := (h.countP_eq _).symm.trans hs.locked
  numbers := (h.filterMap _).symm.trans hs.numbers
  succeeded := (h.countP_eq _).symm.trans hs.succeeded
  sound c hc := hs.sound c (h.mem_iff.2 hc)

/-- The call that an event changes stands in front. -/
theorem front (hs : Inv factory s) {i : Nat} {c : Call α} (hi : s.calls[i]? = some c) :
    Inv factory { s with calls := c :: s.calls.eraseIdx i } := by
  obtain ⟨hlt, rfl⟩ := List.getElem?_eq_some_iff.1 hi
  exact hs.perm (List.getElem_cons_eraseIdx_perm hlt).symm

theorem back {i : Nat} {c c' : Call α} (hi : s.calls[i]? = some c)
    (h : Inv factory { u with calls := c' :: s.calls.eraseIdx i }) :
    Inv factory { u with calls := s.calls.set i c' } := by
  obtain ⟨hlt, -⟩ := List.getElem?_eq_some_iff.1 hi
  exact h.perm (List.set_perm_cons_eraseIdx hlt c').symm

theorem add (hs : Inv factory s) {c : Call α} (hinvocation : c.invocation? = none)
    (hinvoking : c.isInvoking = false) (hsucceeded : c.hasSucceeded = false)
    (hsound : c.Sound factory s.value s.invocations) :
    Inv factory { s with calls := s.calls ++ [c] } := by
  refine Inv.perm (s := { s with calls := c :: s.calls }) ?_ (List.perm_append_singleton _ _).symm
  exact {
    locked := by simpa [inFlight, hinvoking] using hs.locked
    numbers := by simpa [hinvocation] using hs.numbers
    succeeded := by simpa [Flight.succeeded, hsucceeded] using hs.succeeded
    sound := by simpa [hsound] using hs.sound }

theorem replace (hs : Inv factory s) {i : Nat} {c c' : Call α} (hi : s.calls[i]? = some c)
    (hinvocation : c'.invocation? = c.invocation?) (hinvoking : c'.isInvoking = c.isInvoking)
    (hsucceeded : c'.hasSucceeded = c.hasSucceeded)
    (hsound : c'.Sound factory s.value s.invocations) :
    Inv factory { s with calls := s.calls.set i c' } := by
  obtain ⟨hlocked, hnumbers, hvalue, hothers⟩ := hs.front hi
  refine back hi (u := s) {
    locked := ?_
    numbers := ?_
    succeeded := ?_
    sound := ?_ }
  · simpa [inFlight, List.countP_cons, hinvoking] using hlocked
  · simpa [List.filterMap_cons, hinvocation] using hnumbers
  · simpa [Flight.succeeded, List.countP_cons, hsucceeded] using hvalue
  · simp only [List.mem_cons, forall_eq_or_imp] at hothers ⊢
    exact ⟨hsound, hothers.2⟩

theorem invoke (hs : Inv factory s) {i : Nat} {future : Future α}
    (hi : s.calls[i]? = some ⟨some .waiting, future⟩) (hv : s.value = none)
    (hfree : s.locked = false) :
    Inv factory { s with
      locked := true
      invocations := s.invocations + 1
      calls := s.calls.set i ⟨some (.invoking s.invocations), future⟩ } := by
  obtain ⟨hlocked, hnumbers, hvalue, hothers⟩ := hs.front hi
  simp only [inFlight, hfree, Flight.succeeded, List.countP_cons, List.filterMap_cons,
    List.mem_cons, forall_eq_or_imp] at hlocked hnumbers hvalue hothers
  -- the cell is not locked, so nothing is in flight
  have hidle : (s.calls.eraseIdx i).countP Call.isInvoking = 0 := by
    simpa [Call.isInvoking] using hlocked
  refine back hi (u := { s with locked := true, invocations := s.invocations + 1 }) {
    locked := ?_
    numbers := ?_
    succeeded := ?_
    sound := ?_ }
  · simp [inFlight, List.countP_cons, hidle, Call.isInvoking]
  · rw [List.range_succ]
    exact (hnumbers.cons s.invocations).trans (List.perm_append_singleton _ _).symm
  · simpa [Flight.succeeded, List.countP_cons, Call.hasSucceeded] using hvalue
  · simp only [List.mem_cons, forall_eq_or_imp]
    refine ⟨⟨⟨rfl, hv⟩, fun answer h => ?_⟩, fun c hc => ?_⟩
    · obtain ⟨own, hown⟩ := hothers.1.2 answer h
      cases hown
    · have hc' := hothers.2 c hc
      rw [hv] at hc'
      exact hc'.of_empty (by simpa using List.countP_eq_zero.1 hidle c hc) _ _

theorem settle (hs : Inv factory s) {i n : Nat} {future : Future α}
    (hi : s.calls[i]? = some ⟨some (.invoking n), future⟩) :
    Inv factory { s with
      value := match factory n with
        | .value v => some v
        | _ => s.value
      locked := false
      calls := s.calls.set i ⟨some (.ended (some n) (factory n)), future⟩ } := by
  obtain ⟨hlocked, hnumbers, hvalue, hothers⟩ := hs.front hi
  simp only [inFlight, Flight.succeeded, List.countP_cons, List.filterMap_cons, List.mem_cons,
    forall_eq_or_imp] at hlocked hnumbers hvalue hothers
  obtain ⟨⟨hn, hv⟩, hfuture⟩ := hothers.1
  -- the one lock is for the invocation that ends, so no other task sees the cell being filled
  have hidle : (s.calls.eraseIdx i).countP Call.isInvoking = 0 := by
    have hone : (s.calls.eraseIdx i).countP Call.isInvoking + 1 = s.locked.toNat := hlocked
    have hle := s.locked.toNat_le
    omega
  have hnone : (s.calls.eraseIdx i).countP Call.hasSucceeded = 0 := by
    simpa [hv, Call.hasSucceeded] using hvalue
  refine back hi (u := { s with
      value := match factory n with
        | .value v => some v
        | _ => s.value
      locked := false }) {
    locked := ?_
    numbers := ?_
    succeeded := ?_
    sound := ?_ }
  · simp [inFlight, hidle, Call.isInvoking]
  · exact hnumbers
  · simp only [Flight.succeeded, List.countP_cons, hnone, hv, Call.hasSucceeded]
    cases factory n <;> rfl
  · simp only [List.mem_cons, forall_eq_or_imp]
    refine ⟨⟨⟨rfl, fun v hresult => ⟨by rw [hresult], hn⟩⟩, fun answer h => ?_⟩, fun c hc => ?_⟩
    · obtain ⟨own, hown⟩ := hfuture answer h
      cases hown
    · have hc' := hothers.2 c hc
      rw [hv] at hc'
      exact hc'.of_empty (by simpa using List.countP_eq_zero.1 hidle c hc) _ _

theorem moves (hs : Inv factory s) {e : Event} (h : Moves factory s e u) : Inv factory u := by
  cases h with
  | stays => exact hs
  | served hv => exact hs.add rfl rfl rfl ⟨_, rfl, hv⟩
  | asked hv => exact hs.add rfl rfl rfl ⟨trivial, fun _ h => by cases h⟩
  | @dropped i task hi =>
    have hc := hs.sound _ (List.mem_of_getElem? hi)
    refine hs.replace hi rfl rfl rfl ?_
    cases task with
    | none =>
      obtain ⟨v, h, -⟩ := hc
      cases h
    | some task => exact ⟨hc.1, fun _ h => by cases h⟩
  | joined hi hv =>
    have hc := hs.sound _ (List.mem_of_getElem? hi)
    refine hs.replace hi rfl rfl rfl ⟨⟨_, rfl, hv⟩, fun answer h => ?_⟩
    obtain ⟨own, hown⟩ := hc.2 answer h
    cases hown
  | invoked hi hv hfree => exact hs.invoke hi hv hfree
  | settled hi => exact hs.settle hi
  | @finished i own result hi =>
    have hc := hs.sound _ (List.mem_of_getElem? hi)
    exact hs.replace hi rfl rfl rfl ⟨hc.1, fun _ h => ⟨own, by cases h; rfl⟩⟩

/-- While the cell is not locked, nothing is in flight. -/
theorem isInvoking_eq_false (hs : Inv factory s) (hfree : s.locked = false) :
    ∀ c ∈ s.calls, c.isInvoking = false := by
  have hidle : s.inFlight = 0 := by rw [hs.locked, hfree, Bool.toNat_false]
  exact fun c hc => by simpa using List.countP_eq_zero.1 hidle c hc

theorem run (hs : Inv factory s) (events : List Event) : Inv factory (s.run factory events) :=
  run_induction (P := Inv factory) (fun hs h => hs.moves h) events hs

end Inv

end Flight

end Schemata
