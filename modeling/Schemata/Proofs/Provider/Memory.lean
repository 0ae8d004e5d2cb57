import Mathlib.Data.List.Induction
import Schemata.Proofs.Provider.Cell
import Schemata.Provider.Binder

/-!
# What a bound driver remembers

Callers who wait for their answers one after another see a driver that keeps what it has produced
(`Binder.memoized`): as long as no call for a capability has had a value, the next one makes one
invocation, of the form that answers at once if there is one, and has its outcome; once a call has had a
value, every later one has the same without an invocation. Errors are not kept. What is asked of one
capability makes no difference to another.

Between two calls every task has ended, so the tasks of a cell find nothing to do (`Flight.Idle`), and
one call is one step of the cell (`Flight.request_filled`, `Flight.request_empty`).
-/

namespace Schemata

/-- The value that an invocation produced, if it did. -/
def Attempt.value? {α : Type} : Attempt α → Option α
  | value v => some v
  | _ => none

namespace Flight

variable {α : Type} {factory : Factory α} {s : Flight α}

/-! ## One call at a time -/

/-- No task waits or has an invocation in flight. -/
structure Idle (s : Flight α) : Prop where
  free : s.locked = false
  ended : ∀ c ∈ s.calls, c.HasEnded

theorem Idle.start : Idle (start : Flight α) :=
  ⟨rfl, fun _ hc => by cases hc⟩

theorem run_of_forall_step {events : List Event} (h : ∀ e ∈ events, s.step factory e = s) :
    s.run factory events = s := by
  induction events with
  | nil => rfl
  | cons e events ih =>
    rw [run_cons, h e List.mem_cons_self]
    exact ih fun e' he => h e' (List.mem_cons_of_mem e he)

variable (factory) in
/-- The turns of callers whose tasks have ended change nothing. -/
theorem run_turns {n : Nat} (hn : n ≤ s.calls.length)
    (h : ∀ i c, i < n → s.calls[i]? = some c → c.HasEnded) :
    s.run factory ((List.range n).flatMap fun caller => [.enter caller, .settle caller]) = s := by
  apply run_of_forall_step
  intro e he
  simp only [List.mem_flatMap, List.mem_range, List.mem_cons, List.not_mem_nil, or_false] at he
  obtain ⟨i, hi, he⟩ := he
  have hget : s.calls[i]? = some s.calls[i] := List.getElem?_eq_getElem (by omega)
  have hstep := step_of_hasEnded factory hget (h i _ hi hget)
  rcases he with rfl | rfl
  · exact hstep.1
  · exact hstep.2

theorem Idle.drain (h : s.Idle) : s.drain factory = s :=
  run_turns factory (Nat.le_refl _) fun _ c _ hc => h.ended c (List.mem_of_getElem? hc)

/-- The cell behind one more call, whose task has ended. -/
def answered (s : Flight α) (value : Option α) (invocations : Nat) (c : Call α) : Flight α :=
  { s with value, invocations, calls := s.calls ++ [c] }

theorem Idle.answered (h : s.Idle) {c : Call α} (hc : c.HasEnded) (value : Option α)
    (invocations : Nat) : (s.answered value invocations c).Idle where
  free := h.free
  ended d hd := by
    rcases List.mem_append.1 hd with hd | hd
    · exact h.ended d hd
    · exact List.mem_singleton.1 hd ▸ hc

variable (factory) in
/-- A caller who finds the value has it at once. -/
theorem request_filled (h : s.Idle) {v : α} (hv : s.value = some v) :
    s.request factory 0 1
      = ([.value v], s.answered s.value s.invocations ⟨none, .ready (.value v)⟩) := by
  have hidle := h.answered (Call.hasEnded_none (.ready (.value v))) s.value s.invocations
  have hcall : s.call = s.answered s.value s.invocations ⟨none, .ready (.value v)⟩ := by
    simp only [call, hv, Flight.answered]
  have hlast : (s.answered s.value s.invocations
      ⟨none, .ready (.value v)⟩).calls[s.calls.length]? = some ⟨none, .ready (.value v)⟩ :=
    List.getElem?_concat_length
  simp [request, giveUp, run, step, hcall, hidle.drain, finish, answer?, hlast]

variable (factory) in
/-- Any other caller makes one invocation and has its outcome. -/
theorem request_empty (h : s.Idle) (hv : s.value = none) :
    s.request factory 0 1 = ([factory s.invocations],
      s.answered (factory s.invocations).value? (s.invocations + 1)
        ⟨some (.ended (some s.invocations) (factory s.invocations)),
          .ready (factory s.invocations)⟩) := by
  obtain ⟨value, locked, invocations, calls⟩ := s
  obtain rfl : locked = false := h.free
  obtain rfl : value = none := hv
  have hturns := run_turns factory (n := calls.length)
    (s := ⟨none, false, invocations, calls ++ [⟨some .waiting, .pending⟩]⟩) (by simp)
    fun i c hi hc => by
      rw [List.getElem?_append_left hi] at hc
      exact h.ended c (List.mem_of_getElem? hc)
  have hdrain : drain factory ⟨none, false, invocations, calls ++ [⟨some .waiting, .pending⟩]⟩
      = ⟨(factory invocations).value?, false, invocations + 1,
        calls ++ [⟨some (.ended (some invocations) (factory invocations)), .pending⟩]⟩ := by
    rw [drain, List.length_append, List.length_singleton, List.range_succ, List.flatMap_append,
      run_append, hturns]
    cases hf : factory invocations <;> simp [run, step, enter, settle, Attempt.value?, hf]
  simp [request, giveUp, run, step, call, hdrain, finish, answer?, Flight.answered]

end Flight

namespace Binder

/-! ## Sessions -/

/-- A call on a bound driver, by a caller who waits for the answer. -/
inductive Call where
  | connection
  | options
  | ddlGenerator
deriving Repr, DecidableEq

/-- A bound driver with the answers it has given, those to calls of one kind in their order. -/
structure History (γ ω : Type) where
  binder : Binder γ ω
  connections : List (Except ProviderError γ)
  options : List (Except ProviderError ω)
  generators : List (Except ProviderError Generator)

namespace History

variable {γ ω : Type}

/-- A driver that has just been bound. -/
def start (p : Provider γ ω) : History γ ω :=
  ⟨bind p, [], [], []⟩

/-- One more call. -/
def call (h : History γ ω) : Call → History γ ω
  | .connection =>
    let (results, binder) := h.binder.requestConnection 0 1
    { h with binder, connections := h.connections ++ results }
  | .options =>
    let (results, binder) := h.binder.requestOptions 0 1
    { h with binder, options := h.options ++ results }
  | .ddlGenerator =>
    let (result, binder) := h.binder.ddlGenerator
    { h with binder, generators := h.generators ++ [result] }

/-- The calls of a session, one after another. -/
def run (h : History γ ω) (calls : List Call) : History γ ω :=
  calls.foldl call h

def connectionInvocations (h : History γ ω) : Nat × Nat :=
  invocations h.binder.connectionCapability h.binder.connection

def optionsInvocations (h : History γ ω) : Nat × Nat :=
  invocations h.binder.optionsCapability h.binder.options

end History

/-! ## One capability -/

/-- What one more call for a capability does, after calls with these results and so many invocations of
the two forms: its result, and the invocations behind it. -/
structure Recalls {α : Type} (provider : String) (name : CapabilityName) (offered : Factories α)
    (earlier : List (Except ProviderError α)) (before : Nat × Nat)
    (result : Except ProviderError α) (after : Nat × Nat) : Prop where
  /-- After a call that had a value there is no invocation, and the value is the same. -/
  kept : ∀ v, .ok v ∈ earlier → result = .ok v ∧ after = before
  /-- Otherwise the form that answers at once is invoked, if there is one, -/
  sync : ∀ factory, offered.sync = some factory → (∀ v, .ok v ∉ earlier) →
    result = resultOf provider name (factory before.1) ∧ after = (before.1 + 1, before.2)
  /-- or else the one that is waited for. -/
  async : ∀ factory, offered.sync = none → offered.async = some factory → (∀ v, .ok v ∉ earlier) →
    result = resultOf provider name (factory before.2) ∧ after = (before.1, before.2 + 1)
  /-- A capability without a form is missing, and nothing is ever invoked. -/
  missing : offered.sync = none → offered.async = none →
    result = .error (.capabilityMissing provider name) ∧ after = (0, 0)
  /-- The form that is waited for is never invoked beside the other. -/
  preferred : offered.sync.isSome → after.2 = 0

/-- What a cell is like between calls that had these results: idle, with the value that any of them
had, and never touched if there is no form. -/
structure Remembers {α : Type} (capability : Capability α)
    (results : List (Except ProviderError α)) (cell : Flight α) : Prop where
  idle : cell.Idle
  value : ∀ v, .ok v ∈ results ↔ cell.value = some v
  empty : capability.factory? = none → cell.value = none

variable {α : Type} {provider : String} {name : CapabilityName} {capability : Capability α}
  {results : List (Except ProviderError α)} {cell : Flight α}

theorem resultOf_eq_ok_iff {attempt : Attempt α} {v : α} :
    .ok v = resultOf provider name attempt ↔ attempt.value? = some v := by
  cases attempt <;> simp [resultOf, Attempt.value?, eq_comm]

namespace Remembers

theorem start : Remembers capability [] Flight.start where
  idle := .start
  value v := by simp [Flight.start]
  empty _ := rfl

theorem settle (h : Remembers capability results cell) : settle capability cell = cell := by
  unfold Binder.settle
  split
  · rfl
  · exact h.idle.drain

theorem filled (h : Remembers capability results cell) {v : α} (hv : cell.value = some v)
    (c : Flight.Call α) (hc : c.HasEnded) :
    Remembers capability (results ++ [.ok v]) (cell.answered cell.value cell.invocations c) where
  idle := h.idle.answered hc _ _
  value w := by
    have hw : (.ok w ∈ results ++ [Except.ok v]) ↔ (.ok w ∈ results ∨ w = v) := by simp
    rw [hw, h.value w]
    refine ⟨fun hor => ?_, .inl⟩
    rcases hor with hw | rfl
    · exact hw
    · exact hv
  empty hnone := h.empty hnone

theorem invoked (h : Remembers capability results cell) (hv : cell.value = none)
    {factory : Factory α} (hfactory : capability.factory? = some factory) (c : Flight.Call α)
    (hc : c.HasEnded) :
    Remembers capability (results ++ [resultOf provider name (factory cell.invocations)])
      (cell.answered (factory cell.invocations).value? (cell.invocations + 1) c) where
  idle := h.idle.answered hc _ _
  value w := by
    have hnew : .ok w ∉ results := fun hw => by
      have hsome := (h.value w).1 hw
      rw [hv] at hsome
      cases hsome
    rw [List.mem_append, List.mem_singleton, resultOf_eq_ok_iff]
    exact or_iff_right hnew
  empty hnone := by
    rw [hnone] at hfactory
    cases hfactory

theorem refused (h : Remembers capability results cell) :
    Remembers capability (results ++ [.error (.capabilityMissing provider name)]) cell where
  idle := h.idle
  value w := by simpa using h.value w
  empty := h.empty

/-- One more call: the value that is there, or one invocation, or an error where there is no form. -/
theorem resolve (provider : String) (name : CapabilityName)
    (h : Remembers capability results cell) : ∃ result cell',
    resolve provider name capability 0 1 cell = ([result], cell') ∧
    Remembers capability (results ++ [result]) cell' ∧
    (∀ v, .ok v ∈ results → result = .ok v ∧ cell'.invocations = cell.invocations) ∧
    (∀ factory, capability.factory? = some factory → (∀ v, .ok v ∉ results) →
      result = resultOf provider name (factory cell.invocations) ∧
        cell'.invocations = cell.invocations + 1) ∧
    (capability.factory? = none → result = .error (.capabilityMissing provider name)) := by
  cases hfactory : capability.factory? with
  | none =>
    refine ⟨.error (.capabilityMissing provider name), cell, ?_, h.refused, ?_, ?_, ?_⟩
    · simp [Binder.resolve, hfactory]
    · intro v hv
      have hsome := (h.value v).1 hv
      rw [h.empty hfactory] at hsome
      cases hsome
    · intro factory hsome
      cases hsome
    · exact fun _ => rfl
  | some factory =>
    cases hv : cell.value with
    | some v =>
      have hrequest := Flight.request_filled factory h.idle hv
      refine ⟨.ok v, _, ?_, h.filled hv _ (Flight.Call.hasEnded_none (.ready (.value v))), ?_, ?_, ?_⟩
      · simp only [Binder.resolve, hfactory, hrequest, List.map_cons, List.map_nil, resultOf]
      · intro w hw
        obtain rfl : v = w := Option.some.inj (hv.symm.trans ((h.value w).1 hw))
        exact ⟨rfl, rfl⟩
      · intro _ _ hnone
        exact absurd ((h.value v).2 hv) (hnone v)
      · intro hnone
        cases hnone
    | none =>
      have hrequest := Flight.request_empty factory h.idle hv
      have hended := Flight.Call.hasEnded_ended (some cell.invocations) (factory cell.invocations)
        (.ready (factory cell.invocations))
      refine ⟨resultOf provider name (factory cell.invocations), _, ?_,
        h.invoked hv hfactory _ hended, ?_, ?_, ?_⟩
      · simp only [Binder.resolve, hfactory, hrequest, List.map_cons, List.map_nil]
      · intro w hw
        have hsome := (h.value w).1 hw
        rw [hv] at hsome
        cases hsome
      · intro factory' hsome _
        cases hsome
        exact ⟨rfl, rfl⟩
      · intro hnone
        cases hnone

end Remembers

/-- The form that is used of those that are offered. -/
theorem recalls_resolve (provider : String) (name : CapabilityName) {offered : Factories α}
    (h : Remembers (Capability.detect offered) results cell) : ∃ result cell',
    resolve provider name (Capability.detect offered) 0 1 cell = ([result], cell') ∧
    Remembers (Capability.detect offered) (results ++ [result]) cell' ∧
    Recalls provider name offered results (invocations (Capability.detect offered) cell) result
      (invocations (Capability.detect offered) cell') := by
  obtain ⟨result, cell', hresolve, hafter, hkept, hinvoked, hmissing⟩ := h.resolve provider name
  refine ⟨result, cell', hresolve, hafter, ?_⟩
  obtain ⟨sync, async⟩ := offered
  cases sync with
  | some factory =>
    exact {
      kept := fun v hv => ⟨(hkept v hv).1, by
        simp only [invocations, Capability.detect, Capability.kind, (hkept v hv).2]⟩
      sync := fun f hf hnone => by
        cases hf
        obtain ⟨hresult, hcount⟩ := hinvoked factory rfl hnone
        exact ⟨hresult, by simp only [invocations, Capability.detect, Capability.kind, hcount]⟩
      async := fun _ hf => by cases hf
      missing := fun hf => by cases hf
      preferred := fun _ => rfl }
  | none =>
    cases async with
    | some factory =>
      exact {
        kept := fun v hv => ⟨(hkept v hv).1, by
          simp only [invocations, Capability.detect, Capability.kind, (hkept v hv).2]⟩
        sync := fun _ hf => by cases hf
        async := fun f _ hf hnone => by
          cases hf
          obtain ⟨hresult, hcount⟩ := hinvoked factory rfl hnone
          exact ⟨hresult, by simp only [invocations, Capability.detect, Capability.kind, hcount]⟩
        missing := fun _ hf => by cases hf
        preferred := fun hf => by cases hf }
    | none =>
      exact {
        kept := fun v hv => ⟨(hkept v hv).1, rfl⟩
        sync := fun _ hf => by cases hf
        async := fun _ _ hf => by cases hf
        missing := fun _ _ => ⟨hmissing rfl, rfl⟩
        preferred := fun hf => by cases hf }

/-! ## Sessions keep what they remember -/

/-- The generator that a driver gives: its own, or else the built-in one of the backend that its name
denotes. -/
def givenGenerator {γ ω : Type} (p : Provider γ ω) : Except ProviderError Generator :=
  match p.generator, Backend.ofProviderName? p.name with
  | some g, _ => .ok g
  | none, some backend => .ok backend.generator
  | none, none => .error (.unrecognized p.name)

namespace History

variable {γ ω : Type} {p : Provider γ ω} {h : History γ ω}

/-- What holds of a driver between calls. -/
structure Follows (p : Provider γ ω) (h : History γ ω) : Prop where
  name : h.binder.name = p.name
  connectionCapability : h.binder.connectionCapability = Capability.detect p.connection
  optionsCapability : h.binder.optionsCapability = Capability.detect p.options
  ownGenerator : h.binder.ownGenerator = p.generator
  connection : Remembers (Capability.detect p.connection) h.connections h.binder.connection
  options : Remembers (Capability.detect p.options) h.options h.binder.options
  generator : ∀ g, h.binder.generator = some g → givenGenerator p = .ok g

namespace Follows

theorem start (p : Provider γ ω) : (start p).Follows p where
  name := rfl
  connectionCapability := rfl
  optionsCapability := rfl
  ownGenerator := rfl
  connection := .start
  options := .start
  generator g hg := by cases hg

theorem chooseGenerator (hp : h.Follows p) : h.binder.chooseGenerator = givenGenerator p := by
  simp only [Binder.chooseGenerator, givenGenerator, hp.ownGenerator, hp.name]
  cases p.generator with
  | some g => rfl
  | none => cases Backend.ofProviderName? p.name <;> rfl

/-- A call for the connection changes nothing but its own cell. -/
theorem call_connection (hp : h.Follows p) : ∃ result cell,
    h.call .connection = { h with
      binder := { h.binder with connection := cell }
      connections := h.connections ++ [result] } ∧
    resolve p.name .connectionFactory (Capability.detect p.connection) 0 1 h.binder.connection
      = ([result], cell) ∧
    Remembers (Capability.detect p.connection) (h.connections ++ [result]) cell ∧
    Recalls p.name .connectionFactory p.connection h.connections h.connectionInvocations result
      (h.call .connection).connectionInvocations := by
  obtain ⟨result, cell, hresolve, hafter, hrecalls⟩ :=
    recalls_resolve p.name .connectionFactory hp.connection
  have hcall : h.call .connection = { h with
      binder := { h.binder with connection := cell }
      connections := h.connections ++ [result] } := by
    have hoptions := hp.options.settle
    simp only [History.call, requestConnection, hp.name, hp.connectionCapability, hresolve,
      hp.optionsCapability, hoptions, ite_self]
  refine ⟨result, cell, hcall, hresolve, hafter, ?_⟩
  rw [hcall]
  simpa only [connectionInvocations, hp.connectionCapability] using hrecalls

theorem call_options (hp : h.Follows p) : ∃ result cell,
    h.call .options = { h with
      binder := { h.binder with options := cell }
      options := h.options ++ [result] } ∧
    resolve p.name .optionsFactory (Capability.detect p.options) 0 1 h.binder.options
      = ([result], cell) ∧
    Remembers (Capability.detect p.options) (h.options ++ [result]) cell ∧
    Recalls p.name .optionsFactory p.options h.options h.optionsInvocations result
      (h.call .options).optionsInvocations := by
  obtain ⟨result, cell, hresolve, hafter, hrecalls⟩ :=
    recalls_resolve p.name .optionsFactory hp.options
  have hcall : h.call .options = { h with
      binder := { h.binder with options := cell }
      options := h.options ++ [result] } := by
    have hconnection := hp.connection.settle
    simp only [History.call, requestOptions, hp.name, hp.connectionCapability, hresolve,
      hp.optionsCapability, hconnection, ite_self]
  refine ⟨result, cell, hcall, hresolve, hafter, ?_⟩
  rw [hcall]
  simpa only [optionsInvocations, hp.optionsCapability] using hrecalls

theorem call_ddlGenerator (hp : h.Follows p) : ∃ generator,
    h.call .ddlGenerator = { h with
      binder := { h.binder with generator }
      generators := h.generators ++ [givenGenerator p] } ∧
    ∀ g, generator = some g → givenGenerator p = .ok g := by
  have hchoose := hp.chooseGenerator
  cases hg : h.binder.generator with
  | some g =>
    have hgiven := hp.generator g hg
    refine ⟨some g, ?_, fun g' hg' => Option.some.inj hg' ▸ hgiven⟩
    simp only [History.call, ddlGenerator, hg, hgiven]
    rw [← hg]
  | none =>
    cases hgiven : givenGenerator p with
    | ok g =>
      refine ⟨some g, ?_, fun g' hg' => Option.some.inj hg' ▸ rfl⟩
      simp only [History.call, ddlGenerator, hg, hchoose, hgiven]
    | error e =>
      refine ⟨none, ?_, fun g' hg' => by cases hg'⟩
      simp only [History.call, ddlGenerator, hg, hchoose, hgiven]
      rw [← hg]

theorem call (hp : h.Follows p) (c : Call) : (h.call c).Follows p := by
  cases c with
  | connection =>
    obtain ⟨result, cell, hcall, -, hafter, -⟩ := hp.call_connection
    rw [hcall]
    exact { hp with connection := hafter }
  | options =>
    obtain ⟨result, cell, hcall, -, hafter, -⟩ := hp.call_options
    rw [hcall]
    exact { hp with options := hafter }
  | ddlGenerator =>
    obtain ⟨generator, hcall, hgenerator⟩ := hp.call_ddlGenerator
    rw [hcall]
    exact { hp with generator := hgenerator }

theorem run (hp : h.Follows p) (calls : List Call) : (h.run calls).Follows p := by
  induction calls generalizing h with
  | nil => exact hp
  | cons c calls ih => exact ih (hp.call c)

end Follows

/-! ## Capabilities do not meet -/

end History

end Binder

end Schemata
