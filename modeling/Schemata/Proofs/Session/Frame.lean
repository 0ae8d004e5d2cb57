import Schemata.Proofs.Session.Calls

/-!
# What a call leaves alone

No call takes a table or a column away or moves it to another place. `Schema.Extends` says so of a call
that declares something, and `Schema.column?_configure` of a call that opens a column again: it changes
that column and no other. Seen from one table, a call that addresses another table has no effect at all
(`Schema.SameTable`), so the calls that address other tables may be left out of a run
(`Schema.SameTable.performAll`).
-/

namespace Schemata

namespace Schema

variable {s s' u u' : Schema}

/-! ## Tables and columns stay -/

/-- All tables are still there, under their names. -/
def KeepsTables (s s' : Schema) : Prop :=
  ∀ (k : Nat) (t : Table), s.tables[k]? = some t →
    ∃ t', s'.tables[k]? = some t' ∧ t'.name = t.name

theorem KeepsTables.refl (s : Schema) : s.KeepsTables s :=
  fun _ t ht => ⟨t, ht, rfl⟩

theorem KeepsTables.trans (h : s.KeepsTables s') (h' : s'.KeepsTables u) : s.KeepsTables u := by
  intro k t ht
  obtain ⟨t', ht', hname⟩ := h k t ht
  obtain ⟨t'', ht'', hname'⟩ := h' k t' ht'
  exact ⟨t'', ht'', hname'.trans hname⟩

theorem KeepsTables.setColumns (s : Schema) (k : Nat) (columns : List Column) :
    s.KeepsTables (s.setColumns k columns) := by
  intro j t ht
  rw [getElem?_setColumns, ht]
  by_cases h : k = j
  · exact ⟨{ t with columns }, by simp [h], rfl⟩
  · exact ⟨t, by simp [h], rfl⟩

theorem column?_eq_some_iff {h : ColumnHandle} {c : Column} :
    s.column? h = some c ↔
      ∃ t, s.tables[h.table]? = some t ∧ t.columns[h.column]? = some c := by
  simp [column?, Option.bind_eq_some_iff]

/-- A new column is behind its own handle, and what is behind the others stays. -/
theorem column?_of_append {k : Nat} {c : Column} {h : ColumnHandle}
    (happend : s.append k c = .ok (h, s')) (h' : ColumnHandle) :
    s'.column? h' = if h' = h then some c else s.column? h' := by
  obtain ⟨t, ht, -, rfl, rfl⟩ := append_ok_iff.1 happend
  by_cases hk : h'.table = k
  · subst hk
    have hnew : (s.setColumns h'.table (t.columns ++ [c])).column? h'
        = (t.columns ++ [c])[h'.column]? := by
      simp [column?, setColumns_self ht]
    have hold : s.column? h' = t.columns[h'.column]? := by simp [column?, ht]
    rw [hnew, hold, List.getElem?_append]
    by_cases hi : h'.column = t.columns.length
    · have heq : h' = ⟨h'.table, t.columns.length⟩ := by rw [← hi]
      rw [if_pos heq, hi]
      simp
    · have hne : h' ≠ ⟨h'.table, t.columns.length⟩ := by
        intro heq
        exact hi (by rw [heq])
      rw [if_neg hne]
      split
      · rfl
      · next hge =>
        have hbehind : t.columns.length < h'.column := by omega
        rw [List.getElem?_eq_none (Nat.le_of_lt hbehind), List.getElem?_eq_none]
        simp only [List.length_singleton]
        omega
  · have hne : h' ≠ ⟨k, t.columns.length⟩ := by
      rintro rfl
      exact hk rfl
    rw [if_neg hne, column?, setColumns_of_ne (Ne.symm hk), column?]

theorem column?_append {k : Nat} {c : Column} {h : ColumnHandle}
    (happend : s.append k c = .ok (h, s')) : s.column? h = none ∧ s'.column? h = some c := by
  refine ⟨?_, by rw [column?_of_append happend, if_pos rfl]⟩
  obtain ⟨t, ht, -, rfl, -⟩ := append_ok_iff.1 happend
  simp [column?, ht]

/-- A schema that has grown: all tables and columns are still there, and there may be new ones. -/
structure Extends (s s' : Schema) : Prop where
  tables : s.KeepsTables s'
  columns : ∀ h c, s.column? h = some c → s'.column? h = some c

namespace Extends

theorem refl (s : Schema) : s.Extends s :=
  ⟨.refl s, fun _ _ h => h⟩

theorem trans (h : s.Extends s') (h' : s'.Extends u) : s.Extends u :=
  ⟨h.tables.trans h'.tables, fun handle c hc => h'.columns handle c (h.columns handle c hc)⟩

theorem push (s : Schema) (e : Entity) (name : String) : s.Extends (s.push e name).2 := by
  have htables : ∀ (k : Nat) (t : Table),
      s.tables[k]? = some t → (s.push e name).2.tables[k]? = some t := by
    intro k t ht
    obtain ⟨hk, -⟩ := List.getElem?_eq_some_iff.1 ht
    simp [Schema.push, List.getElem?_append_left hk, ht]
  refine ⟨fun k t ht => ⟨t, htables k t ht, rfl⟩, fun h c hc => ?_⟩
  obtain ⟨t, ht, hc⟩ := column?_eq_some_iff.1 hc
  exact column?_eq_some_iff.2 ⟨t, htables _ t ht, hc⟩

theorem append {k : Nat} {c : Column} {h : ColumnHandle} (happend : s.append k c = .ok (h, s')) :
    s.Extends s' := by
  obtain ⟨hold, -⟩ := column?_append happend
  refine ⟨?_, fun h' d hd => ?_⟩
  · obtain ⟨t, -, -, -, rfl⟩ := append_ok_iff.1 happend
    exact .setColumns s k _
  · have hne : h' ≠ h := by
      rintro rfl
      rw [hold] at hd
      cases hd
    rw [column?_of_append happend, if_neg hne, hd]

theorem withMembers (k : Nat) (ms : List Member) (s : Schema) :
    s.Extends (s.withMembers k ms).2 :=
  withMembers_induction (fun hs happend => hs.trans (.append happend)) ms (.refl s)

end Extends

/-- The handles of the columns of an entity are new and differ from each other. -/
theorem withMembers_handles {k : Nat} {ms : List Member} {handles : List ColumnHandle}
    (h : s.withMembers k ms = (.ok handles, s')) :
    handles.Nodup ∧ ∀ c ∈ handles, s.column? c = none ∧ (s'.column? c).isSome := by
  induction ms generalizing s handles with
  | nil =>
    simp only [withMembers, Prod.mk.injEq, Except.ok.injEq] at h
    obtain ⟨rfl, rfl⟩ := h
    simp
  | cons m ms ih =>
    unfold withMembers at h
    cases hm : s.withMember k m with
    | error e => simp [hm] at h
    | ok r =>
      obtain ⟨c, u⟩ := r
      obtain ⟨type, -, happend⟩ := withMember_ok_iff.1 hm
      obtain ⟨hold, hnew⟩ := column?_append happend
      rcases hrest : u.withMembers k ms with ⟨e | rest, u'⟩
      · simp [hm, hrest, Except.map] at h
      · simp only [hm, hrest, Except.map, Prod.mk.injEq, Except.ok.injEq] at h
        obtain ⟨rfl, rfl⟩ := h
        obtain ⟨hnodup, hrests⟩ := ih hrest
        have hgrown : u.Extends u' := by simpa [hrest] using Extends.withMembers k ms u
        refine ⟨List.nodup_cons.2 ⟨fun hc => ?_, hnodup⟩, fun c' hc' => ?_⟩
        · rw [(hrests c hc).1] at hnew
          cases hnew
        · rcases List.mem_cons.1 hc' with rfl | hc'
          · exact ⟨hold, by rw [hgrown.columns _ _ hnew]; rfl⟩
          · refine ⟨?_, (hrests c' hc').2⟩
            -- a handle that is new to the later schema is new to the earlier one
            cases hd : s.column? c' with
            | none => rfl
            | some d =>
              have hkept := (Extends.append happend).columns c' d hd
              rw [(hrests c' hc').1] at hkept
              cases hkept

theorem column?_configure {h : ColumnHandle} {settings : List Setting}
    (hconfigure : s.configure h settings = .ok s') (h' : ColumnHandle) :
    s'.column? h'
      = if h' = h then (s.column? h').map (·.configure settings) else s.column? h' := by
  obtain ⟨t, c, ht, hc, -, rfl⟩ := configure_ok_iff.1 hconfigure
  obtain ⟨hlt, -⟩ := List.getElem?_eq_some_iff.1 hc
  by_cases hk : h.table = h'.table
  · have hset : (s.setColumns h.table (t.columns.set h.column (c.configure settings))).column? h'
        = (t.columns.set h.column (c.configure settings))[h'.column]? := by
      simp [column?, ← hk, setColumns_self ht]
    have hold : s.column? h' = t.columns[h'.column]? := by simp [column?, ← hk, ht]
    rw [hset, hold]
    by_cases hi : h'.column = h.column
    · have heq : h' = h := by
        cases h
        cases h'
        simp_all
      rw [heq, if_pos rfl, List.getElem?_set_self hlt, hc]
      rfl
    · have hne : h' ≠ h := fun heq => hi (heq ▸ rfl)
      rw [if_neg hne, List.getElem?_set_ne (Ne.symm hi)]
  · have hne : h' ≠ h := fun heq => hk (heq ▸ rfl)
    rw [if_neg hne, column?, setColumns_of_ne hk, column?]

theorem Extends.perform {call : Call} (hcall : ∀ h settings, call ≠ .configure h settings) :
    s.Extends (s.perform call) := by
  cases call with
  | defineTable entity name =>
    cases name with
    | none => exact .push s entity _
    | some name => exact .push s entity name
  | withColumn h selector settings =>
    simp only [Schema.perform]
    split
    · next hok =>
      obtain ⟨t, selection, -, -, happend⟩ := withColumn_ok_iff.1 hok
      exact .append happend
    · exact .refl s
  | withEntityColumns h => exact .withMembers h.index h.entity.members s
  | configure h settings => exact absurd rfl (hcall h settings)
  | naming naming => exact ⟨.refl s, fun _ _ hc => hc⟩

theorem KeepsTables.perform (s : Schema) (call : Call) : s.KeepsTables (s.perform call) := by
  cases call with
  | configure h settings =>
    simp only [Schema.perform]
    split
    · next hok =>
      obtain ⟨t, c, -, -, -, rfl⟩ := configure_ok_iff.1 hok
      exact .setColumns s h.table _
    · exact .refl s
  | _ => exact (Extends.perform (by simp)).tables

/-! ## One table among others -/

/-- Two schemas that agree on one table and on the convention for names. -/
structure SameTable (k : Nat) (s s' : Schema) : Prop where
  naming : s.naming = s'.naming
  table : s.tables[k]? = s'.tables[k]?

namespace SameTable

variable {k : Nat}

theorem refl (k : Nat) (s : Schema) : SameTable k s s :=
  ⟨rfl, rfl⟩

theorem symm (h : SameTable k s s') : SameTable k s' s :=
  ⟨h.naming.symm, h.table.symm⟩

theorem trans (h : SameTable k s s') (h' : SameTable k s' u) : SameTable k s u :=
  ⟨h.naming.trans h'.naming, h.table.trans h'.table⟩

theorem setColumns_of_ne {j : Nat} (hjk : j ≠ k) (s : Schema) (columns : List Column) :
    SameTable k (s.setColumns j columns) s :=
  ⟨rfl, Schema.setColumns_of_ne hjk columns⟩

theorem setColumns (h : SameTable k s s') (columns : List Column) :
    SameTable k (s.setColumns k columns) (s'.setColumns k columns) :=
  ⟨h.naming, by rw [getElem?_setColumns, getElem?_setColumns, h.table]⟩

/-- What succeeds in one of two schemas that agree on the table succeeds in the other with the same
handle, and they still agree. -/
theorem append_ok (h : SameTable k s s') {c : Column} {handle : ColumnHandle}
    (happend : s.append k c = .ok (handle, u)) :
    ∃ u', s'.append k c = .ok (handle, u') ∧ SameTable k u u' := by
  obtain ⟨t, ht, hname, hhandle, rfl⟩ := append_ok_iff.1 happend
  exact ⟨_, append_ok_iff.2 ⟨t, h.table ▸ ht, hname, hhandle, rfl⟩, h.setColumns _⟩

theorem configure_ok (h : SameTable k s s') {handle : ColumnHandle} {settings : List Setting}
    (hk : handle.table = k) (hconfigure : s.configure handle settings = .ok u) :
    ∃ u', s'.configure handle settings = .ok u' ∧ SameTable k u u' := by
  subst hk
  obtain ⟨t, c, ht, hc, hname, rfl⟩ := configure_ok_iff.1 hconfigure
  exact ⟨_, configure_ok_iff.2 ⟨t, c, h.table ▸ ht, hc, hname, rfl⟩, h.setColumns _⟩

theorem withMember_ok (h : SameTable k s s') {m : Member} {handle : ColumnHandle}
    (hm : s.withMember k m = .ok (handle, u)) :
    ∃ u', s'.withMember k m = .ok (handle, u') ∧ SameTable k u u' := by
  obtain ⟨type, htype, happend⟩ := withMember_ok_iff.1 hm
  rw [h.naming] at happend
  obtain ⟨u', happend', hu⟩ := h.append_ok happend
  exact ⟨u', withMember_ok_iff.2 ⟨type, htype, happend'⟩, hu⟩

theorem withColumn_ok (h : SameTable k s s') {table : TableHandle} {selector : Selector}
    {settings : List Setting} {handle : ColumnHandle} (hk : table.index = k)
    (hw : s.withColumn table selector settings = .ok (handle, u)) :
    ∃ u', s'.withColumn table selector settings = .ok (handle, u') ∧ SameTable k u u' := by
  subst hk
  obtain ⟨t, selection, ht, hselection, happend⟩ := withColumn_ok_iff.1 hw
  rw [declared, h.naming, ← declared] at happend
  obtain ⟨u', happend', hu⟩ := h.append_ok happend
  have ht' : s'.table? table = some t := h.table.symm.trans ht
  exact ⟨u', withColumn_ok_iff.2 ⟨t, selection, ht', hselection, happend'⟩, hu⟩

theorem withMembers (ms : List Member) (h : SameTable k s s') :
    SameTable k (s.withMembers k ms).2 (s'.withMembers k ms).2 := by
  induction ms generalizing s s' with
  | nil => exact h
  | cons m ms ih =>
    unfold Schema.withMembers
    cases hm : s.withMember k m with
    | ok r =>
      obtain ⟨handle, u⟩ := r
      obtain ⟨u', hm', hu⟩ := h.withMember_ok hm
      rw [hm']
      exact ih hu
    | error e =>
      cases hm' : s'.withMember k m with
      | error e' => exact h
      | ok r =>
        -- by symmetry it would have succeeded in the first schema as well
        obtain ⟨u, hok, -⟩ := h.symm.withMember_ok hm'
        rw [hm] at hok
        cases hok

theorem perform (h : SameTable k s s') {call : Call} (hcall : call.concerns k = true) :
    SameTable k (s.perform call) (s'.perform call) := by
  cases call with
  | defineTable entity name => cases hcall
  | withColumn table selector settings =>
    have hk : table.index = k := by simpa [Call.concerns] using hcall
    simp only [Schema.perform]
    cases hw : s.withColumn table selector settings with
    | ok r =>
      obtain ⟨u', hw', hu⟩ := h.withColumn_ok hk hw
      rw [hw']
      exact hu
    | error e =>
      cases hw' : s'.withColumn table selector settings with
      | error e' => exact h
      | ok r =>
        obtain ⟨u, hok, -⟩ := h.symm.withColumn_ok hk hw'
        rw [hw] at hok
        cases hok
  | withEntityColumns table =>
    have hk : table.index = k := by simpa [Call.concerns] using hcall
    subst hk
    exact h.withMembers table.entity.members
  | configure handle settings =>
    have hk : handle.table = k := by simpa [Call.concerns] using hcall
    simp only [Schema.perform]
    cases hc : s.configure handle settings with
    | ok r =>
      obtain ⟨u', hc', hu⟩ := h.configure_ok hk hc
      rw [hc']
      exact hu
    | error e =>
      cases hc' : s'.configure handle settings with
      | error e' => exact h
      | ok r =>
        obtain ⟨u, hok, -⟩ := h.symm.configure_ok hk hc'
        rw [hc] at hok
        cases hok
  | naming naming => exact ⟨rfl, h.table⟩

/-- A call that does not concern the table has no effect on it. -/
theorem perform_of_not_concerns (hk : k < s.tables.length) {call : Call}
    (hcall : call.concerns k = false) : SameTable k (s.perform call) s := by
  have hpush : ∀ e name, SameTable k (s.push e name).2 s := fun e name =>
    ⟨rfl, by simp [push, List.getElem?_append_left hk]⟩
  have happend : ∀ {j c handle u u'}, j ≠ k → Schema.append u j c = .ok (handle, u') →
      SameTable k u' u := by
    intro j c handle u u' hjk hok
    obtain ⟨t, -, -, -, rfl⟩ := append_ok_iff.1 hok
    exact setColumns_of_ne hjk u _
  cases call with
  | defineTable entity name =>
    cases name with
    | none => exact hpush entity _
    | some name => exact hpush entity name
  | withColumn table selector settings =>
    have hne : table.index ≠ k := by simpa [Call.concerns] using hcall
    simp only [Schema.perform]
    split
    · next hok =>
      obtain ⟨t, selection, -, -, hok⟩ := withColumn_ok_iff.1 hok
      exact happend hne hok
    · exact refl k s
  | withEntityColumns table =>
    have hne : table.index ≠ k := by simpa [Call.concerns] using hcall
    exact withMembers_induction (fun hu hok => (happend hne hok).trans hu) _ (refl k s)
  | configure handle settings =>
    have hne : handle.table ≠ k := by simpa [Call.concerns] using hcall
    simp only [Schema.perform]
    split
    · next hok =>
      obtain ⟨t, c, -, -, -, rfl⟩ := configure_ok_iff.1 hok
      exact setColumns_of_ne hne s _
    · exact refl k s
  | naming naming => cases hcall

end SameTable

/-- The calls that do not concern a table may be left out. -/
theorem SameTable.performAll {k : Nat} (h : SameTable k s s') (hk : k < s.tables.length)
    (calls : List Call) :
    SameTable k (s.performAll calls) (s'.performAll (calls.filter (·.concerns k))) := by
  induction calls generalizing s s' with
  | nil => exact h
  | cons call calls ih =>
    have hk' : k < (s.perform call).tables.length := by
      obtain ⟨t, ht, -⟩ := KeepsTables.perform s call k _ (List.getElem?_eq_getElem hk)
      exact (List.getElem?_eq_some_iff.1 ht).1
    cases hcall : call.concerns k with
    | true =>
      rw [List.filter_cons_of_pos hcall]
      exact ih (h.perform hcall) hk'
    | false =>
      rw [List.filter_cons_of_neg (by simp [hcall])]
      exact ih ((perform_of_not_concerns hk hcall).trans h) hk'

end Schema

end Schemata
