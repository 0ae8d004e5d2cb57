import Mathlib.Data.List.Pairwise
import Schemata.Table

/-!
# The order of columns

Where the columns of a table stand in a statement is decided by two kinds of places: the index at which
a column is declared, and the ordinal that it may have. `Table.Arranges` says which arrangements of the
declared columns are right, for columns without ordinals, for columns with ordinals, and for one of
each. There is exactly one such arrangement, and `Table.orderedColumns` is it
(`Table.orderedColumns_specified`), whatever the ordinals are and however often they repeat.
-/

namespace Schemata

/-! ## Standing before -/

section Before

variable {α : Type} {l : List α} {a b : α}

/-- One member of a list stands before another. -/
def StandsBefore (l : List α) (a b : α) : Prop :=
  [a, b].Sublist l

theorem pairwise_iff_standsBefore {R : α → α → Prop} :
    l.Pairwise R ↔ ∀ a b, StandsBefore l a b → R a b :=
  List.pairwise_iff_forall_sublist

theorem StandsBefore.mem (h : StandsBefore l a b) : a ∈ l ∧ b ∈ l :=
  ⟨h.subset (by simp), h.subset (by simp)⟩

theorem standsBefore_or (ha : a ∈ l) (hb : b ∈ l) (hne : a ≠ b) :
    StandsBefore l a b ∨ StandsBefore l b a := by
  have hall : l.Pairwise fun a b => StandsBefore l a b ∨ StandsBefore l b a :=
    pairwise_iff_standsBefore.2 fun _ _ h => .inl h
  have hsymm : Std.Symm fun a b => StandsBefore l a b ∨ StandsBefore l b a :=
    ⟨fun _ _ h => h.symm⟩
  exact hall.forall ha hb hne

theorem StandsBefore.ne (hl : l.Nodup) (h : StandsBefore l a b) : a ≠ b :=
  pairwise_iff_standsBefore.1 hl a b h

theorem StandsBefore.asymm (hl : l.Nodup) (h : StandsBefore l a b) : ¬ StandsBefore l b a := by
  intro h'
  induction l with
  | nil => cases h
  | cons x l ih =>
    obtain ⟨hx, hl⟩ := List.nodup_cons.1 hl
    cases h with
    | cons _ h =>
      cases h' with
      | cons _ h' => exact ih hl h h'
      | cons_cons _ h' => exact hx (h.subset (by simp))
    | cons_cons _ h =>
      cases h' with
      | cons _ h' => exact hx (h'.subset (by simp))
      | cons_cons _ h' => exact hx (h'.subset (by simp))

end Before

namespace Table

variable {t : Table}

/-! ## Right arrangements -/

/-- An arrangement of the columns of a table, each with the index at which it is declared. -/
structure Arranges (t : Table) (l : List (Column × Nat)) : Prop where
  /-- Every column stands once. -/
  perm : l.Perm t.columns.zipIdx
  implicit : ∀ a b, StandsBefore l a b → a.1.ordinal = none → b.1.ordinal = none → a.2 < b.2
  explicit : ∀ a b j k, StandsBefore l a b → a.1.ordinal = some j → b.1.ordinal = some k →
    j ≤ k ∧ (j = k → a.2 < b.2)
  mixed : ∀ a ∈ l, ∀ b ∈ l, ∀ k, a.1.ordinal = some k → b.1.ordinal = none →
    (StandsBefore l a b ↔ k.toNat ≤ b.2)

/-- What an arrangement says about a column and one that it stands before. -/
def Precedes (a b : Column × Nat) : Prop :=
  match a.1.ordinal, b.1.ordinal with
  | none, none => a.2 < b.2
  | some j, some k => j ≤ k ∧ (j = k → a.2 < b.2)
  | some k, none => k.toNat ≤ b.2
  | none, some k => a.2 < k.toNat

theorem Precedes.asymm {a b : Column × Nat} (h : Precedes a b) : ¬ Precedes b a := by
  unfold Precedes at *
  cases ha : a.1.ordinal with
  | none =>
    cases hb : b.1.ordinal with
    | none =>
      simp only [ha, hb] at *
      omega
    | some k =>
      simp only [ha, hb] at *
      omega
  | some j =>
    cases hb : b.1.ordinal with
    | none =>
      simp only [ha, hb] at *
      omega
    | some k =>
      simp only [ha, hb] at *
      rintro ⟨hle, hlt⟩
      have heq : j = k := UInt64.le_antisymm h.1 hle
      have := h.2 heq
      have := hlt heq.symm
      omega

theorem pairwise_zipIdx (t : Table) : t.columns.zipIdx.Pairwise fun a b => a.2 < b.2 := by
  have hsnd : (t.columns.zipIdx.map Prod.snd).Pairwise (· < ·) := by
    rw [List.zipIdx_map_snd]
    exact List.pairwise_lt_range'
  exact List.pairwise_map.1 hsnd

theorem nodup_zipIdx (t : Table) : t.columns.zipIdx.Nodup := by
  refine t.pairwise_zipIdx.imp ?_
  rintro a b hlt rfl
  exact Nat.lt_irrefl _ hlt

theorem arranges_iff {l : List (Column × Nat)} :
    t.Arranges l ↔ l.Perm t.columns.zipIdx ∧ l.Pairwise Precedes := by
  rw [pairwise_iff_standsBefore]
  constructor
  · intro h
    refine ⟨h.perm, ?_⟩
    intro a b hab
    obtain ⟨ha, hb⟩ := hab.mem
    have hnodup : l.Nodup := h.perm.nodup_iff.2 t.nodup_zipIdx
    unfold Precedes
    split
    · next hna hnb => exact h.implicit a b hab hna hnb
    · next j k hja hkb => exact h.explicit a b j k hab hja hkb
    · next k hka hnb => exact (h.mixed a ha b hb k hka hnb).1 hab
    · next k hna hkb =>
      by_contra hle
      exact hab.asymm hnodup ((h.mixed b hb a ha k hkb hna).2 (Nat.le_of_not_lt hle))
  · rintro ⟨hperm, hall⟩
    refine ⟨hperm, ?_, ?_, ?_⟩
    · intro a b hab ha hb
      have h := hall a b hab
      simpa only [Precedes, ha, hb] using h
    · intro a b j k hab ha hb
      have h := hall a b hab
      simpa only [Precedes, ha, hb] using h
    · intro a ha b hb k hka hnb
      constructor
      · intro hab
        have h := hall a b hab
        simpa only [Precedes, hka, hnb] using h
      · intro hle
        have hne : a ≠ b := by
          rintro rfl
          rw [hka] at hnb
          cases hnb
        rcases standsBefore_or ha hb hne with hab | hba
        · exact hab
        · have h := hall b a hba
          simp only [Precedes, hka, hnb] at h
          omega

theorem Arranges.unique {l l' : List (Column × Nat)} (h : t.Arranges l) (h' : t.Arranges l') :
    l = l' := by
  obtain ⟨hperm, hpairwise⟩ := arranges_iff.1 h
  obtain ⟨hperm', hpairwise'⟩ := arranges_iff.1 h'
  refine List.Perm.eq_of_pairwise ?_ hpairwise hpairwise' (hperm.trans hperm'.symm)
  intro a b _ _ hab hba
  exact absurd hba hab.asymm

/-! ## Sorting -/

theorem mayPrecede_iff {a b : Column × Nat} :
    mayPrecede a b = true ↔ (sortKey a).1 < (sortKey b).1 ∨
      (sortKey a).1 = (sortKey b).1 ∧ ((sortKey a).2 = true → (sortKey b).2 = true) := by
  simp only [mayPrecede, Bool.or_eq_true, Bool.and_eq_true, decide_eq_true_eq, beq_iff_eq]
  cases (sortKey a).2 <;> simp

theorem mayPrecede_trans (a b c : Column × Nat) (hab : mayPrecede a b = true)
    (hbc : mayPrecede b c = true) : mayPrecede a c = true := by
  rw [mayPrecede_iff] at *
  rcases hab with hab | ⟨hab, hab'⟩ <;> rcases hbc with hbc | ⟨hbc, hbc'⟩
  · exact .inl (Nat.lt_trans hab hbc)
  · exact .inl (hbc ▸ hab)
  · exact .inl (hab ▸ hbc)
  · exact .inr ⟨hab.trans hbc, fun h => hbc' (hab' h)⟩

theorem mayPrecede_total (a b : Column × Nat) : (mayPrecede a b || mayPrecede b a) = true := by
  rw [Bool.or_eq_true, mayPrecede_iff, mayPrecede_iff]
  cases (sortKey a).2 <;> cases (sortKey b).2 <;> simp <;> omega

/-- Columns that tie are told apart by the order of their declaration. -/
theorem precedes_iff {a b : Column × Nat} :
    Precedes a b ↔ mayPrecede a b = true ∧ (mayPrecede b a = true → a.2 < b.2) := by
  rw [mayPrecede_iff, mayPrecede_iff]
  unfold Precedes sortKey
  cases ha : a.1.ordinal with
  | none =>
    cases hb : b.1.ordinal with
    | none =>
      simp
      omega
    | some k =>
      simp
      omega
  | some j =>
    cases hb : b.1.ordinal with
    | none =>
      simp
      omega
    | some k =>
      simp [UInt64.le_iff_toNat_le, ← UInt64.toNat_inj]
      omega

/-- The columns in the order of a statement, each with the index at which it is declared. -/
def arrangement (t : Table) : List (Column × Nat) :=
  t.columns.zipIdx.mergeSort mayPrecede

theorem orderedColumns_eq (t : Table) : t.orderedColumns = t.arrangement.map Prod.fst := rfl

theorem arrangement_perm (t : Table) : t.arrangement.Perm t.columns.zipIdx :=
  List.mergeSort_perm t.columns.zipIdx mayPrecede

theorem pairwise_arrangement (t : Table) : t.arrangement.Pairwise Precedes := by
  have hsorted : t.arrangement.Pairwise (mayPrecede · ·) :=
    List.pairwise_mergeSort mayPrecede_trans mayPrecede_total t.columns.zipIdx
  have hnodup : t.arrangement.Nodup := t.arrangement_perm.nodup_iff.2 t.nodup_zipIdx
  rw [pairwise_iff_standsBefore]
  intro a b hab
  rw [precedes_iff]
  refine ⟨pairwise_iff_standsBefore.1 hsorted a b hab, ?_⟩
  intro htie
  -- the sort is stable, so a tied column that was declared later would stand behind
  have ha : a ∈ t.columns.zipIdx := t.arrangement_perm.mem_iff.1 hab.mem.1
  have hb : b ∈ t.columns.zipIdx := t.arrangement_perm.mem_iff.1 hab.mem.2
  rcases standsBefore_or ha hb (hab.ne hnodup) with hdeclared | hdeclared
  · exact pairwise_iff_standsBefore.1 t.pairwise_zipIdx a b hdeclared
  · have hba : StandsBefore t.arrangement b a :=
      List.pair_sublist_mergeSort mayPrecede_trans mayPrecede_total htie hdeclared
    exact absurd hba (hab.asymm hnodup)

theorem arranges_arrangement (t : Table) : t.Arranges t.arrangement :=
  arranges_iff.2 ⟨t.arrangement_perm, t.pairwise_arrangement⟩

/-! ## Tables in order -/

theorem orderedColumns_of_ordinal_none {t : Table} (h : ∀ c ∈ t.columns, c.ordinal = none) :
    t.orderedColumns = t.columns := by
  have hnone {a : Column × Nat} (ha : a ∈ t.columns.zipIdx) : a.1.ordinal = none :=
    h a.1 (List.fst_mem_of_mem_zipIdx ha)
  have hdeclared : t.Arranges t.columns.zipIdx := by
    refine arranges_iff.2 ⟨.refl _, t.pairwise_zipIdx.imp_of_mem ?_⟩
    intro a b ha hb hlt
    simpa only [Precedes, hnone ha, hnone hb] using hlt
  rw [orderedColumns_eq, t.arranges_arrangement.unique hdeclared, List.zipIdx_map_fst]

/-- The table with its columns declared in the order of a statement, and without ordinals. -/
def inOrder (t : Table) : Table :=
  { t with columns := t.orderedColumns.map fun c => { c with ordinal := none } }

theorem orderedColumns_inOrder (t : Table) : t.inOrder.orderedColumns = t.inOrder.columns := by
  apply orderedColumns_of_ordinal_none
  intro c hc
  obtain ⟨c', -, rfl⟩ := List.mem_map.1 hc
  rfl

theorem inOrder_inOrder (t : Table) : t.inOrder.inOrder = t.inOrder := by
  have hcolumns : t.inOrder.columns.map (fun c => { c with ordinal := none }) = t.inOrder.columns := by
    simp [inOrder, Function.comp_def]
  have hinOrder : t.inOrder.inOrder
      = { t with columns := t.inOrder.orderedColumns.map fun c => { c with ordinal := none } } := rfl
  rw [hinOrder, orderedColumns_inOrder, hcolumns]
  rfl

/-- **The columns of a statement are arranged by their ordinals and the order of their
declaration**, and these conditions leave no choice. -/
theorem orderedColumns_specified (t : Table) :
    -- Nothing is lost or doubled.
    t.orderedColumns.Perm t.columns ∧
    -- There is one right arrangement, and it is the order of the statement.
    (∃ l, t.Arranges l ∧ t.orderedColumns = l.map Prod.fst ∧ ∀ l', t.Arranges l' → l' = l) ∧
    -- Without ordinals it is the order of declaration.
    ((∀ c ∈ t.columns, c.ordinal = none) → t.orderedColumns = t.columns) ∧
    -- A table that is declared in this order, without ordinals, is not rearranged again.
    (t.inOrder.orderedColumns = t.inOrder.columns ∧ t.inOrder.inOrder = t.inOrder) := by
  refine ⟨t.orderedColumns_perm, ?_, orderedColumns_of_ordinal_none, t.orderedColumns_inOrder,
    t.inOrder_inOrder⟩
  refine ⟨t.arrangement, t.arranges_arrangement, t.orderedColumns_eq, ?_⟩
  intro l' hl'
  exact hl'.unique t.arranges_arrangement

def placed (name : String) (ordinal : UInt64) : Column :=
  { Column.plain name .int32 with ordinal := some ordinal }

/-- Ordinals that repeat, also on the same column, and one behind every index. -/
def crowded : Table :=
  ⟨"Crowded", [Column.plain "a" .int32, placed "b" 18446744073709551615, Column.plain "c" .int32,
    placed "d" 2, placed "e" 0, placed "d" 2, placed "f" 2, Column.plain "g" .int32]⟩

def unplaced : Table :=
  ⟨"Unplaced", [Column.plain "b" .int32, Column.plain "a" .int32, Column.plain "b" .int32]⟩

theorem orderedColumns_specified_crowded :
    (∃ l, crowded.Arranges l ∧ l.map (·.1.name) = ["e", "a", "d", "d", "f", "c", "g", "b"] ∧
      ∀ l', crowded.Arranges l' → l' = l) ∧
    (∀ c ∈ unplaced.columns, c.ordinal = none) ∧ unplaced.orderedColumns = unplaced.columns := by
  obtain ⟨-, ⟨l, hl, horder, hunique⟩, -, -⟩ := orderedColumns_specified crowded
  obtain ⟨-, -, hdeclared, -⟩ := orderedColumns_specified unplaced
  have hnone : ∀ c ∈ unplaced.columns, c.ordinal = none := by decide
  have hnames : crowded.orderedColumns.map (·.name)
      = ["e", "a", "d", "d", "f", "c", "g", "b"] := by
    simp [orderedColumns, crowded, placed, List.zipIdx, List.mergeSort, mayPrecede, sortKey,
      Column.plain]
  rw [horder, List.map_map] at hnames
  exact ⟨⟨l, hl, hnames, hunique⟩, hnone, hdeclared hnone⟩

end Table

end Schemata
