import Mathlib.Data.List.InsertIdx
import Mathlib.Data.List.Perm.Basic
import Schemata.Backend
import Schemata.Proofs.Statement.Definitions
import Schemata.Proofs.Table.Order

/-!
# The place of one column

What an ordinal does when one column of a table has one (`Table.HasOnlyOrdinal`). An ordinal is compared
with the indices at which the other columns are declared, and these do not change when the column leaves
its own index. So towards the front the column comes to stand at its ordinal, and towards the back,
where the columns that it passes move up by one, right in front of it (`Table.place`).

`Table.orderedColumns_place` says so of the order of the columns and of the definitions in a statement,
where the other columns stay in the order of their declaration.
-/

namespace Schemata

namespace Table

/-- The column declared at index `i` has the ordinal `k`, and no other column has one. -/
structure HasOnlyOrdinal (t : Table) (i : Nat) (c : Column) (k : UInt64) : Prop where
  declared : t.columns[i]? = some c
  ordinal : c.ordinal = some k
  others : ∀ d ∈ t.columns.eraseIdx i, d.ordinal = none

/-- Where the only column with an ordinal stands, given the index at which it is declared. -/
def place (declared ordinal : Nat) : Nat :=
  if ordinal ≤ declared then ordinal else ordinal - 1

variable {t : Table} {i : Nat} {c : Column} {k : UInt64}

/-! ## The other columns -/

/-- The columns but for one, each with the index at which it is declared. -/
def otherColumns (t : Table) (i : Nat) : List (Column × Nat) :=
  t.columns.zipIdx.eraseIdx i

theorem map_otherColumns (t : Table) (i : Nat) :
    (t.otherColumns i).map Prod.fst = t.columns.eraseIdx i := by
  rw [otherColumns, ← List.eraseIdx_map, List.zipIdx_map_fst]

/-- The columns behind the one that is left out keep the indices of their declaration. -/
theorem getElem?_otherColumns {j : Nat} {d : Column × Nat} (h : (t.otherColumns i)[j]? = some d) :
    d.2 = if j < i then j else j + 1 := by
  rw [otherColumns, List.getElem?_eraseIdx] at h
  split
  · next hj =>
    rw [if_pos hj, List.getElem?_zipIdx] at h
    obtain ⟨d', -, rfl⟩ := Option.map_eq_some_iff.1 h
    simp
  · next hj =>
    rw [if_neg hj, List.getElem?_zipIdx] at h
    obtain ⟨d', -, rfl⟩ := Option.map_eq_some_iff.1 h
    simp

/-- The columns in front of the place are those that are declared in front of the ordinal. -/
theorem lt_of_mem_take {d : Column × Nat} {n : Nat} (h : d ∈ (t.otherColumns i).take (place i n)) :
    d.2 < n := by
  obtain ⟨j, hj, rfl⟩ := List.mem_take_iff_getElem.1 h
  have hlt : j < (t.otherColumns i).length := by omega
  rw [getElem?_otherColumns (List.getElem?_eq_getElem hlt)]
  unfold place at hj
  split at hj
  · split <;> omega
  · split <;> omega

theorem le_of_mem_drop {d : Column × Nat} {n : Nat} (h : d ∈ (t.otherColumns i).drop (place i n)) :
    n ≤ d.2 := by
  obtain ⟨j, hj, rfl⟩ := List.mem_drop_iff_getElem.1 h
  have hlt : place i n + j < (t.otherColumns i).length := by omega
  rw [getElem?_otherColumns (List.getElem?_eq_getElem hlt)]
  unfold place
  split
  · split <;> omega
  · split <;> omega

/-! ## All columns -/

/-- The other columns with the column at its place among them. -/
def putAmong (t : Table) (i : Nat) (c : Column) (n : Nat) : List (Column × Nat) :=
  (t.otherColumns i).take n ++ (c, i) :: (t.otherColumns i).drop n

theorem putAmong_perm (h : t.columns[i]? = some c) (n : Nat) :
    (t.putAmong i c n).Perm t.columns.zipIdx := by
  have hmiddle : (t.putAmong i c n).Perm ((c, i) :: t.otherColumns i) := by
    have hperm : (t.putAmong i c n).Perm
        ((c, i) :: ((t.otherColumns i).take n ++ (t.otherColumns i).drop n)) := List.perm_middle
    rwa [List.take_append_drop] at hperm
  have hdeclared : t.columns.zipIdx[i]? = some (c, i) := by
    rw [List.getElem?_zipIdx, h]
    simp
  obtain ⟨hi, hget⟩ := List.getElem?_eq_some_iff.1 hdeclared
  have hback := List.getElem_cons_eraseIdx_perm hi
  rw [hget] at hback
  exact hmiddle.trans hback

namespace HasOnlyOrdinal

theorem ordinal_eq_none (h : t.HasOnlyOrdinal i c k) {d : Column × Nat} (hd : d ∈ t.otherColumns i) :
    d.1.ordinal = none := by
  apply h.others
  rw [← map_otherColumns]
  exact List.mem_map_of_mem hd

theorem arranges (h : t.HasOnlyOrdinal i c k) : t.Arranges (t.putAmong i c (place i k.toNat)) := by
  refine arranges_iff.2 ⟨putAmong_perm h.declared _, ?_⟩
  have hothers : (t.otherColumns i).Pairwise Precedes := by
    have hindices := t.pairwise_zipIdx.sublist (List.eraseIdx_sublist _ i)
    refine hindices.imp_of_mem ?_
    intro a b ha hb hlt
    simpa only [Precedes, h.ordinal_eq_none ha, h.ordinal_eq_none hb] using hlt
  rw [← List.take_append_drop (place i k.toNat) (t.otherColumns i), List.pairwise_append] at hothers
  obtain ⟨hfront, hback, hacross⟩ := hothers
  rw [putAmong, List.pairwise_append, List.pairwise_cons]
  refine ⟨hfront, ⟨?_, hback⟩, ?_⟩
  · intro b hb
    have hnone := h.ordinal_eq_none (List.mem_of_mem_drop hb)
    simpa only [Precedes, h.ordinal, hnone] using le_of_mem_drop hb
  · intro a ha b hb
    rcases List.mem_cons.1 hb with rfl | hb
    · have hnone := h.ordinal_eq_none (List.mem_of_mem_take ha)
      simpa only [Precedes, h.ordinal, hnone] using lt_of_mem_take ha
    · exact hacross a ha b hb

theorem orderedColumns_eq (h : t.HasOnlyOrdinal i c k) :
    t.orderedColumns = (t.columns.eraseIdx i).take (place i k.toNat)
      ++ c :: (t.columns.eraseIdx i).drop (place i k.toNat) := by
  rw [Table.orderedColumns_eq, t.arranges_arrangement.unique h.arranges, putAmong, List.map_append,
    List.map_cons, List.map_take, List.map_drop, map_otherColumns]

/-- The place is one of the table, if the ordinal is. -/
theorem length_take (h : t.HasOnlyOrdinal i c k) (hk : k.toNat < t.columns.length) :
    ((t.columns.eraseIdx i).take (place i k.toNat)).length = place i k.toNat := by
  obtain ⟨hi, -⟩ := List.getElem?_eq_some_iff.1 h.declared
  have hplace : place i k.toNat ≤ t.columns.length - 1 := by
    unfold place
    split <;> omega
  rw [List.length_take, List.length_eraseIdx_of_lt hi]
  omega

end HasOnlyOrdinal

/-- A list whose first parts are the columns in order has, at a place, the part of the column there. -/
theorem exists_getElem?_of_map_fst {l : List (Column × Spelling)} {n : Nat}
    (h : (l.map Prod.fst)[n]? = some c) : ∃ s, l[n]? = some (c, s) := by
  rw [List.getElem?_map] at h
  obtain ⟨⟨c', s⟩, hl, rfl⟩ := Option.map_eq_some_iff.1 h
  exact ⟨s, hl⟩

/-- **The only column with an ordinal stands at its ordinal if it moves towards the front**, and one
place before it if it moves towards the back. The other columns stay in the order of their declaration,
in the table as in every statement. -/
theorem orderedColumns_place (h : t.HasOnlyOrdinal i c k) (hk : k.toNat < t.columns.length) :
    (k.toNat ≤ i → t.orderedColumns[k.toNat]? = some c) ∧
    (i < k.toNat → t.orderedColumns[k.toNat - 1]? = some c) ∧
    t.orderedColumns.eraseIdx (place i k.toNat) = t.columns.eraseIdx i ∧
    ∀ (b : Backend) text, (b.generator.generate t).result = .ok text →
      -- The definitions of the statement are those of the columns in this order.
      ∃ l, b.dialect.Spelled t t.orderedColumns l ∧
        text = b.dialect.statement t (b.dialect.parts t l) ∧
        (∃ s, l[place i k.toNat]? = some (c, s) ∧ (b.dialect.parts t l)[place i k.toNat]?
          = some (b.dialect.definition (t.primaryKey.length == 1) c s.text)) ∧
        (l.eraseIdx (place i k.toNat)).map Prod.fst = t.columns.eraseIdx i := by
  have hlength := h.length_take hk
  have hplace : t.orderedColumns[place i k.toNat]? = some c := by
    rw [h.orderedColumns_eq, List.getElem?_append_right (Nat.le_of_eq hlength), hlength, Nat.sub_self]
    rfl
  have hothers : t.orderedColumns.eraseIdx (place i k.toNat) = t.columns.eraseIdx i := by
    rw [h.orderedColumns_eq, List.eraseIdx_append_of_length_le (Nat.le_of_eq hlength), hlength,
      Nat.sub_self, List.eraseIdx_cons_zero, List.take_append_drop]
  refine ⟨?_, ?_, hothers, ?_⟩
  · intro hfront
    rwa [place, if_pos hfront] at hplace
  · intro hback
    rwa [place, if_neg (Nat.not_le_of_lt hback)] at hplace
  · intro b text hgenerated
    obtain ⟨l, hl, htext⟩ := Dialect.createTable_ok (d := b.dialect) hgenerated
    rw [← hl.columns] at hplace
    obtain ⟨s, hs⟩ := exists_getElem?_of_map_fst hplace
    refine ⟨l, hl, htext, ⟨s, hs, ?_⟩, ?_⟩
    · have hlt : place i k.toNat < l.length := (List.getElem?_eq_some_iff.1 hs).1
      rw [Dialect.parts, List.append_assoc, List.getElem?_append_left (by simpa using hlt),
        List.getElem?_map, hs]
      rfl
    · rw [← List.eraseIdx_map, hl.columns, hothers]

/-- The first of three columns, sent to the end. -/
def sentBack : Table :=
  ⟨"Moved", [placed "a" 2, Column.plain "b" .int32, Column.plain "c" .int32]⟩

/-- The last of four columns, brought to the front of the second. -/
def broughtForward : Table :=
  ⟨"Moved", [Column.plain "a" .int32, Column.plain "b" .int32, Column.plain "c" .int32,
    placed "d" 1]⟩

def sentBackStatement : String :=
  "CREATE TABLE IF NOT EXISTS [Moved] ([b] INTEGER, [a] INTEGER, [c] INTEGER)"

theorem hasOnlyOrdinal_sentBack : sentBack.HasOnlyOrdinal 0 (placed "a" 2) 2 :=
  ⟨rfl, rfl, by decide⟩

theorem orderedColumns_sentBack : sentBack.orderedColumns
    = [Column.plain "b" .int32, placed "a" 2, Column.plain "c" .int32] := by
  simp [orderedColumns, sentBack, placed, List.zipIdx, List.mergeSort, mayPrecede, sortKey,
    Column.plain]

theorem generate_sentBack :
    (Backend.sqlite.generator.generate sentBack).result = .ok sentBackStatement := by
  simp only [Backend.generator, Generator.ofDialect, Dialect.createTable, Dialect.statement,
    orderedColumns_sentBack]
  cbv

theorem orderedColumns_place_moved :
    (broughtForward.HasOnlyOrdinal 3 (placed "d" 1) 1 ∧
      broughtForward.orderedColumns[1]? = some (placed "d" 1) ∧
      (broughtForward.orderedColumns.eraseIdx 1).map (·.name) = ["a", "b", "c"]) ∧
    sentBack.HasOnlyOrdinal 0 (placed "a" 2) 2 ∧ sentBack.orderedColumns[1]? = some (placed "a" 2) ∧
    (sentBack.orderedColumns.eraseIdx 1).map (·.name) = ["b", "c"] ∧
    (Backend.sqlite.generator.generate sentBack).result = .ok sentBackStatement ∧
    ∃ l s, sentBackStatement = Dialect.sqlite.statement sentBack (Dialect.sqlite.parts sentBack l) ∧
      (Dialect.sqlite.parts sentBack l)[1]?
        = some (Dialect.sqlite.definition false (placed "a" 2) s) := by
  have hforward : broughtForward.HasOnlyOrdinal 3 (placed "d" 1) 1 := ⟨rfl, rfl, by decide⟩
  obtain ⟨hfront, -, hothers, -⟩ := orderedColumns_place hforward (by decide)
  obtain ⟨-, hback, hothers', hstatements⟩ := orderedColumns_place hasOnlyOrdinal_sentBack (by decide)
  obtain ⟨l, -, htext, ⟨s, -, hpart⟩, -⟩ := hstatements .sqlite sentBackStatement generate_sentBack
  have hkey : (sentBack.primaryKey.length == 1) = false := by
    rw [primaryKey, orderedColumns_sentBack]
    rfl
  rw [hkey] at hpart
  exact ⟨⟨hforward, hfront (by decide), congrArg (List.map (·.name)) hothers⟩,
    hasOnlyOrdinal_sentBack, hback (by decide), congrArg (List.map (·.name)) hothers',
    generate_sentBack, l, s.text, htext, hpart⟩

/-- An ordinal is no index of the result: a column that is sent back stands one place before it. -/
theorem orderedColumns_place_sentBack :
    sentBack.HasOnlyOrdinal 0 (placed "a" 2) 2 ∧ (2 : UInt64).toNat < sentBack.columns.length ∧
    sentBack.orderedColumns[(2 : UInt64).toNat]? ≠ some (placed "a" 2) ∧
    sentBack.orderedColumns.map (·.name) = ["b", "a", "c"] := by
  refine ⟨hasOnlyOrdinal_sentBack, by decide, ?_, ?_⟩
  · rw [orderedColumns_sentBack]
    decide
  · rw [orderedColumns_sentBack]
    rfl

end Table

end Schemata
