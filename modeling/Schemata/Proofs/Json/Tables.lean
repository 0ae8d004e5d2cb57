import Schemata.Proofs.Json.Text
import Schemata.Proofs.Statement.NormalForm
import Schemata.Table.Json

/-!
# Tables through JSON

A list of tables that is written as JSON and read back is the list that it was, but for the one thing
that is not written: whether the nullability of a column was chosen. `Table.unchosen` forgets it, and
nothing but declaring columns ever asks for it: the order of the columns, the key, the search for a
column and what every built-in dialect answers are the same for the table that is read back.
-/

namespace Schemata

/-! ## Records -/

namespace Json

theorem valuesAt_of_not_mem {key : String} {members : List (String × Json)}
    (h : key ∉ members.map Prod.fst) :
    valuesAt key (members.map fun m => (some m.1, m.2)) = [] := by
  simp only [valuesAt, List.map_eq_nil_iff, List.filter_eq_nil_iff, List.mem_map, beq_iff_eq]
  rintro _ ⟨m, hm, rfl⟩ hkey
  exact h (Option.some.inj hkey ▸ List.mem_map_of_mem hm)

theorem valuesAt_of_mem {m : String × Json} {members : List (String × Json)}
    (h : (members.map Prod.fst).Nodup) (hm : m ∈ members) :
    valuesAt m.1 (members.map fun m => (some m.1, m.2)) = [m.2] := by
  induction members with
  | nil => cases hm
  | cons n members ih =>
    rw [List.map_cons, List.nodup_cons] at h
    rcases List.mem_cons.1 hm with rfl | hm
    · have hothers := valuesAt_of_not_mem h.1
      simp only [valuesAt] at hothers
      simp [valuesAt, hothers]
    · have hne : n.1 ≠ m.1 := fun e => h.1 (e ▸ List.mem_map_of_mem hm)
      have hothers := ih h.2 hm
      simp only [valuesAt] at hothers
      simp [valuesAt, hne, hothers]

/-- What the members of a record say of a field. -/
def member? (members : List (Option String × Json)) (field : String × Missing) : Option Json :=
  match valuesAt field.1 members with
  | [j] => some j
  | [] => if field.2 = .asNull then some null else none
  | _ => none

theorem fields?_obj (known : List (String × Missing)) (members : List (Option String × Json)) :
    (obj members).fields? known
      = if members.any fun m => m.1.isNone then none else known.mapM (member? members) :=
  rfl

/-- A record that is written with all its fields in order is read field by field. -/
theorem fields?_object {known : List (String × Missing)} {members : List (String × Json)}
    (hkeys : members.map Prod.fst = known.map Prod.fst) (hnodup : (known.map Prod.fst).Nodup) :
    (object members).fields? known = some (members.map Prod.snd) := by
  have hall : (members.map fun m => (some m.1, m.2)).any (fun m => m.1.isNone) = false := by
    simp
  rw [object, fields?_obj, hall, if_neg Bool.false_ne_true]
  rw [← hkeys] at hnodup
  -- the fields are read one after another, each from the whole record
  suffices hread : ∀ (ks : List (String × Missing)) (ms : List (String × Json)),
      ms.map Prod.fst = ks.map Prod.fst → ms ⊆ members →
      ks.mapM (member? (members.map fun m => (some m.1, m.2))) = some (ms.map Prod.snd) from
    hread known members hkeys (List.Subset.refl _)
  intro ks
  induction ks with
  | nil =>
    intro ms hms _
    obtain rfl : ms = [] := by simpa using hms
    rfl
  | cons k ks ih =>
    intro ms hms hsub
    cases ms with
    | nil => cases hms
    | cons m ms =>
      simp only [List.map_cons, List.cons.injEq] at hms
      have hm := valuesAt_of_mem hnodup (hsub List.mem_cons_self)
      rw [hms.1] at hm
      rw [List.mapM_cons, member?, hm, ih ms hms.2 fun n hn => hsub (List.mem_cons_of_mem m hn)]
      rfl

theorem nullable?_ofOption {α : Type} {read : Json → Option α} {write : α → Json}
    (hread : ∀ a, read (write a) = some a) (hnull : ∀ a, write a ≠ null) (o : Option α) :
    (ofOption write o).nullable? read = some o := by
  cases o with
  | none => rfl
  | some a =>
    have hwrite : (write a).nullable? read = (read (write a)).map some := by
      unfold nullable?
      split
      · next h => exact absurd h (hnull a)
      · rfl
    simp only [ofOption, hwrite, hread, Option.map_some]

theorem list?_map {α β : Type} {read : Json → Option β} {write : α → Json} {f : α → β}
    (hread : ∀ a, read (write a) = some (f a)) (l : List α) :
    (arr (l.map write)).list? read = some (l.map f) := by
  induction l with
  | nil => rfl
  | cons a l ih =>
    simp only [list?] at ih
    simp only [list?, List.map_cons, List.mapM_cons, hread, ih]
    rfl

theorem intWithin?_ofNat {n high : Nat} (h : n ≤ high) :
    (ofNat n).intWithin? 0 high = some (n : Int) := by
  simp only [ofNat, intWithin?]
  exact if_pos ⟨Int.natCast_nonneg n, Int.ofNat_le.2 h⟩

theorem uint32?_ofNat (n : UInt32) : (ofNat n.toNat).uint32? = some n := by
  rw [uint32?, intWithin?_ofNat (Nat.le_sub_one_of_lt n.toNat_lt), Option.map_some,
    Int.toNat_natCast, UInt32.ofNat_toNat]

theorem uint64?_ofNat (n : UInt64) : (ofNat n.toNat).uint64? = some n := by
  rw [uint64?, intWithin?_ofNat (Nat.le_sub_one_of_lt n.toNat_lt), Option.map_some,
    Int.toNat_natCast, UInt64.ofNat_toNat]

theorem int64?_int (n : Int64) : (int n.toInt).int64? = some n := by
  have hwithin : Int64.minValue.toInt ≤ n.toInt ∧ n.toInt ≤ Int64.maxValue.toInt :=
    ⟨n.minValue_le_toInt, n.toInt_le⟩
  simp only [int64?, intWithin?, if_pos hwithin, Option.map_some, Int64.ofInt_toInt]

end Json

/-! ## What is forgotten -/

/-- The column without the mark that its nullability was chosen. -/
def Column.unchosen (c : Column) : Column :=
  { c with nullableChosen := false }

/-- The table without the marks of its columns. -/
def Table.unchosen (t : Table) : Table :=
  { t with columns := t.columns.map Column.unchosen }

/-! ## Writing and reading -/

theorem TypeTag.ofJson?_toJson (tag : TypeTag) : TypeTag.ofJson? tag.toJson = some tag :=
  TypeTag.ofName?_name tag

theorem AutoIncrement.ofJson?_toJson (a : AutoIncrement) :
    AutoIncrement.ofJson? a.toJson = some a := by
  have hfields : a.toJson.fields? [("seed", .refused), ("step", .refused)] = _ :=
    Json.fields?_object rfl (by decide)
  simp only [AutoIncrement.ofJson?, hfields, List.map_cons, List.map_nil,
    Json.int64?_int, Option.bind_eq_bind, Option.bind_some]
  rfl

theorem Column.ofJson?_toJson (c : Column) : Column.ofJson? c.toJson = some c.unchosen := by
  have hfields : c.toJson.fields? Column.fields = _ := Json.fields?_object rfl (by decide)
  have hstring : ∀ s, (Json.text s).string? = some s := fun _ => rfl
  have hdefault := Json.nullable?_ofOption hstring (fun _ => by simp [Json.text]) c.defaultValue
  have hlength := Json.nullable?_ofOption Json.uint32?_ofNat (fun _ => by simp [Json.ofNat]) c.maxLength
  have hincrement := Json.nullable?_ofOption AutoIncrement.ofJson?_toJson
    (fun _ => by simp [AutoIncrement.toJson, Json.object]) c.autoIncrement
  have hordinal := Json.nullable?_ofOption Json.uint64?_ofNat (fun _ => by simp [Json.ofNat]) c.ordinal
  simp only [Column.ofJson?, hfields, List.map_cons, List.map_nil, TypeTag.ofJson?_toJson, hdefault,
    hlength, hincrement, hordinal, Json.string?, Json.text, Json.bool?, Option.bind_eq_bind,
    Option.bind_some]
  rfl

theorem Table.ofJson?_toJson (t : Table) : Table.ofJson? t.toJson = some t.unchosen := by
  have hfields : t.toJson.fields? [("name", .refused), ("columns", .refused)] = _ :=
    Json.fields?_object rfl (by decide)
  have hcolumns : (Json.arr (t.columns.map Column.toJson)).list? Column.ofJson?
      = some (t.columns.map Column.unchosen) := Json.list?_map Column.ofJson?_toJson t.columns
  simp only [Table.ofJson?, hfields, List.map_cons, List.map_nil, hcolumns, Json.string?, Json.text,
    Option.bind_eq_bind, Option.bind_some]
  rfl

/-! ## The text of a list of tables -/

theorem Column.isPlain_toJson (c : Column) : c.toJson.IsPlain := by
  have htext : ∀ s, (Json.text s).IsPlain := fun _ => rfl
  have hoption : ∀ {α : Type} (write : α → Json) (o : Option α), (∀ a, (write a).IsPlain) →
      (Json.ofOption write o).IsPlain := by
    intro α write o h
    cases o with
    | none => trivial
    | some a => exact h a
  have hincrement : ∀ a : AutoIncrement, a.toJson.IsPlain := fun _ =>
    ⟨rfl, trivial, rfl, trivial, trivial⟩
  exact ⟨rfl, htext _, rfl, htext _, rfl, trivial, rfl, trivial, rfl, trivial,
    rfl, hoption _ _ htext, rfl, hoption _ _ fun _ => trivial, rfl, hoption _ _ hincrement,
    rfl, hoption _ _ fun _ => trivial, trivial⟩

theorem Json.arePlain_map {α : Type} {write : α → Json} (h : ∀ a, (write a).IsPlain) (l : List α) :
    Json.ArePlain (l.map write) := by
  induction l with
  | nil => trivial
  | cons a l ih => exact ⟨h a, ih⟩

theorem Table.isPlain_toJson (t : Table) : t.toJson.IsPlain :=
  ⟨rfl, rfl, rfl, Json.arePlain_map Column.isPlain_toJson t.columns, trivial⟩

/-! ## What is not forgotten -/

namespace Table

theorem orderedColumns_unchosen (t : Table) :
    t.unchosen.orderedColumns = t.orderedColumns.map Column.unchosen := by
  have hsort : (t.columns.zipIdx.mergeSort mayPrecede).map (Prod.map Column.unchosen id)
      = (t.columns.zipIdx.map (Prod.map Column.unchosen id)).mergeSort mayPrecede :=
    List.map_mergeSort fun _ _ _ _ => rfl
  simp only [orderedColumns, unchosen, List.zipIdx_map, ← hsort, List.map_map]
  rfl

theorem primaryKey_unchosen (t : Table) :
    t.unchosen.primaryKey = t.primaryKey.map Column.unchosen := by
  simp only [primaryKey, orderedColumns_unchosen, List.filter_map]
  rfl

theorem column?_unchosen (t : Table) (name : String) :
    t.unchosen.column? name = (t.column? name).map Column.unchosen := by
  simp only [column?, unchosen, List.find?_map]
  rfl

theorem normal_unchosen (t : Table) : t.unchosen.normal = t.normal := by
  simp only [normal, orderedColumns_unchosen, List.map_map]
  rfl

end Table

namespace Backend

theorem generate_unchosen (b : Backend) (t : Table) :
    b.generator.generate t.unchosen = b.generator.generate t := by
  have hnormal := b.readsNormal.createTable_normal
  calc b.dialect.createTable t.unchosen
      = b.dialect.createTable t.unchosen.normal := (hnormal _).symm
    _ = b.dialect.createTable t.normal := by rw [Table.normal_unchosen]
    _ = b.dialect.createTable t := hnormal t

theorem compile_unchosen (b : Backend) (ts : List Table) :
    b.generator.compile (ts.map Table.unchosen) = b.generator.compile ts := by
  induction ts with
  | nil => rfl
  | cons t ts ih => simp only [List.map_cons, Generator.compile, generate_unchosen, ih]

end Backend

/-- **Tables come back from JSON as they were**, with nothing forgotten but whether the nullability of
a column was chosen, which neither the readers of a table nor any built-in dialect ask for. -/
theorem Table.json_roundTrip (ts : List Table) :
    (Json.ofText? (Json.arr (ts.map Table.toJson)).render).bind Table.listOfJson?
      = some (ts.map Table.unchosen) ∧
    (∀ t : Table, t.unchosen.orderedColumns = t.orderedColumns.map Column.unchosen ∧
      t.unchosen.primaryKey = t.primaryKey.map Column.unchosen ∧
      ∀ name, t.unchosen.column? name = (t.column? name).map Column.unchosen) ∧
    ∀ b : Backend, b.generator.compile (ts.map Table.unchosen) = b.generator.compile ts := by
  refine ⟨?_, fun t => ⟨t.orderedColumns_unchosen, t.primaryKey_unchosen, t.column?_unchosen⟩,
    fun b => b.compile_unchosen ts⟩
  have hplain : (Json.arr (ts.map Table.toJson)).IsPlain :=
    Json.arePlain_map Table.isPlain_toJson ts
  rw [Json.ofText?_render hplain, Option.bind_some]
  exact Json.list?_map Table.ofJson?_toJson ts

end Schemata
