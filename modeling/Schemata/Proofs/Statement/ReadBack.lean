import Schemata.Proofs.Statement.Clauses
import Schemata.Proofs.Statement.Definitions

/-!
# Statements are read back

The statement for a table says exactly what the table says, in every built-in dialect and whatever its
names hold: `Outline.read` takes from the text the outline that `Outline.ofTable` takes from the table.
So no name can change the structure of a statement, and tables with the same statement have the same
outline.
-/

namespace Schemata

namespace Outline

/-! ## Definitions and constraints -/

theorem ofWords_append (name : String) {type text : List Char} {words : List (List Char)}
    {isKey notNull : Bool} (htype : isTypeText type = true)
    (h : IsClause text words isKey notNull) :
    ofWords name (Text.splitAll ' ' (type ++ text))
      = .column ⟨name, String.ofList type, notNull⟩ isKey := by
  have hwords : ∀ w ∈ Text.splitAll ' ' type, (!isClauseWord w) = true := by
    simp only [isTypeText, Bool.and_eq_true, List.all_eq_true] at htype
    exact htype.2
  have hstop : ∀ w ∈ words.head?, (!isClauseWord w) = false := by
    intro w hw
    rw [h.leads w hw]
    rfl
  simp only [ofWords, h.splits, Traversal.takeWhile_run hwords hstop,
    Traversal.dropWhile_run hwords hstop, Text.intercalate_splitAll, h.key, h.null]

theorem head?_quote (b : Backend) (name : String) (rest : List Char) :
    ((b.dialect.quote name).toList ++ rest).head? = some b.dialect.openQuote := by
  simp [Dialect.quote, Text.Quoted.toList_quote, Text.Quoted.enclose]

/-- No punctuation outside a name continues the name. -/
theorem ne_closeQuote (b : Backend) :
    ',' ≠ b.dialect.closeQuote ∧ ')' ≠ b.dialect.closeQuote ∧ ' ' ≠ b.dialect.closeQuote := by
  cases b <;> decide

theorem EndsItem.head?_ne {rest : List Char} (h : EndsItem rest) (b : Backend) :
    rest.head? ≠ some b.dialect.closeQuote := by
  obtain ⟨hcomma, hclose, -⟩ := ne_closeQuote b
  rcases h with ⟨tail, rfl⟩ | ⟨tail, rfl⟩
  · simpa using hcomma
  · simpa using hclose

theorem readsBack_definition {b : Backend} {t : Table} {c : Column} {s : Spelling}
    {singleKey : Bool} (hs : b.dialect.spellColumn t c = .ok s)
    (hdefault : c.refusesNull = true → c.defaultValue = none) :
    ReadsBack (readPart b) (.column (ofColumn c s) (singleKey && c.isPrimaryKey))
      (b.dialect.definition singleKey c s.text).toList := by
  intro rest hrest
  obtain ⟨keyWords, hkey⟩ : ∃ words, IsClause
      (if singleKey && c.isPrimaryKey then " " ++ b.dialect.keyClause c else "").toList words
      (singleKey && c.isPrimaryKey) false := by
    cases singleKey && c.isPrimaryKey with
    | false => exact ⟨[], .empty⟩
    | true => exact isClause_keyClause b c
  obtain ⟨nullWords, hnull⟩ := isClause_nullClause hdefault
  obtain ⟨numberWords, hnumber⟩ := isClause_numberClause b c
  have hclauses := (hkey.append hnull).append hnumber
  have htype := isTypeText_spellColumn hs
  have henclosed : isEnclosed 0 s.text.toList = true := by
    simp only [isTypeText, Bool.and_eq_true] at htype
    exact htype.1
  simp only [Bool.or_false, Bool.false_or] at hclauses
  generalize hclause : (if singleKey && c.isPrimaryKey then " " ++ b.dialect.keyClause c
      else "").toList ++ (Dialect.nullClause c).toList ++ (b.dialect.numberClause c).toList = clauses
    at hclauses
  have htext : (b.dialect.definition singleKey c s.text).toList ++ rest
      = (b.dialect.quote c.name).toList ++ (" ".toList ++ ((s.text.toList ++ clauses) ++ rest)) := by
    simp [Dialect.definition, ← hclause]
  have hname := readName_quote b c.name (" ".toList ++ ((s.text.toList ++ clauses) ++ rest))
    (by simpa using (ne_closeQuote b).2.2)
  have htake : takeEnclosed 0 ((s.text.toList ++ clauses) ++ rest)
      = (s.text.toList ++ clauses, rest) := by
    have hbody := isEnclosed_append henclosed hclauses.enclosed
    rcases hrest with ⟨tail, rfl⟩ | ⟨tail, rfl⟩
    · exact takeEnclosed_append hbody (.inl rfl)
    · exact takeEnclosed_append hbody (.inr rfl)
  rw [htext, readPart, if_pos (head?_quote b c.name _)]
  simp only [readColumn, hname, expect_append, Option.bind_eq_bind, Option.bind_some, htake,
    ofWords_append c.name htype hclauses, String.ofList_toList]
  rfl

theorem readConstraint_constraint (b : Backend) (kind : String) {columns : List Column}
    (hcolumns : columns ≠ []) (rest : List Char) :
    readConstraint b kind ((b.dialect.constraint kind columns).toList ++ rest)
      = some (columns.map (·.name), rest) := by
  have htext : (b.dialect.constraint kind columns).toList ++ rest
      = (kind ++ "(").toList ++ ((", ".intercalate (columns.map fun c =>
          b.dialect.quote c.name)).toList ++ ')' :: rest) := by
    simp [Dialect.constraint]
  have hread : ∀ p ∈ columns.map fun c => (c.name, (b.dialect.quote c.name).toList),
      ReadsBack (readName b) p.1 p.2 := by
    intro p hp
    obtain ⟨c, -, rfl⟩ := List.mem_map.1 hp
    exact fun rest hrest => readName_quote b c.name rest (hrest.head?_ne b)
  have hnames := readItems_text
    ((", ".intercalate (columns.map fun c => b.dialect.quote c.name)).toList ++ ')' :: rest) rest
    (by simpa using hcolumns) hread (by simp [String.toList_intercalate, Function.comp_def])
  rw [htext, readConstraint, expect_append]
  simpa [Function.comp_def] using hnames

/-- No constraint begins like a quoted name. -/
theorem ne_openQuote (b : Backend) :
    'P' ≠ b.dialect.openQuote ∧ 'U' ≠ b.dialect.openQuote ∧ ')' ≠ b.dialect.openQuote := by
  cases b <;> decide

theorem readsBack_key (b : Backend) {columns : List Column} (hcolumns : columns ≠ []) :
    ReadsBack (readPart b) (.key (columns.map (·.name)))
      (b.dialect.constraint "PRIMARY KEY" columns).toList := by
  intro rest _
  have hhead : ((b.dialect.constraint "PRIMARY KEY" columns).toList ++ rest).head? = some 'P' := by
    simp [Dialect.constraint]
  rw [readPart, if_neg (by simpa [hhead] using (ne_openQuote b).1),
    readConstraint_constraint b "PRIMARY KEY" hcolumns]

theorem readsBack_unique (b : Backend) {columns : List Column} (hcolumns : columns ≠ []) :
    ReadsBack (readPart b) (.unique (columns.map (·.name)))
      (b.dialect.constraint "UNIQUE" columns).toList := by
  intro rest _
  obtain ⟨tail, htail⟩ :
      ∃ tail, (b.dialect.constraint "UNIQUE" columns).toList ++ rest = 'U' :: tail := by
    simp [Dialect.constraint]
  have hkey : readConstraint b "PRIMARY KEY" ('U' :: tail) = none := by
    rw [readConstraint, expect_of_head_ne (c := 'P') rfl (by decide)]
    rfl
  rw [readPart, if_neg (by simpa [htail] using (ne_openQuote b).2.1), htail, hkey, ← htail,
    readConstraint_constraint b "UNIQUE" hcolumns]
  rfl

theorem readPart_close (b : Backend) (rest : List Char) : readPart b (')' :: rest) = none := by
  rw [readPart, if_neg (by simpa using (ne_openQuote b).2.2), readConstraint, readConstraint,
    expect_of_head_ne (c := 'P') rfl (by decide), expect_of_head_ne (c := 'U') rfl (by decide)]
  rfl

/-! ## Whole statements -/

/-- The definition of a column as a part, with its text. -/
def columnPart (b : Backend) (singleKey : Bool) (p : Column × Spelling) : Part × List Char :=
  (.column (ofColumn p.1 p.2) (singleKey && p.1.isPrimaryKey),
    (b.dialect.definition singleKey p.1 p.2.text).toList)

def keyParts (b : Backend) (t : Table) : List (Part × List Char) :=
  if 1 < t.primaryKey.length then
    [(.key (t.primaryKey.map (·.name)), (b.dialect.constraint "PRIMARY KEY" t.primaryKey).toList)]
  else []

def uniqueParts (b : Backend) (t : Table) : List (Part × List Char) :=
  if t.uniqueColumns.isEmpty then []
  else [(.unique (t.uniqueColumns.map (·.name)),
    (b.dialect.constraint "UNIQUE" t.uniqueColumns).toList)]

/-- The parts of the statement for a table, each with its text. -/
def partsOf (b : Backend) (t : Table) (l : List (Column × Spelling)) : List (Part × List Char) :=
  l.map (columnPart b (t.primaryKey.length == 1)) ++ (keyParts b t ++ uniqueParts b t)

theorem keyParts_text (b : Backend) (t : Table) :
    (keyParts b t).map (·.2) = (b.dialect.keyConstraints t.primaryKey).map String.toList := by
  simp only [keyParts, Dialect.keyConstraints]
  split <;> rfl

theorem uniqueParts_text (b : Backend) (t : Table) :
    (uniqueParts b t).map (·.2)
      = (b.dialect.uniqueConstraints t.orderedColumns).map String.toList := by
  have h : b.dialect.uniqueConstraints t.orderedColumns = if t.uniqueColumns.isEmpty then []
      else [b.dialect.constraint "UNIQUE" t.uniqueColumns] := rfl
  rw [h, uniqueParts]
  split <;> rfl

theorem partsOf_text (b : Backend) (t : Table) (l : List (Column × Spelling)) :
    (partsOf b t l).map (·.2) = (b.dialect.parts t l).map String.toList := by
  simp only [partsOf, Dialect.parts, List.map_append, keyParts_text, uniqueParts_text,
    List.map_map, List.append_assoc, Function.comp_def, columnPart]

theorem readsBack_keyParts {b : Backend} {t : Table} {p : Part × List Char}
    (hp : p ∈ keyParts b t) : ReadsBack (readPart b) p.1 p.2 := by
  unfold keyParts at hp
  split at hp
  · next hkeys =>
    obtain rfl := List.mem_singleton.1 hp
    exact readsBack_key b (List.length_pos_iff.1 (Nat.lt_of_succ_lt hkeys))
  · cases hp

theorem readsBack_uniqueParts {b : Backend} {t : Table} {p : Part × List Char}
    (hp : p ∈ uniqueParts b t) : ReadsBack (readPart b) p.1 p.2 := by
  unfold uniqueParts at hp
  split at hp
  · cases hp
  · next hunique =>
    obtain rfl := List.mem_singleton.1 hp
    exact readsBack_unique b fun h => hunique (List.isEmpty_iff.2 h)

theorem readsBack_columnPart {b : Backend} {t : Table} {singleKey : Bool} {p : Column × Spelling}
    (hs : b.dialect.spellColumn t p.1 = .ok p.2)
    (hdefault : p.1.refusesNull = true → p.1.defaultValue = none) :
    ReadsBack (readPart b) (columnPart b singleKey p).1 (columnPart b singleKey p).2 := by
  simp only [columnPart]
  exact readsBack_definition hs hdefault

theorem readsBack_partsOf {b : Backend} {t : Table} {l : List (Column × Spelling)}
    (hl : b.dialect.Spelled t t.orderedColumns l)
    (hdefault : ∀ c ∈ t.orderedColumns, c.refusesNull = true → c.defaultValue = none)
    {p : Part × List Char} (hp : p ∈ partsOf b t l) : ReadsBack (readPart b) p.1 p.2 := by
  rcases List.mem_append.1 hp with hp | hp
  · obtain ⟨q, hq, rfl⟩ := List.mem_map.1 hp
    have hcolumn : q.1 ∈ t.orderedColumns := hl.columns ▸ List.mem_map_of_mem hq
    exact readsBack_columnPart (hl.spelled q hq) (hdefault q.1 hcolumn)
  · rcases List.mem_append.1 hp with hp | hp
    · exact readsBack_keyParts hp
    · exact readsBack_uniqueParts hp

theorem readParts_intercalate {b : Backend} {l : List (Part × List Char)}
    (h : ∀ p ∈ l, ReadsBack (readPart b) p.1 p.2) (rest : List Char) :
    readParts b ([',', ' '].intercalate (l.map (·.2)) ++ ')' :: rest)
      = some (l.map (·.1), rest) := by
  cases l with
  | nil => rfl
  | cons p l =>
    have hitems := readItems_text _ rest (by simp) h rfl
    generalize htext : [',', ' '].intercalate ((p :: l).map (·.2)) ++ ')' :: rest = text at *
    unfold readParts
    split
    · -- the first part would have to begin with the closing parenthesis
      simp only [List.length_cons, readItems, readPart_close] at hitems
      cases hitems
    · exact hitems

theorem ofParts_columns (b : Backend) (table : String) (singleKey : Bool)
    (l : List (Column × Spelling)) (parts : List Part) :
    ofParts table (l.map (fun p => (columnPart b singleKey p).1) ++ parts)
      = (ofParts table parts).map fun o =>
          { o with
            columns := l.map (fun p => ofColumn p.1 p.2) ++ o.columns
            key := ((l.map (·.1)).filter fun c => singleKey && c.isPrimaryKey).map (·.name)
              ++ o.key } := by
  induction l with
  | nil => simp
  | cons p l ih =>
    simp only [List.map_cons, List.cons_append, columnPart, ofParts, List.filter_cons]
    simp only [columnPart] at ih
    rw [ih, Option.map_map]
    congr 1
    funext o
    cases singleKey && p.1.isPrimaryKey <;> rfl

/-- The columns of the key that a constraint names: all of them if there are several. -/
def compositeKey (t : Table) : List Column :=
  if 1 < t.primaryKey.length then t.primaryKey else []

theorem ofParts_constraints (b : Backend) (t : Table) :
    ofParts t.name ((keyParts b t).map (·.1) ++ (uniqueParts b t).map (·.1))
      = some ⟨t.name, [], (compositeKey t).map (·.name), t.uniqueColumns.map (·.name)⟩ := by
  unfold keyParts uniqueParts compositeKey
  by_cases hkey : 1 < t.primaryKey.length <;> by_cases hunique : t.uniqueColumns.isEmpty = true
  · simp only [if_pos hkey, List.isEmpty_iff.1 hunique]
    rfl
  · simp only [if_pos hkey, if_neg hunique]
    rfl
  · simp only [if_neg hkey, List.isEmpty_iff.1 hunique]
    rfl
  · simp only [if_neg hkey, if_neg hunique]
    rfl

/-- The key is marked inline or named by a constraint, never both. -/
theorem inline_append_composite (t : Table) :
    t.orderedColumns.filter (fun c => t.primaryKey.length == 1 && c.isPrimaryKey)
      ++ compositeKey t = t.primaryKey := by
  unfold compositeKey
  by_cases hsingle : t.primaryKey.length = 1
  · rw [if_neg (by omega), List.append_nil, hsingle]
    rfl
  · have hinline : t.orderedColumns.filter
        (fun c => t.primaryKey.length == 1 && c.isPrimaryKey) = [] := by simp [hsingle]
    rw [hinline, List.nil_append]
    split
    · rfl
    · exact (List.length_eq_zero_iff.1 (by omega)).symm

/-- The parts of a statement make the outline of its table. -/
theorem ofParts_partsOf {b : Backend} {t : Table} {l : List (Column × Spelling)}
    (hl : b.dialect.Spelled t t.orderedColumns l) :
    ofParts t.name ((partsOf b t l).map (·.1)) = some {
      table := t.name
      columns := l.map fun p => ofColumn p.1 p.2
      key := t.primaryKey.map (·.name)
      unique := t.uniqueColumns.map (·.name) } := by
  have hparts : (partsOf b t l).map (·.1)
      = l.map (fun p => (columnPart b (t.primaryKey.length == 1) p).1)
        ++ ((keyParts b t).map (·.1) ++ (uniqueParts b t).map (·.1)) := by
    simp only [partsOf, List.map_append, List.map_map]
    rfl
  rw [hparts, ofParts_columns, hl.columns, ofParts_constraints, Option.map_some,
    ← List.map_append, inline_append_composite]
  simp

/-- A text inside a string literal is read back up to the apostrophe behind it. -/
theorem scan_inLiteral {text : String} {rest : List Char} (h : rest.head? ≠ some '\'') :
    Text.Quoted.scan '\'' ((Dialect.inLiteral text).toList ++ '\'' :: rest)
      = some (text.toList, rest) := by
  rw [Dialect.inLiteral, String.toList_ofList, Text.Quoted.scan_append h]

/-- A statement of SQL Server names the table twice, first inside a string literal. -/
theorem toList_createClause_sqlServer (quoted : String) :
    (Backend.sqlServer.dialect.createClause quoted).toList
      = "IF OBJECT_ID(N'".toList ++ ((Dialect.inLiteral quoted).toList
        ++ '\'' :: (", N'U') IS NULL CREATE TABLE ".toList ++ quoted.toList)) := by
  have hmark : "', N'U') IS NULL CREATE TABLE ".toList
      = '\'' :: ", N'U') IS NULL CREATE TABLE ".toList := by decide
  have hclause : Backend.sqlServer.dialect.createClause quoted
      = "IF OBJECT_ID(N'" ++ Dialect.inLiteral quoted ++ "', N'U') IS NULL CREATE TABLE " ++ quoted :=
    rfl
  rw [hclause]
  simp only [String.toList_append, hmark, List.append_assoc, List.cons_append]

/-- What stands before the opening parenthesis is read back as the name of the table. -/
theorem readCreate_createClause (b : Backend) (name : String) (rest : List Char)
    (h : rest.head? ≠ some b.dialect.closeQuote) :
    readCreate b ((b.dialect.createClause (b.dialect.quote name)).toList ++ rest)
      = some (name, rest) := by
  have hname := readName_quote b name rest h
  cases b with
  | mySql =>
    have hclause : ∀ quoted, Backend.mySql.dialect.createClause quoted
        = "CREATE TABLE IF NOT EXISTS " ++ quoted := fun _ => rfl
    rw [hclause, String.toList_append, List.append_assoc]
    simp only [readCreate, expect_append, Option.bind_eq_bind, Option.bind_some, hname]
  | sqlite =>
    have hclause : ∀ quoted, Backend.sqlite.dialect.createClause quoted
        = "CREATE TABLE IF NOT EXISTS " ++ quoted := fun _ => rfl
    rw [hclause, String.toList_append, List.append_assoc]
    simp only [readCreate, expect_append, Option.bind_eq_bind, Option.bind_some, hname]
  | sqlServer =>
    rw [toList_createClause_sqlServer, List.append_assoc]
    simp only [readCreate, expect_append, Option.bind_eq_bind, Option.bind_some, List.append_assoc,
      List.cons_append]
    rw [scan_inLiteral (by simp), Option.bind_some, expect_append, Option.bind_some, hname]

theorem ofTable_of_spelled {b : Backend} {t : Table} {l : List (Column × Spelling)}
    (hl : b.dialect.Spelled t t.orderedColumns l) :
    ofTable b t = .ok {
      table := t.name
      columns := l.map fun p => ofColumn p.1 p.2
      key := t.primaryKey.map (·.name)
      unique := t.uniqueColumns.map (·.name) } := by
  simp only [ofTable, hl.mapM_ok]
  rfl

theorem read_statement {b : Backend} {t : Table} {text : String}
    (h : (b.generator.generate t).result = .ok text) (hdefault : t.PrintsNoDefault) :
    ∃ o, ofTable b t = .ok o ∧ read b text = some o := by
  obtain ⟨l, hl, rfl⟩ := Dialect.createTable_ok (d := b.dialect) h
  refine ⟨_, ofTable_of_spelled hl, ?_⟩
  have htext : (b.dialect.statement t (b.dialect.parts t l)).toList
      = (b.dialect.createClause (b.dialect.quote t.name)).toList ++ (" (".toList
        ++ ([',', ' '].intercalate ((partsOf b t l).map (·.2))
          ++ ')' :: (b.dialect.tableOptions t).toList)) := by
    rw [partsOf_text]
    simp [Dialect.statement, String.toList_intercalate]
  have hcreate := readCreate_createClause b t.name
    (" (".toList ++ ([',', ' '].intercalate ((partsOf b t l).map (·.2))
      ++ ')' :: (b.dialect.tableOptions t).toList)) (by simpa using (ne_closeQuote b).2.2)
  have hparts := readParts_intercalate (b := b) (l := partsOf b t l)
    (fun p hp => readsBack_partsOf hl
      (fun c hc => hdefault c (Table.mem_of_mem_orderedColumns hc)) hp)
    (b.dialect.tableOptions t).toList
  simp only [read, htext, hcreate, expect_append, hparts, Option.bind_eq_bind, Option.bind_some,
    ofParts_partsOf hl]

/-- **A statement says exactly what its table says**, in every built-in dialect: the name of the
table, the columns in order with their types and whether they refuse null, the key and the unique
columns outside of it are read back from the text, whatever names the table has. Tables with the same
statement agree on all of this. -/
theorem read_generate (b : Backend) :
    (∀ t text, (b.generator.generate t).result = .ok text → t.PrintsNoDefault →
      ∃ o, ofTable b t = .ok o ∧ read b text = some o) ∧
    (∀ t t' text, (b.generator.generate t).result = .ok text →
      (b.generator.generate t').result = .ok text → t.PrintsNoDefault → t'.PrintsNoDefault →
      ofTable b t = ofTable b t') := by
  refine ⟨fun t text h hdefault => read_statement h hdefault, ?_⟩
  intro t t' text h h' hdefault hdefault'
  obtain ⟨o, ho, hread⟩ := read_statement h hdefault
  obtain ⟨o', ho', hread'⟩ := read_statement h' hdefault'
  rw [hread, Option.some.injEq] at hread'
  rw [ho, ho', hread']

/-- A table whose names hold quotes, parentheses, commas and the words of constraints. -/
def hostileTable : Table := ⟨"a]b, (`", [
  { Column.plain "], UNIQUE(" .decimal with isPrimaryKey := true, nullable := false },
  { Column.plain "" .string with isUnique := true, maxLength := some 40 } ]⟩

/-- The same table with a length where the type has none and a position that changes nothing. -/
def hostileTwin : Table := ⟨"a]b, (`", [
  { Column.plain "], UNIQUE(" .decimal with
    isPrimaryKey := true, nullable := false, maxLength := some 9 },
  { Column.plain "" .string with isUnique := true, maxLength := some 40, ordinal := some 7 } ]⟩

def hostileStatement : String :=
  "CREATE TABLE IF NOT EXISTS `a]b, (``` (`], UNIQUE(` DECIMAL(18, 2) PRIMARY KEY NOT NULL, "
    ++ "`` VARCHAR(40), UNIQUE(``))"

theorem read_generate_hostile :
    (Backend.mySql.generator.generate hostileTable).result = .ok hostileStatement ∧
    (Backend.mySql.generator.generate hostileTwin).result = .ok hostileStatement ∧
    hostileTable.PrintsNoDefault ∧ hostileTwin.PrintsNoDefault ∧
    (∃ o, ofTable .mySql hostileTable = .ok o ∧ read .mySql hostileStatement = some o) ∧
    ofTable .mySql hostileTable = ofTable .mySql hostileTwin := by
  have htable : (Backend.mySql.generator.generate hostileTable).result = .ok hostileStatement := by
    have horder : hostileTable.orderedColumns = hostileTable.columns :=
      Table.orderedColumns_of_pairwise (by decide)
    have hoptions : Backend.mySql.dialect.tableOptions hostileTable = "" := by
      simp only [Backend.dialect, Dialect.mySql, Dialect.MySql.tableOptions, horder]
      rfl
    simp only [Backend.generator, Generator.ofDialect, Dialect.createTable, Dialect.statement, horder,
      hoptions]
    cbv
  have htwin : (Backend.mySql.generator.generate hostileTwin).result = .ok hostileStatement := by
    have horder : hostileTwin.orderedColumns = hostileTwin.columns :=
      Table.orderedColumns_of_pairwise (by decide)
    have hoptions : Backend.mySql.dialect.tableOptions hostileTwin = "" := by
      simp only [Backend.dialect, Dialect.mySql, Dialect.MySql.tableOptions, horder]
      rfl
    simp only [Backend.generator, Generator.ofDialect, Dialect.createTable, Dialect.statement, horder,
      hoptions]
    cbv
  have hdefault : hostileTable.PrintsNoDefault := by
    simp [hostileTable, Table.PrintsNoDefault, Column.plain]
  have hdefault' : hostileTwin.PrintsNoDefault := by
    simp [hostileTwin, Table.PrintsNoDefault, Column.plain]
  exact ⟨htable, htwin, hdefault, hdefault',
    (read_generate .mySql).1 hostileTable hostileStatement htable hdefault,
    (read_generate .mySql).2 hostileTable hostileTwin hostileStatement htable htwin hdefault
      hdefault'⟩

end Outline

end Schemata
