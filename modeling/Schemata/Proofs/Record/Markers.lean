import Mathlib.Data.List.Forall2
import Mathlib.Data.List.Induction
import Mathlib.Tactic.SplitIfs
import Schemata.Proofs.Traversal
import Schemata.Record

/-!
# Lists of markers

The markers of a record, or of one of its members, are one list. It may be cut over several attributes
at any place, with any brackets, with empty attributes and trailing commas, and with attributes under
other paths in between. `Listed` says what a pair of brackets holds and `Holds` what a run of attributes
does; the reader goes through the entries in order and sees nothing of the cuts
(`readAttributes_of_holds`), except that an entry may miss something at the very end of its list.

The entries that are markers are a small grammar, `Written`, and an entry is read exactly if it is in it
(`RecordMarker.read_iff`, `MemberMarker.read_iff`).
-/

namespace Schemata

namespace Record

/-! ## Entries between brackets -/

def Token.isComma : Token → Bool
  | .punct ',' _ => true
  | _ => false

/-- An entry of a list. At the end of its list no comma follows it. -/
structure Entry where
  tokens : List Token
  atEnd : Bool

/-- What an entry is read as, on its own. -/
def Entry.read {μ : Type} (read : EntryReader μ) (e : Entry) : Except RecordError μ :=
  readEntry read e.atEnd e.tokens

/-- The tokens between a pair of brackets, and the entries that they hold. -/
inductive Listed : List Entry → List Token → Prop
  | nil : Listed [] []
  | last {ts : List Token} (hne : ts ≠ []) (hts : ∀ t ∈ ts, t.isComma = false) :
    Listed [⟨ts, true⟩] ts
  | comma {ts rest : List Token} {es : List Entry} (hts : ∀ t ∈ ts, t.isComma = false)
      (joined : Bool) (hrest : Listed es rest) :
    Listed (⟨ts, false⟩ :: es) (ts ++ .punct ',' joined :: rest)

/-- An attribute that lists markers. -/
def schemaList (b : Bracket) (ts : List Token) : List Token :=
  .name "schema".toList :: .opening b :: (ts ++ [.closing b])

/-- An attribute under another path; `schema` may begin it. -/
def IsForeign (ts : List Token) : Prop :=
  ∀ rest, ts = .name "schema".toList :: rest →
    ∃ joined rest', rest = .punct ':' true :: .punct ':' joined :: rest'

/-- Attributes, and the entries that they hold together. -/
inductive Holds : List Entry → List (List Token) → Prop
  | nil : Holds [] []
  | list (b : Bracket) {es es' : List Entry} {ts : List Token} {attributes : List (List Token)}
      (hts : Listed es ts) (hrest : Holds es' attributes) :
    Holds (es ++ es') (schemaList b ts :: attributes)
  | foreign {es : List Entry} {ts : List Token} {attributes : List (List Token)}
      (hts : IsForeign ts) (hrest : Holds es attributes) : Holds es (ts :: attributes)

variable {ts rest : List Token}

theorem entries_append {first : List Token} {others : List (List Token)}
    (hts : ∀ t ∈ ts, t.isComma = false) (hrest : entries rest = first :: others) :
    entries (ts ++ rest) = (ts ++ first) :: others := by
  induction ts with
  | nil => exact hrest
  | cons t ts ih =>
    obtain ⟨ht, hts⟩ := List.forall_mem_cons.1 hts
    rw [List.cons_append, entries, ih hts]
    · rfl
    · rintro joined rfl
      cases ht

theorem entries_ne_nil (ts : List Token) : ∃ first others, entries ts = first :: others := by
  unfold entries
  split
  · exact ⟨_, _, rfl⟩
  · exact ⟨_, _, rfl⟩
  · split <;> exact ⟨_, _, rfl⟩

section Reading

variable {μ : Type} {read : EntryReader μ} {es : List Entry}

theorem readEntries_of_listed (h : Listed es ts) :
    readEntries read (entries ts) = es.mapM (Entry.read read) := by
  induction h with
  | nil => rfl
  | @last ts hne hts =>
    have hentries : entries ts = [ts] := by
      simpa using @entries_append ts [] [] [] hts rfl
    rw [hentries, readEntries, if_neg (by simpa using hne), List.mapM_cons, List.mapM_nil]
    rfl
  | @comma ts rest es hts joined hrest ih =>
    have hentries : entries (ts ++ .punct ',' joined :: rest) = ts :: entries rest := by
      simpa using @entries_append ts (.punct ',' joined :: rest) _ _ hts rfl
    obtain ⟨first, others, hfirst⟩ := entries_ne_nil rest
    rw [hentries, List.mapM_cons, ← ih, hfirst]
    rfl

theorem readAttribute_schemaList (b : Bracket) (h : Listed es ts) :
    readAttribute read (schemaList b ts) = es.mapM (Entry.read read) := by
  rw [← readEntries_of_listed h]
  show readEntries read (entries (ts ++ [Token.closing b]).dropLast) = _
  rw [List.dropLast_concat]

theorem readAttribute_of_isForeign (h : IsForeign ts) : readAttribute read ts = .ok [] := by
  unfold readAttribute
  split
  · obtain ⟨_, _, hrest⟩ := h _ rfl
    cases hrest
  · obtain ⟨_, _, hrest⟩ := h _ rfl
    cases hrest
  · obtain ⟨_, _, hrest⟩ := h _ rfl
    cases hrest
  · rfl

/-- **The cuts do not matter**: attributes are read as their entries are, in order. -/
theorem readAttributes_of_holds {attributes : List (List Token)} (h : Holds es attributes) :
    readAttributes read attributes = es.mapM (Entry.read read) := by
  induction h with
  | nil => rfl
  | list b hts _ ih =>
    rw [List.mapM_append, ← ih, ← readAttribute_schemaList b hts]
    rfl
  | foreign hts _ ih =>
    rw [readAttributes, readAttribute_of_isForeign hts, ih]
    cases List.mapM (Entry.read read) _ <;> rfl

end Reading

/-! ## Entries that are markers -/

/-- The ways to write a marker of a record. -/
inductive RecordMarker.Written : RecordMarker → List Token → Prop
  | table (joined : Bool) (name spelling : List Char) :
    Written (.table name)
      [.name "table".toList, .punct '=' joined, .literal (.string name) spelling]

/-- The ways to write a marker of a member. -/
inductive MemberMarker.Written : MemberMarker → List Token → Prop
  | key {word : String} (hword : word ∈ ["key", "primary_key"]) : Written .key [.name word.toList]
  | unique : Written .unique [.name "unique".toList]
  | rowVersion : Written .rowVersion [.name "row_version".toList]
  | maxLength {word : String} (hword : word ∈ ["max_length", "size"]) (joined : Bool) {length : Nat}
      (hlength : length < UInt32.size) (spelling : List Char) :
    Written (.maxLength (.ofNat length))
      [.name word.toList, .punct '=' joined, .literal (.integer length) spelling]
  | column (joined : Bool) (name spelling : List Char) :
    Written (.column name)
      [.name "column".toList, .punct '=' joined, .literal (.string name) spelling]

section Grammar

variable {atEnd : Bool} {name value : List Char} {length : UInt32}

theorem readSegments_false (h : readSegments atEnd ts = .ok (false, rest)) : rest = ts := by
  unfold readSegments at h
  split at h
  · obtain ⟨_, _, h⟩ := Traversal.bind_eq_ok h
    cases h
  · cases h
  · cases h
    rfl

/-- A name alone is read off the front of an entry only if it stands there. -/
theorem readEntryName_some (h : readEntryName atEnd ts = .ok (some name, rest)) :
    ts = .name name :: rest := by
  unfold readEntryName at h
  split at h
  · unfold readPath at h
    split at h
    · obtain ⟨_, _, h⟩ := Traversal.bind_eq_ok h
      cases h
    all_goals cases h
  · unfold readPath at h
    split at h
    · obtain ⟨⟨longer, rest'⟩, hsegments, h⟩ := Traversal.bind_eq_ok h
      cases longer with
      | true => cases h
      | false =>
        cases h
        rw [readSegments_false hsegments]
    all_goals cases h

theorem readString_ok (h : readString atEnd ts = .ok (value, rest)) :
    ∃ joined spelling, ts = .punct '=' joined :: .literal (.string value) spelling :: rest := by
  obtain ⟨behind, hequals, hvalue⟩ := Traversal.bind_eq_ok h
  unfold readEquals at hequals
  split at hequals
  · cases hequals
    split at hvalue
    · cases hvalue
      exact ⟨_, _, rfl⟩
    · cases hvalue
  · cases hequals

theorem readLength_ok (h : readLength atEnd ts = .ok (length, rest)) :
    ∃ joined spelling, ∃ n < UInt32.size, length = .ofNat n ∧
      ts = .punct '=' joined :: .literal (.integer n) spelling :: rest := by
  obtain ⟨behind, hequals, hvalue⟩ := Traversal.bind_eq_ok h
  unfold readEquals at hequals
  split at hequals
  · cases hequals
    split at hvalue
    · split at hvalue
      · next hn =>
        cases hvalue
        exact ⟨_, _, _, hn, rfl, rfl⟩
      · cases hvalue
    all_goals cases hvalue
  · cases hequals

theorem readEntry_ok {μ : Type} {read : EntryReader μ} {m : μ} (h : readEntry read atEnd ts = .ok m) :
    ∃ word rest, readEntryName atEnd ts = .ok (word, rest) ∧ read atEnd word rest = .ok (m, []) := by
  obtain ⟨⟨word, rest⟩, hword, h⟩ := Traversal.bind_eq_ok h
  obtain ⟨⟨m', rest'⟩, hm, h⟩ := Traversal.bind_eq_ok h
  dsimp only at h
  split at h
  · next hrest =>
    cases h
    exact ⟨word, rest, hword, by rw [hm, List.isEmpty_iff.1 hrest]⟩
  · cases h

theorem readLength_literal {n : Nat} (hn : n < UInt32.size) (joined : Bool) (spelling : List Char) :
    readLength atEnd (.punct '=' joined :: .literal (.integer n) spelling :: rest)
      = .ok (.ofNat n, rest) :=
  if_pos hn

variable {word : Option (List Char)}

theorem readRecordMarker_ok {m : RecordMarker} (h : readRecordMarker atEnd word ts = .ok (m, [])) :
    ∃ name, word = some name ∧ m.Written (.name name :: ts) := by
  unfold readRecordMarker at h
  split at h
  · next htable =>
    obtain ⟨⟨name, rest⟩, hname, h⟩ := Traversal.bind_eq_ok h
    cases h
    obtain ⟨joined, spelling, rfl⟩ := readString_ok hname
    exact ⟨_, htable, .table joined name spelling⟩
  · cases h

theorem readMemberMarker_ok {m : MemberMarker} (h : readMemberMarker atEnd word ts = .ok (m, [])) :
    ∃ name, word = some name ∧ m.Written (.name name :: ts) := by
  unfold readMemberMarker at h
  split_ifs at h with hkey hunique hversion hlength hcolumn
  · cases h
    rcases hkey with hkey | hkey
    · exact ⟨_, hkey, .key (by simp)⟩
    · exact ⟨_, hkey, .key (by simp)⟩
  · cases h
    exact ⟨_, hunique, .unique⟩
  · cases h
    exact ⟨_, hversion, .rowVersion⟩
  · obtain ⟨⟨length, rest⟩, hvalue, h⟩ := Traversal.bind_eq_ok h
    cases h
    obtain ⟨joined, spelling, n, hn, rfl, rfl⟩ := readLength_ok hvalue
    rcases hlength with hlength | hlength
    · exact ⟨_, hlength, .maxLength (by simp) joined hn spelling⟩
    · exact ⟨_, hlength, .maxLength (by simp) joined hn spelling⟩
  · obtain ⟨⟨name, rest⟩, hname, h⟩ := Traversal.bind_eq_ok h
    cases h
    obtain ⟨joined, spelling, rfl⟩ := readString_ok hname
    exact ⟨_, hcolumn, .column joined name spelling⟩

variable {e : Entry}

theorem RecordMarker.read_iff {m : RecordMarker} :
    e.read readRecordMarker = .ok m ↔ m.Written e.tokens := by
  constructor
  · intro h
    obtain ⟨word, rest, hword, hread⟩ := readEntry_ok h
    obtain ⟨name, rfl, hwritten⟩ := readRecordMarker_ok hread
    rwa [readEntryName_some hword]
  · obtain ⟨tokens, atEnd⟩ := e
    rintro ⟨joined, name, spelling⟩
    rfl

theorem MemberMarker.read_iff {m : MemberMarker} :
    e.read readMemberMarker = .ok m ↔ m.Written e.tokens := by
  constructor
  · intro h
    obtain ⟨word, rest, hword, hread⟩ := readEntry_ok h
    obtain ⟨name, rfl, hwritten⟩ := readMemberMarker_ok hread
    rwa [readEntryName_some hword]
  · obtain ⟨tokens, atEnd⟩ := e
    intro h
    cases h with
    | key hword =>
      simp only [List.mem_cons, List.not_mem_nil, or_false] at hword
      rcases hword with rfl | rfl <;> rfl
    | unique => rfl
    | rowVersion => rfl
    | @maxLength word hword joined length hlength spelling =>
      have hvalue := @readLength_literal [] atEnd length hlength joined spelling
      simp only [List.mem_cons, List.not_mem_nil, or_false] at hword
      rcases hword with rfl | rfl
      · show ((readLength atEnd _ >>= _) >>= _) = _
        rw [hvalue]
        rfl
      · show ((readLength atEnd _ >>= _) >>= _) = _
        rw [hvalue]
        rfl
    | column joined name spelling => rfl

end Grammar

/-! ## Markers in order -/

namespace MemberMarker

/-- The length that a marker gives. -/
def length? : MemberMarker → Option UInt32
  | .maxLength length => some length
  | _ => none

/-- The column name that a marker gives. -/
def columnName? : MemberMarker → Option String
  | .column name => some (String.ofList name)
  | _ => none

end MemberMarker

/-- A member with markers: a flag is set if it is among them, and of the lengths and of the column names
that they give the last one counts. -/
def memberWith (name typeText : String) (ms : List MemberMarker) : Member where
  name := name
  typeText := typeText
  columnName := (ms.filterMap MemberMarker.columnName?).getLast?
  isPrimaryKey := decide (.key ∈ ms)
  isUnique := decide (.unique ∈ ms)
  maxLength := (ms.filterMap MemberMarker.length?).getLast?
  isRowVersion := decide (.rowVersion ∈ ms)

theorem marked_plain (name typeText : String) (ms : List MemberMarker) :
    marked (Member.plain name typeText) ms = memberWith name typeText ms := by
  induction ms using List.reverseRecOn with
  | nil => rfl
  | append_singleton ms m ih =>
    unfold marked at ih ⊢
    rw [List.foldl_append, ih]
    cases m <;>
      simp [mark, memberWith, MemberMarker.length?, MemberMarker.columnName?, List.filterMap_append]

end Record

end Schemata
