import Schemata.Proofs.Record.Markers
import Schemata.Proofs.Record.Members

/-!
# Deriving with markers

A record is derived from its declaration once that has been read (`Source.read`). What its markers say
depends on their list alone and not on how it is cut over attributes: `Source.derive_markers` states
what is derived if all entries are markers, and that otherwise the fault of the first entry that is none
is reported, those of the record coming before those of its members.
-/

namespace Schemata

namespace Record

/-- The declaration with its tokens, the types of its members as they are written. -/
def Source.read (s : Source) : Except RecordError TokenSource :=
  match s.tokens? with
  | none => .error .unreadable
  | some t => t.settle

/-- The constant of a member's selector. -/
def TokenField.constant (f : TokenField) : List Char :=
  Naming.shoutySnake f.member.toList

/-- The member that a field with these markers declares. -/
def TokenField.declared (f : TokenField) (ms : List MemberMarker) : Member :=
  memberWith f.member (String.ofList (typeText f.type)) ms

/-- What is derived from a record with these markers. It depends on the names of the declaration and the
types of its members; their attributes do not matter. -/
def TokenSource.derived (t : TokenSource) (ms : List RecordMarker) (mss : List (List MemberMarker)) :
    Derived where
  entity := ⟨t.name, tableName? ms, List.zipWith TokenField.declared t.fields mss⟩
  moduleName := String.ofList (moduleName t.name)
  selectors := t.fields.map fun f => (String.ofList f.constant, f.member)

/-- The entries are written as markers. -/
def Writes {μ : Type} (written : μ → List Token → Prop) (es : List Entry) (ms : List μ) : Prop :=
  List.Forall₂ (fun e m => written m e.tokens) es ms

/-- The first entry of a list that is no marker. -/
def FirstFault {μ : Type} (written : μ → List Token → Prop) (es : List Entry) (e : Entry) : Prop :=
  ∃ before ms behind, es = before ++ e :: behind ∧ Writes written before ms ∧
    ∀ m, ¬ written m e.tokens

theorem Source.derive_eq (s : Source) : s.derive = s.read >>= TokenSource.derive := by
  unfold derive read
  cases s.tokens? <;> rfl

/-! ## Fields -/

section Fields

variable {f : TokenField} {es : List Entry} {ms : List MemberMarker} {err : RecordError}

theorem TokenField.derive_eq (f : TokenField) :
    f.derive = readAttributes readMemberMarker f.attributes >>= fun ms =>
      if Text.isDeclaredName f.constant then .ok (f.declared ms, String.ofList f.constant)
      else .error .unusableName := by
  unfold derive declared
  simp only [← marked_plain]
  rfl

section Attributes

variable {μ : Type} {read : EntryReader μ} {written : μ → List Token → Prop} {e : Entry}
  {attributes : List (List Token)}

theorem readAttributes_of_writes (hread : ∀ (e : Entry) m, e.read read = .ok m ↔ written m e.tokens)
    (hes : Holds es attributes) {ms : List μ} (hms : Writes written es ms) :
    readAttributes read attributes = .ok ms := by
  rw [readAttributes_of_holds hes, Traversal.mapM_ok_iff]
  exact hms.imp fun e m => (hread e m).2

theorem readAttributes_of_firstFault
    (hread : ∀ (e : Entry) m, e.read read = .ok m ↔ written m e.tokens)
    (hes : Holds es attributes) (he : FirstFault written es e) :
    ∃ err, e.read read = .error err ∧ readAttributes read attributes = .error err := by
  obtain ⟨before, ms, behind, rfl, hbefore, hfault⟩ := he
  cases herr : e.read read with
  | ok m => exact absurd ((hread e m).1 herr) (hfault m)
  | error err =>
    refine ⟨err, rfl, ?_⟩
    rw [readAttributes_of_holds hes, Traversal.mapM_error_iff]
    have hmarkers := hbefore.imp fun e m => (hread e m).2
    exact ⟨before, e, behind, rfl,
      Traversal.exists_mapM_ok_iff.1 ⟨ms, Traversal.mapM_ok_iff.2 hmarkers⟩, herr⟩

end Attributes

theorem deriveFields_of_writes {fs : List TokenField} {ess : List (List Entry)}
    {mss : List (List MemberMarker)} (hconstants : ∀ f ∈ fs, Text.isDeclaredName f.constant = true)
    (hess : List.Forall₂ (fun f es => Holds es f.attributes) fs ess)
    (hmss : List.Forall₂ (Writes MemberMarker.Written) ess mss) :
    deriveFields fs
      = .ok (List.zipWith (fun f ms => (f.declared ms, String.ofList f.constant)) fs mss) := by
  induction hess generalizing mss with
  | nil =>
    cases hmss
    rfl
  | @cons f es fs ess hes _ ih =>
    cases hmss with
    | @cons _ ms _ mss hms hmss =>
      obtain ⟨hconstant, hconstants⟩ := List.forall_mem_cons.1 hconstants
      have hread := readAttributes_of_writes (fun _ _ => MemberMarker.read_iff) hes hms
      have hderive : f.derive = .ok (f.declared ms, String.ofList f.constant) := by
        simp only [f.derive_eq, hread, bind, Except.bind, hconstant, if_true]
      simp only [deriveFields, hderive, ih hconstants hmss, bind, Except.bind, pure, Except.pure,
        List.zipWith_cons_cons]

theorem deriveFields_of_firstFault {fs : List TokenField} {front back : List (List Entry)} {e : Entry}
    {mss : List (List MemberMarker)} (hconstants : ∀ f ∈ fs, Text.isDeclaredName f.constant = true)
    (hess : List.Forall₂ (fun f es => Holds es f.attributes) fs (front ++ es :: back))
    (hfront : List.Forall₂ (Writes MemberMarker.Written) front mss)
    (he : FirstFault MemberMarker.Written es e) :
    ∃ err, e.read readMemberMarker = .error err ∧ deriveFields fs = .error err := by
  have hbefore := List.forall₂_take_append fs front (es :: back) hess
  have hbehind := List.forall₂_drop_append fs front (es :: back) hess
  obtain ⟨f, after, hf, -, hsplit⟩ := List.forall₂_cons_right_iff.1 hbehind
  have hfs : fs = fs.take front.length ++ f :: after := by
    rw [← hsplit, List.take_append_drop]
  obtain ⟨err, herr, hread⟩ :=
    readAttributes_of_firstFault (fun _ _ => MemberMarker.read_iff) hf he
  refine ⟨err, herr, ?_⟩
  have hderived : deriveFields (fs.take front.length) = .ok _ :=
    deriveFields_of_writes (fun g hg => hconstants g (List.mem_of_mem_take hg)) hbefore hfront
  rw [deriveFields_eq_mapM] at hderived
  rw [deriveFields_eq_mapM, Traversal.mapM_error_iff]
  refine ⟨fs.take front.length, f, after, hfs, Traversal.exists_mapM_ok_iff.1 ⟨_, hderived⟩, ?_⟩
  simp only [f.derive_eq, hread, bind, Except.bind]

end Fields

/-! ## Records -/

theorem map_zipWith_declared {fs : List TokenField} {mss : List (List MemberMarker)}
    (hlength : fs.length = mss.length) :
    (List.zipWith (fun f ms => (f.declared ms, String.ofList f.constant)) fs mss).map
        (fun m => (m.2, m.1.name))
      = fs.map fun f => (String.ofList f.constant, f.member) := by
  induction fs generalizing mss with
  | nil => rfl
  | cons f fs ih =>
    cases mss with
    | nil => cases hlength
    | cons ms mss =>
      rw [List.zipWith_cons_cons, List.map_cons, List.map_cons, ih (Nat.succ.inj hlength)]
      rfl

/-- **Markers are one list**, however it is cut over attributes. -/
theorem Source.derive_markers {s : Source} {t : TokenSource} (hread : s.read = .ok t)
    (hkind : t.kind = .named)
    (hconstants : ∀ f ∈ t.fields, Text.isDeclaredName f.constant = true)
    {es : List Entry} {ess : List (List Entry)} (hes : Holds es t.attributes)
    (hess : List.Forall₂ (fun f es => Holds es f.attributes) t.fields ess) :
    -- A record with parameters is refused, whatever its markers are.
    (hasParameter t.parameters = true → s.derive = .error .hasParameters) ∧
    (hasParameter t.parameters = false →
      -- If all entries are markers, these determine what is derived.
      (∀ ms mss, Writes RecordMarker.Written es ms →
        List.Forall₂ (Writes MemberMarker.Written) ess mss →
        s.derive = if Text.isDeclaredName (moduleName t.name) then .ok (t.derived ms mss)
          else .error .unusableName) ∧
      -- Otherwise the first entry that is none is the fault, first among those of the record,
      (∀ e, FirstFault RecordMarker.Written es e →
        ∃ err, e.read readRecordMarker = .error err ∧ s.derive = .error err) ∧
      -- then among those of its members in turn.
      (∀ ms front mss es' back e, Writes RecordMarker.Written es ms → ess = front ++ es' :: back →
        List.Forall₂ (Writes MemberMarker.Written) front mss →
        FirstFault MemberMarker.Written es' e →
        ∃ err, e.read readMemberMarker = .error err ∧ s.derive = .error err)) := by
  have hderive : s.derive = t.derive := by
    rw [s.derive_eq, hread]
    rfl
  refine ⟨fun hparameters => ?_, fun hparameters => ⟨?_, ?_, ?_⟩⟩
  · rw [hderive, TokenSource.derive, hparameters]
    rfl
  · intro ms mss hms hmss
    have hrecord := readAttributes_of_writes (fun _ _ => RecordMarker.read_iff) hes hms
    have hfields := deriveFields_of_writes hconstants hess hmss
    have hlength : t.fields.length = mss.length := hess.length_eq.trans hmss.length_eq
    have hmembers := map_zipWith_declared hlength
    simp only [hderive, TokenSource.derive, hparameters, hkind, hrecord, hfields, bind, Except.bind]
    rw [if_neg Bool.false_ne_true, hmembers, List.map_zipWith]
    rfl
  · intro e he
    obtain ⟨err, herr, hrecord⟩ :=
      readAttributes_of_firstFault (fun _ _ => RecordMarker.read_iff) hes he
    refine ⟨err, herr, ?_⟩
    simp only [hderive, TokenSource.derive, hparameters, hkind, hrecord, bind, Except.bind]
    rfl
  · rintro ms front mss es' back e hms rfl hfront he
    have hrecord := readAttributes_of_writes (fun _ _ => RecordMarker.read_iff) hes hms
    obtain ⟨err, herr, hfields⟩ := deriveFields_of_firstFault hconstants hess hfront he
    refine ⟨err, herr, ?_⟩
    simp only [hderive, TokenSource.derive, hparameters, hkind, hrecord, hfields, bind, Except.bind]
    rfl

/-- An account whose markers stand in several attributes, those at the end of its last member given. -/
def account (last : String) : Source where
  kind := .named
  name := "Account"
  parameters := ""
  attributes := ["schema\x7btable = \"old\",\x7d", "derive(Debug)", "schema()",
    "schema[table = r\"accounts\"]"]
  fields := [
    ⟨"id", "i64", ["schema(primary_key, key,)"]⟩,
    ⟨"r#type", "String", ["schema\x7bsize = 0x40, unique\x7d", "schema::other", "schema[]", last]⟩]

/-- A marker with a value, as its tokens are read. -/
def valued (word : String) (value : Literal) (spelling : String) : List Token :=
  [.name word.toList, .punct '=' false, .literal value spelling.toList]

def accountTokens (last : List Token) : TokenSource where
  kind := .named
  name := "Account"
  parameters := []
  attributes := [
    schemaList .curly (valued "table" (.string "old".toList) "\"old\"" ++ [.punct ',' false]),
    [.name "derive".toList, .opening .round, .name "Debug".toList, .closing .round],
    schemaList .round [],
    schemaList .square (valued "table" (.string "accounts".toList) "r\"accounts\"")]
  fields := [
    ⟨"id", [.name "i64".toList], [
      schemaList .round ([.name "primary_key".toList] ++ .punct ',' false
        :: ([.name "key".toList] ++ [.punct ',' false]))]⟩,
    ⟨"r#type", [.name "String".toList], [
      schemaList .curly
        (valued "size" (.integer 64) "0x40" ++ .punct ',' false :: [.name "unique".toList]),
      [.name "schema".toList, .punct ':' true, .punct ':' false, .name "other".toList],
      schemaList .square [],
      schemaList .round last]⟩]

/-- The entries of the record, those at the end of its last member given. -/
def accountEntries (last : List Entry) : List Entry × List (List Entry) :=
  ([⟨valued "table" (.string "old".toList) "\"old\"", false⟩,
    ⟨valued "table" (.string "accounts".toList) "r\"accounts\"", true⟩],
  [[⟨[.name "primary_key".toList], false⟩, ⟨[.name "key".toList], false⟩],
    [⟨valued "size" (.integer 64) "0x40", false⟩, ⟨[.name "unique".toList], true⟩] ++ last])

theorem holds_account {last : List Token} {es : List Entry} (h : Listed es last) :
    Holds (accountEntries es).1 (accountTokens last).attributes ∧
    List.Forall₂ (fun f es => Holds es f.attributes) (accountTokens last).fields
      (accountEntries es).2 := by
  refine ⟨?_, .cons ?_ (.cons ?_ .nil)⟩
  · have hderive : IsForeign
        [.name "derive".toList, .opening .round, .name "Debug".toList, .closing .round] :=
      fun _ h => absurd (List.cons.inj h).1 (by decide)
    exact .list .curly (.comma (by decide) false .nil) (.foreign hderive
      (.list .round .nil (.list .square (.last (by decide) (by decide)) .nil)))
  · exact .list .round (.comma (by decide) false (.comma (by decide) false .nil)) .nil
  · have hother : IsForeign
        [.name "schema".toList, .punct ':' true, .punct ':' false, .name "other".toList] :=
      fun _ h => ⟨false, _, (List.cons.inj h).2.symm⟩
    have hlast := Holds.list .round h .nil
    rw [List.append_nil] at hlast
    exact .list .curly (.comma (by decide) false (.last (by decide) (by decide)))
      (.foreign hother (.list .square .nil hlast))

theorem derive_markers_account :
    (account "schema(column = \"kind\", max_length = 1_28u32)").derive = .ok {
      entity := ⟨"Account", some "accounts", [
        { Member.plain "id" "i64" with isPrimaryKey := true },
        { Member.plain "type" "String" with
          columnName := some "kind", isUnique := true, maxLength := some 128 }]⟩
      moduleName := "account_fields"
      selectors := [("ID", "id"), ("TYPE", "type")] } ∧
    (account "schema(unique, colour, column)").derive = .error .unknownMemberMarker := by
  constructor
  · have hread : (account "schema(column = \"kind\", max_length = 1_28u32)").read
        = .ok (accountTokens (valued "column" (.string "kind".toList) "\"kind\""
          ++ .punct ',' false :: valued "max_length" (.integer 128) "1_28u32")) := by decide +kernel
    obtain ⟨hes, hess⟩ := holds_account
      (@Listed.comma (valued "column" (.string "kind".toList) "\"kind\"") _ _ (by decide) false
        (@Listed.last (valued "max_length" (.integer 128) "1_28u32") (by decide) (by decide)))
    obtain ⟨-, hplain⟩ := Source.derive_markers hread rfl (by decide +kernel) hes hess
    obtain ⟨hmarkers, -⟩ := hplain rfl
    have hderive := hmarkers [.table "old".toList, .table "accounts".toList]
      [[.key, .key], [.maxLength 64, .unique, .column "kind".toList, .maxLength 128]]
      (.cons (.table false _ _) (.cons (.table false _ _) .nil))
      (.cons (.cons (.key (by decide)) (.cons (.key (by decide)) .nil))
        (.cons (.cons (.maxLength (by decide) false (by decide) _) (.cons .unique
          (.cons (.column false _ _) (.cons (.maxLength (by decide) false (by decide) _) .nil)))) .nil))
    rw [hderive]
    decide +kernel
  · have hread : (account "schema(unique, colour, column)").read
        = .ok (accountTokens ([.name "unique".toList] ++ .punct ',' false ::
          ([.name "colour".toList] ++ .punct ',' false :: [.name "column".toList]))) := by
      decide +kernel
    obtain ⟨hes, hess⟩ := holds_account (@Listed.comma [.name "unique".toList] _ _ (by decide) false
      (@Listed.comma [.name "colour".toList] _ _ (by decide) false
        (@Listed.last [.name "column".toList] (by decide) (by decide))))
    obtain ⟨-, hplain⟩ := Source.derive_markers hread rfl (by decide +kernel) hes hess
    obtain ⟨-, -, hmembers⟩ := hplain rfl
    have hcolour : Entry.read readMemberMarker ⟨[.name "colour".toList], false⟩
        = .error .unknownMemberMarker := rfl
    have hfault : FirstFault MemberMarker.Written
        ([⟨valued "size" (.integer 64) "0x40", false⟩, ⟨[.name "unique".toList], true⟩,
          ⟨[.name "unique".toList], false⟩] ++ ⟨[.name "colour".toList], false⟩
          :: [⟨[.name "column".toList], true⟩]) ⟨[.name "colour".toList], false⟩ :=
      ⟨_, [.maxLength 64, .unique, .unique], _, rfl,
        .cons (.maxLength (by decide) false (by decide) _) (.cons .unique (.cons .unique .nil)),
        fun m hm => by cases hcolour.symm.trans (MemberMarker.read_iff.2 hm)⟩
    obtain ⟨err, herr, hderive⟩ := hmembers [.table "old".toList, .table "accounts".toList]
      [[⟨[.name "primary_key".toList], false⟩, ⟨[.name "key".toList], false⟩]] [[.key, .key]] _ [] _
      (.cons (.table false _ _) (.cons (.table false _ _) .nil)) rfl
      (.cons (.cons (.key (by decide)) (.cons (.key (by decide)) .nil)) .nil) hfault
    cases hcolour.symm.trans herr
    exact hderive

end Record

end Schemata
