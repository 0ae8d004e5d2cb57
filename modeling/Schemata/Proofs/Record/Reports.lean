import Schemata.Proofs.Record.Derivation

/-!
# What reading a declaration reports

A declaration may be refused for its text, for the kind of record that it declares, or for a name that
is derived from it. The readers look at the text alone: whatever is wrong with it, none of them reports
a derived name (`Source.read_ne_unusable`, `readAttributes_ne_unusable`).
-/

namespace Schemata

namespace Record

section Reports

variable {α β : Type} {x : Except RecordError α}

theorem bind_ne_unusable {f : α → Except RecordError β} (hx : x ≠ .error .unusableName)
    (hf : ∀ a, f a ≠ .error .unusableName) : (x >>= f) ≠ .error .unusableName := by
  cases x with
  | ok a => exact hf a
  | error e => exact fun h => hx (congrArg _ (Except.error.inj h))

theorem mapM_ne_unusable {f : α → Except RecordError β} (hf : ∀ a, f a ≠ .error .unusableName)
    (as : List α) : as.mapM f ≠ .error .unusableName := by
  intro h
  obtain ⟨-, a, -, -, -, ha⟩ := Traversal.mapM_error_iff.1 h
  exact hf a ha

theorem readSegments_ne_unusable (atEnd : Bool) (ts : List Token) :
    readSegments atEnd ts ≠ .error .unusableName := by
  fun_induction readSegments atEnd ts with
  | case1 _ _ rest ih => exact bind_ne_unusable ih fun _ h => nomatch h
  | case2 | case3 => simp

theorem readPath_ne_unusable (atEnd separated : Bool) (ts : List Token) :
    readPath atEnd separated ts ≠ .error .unusableName := by
  fun_cases readPath atEnd separated ts with
  | case1 text rest => exact bind_ne_unusable (readSegments_ne_unusable atEnd rest) fun _ h => nomatch h
  | case4 => split <;> simp
  | case5 => split <;> simp
  | _ => simp

theorem readEntryName_ne_unusable (atEnd : Bool) (ts : List Token) :
    readEntryName atEnd ts ≠ .error .unusableName := by
  unfold readEntryName
  split <;> exact readPath_ne_unusable _ _ _

theorem readEquals_ne_unusable (ts : List Token) : readEquals ts ≠ .error .unusableName := by
  unfold readEquals
  split <;> simp

theorem readString_ne_unusable (atEnd : Bool) (ts : List Token) :
    readString atEnd ts ≠ .error .unusableName := by
  refine bind_ne_unusable (readEquals_ne_unusable ts) fun rest => ?_
  split <;> exact fun h => nomatch h

theorem readLength_ne_unusable (atEnd : Bool) (ts : List Token) :
    readLength atEnd ts ≠ .error .unusableName := by
  refine bind_ne_unusable (readEquals_ne_unusable ts) fun rest => ?_
  split
  · split <;> exact fun h => nomatch h
  · exact fun h => nomatch h
  · exact fun h => nomatch h

theorem readRecordMarker_ne_unusable (atEnd : Bool) (name : Option (List Char)) (ts : List Token) :
    readRecordMarker atEnd name ts ≠ .error .unusableName := by
  unfold readRecordMarker
  split
  · exact bind_ne_unusable (readString_ne_unusable atEnd ts) fun _ h => nomatch h
  · simp

theorem readMemberMarker_ne_unusable (atEnd : Bool) (name : Option (List Char)) (ts : List Token) :
    readMemberMarker atEnd name ts ≠ .error .unusableName := by
  unfold readMemberMarker
  split_ifs
  · simp
  · simp
  · simp
  · exact bind_ne_unusable (readLength_ne_unusable atEnd ts) fun _ h => nomatch h
  · exact bind_ne_unusable (readString_ne_unusable atEnd ts) fun _ h => nomatch h
  · simp

section Attributes

variable {μ : Type} {read : EntryReader μ}
  (hread : ∀ atEnd name ts, read atEnd name ts ≠ .error .unusableName)

include hread

theorem readEntry_ne_unusable (atEnd : Bool) (ts : List Token) :
    readEntry read atEnd ts ≠ .error .unusableName := by
  refine bind_ne_unusable (readEntryName_ne_unusable atEnd ts) fun entry => ?_
  refine bind_ne_unusable (hread atEnd entry.1 entry.2) fun marker => ?_
  dsimp only
  split <;> exact fun h => nomatch h

theorem readEntries_ne_unusable (es : List (List Token)) :
    readEntries read es ≠ .error .unusableName := by
  fun_induction readEntries read es with
  | case1 => simp
  | case2 => simp
  | case3 last => exact bind_ne_unusable (readEntry_ne_unusable hread true last) fun _ h => nomatch h
  | case4 entry rest _ ih =>
    refine bind_ne_unusable (readEntry_ne_unusable hread false entry) fun marker => ?_
    exact bind_ne_unusable ih fun _ h => nomatch h

theorem readAttributes_ne_unusable (attributes : List (List Token)) :
    readAttributes read attributes ≠ .error .unusableName := by
  induction attributes with
  | nil => exact fun h => nomatch h
  | cons first rest ih =>
    refine bind_ne_unusable ?_ fun markers => bind_ne_unusable ih fun _ h => nomatch h
    unfold readAttribute
    split
    · simp
    · simp
    · exact readEntries_ne_unusable hread _
    · simp

end Attributes

theorem behindAttribute_ne_unusable (ts : List Token) :
    behindAttribute ts ≠ .error .unusableName := by
  unfold behindAttribute
  split
  · simp
  · split <;> simp
  · simp

theorem settleType_ne_unusable (ts : List Token) : settleType ts ≠ .error .unusableName := by
  unfold settleType
  split
  · simp
  · split <;> simp

theorem TokenField.settle_ne_unusable (f : TokenField) : f.settle ≠ .error .unusableName := by
  refine bind_ne_unusable (mapM_ne_unusable behindAttribute_ne_unusable f.attributes) fun rests => ?_
  exact bind_ne_unusable (settleType_ne_unusable f.type) fun _ h => nomatch h

theorem TokenSource.settle_ne_unusable (s : TokenSource) : s.settle ≠ .error .unusableName := by
  refine bind_ne_unusable (mapM_ne_unusable behindAttribute_ne_unusable s.attributes) fun rests => ?_
  have hbehind : ∀ fields : List (TokenField × List Token),
      (if (rests ++ fields.map (·.2)).all List.isEmpty then
        .ok { s with fields := fields.map (·.1) }
      else .error .bracketMissing : Except RecordError TokenSource) ≠ .error .unusableName := by
    intro fields
    split <;> simp
  dsimp only
  split
  · exact bind_ne_unusable (mapM_ne_unusable TokenField.settle_ne_unusable s.fields) hbehind
  · exact hbehind []

theorem Source.read_ne_unusable (s : Source) : s.read ≠ .error .unusableName := by
  unfold read
  split
  · simp
  · exact TokenSource.settle_ne_unusable _

end Reports

end Record

end Schemata
