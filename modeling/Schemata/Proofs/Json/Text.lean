import Schemata.Json.Reader
import Schemata.Json.Writer
import Schemata.Proofs.Traversal

/-!
# Reading back the text of a value

`Json.ofText?_render`: the text that `Json.render` writes is read as the value that it was written for.
This is so for every value whose numbers are integers and whose strings stand for characters
(`Json.IsPlain`); a decimal is kept as it is spelled, and nothing says that the spelling is one.

Each reader takes back what was written and leaves what follows: `readString_writtenChars` for the
characters of a string, `readNumber_writtenInt` for integers, and `readValue_written` for values, by the
nesting of the value. What follows a value must not continue it, which only matters behind a number.
-/

namespace Schemata.Json

/-! ## Strings -/

theorem readString_of_unit_none {a b c d : Char} (h : unit? a b c d = none) (rest : List Char) :
    readString ('\\' :: 'u' :: a :: b :: c :: d :: rest) = none := by
  by_cases hpair : ∃ e f g i more, rest = '\\' :: 'u' :: e :: f :: g :: i :: more
  · obtain ⟨e, f, g, i, more, rfl⟩ := hpair
    rw [readString.eq_3, h]
  · rw [readString.eq_4 a b c d rest fun e f g i more he => hpair ⟨e, f, g, i, more, he⟩, h]

/-- An escape of four digits that is no half of a pair stands for one character, whatever follows. -/
theorem readString_unit {a b c d : Char} {n : Nat} (h : unit? a b c d = some n)
    (hn : isHighSurrogate n = false) (rest : List Char) :
    readString ('\\' :: 'u' :: a :: b :: c :: d :: rest) = (readString rest).map (consUnit n) := by
  by_cases hpair : ∃ e f g i more, rest = '\\' :: 'u' :: e :: f :: g :: i :: more
  · obtain ⟨e, f, g, i, more, rfl⟩ := hpair
    rw [readString.eq_3, h]
    cases hu : unit? e f g i with
    | none => rw [readString_of_unit_none hu, Option.map_none]
    | some m => simp only [hn, Bool.false_and, Bool.false_eq_true, ite_false]
  · rw [readString.eq_4 a b c d rest fun e f g i more he => hpair ⟨e, f, g, i, more, he⟩, h]

theorem readString_escape {e c : Char} (h : escape? e = some c) (rest : List Char) :
    readString ('\\' :: e :: rest) = (readString rest).map (consChar c) := by
  have hu : e ≠ 'u' := by
    rintro rfl
    cases h
  rw [readString.eq_5 e rest (fun _ _ _ _ _ _ _ _ _ he => absurd he hu)
    (fun _ _ _ _ _ he => absurd he hu), h]

/-- The digits that are written for a control character spell it. -/
theorem unit?_hexDigit {c : Char} (h : c.toNat < 32) :
    unit? '0' '0' (hexDigit (c.toNat / 16)) (hexDigit c.toNat) = some c.toNat := by
  have table : ∀ n < 32, unit? '0' '0' (hexDigit (n / 16)) (hexDigit n) = some n := by
    decide +kernel
  exact table c.toNat h

/-- The letters that are written are read back. -/
theorem escape?_of_escapeLetter? {c letter : Char} (h : escapeLetter? c = some letter) :
    escape? letter = some c := by
  unfold escapeLetter? at h
  split at h <;> cases h <;> rfl

theorem readString_writtenChar (c : Char) (rest : List Char) :
    readString (writtenChar c ++ rest) = (readString rest).map (consChar c) := by
  unfold writtenChar
  split
  · next letter h => exact readString_escape (escape?_of_escapeLetter? h) rest
  · next hletter =>
    split
    · next h =>
      have hhigh : isHighSurrogate c.toNat = false := by simp [isHighSurrogate]; omega
      have hlow : isLowSurrogate c.toNat = false := by simp [isLowSurrogate]; omega
      have hunit : consUnit c.toNat = consChar c := by
        funext r
        simp [consUnit, hhigh, hlow, Char.ofNat_toNat]
      exact hunit ▸ readString_unit (unit?_hexDigit h) hhigh rest
    · next hcontrol =>
      have hquote : c ≠ '"' := by
        rintro rfl
        cases hletter
      have hback : c ≠ '\\' := by
        rintro rfl
        cases hletter
      rw [List.singleton_append, readString.eq_6 c rest hquote
        (fun _ _ _ _ _ _ _ _ _ h _ => hback h) (fun _ _ _ _ _ h _ => hback h)
        (fun _ _ h _ => hback h), if_neg hcontrol]

theorem readString_writtenChars (cs rest : List Char) :
    readString (cs.flatMap writtenChar ++ '"' :: rest) = some (some cs, rest) := by
  induction cs with
  | nil => exact readString.eq_2 rest
  | cons c cs ih =>
    rw [List.flatMap_cons, List.append_assoc, readString_writtenChar, ih]
    rfl

/-! ## Integers -/

/-- What may follow a value: no digit, no point and no letter, so that it does not go on. -/
def EndsValue (rest : List Char) : Prop :=
  ∀ c ∈ rest.head?, c.isDigit = false ∧ c ≠ '.' ∧ c ≠ 'e' ∧ c ≠ 'E'

theorem natOf_toDigits (n : Nat) : natOf (Nat.toDigits 10 n) = n := by
  have h : Nat.ofDigitChars 10 (Nat.toDigits 10 n) 0 = n := Nat.ofDigitChars_ten_toDigits
  simpa only [natOf, Nat.ofDigitChars_eq_foldl, Nat.mul_comm, Char.reduceToNat] using h

/-- Only zero begins with the digit zero. -/
theorem eq_zero_of_head?_toDigits {n : Nat} (h : (Nat.toDigits 10 n).head? = some '0') : n = 0 := by
  induction n using Nat.strongRecOn with
  | ind n ih =>
    by_cases hn : n < 10
    · have table : ∀ m < 10, m.digitChar = '0' → m = 0 := by decide
      rw [Nat.toDigits_of_lt_base hn] at h
      exact table n hn (by simpa using h)
    · obtain ⟨d, ds, hds⟩ :=
        List.exists_cons_of_ne_nil (Nat.toDigits_ne_nil (n := n / 10) (b := 10))
      rw [Nat.toDigits_of_base_le (by decide) (by omega), hds] at h
      have hzero := ih (n / 10) (by omega) (by simpa [hds] using h)
      omega

theorem digits_toDigits (n : Nat) {rest : List Char} (h : EndsValue rest) :
    digits (Nat.toDigits 10 n ++ rest) = (Nat.toDigits 10 n, rest) := by
  have hall : ∀ c ∈ Nat.toDigits 10 n, c.isDigit = true :=
    fun c hc => Nat.isDigit_of_mem_toDigits (by decide) (by decide) hc
  have hrest : ∀ c ∈ rest.head?, c.isDigit = false := fun c hc => (h c hc).1
  rw [digits, Traversal.takeWhile_run hall hrest, Traversal.dropWhile_run hall hrest]

theorem readWhole_toDigits (n : Nat) {rest : List Char} (h : EndsValue rest) :
    readWhole (Nat.toDigits 10 n ++ rest) = some (Nat.toDigits 10 n, rest) := by
  rw [readWhole, digits_toDigits n h]
  split
  · next hnil =>
    exact absurd (congrArg Prod.fst hnil) Nat.toDigits_ne_nil
  · next heq =>
    -- a number of several digits does not begin with zero
    have hdigits := congrArg Prod.fst heq
    simp only at hdigits
    have hzero : n = 0 := eq_zero_of_head?_toDigits (by rw [hdigits]; rfl)
    subst hzero
    simp at hdigits
  · next heq => exact congrArg some heq.symm

theorem readUnsigned_toDigits (negative : Bool) {n : Nat} (hn : negative = true → n ≠ 0)
    {rest : List Char} (h : EndsValue rest) :
    readUnsigned negative (Nat.toDigits 10 n ++ rest)
      = some (int (if negative then -(n : Int) else n), rest) := by
  have hfraction : readFraction rest = some ([], rest) := by
    cases rest with
    | nil => rfl
    | cons c rest => simp [readFraction, (h c rfl).2.1]
  have hexponent : readExponent rest = some ([], rest) := by
    cases rest with
    | nil => rfl
    | cons c rest => simp [readExponent, (h c rfl).2.2.1, (h c rfl).2.2.2]
  have hsign : (negative && n == 0) = false := by
    cases negative with
    | false => rfl
    | true => simp [hn rfl]
  simp only [readUnsigned, readWhole_toDigits n h, hfraction, hexponent, natOf_toDigits, hsign,
    Option.bind_eq_bind, Option.bind_some, List.isEmpty_nil, Bool.and_self, Bool.not_false, ite_true]
  rfl

theorem readNumber_writtenInt (n : Int) {rest : List Char} (h : EndsValue rest) :
    readNumber (writtenInt n ++ rest) = some (int n, rest) := by
  unfold writtenInt
  split
  · next hn =>
    have hread := readUnsigned_toDigits true (n := n.natAbs) (by omega) h
    rw [List.cons_append, readNumber, hread]
    simp only [ite_true, Option.some.injEq, Prod.mk.injEq, Json.int.injEq, and_true]
    omega
  · next hn =>
    have hread := readUnsigned_toDigits false (n := n.natAbs) (by simp) h
    have hhead : ∀ cs, Nat.toDigits 10 n.natAbs ++ rest ≠ '-' :: cs := by
      intro cs heq
      obtain ⟨d, ds, hds⟩ := List.exists_cons_of_ne_nil (Nat.toDigits_ne_nil (n := n.natAbs) (b := 10))
      have hdigit : d.isDigit = true :=
        Nat.isDigit_of_mem_toDigits (b := 10) (n := n.natAbs) (by decide) (by decide) (by simp [hds])
      rw [hds, List.cons_append, List.cons.injEq] at heq
      obtain ⟨rfl, -⟩ := heq
      revert hdigit
      decide
    rw [readNumber.eq_2 _ hhead, hread]
    simp only [Bool.false_eq_true, ite_false, Option.some.injEq, Prod.mk.injEq, Json.int.injEq,
      and_true]
    omega

/-! ## Values -/

mutual

/-- Whether every number of a value is an integer, and every string and key stands for characters. -/
def IsPlain : Json → Prop
  | decimal _ => False
  | str s => s.isSome
  | arr items => ArePlain items
  | obj members => ArePlainMembers members
  | _ => True

def ArePlain : List Json → Prop
  | [] => True
  | j :: rest => IsPlain j ∧ ArePlain rest

def ArePlainMembers : List (Option String × Json) → Prop
  | [] => True
  | (key, j) :: rest => key.isSome ∧ IsPlain j ∧ ArePlainMembers rest

end

theorem EndsValue.of_head {c : Char} (h : c = ',' ∨ c = ']' ∨ c = '\x7d') (rest : List Char) :
    EndsValue (c :: rest) := by
  rintro d ⟨⟩
  rcases h with rfl | rfl | rfl <;> decide

theorem EndsValue.nil : EndsValue [] := by
  rintro d ⟨⟩

theorem skipGap_cons {c : Char} (h : isGap c = false) (rest : List Char) :
    skipGap (c :: rest) = c :: rest := by
  simp [skipGap, h]

/-- The text of a plain value begins with a character of its own. -/
theorem written_head {j : Json} (h : j.IsPlain) :
    ∃ c cs, written j = c :: cs ∧ isGap c = false ∧ c ≠ ']' ∧ c ≠ '\x7d' := by
  cases j with
  | null => exact ⟨_, _, rfl, by decide⟩
  | bool b => cases b <;> exact ⟨_, _, rfl, by decide⟩
  | int n =>
    obtain ⟨d, ds, hds⟩ :=
      List.exists_cons_of_ne_nil (Nat.toDigits_ne_nil (n := n.natAbs) (b := 10))
    have hdigit : d.isDigit = true :=
      Nat.isDigit_of_mem_toDigits (b := 10) (n := n.natAbs) (by decide) (by decide) (by simp [hds])
    simp only [written, writtenInt, hds]
    split
    · exact ⟨_, _, rfl, by decide⟩
    · refine ⟨_, _, rfl, ?_, ?_, ?_⟩
      · simp only [isGap, Bool.or_eq_false_iff, beq_eq_false_iff_ne]
        refine ⟨⟨⟨?_, ?_⟩, ?_⟩, ?_⟩ <;> (rintro rfl; revert hdigit; decide)
      · rintro rfl
        revert hdigit
        decide
      · rintro rfl
        revert hdigit
        decide
  | decimal s => exact h.elim
  | str s =>
    cases s with
    | none => cases h
    | some s => exact ⟨_, _, rfl, by decide⟩
  | arr items => exact ⟨_, _, rfl, by decide⟩
  | obj members => exact ⟨_, _, rfl, by decide⟩

theorem readValue_number {c : Char} (h : c = '-' ∨ c.isDigit = true) (depth : Nat)
    (cs : List Char) : readValue (depth + 1) (c :: cs) = readNumber (c :: cs) := by
  have hne : ∀ d : Char, ¬ (d = '-' ∨ d.isDigit = true) → d ≠ c := fun d hd e => hd (e ▸ h)
  have hgap : skipGap (c :: cs) = c :: cs := by
    apply skipGap_cons
    simp only [isGap, Bool.or_eq_false_iff, beq_eq_false_iff_ne]
    exact ⟨⟨⟨(hne ' ' (by decide)).symm, (hne '\n' (by decide)).symm⟩,
      (hne '\t' (by decide)).symm⟩, (hne '\r' (by decide)).symm⟩
  rw [readValue.eq_2, hgap]
  split
  case h_7 => rfl
  -- none of the characters that begin other values is a sign or a digit
  all_goals
    next heq =>
      rw [List.cons.injEq] at heq
      exact absurd heq.1.symm (hne _ (by decide))

/-- A value is read back from its text, whatever follows that does not continue it. Each bracket, comma
and colon takes one step into the nesting and stands in the text. -/
def ReadsBack (j : Json) : Prop :=
  ∀ (rest : List Char) (depth : Nat), EndsValue rest → 2 * (written j).length ≤ depth →
    readValue depth (written j ++ rest) = some (j, rest)

theorem readsBack_int (n : Int) : ReadsBack (int n) := by
  intro rest depth hrest hdepth
  have hread := readNumber_writtenInt n hrest
  have hhead : ∃ c cs, writtenInt n = c :: cs ∧ (c = '-' ∨ c.isDigit = true) := by
    obtain ⟨d, ds, hds⟩ :=
      List.exists_cons_of_ne_nil (Nat.toDigits_ne_nil (n := n.natAbs) (b := 10))
    unfold writtenInt
    split
    · exact ⟨_, _, rfl, .inl rfl⟩
    · refine ⟨d, ds, hds, .inr ?_⟩
      exact Nat.isDigit_of_mem_toDigits (b := 10) (n := n.natAbs) (by decide) (by decide)
        (by simp [hds])
  obtain ⟨c, cs, hcs, hc⟩ := hhead
  simp only [written, hcs, List.length_cons, List.cons_append] at hread hdepth ⊢
  obtain ⟨depth, rfl⟩ : ∃ n, depth = n + 1 := ⟨depth - 1, by omega⟩
  rw [readValue_number hc, hread]

theorem readsBack_text (s : String) : ReadsBack (str (some s)) := by
  intro rest depth _ hdepth
  have hread := readString_writtenChars s.toList rest
  simp only [written, writtenString, List.length_cons] at hdepth
  obtain ⟨depth, rfl⟩ : ∃ n, depth = n + 1 := ⟨depth - 1, by omega⟩
  simp only [written, writtenString, List.cons_append, List.append_assoc, List.nil_append]
  rw [readValue.eq_2, skipGap_cons (by decide)]
  simp only [hread, Option.map_some, stringOf, String.ofList_toList]

theorem readItems_written {items : List Json} (hne : items ≠ []) (h : ∀ j ∈ items, ReadsBack j)
    (rest : List Char) {depth : Nat} (hdepth : 2 * (writtenItems items).length + 1 ≤ depth) :
    readItems depth (writtenItems items ++ ']' :: rest) = some (items, rest) := by
  induction items generalizing depth with
  | nil => exact absurd rfl hne
  | cons j items ih =>
    obtain ⟨depth, rfl⟩ : ∃ n, depth = n + 1 := ⟨depth - 1, by omega⟩
    have hj := h j List.mem_cons_self
    cases items with
    | nil =>
      have hread := hj (']' :: rest) depth (.of_head (by simp) rest)
        (by simpa [writtenItems] using hdepth)
      rw [readItems.eq_2, writtenItems, hread]
      rfl
    | cons k items =>
      simp only [writtenItems, List.length_append, List.length_cons] at hdepth
      have hread := hj (',' :: (writtenItems (k :: items) ++ ']' :: rest)) depth
        (.of_head (by simp) _) (by omega)
      have hbound : 2 * (writtenItems (k :: items)).length + 1 ≤ depth := by omega
      have htail := ih (by simp) (fun l hl => h l (List.mem_cons_of_mem j hl)) hbound
      rw [readItems.eq_2, writtenItems, List.append_assoc, List.cons_append, hread]
      simp only [skipGap_cons (c := ',') (by decide), htail, Option.map_some]

theorem readString_writtenKey {key : Option String} (h : key.isSome) (rest : List Char) :
    ∃ cs, writtenKey key ++ rest = '"' :: cs ∧ readString cs = some (key.map String.toList, rest) := by
  obtain ⟨s, rfl⟩ := Option.isSome_iff_exists.1 h
  exact ⟨s.toList.flatMap writtenChar ++ '"' :: rest, by simp [writtenKey, writtenString],
    readString_writtenChars s.toList rest⟩

theorem readMembers_written {members : List (Option String × Json)} (hne : members ≠ [])
    (h : ∀ m ∈ members, m.1.isSome ∧ ReadsBack m.2) (rest : List Char) {depth : Nat}
    (hdepth : 2 * (writtenMembers members).length + 1 ≤ depth) :
    readMembers depth (writtenMembers members ++ '\x7d' :: rest) = some (members, rest) := by
  induction members generalizing depth with
  | nil => exact absurd rfl hne
  | cons m members ih =>
    obtain ⟨key, j⟩ := m
    obtain ⟨depth, rfl⟩ : ∃ n, depth = n + 1 := ⟨depth - 1, by omega⟩
    obtain ⟨hkey, hj⟩ : key.isSome ∧ ReadsBack j := h (key, j) List.mem_cons_self
    have hname : stringOf (key.map String.toList) = key := by
      cases key <;> simp [stringOf]
    cases members with
    | nil =>
      simp only [writtenMembers, List.length_append, List.length_cons] at hdepth
      have hread := hj ('\x7d' :: rest) depth (.of_head (by simp) rest) (by omega)
      obtain ⟨cs, hcs, hstring⟩ :=
        readString_writtenKey hkey (':' :: (written j ++ '\x7d' :: rest))
      rw [readMembers.eq_2, writtenMembers, List.append_assoc, List.cons_append, hcs]
      simp only [skipGap_cons (c := '"') (by decide), hstring, skipGap_cons (c := ':') (by decide),
        hread, skipGap_cons (c := '\x7d') (by decide), hname]
    | cons m members =>
      simp only [writtenMembers, List.length_append, List.length_cons] at hdepth
      have hread := hj (',' :: (writtenMembers (m :: members) ++ '\x7d' :: rest)) depth
        (.of_head (by simp) _) (by omega)
      have hbound : 2 * (writtenMembers (m :: members)).length + 1 ≤ depth := by omega
      have htail := ih (by simp) (fun l hl => h l (List.mem_cons_of_mem _ hl)) hbound
      obtain ⟨cs, hcs, hstring⟩ := readString_writtenKey hkey
        (':' :: (written j ++ ',' :: (writtenMembers (m :: members) ++ '\x7d' :: rest)))
      rw [readMembers.eq_2, writtenMembers, List.append_assoc, List.cons_append, List.append_assoc,
        List.cons_append, hcs]
      simp only [skipGap_cons (c := '"') (by decide), hstring, skipGap_cons (c := ':') (by decide),
        hread, skipGap_cons (c := ',') (by decide), htail, Option.map_some, hname]

theorem readsBack_arr {items : List Json} (hplain : ArePlain items) (h : ∀ j ∈ items, ReadsBack j) :
    ReadsBack (arr items) := by
  intro rest depth _ hdepth
  obtain ⟨depth, rfl⟩ : ∃ n, depth = n + 1 := ⟨depth - 1, by simp [written] at hdepth; omega⟩
  simp only [written, List.length_cons, List.length_append, List.length_nil] at hdepth
  simp only [written, List.cons_append, List.append_assoc, List.nil_append]
  rw [readValue.eq_2, skipGap_cons (by decide)]
  cases items with
  | nil => rfl
  | cons j items =>
    have hbound : 2 * (writtenItems (j :: items)).length + 1 ≤ depth := by omega
    have hread := readItems_written (by simp) h rest hbound
    obtain ⟨c, cs, hcs, hgap, hclose⟩ : ∃ c cs,
        writtenItems (j :: items) ++ ']' :: rest = c :: cs ∧ isGap c = false ∧ c ≠ ']' := by
      obtain ⟨c, cs, hcs, hgap, hclose, -⟩ := written_head hplain.1
      cases items with
      | nil => exact ⟨c, cs ++ ']' :: rest, by simp [writtenItems, hcs], hgap, hclose⟩
      | cons k items => exact ⟨c, _, by rw [writtenItems, hcs]; rfl, hgap, hclose⟩
    rw [hcs] at hread ⊢
    simp only [skipGap_cons hgap]
    split
    · next heq => exact absurd (List.cons.inj heq).1 hclose
    · rw [hread, Option.map_some]

theorem readsBack_obj {members : List (Option String × Json)}
    (h : ∀ m ∈ members, m.1.isSome ∧ ReadsBack m.2) : ReadsBack (obj members) := by
  intro rest depth _ hdepth
  obtain ⟨depth, rfl⟩ : ∃ n, depth = n + 1 := ⟨depth - 1, by simp [written] at hdepth; omega⟩
  simp only [written, List.length_cons, List.length_append, List.length_nil] at hdepth
  simp only [written, List.cons_append, List.append_assoc, List.nil_append]
  rw [readValue.eq_2, skipGap_cons (by decide)]
  cases members with
  | nil => rfl
  | cons m members =>
    have hbound : 2 * (writtenMembers (m :: members)).length + 1 ≤ depth := by omega
    have hread := readMembers_written (by simp) h rest hbound
    obtain ⟨cs, hcs⟩ : ∃ cs, writtenMembers (m :: members) ++ '\x7d' :: rest = '"' :: cs := by
      obtain ⟨key, j⟩ := m
      obtain ⟨cs, hcs, -⟩ := readString_writtenKey (h (key, j) List.mem_cons_self).1 []
      rw [List.append_nil] at hcs
      cases members with
      | nil => exact ⟨_, by rw [writtenMembers, hcs]; rfl⟩
      | cons m members => exact ⟨_, by rw [writtenMembers, hcs]; rfl⟩
    rw [hcs] at hread ⊢
    simp only [skipGap_cons (c := '"') (by decide)]
    split
    · next heq => cases heq
    · rw [hread, Option.map_some]

mutual

theorem readsBack : ∀ {j : Json}, j.IsPlain → ReadsBack j
  | null, _ => by
    intro rest depth _ hdepth
    obtain ⟨depth, rfl⟩ : ∃ n, depth = n + 1 := ⟨depth - 1, by simp [written] at hdepth; omega⟩
    rfl
  | bool true, _ => by
    intro rest depth _ hdepth
    obtain ⟨depth, rfl⟩ : ∃ n, depth = n + 1 := ⟨depth - 1, by simp [written] at hdepth; omega⟩
    rfl
  | bool false, _ => by
    intro rest depth _ hdepth
    obtain ⟨depth, rfl⟩ : ∃ n, depth = n + 1 := ⟨depth - 1, by simp [written] at hdepth; omega⟩
    rfl
  | int n, _ => readsBack_int n
  | decimal _, h => h.elim
  | str none, h => by cases h
  | str (some s), _ => readsBack_text s
  | arr _, h => readsBack_arr h (readsBack_items h)
  | obj _, h => readsBack_obj (readsBack_members h)

theorem readsBack_items : ∀ {items : List Json}, ArePlain items → ∀ j ∈ items, ReadsBack j
  | [], _ => List.forall_mem_nil _
  | _ :: _, h => List.forall_mem_cons.2 ⟨readsBack h.1, readsBack_items h.2⟩

theorem readsBack_members : ∀ {members : List (Option String × Json)}, ArePlainMembers members →
    ∀ m ∈ members, m.1.isSome ∧ ReadsBack m.2
  | [], _ => List.forall_mem_nil _
  | (_, _) :: _, h => List.forall_mem_cons.2 ⟨⟨h.1, readsBack h.2.1⟩, readsBack_members h.2.2⟩

end

/-- **The text of a plain value is read as the value.** -/
theorem ofText?_render {j : Json} (h : j.IsPlain) : ofText? (render j) = some j := by
  have hread := readsBack h [] (2 * (written j).length + 2) .nil (by omega)
  rw [List.append_nil] at hread
  simp only [ofText?, render, String.toList_ofList, hread]
  rfl

end Schemata.Json
