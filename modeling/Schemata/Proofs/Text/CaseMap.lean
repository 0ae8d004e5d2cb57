import Mathlib.Data.Nat.Bitwise
import Schemata.Proofs.Text.Blank
import Schemata.Text.CaseMap

/-!
# Case mappings keep names

A case mapping puts one or more characters in the place of one. What it puts there are characters of a
name wherever the character itself is one, and no underscore comes in (`upperChar_standsFor`,
`lowerChar_standsFor`). This is a fact about the tables, and looking it up row by row in every other
table would take long. So the code points of the tables are bits of numbers first (`testBit_tableBits`),
which makes a look-up a single shift; then all code points that a mapping moves are gone through.
-/

namespace Schemata.Text

/-! ## Code points as bits -/

namespace Progression

variable {p : Progression} {table : List Progression} {n : Nat}

/-- The code points of a row. -/
def points (p : Progression) : List Nat :=
  (List.range' p.first (p.last + 1 - p.first)).filter p.contains

/-- The code points of a row as the bits of a number. A row without gaps is a block of bits. -/
def bits (p : Progression) : Nat :=
  if p.step = 1 then (2 ^ (p.last + 1 - p.first) - 1) <<< p.first
  else p.points.foldr (fun n m => 1 <<< n ||| m) 0

/-- The code points of a table as the bits of a number. -/
def tableBits (table : List Progression) : Nat :=
  table.foldr (fun p m => p.bits ||| m) 0

theorem contains_iff :
    p.contains n = true ↔ p.first ≤ n ∧ n ≤ p.last ∧ (n - p.first) % p.step = 0 := by
  simp only [contains, Bool.and_eq_true, decide_eq_true_eq, beq_iff_eq, and_assoc]

theorem mem_points : n ∈ p.points ↔ p.contains n = true := by
  rw [points, List.mem_filter, List.mem_range'_1, contains_iff]
  omega

theorem testBit_foldr_shiftLeft (ns : List Nat) :
    (ns.foldr (fun n m => 1 <<< n ||| m) 0).testBit n = decide (n ∈ ns) := by
  induction ns with
  | nil => simp
  | cons k ns ih =>
    rw [List.foldr_cons, Nat.testBit_or, ih, Nat.one_shiftLeft, Nat.testBit_two_pow]
    simp only [List.mem_cons, Bool.decide_or, eq_comm]

theorem testBit_bits : p.bits.testBit n = p.contains n := by
  unfold bits
  split
  · next hstep =>
    rw [Nat.testBit_shiftLeft, Nat.testBit_two_pow_sub_one, Bool.eq_iff_iff, contains_iff, hstep]
    simp only [Bool.and_eq_true, decide_eq_true_eq]
    omega
  · rw [testBit_foldr_shiftLeft, Bool.eq_iff_iff, decide_eq_true_eq, mem_points]

theorem testBit_tableBits : (tableBits table).testBit n = anyContains table n := by
  unfold anyContains
  induction table with
  | nil => simp [tableBits]
  | cons p table ih =>
    rw [List.any_cons, ← ih, ← testBit_bits, ← Nat.testBit_or]
    rfl

/-- The code points of one table that are not in another. -/
def differenceBits (table without : List Progression) : Nat :=
  (tableBits table ||| tableBits without) ^^^ tableBits without

theorem testBit_differenceBits {without : List Progression} :
    (differenceBits table without).testBit n
      = (anyContains table n && !anyContains without n) := by
  rw [differenceBits, Nat.testBit_xor, Nat.testBit_or, testBit_tableBits, testBit_tableBits]
  cases anyContains table n <;> cases anyContains without n <;> rfl

/-- A table has no code point before its rows begin. -/
theorem anyContains_of_lt (table : List Progression) {bound : Nat} (hn : n < bound)
    (hrows : table.all (bound ≤ ·.first) = true) : anyContains table n = false := by
  refine List.any_eq_false.2 fun p hp hcontains => ?_
  have hfirst : bound ≤ p.first := of_decide_eq_true (List.all_eq_true.1 hrows p hp)
  have hn' := (contains_iff.1 hcontains).1
  omega

/-- A table has no code point behind the end of its rows. -/
theorem anyContains_of_ge (table : List Progression) {bound : Nat} (hn : bound ≤ n)
    (hrows : table.all (·.last < bound) = true) : anyContains table n = false := by
  refine List.any_eq_false.2 fun p hp hcontains => ?_
  have hlast : p.last < bound := of_decide_eq_true (List.all_eq_true.1 hrows p hp)
  have hn' := (contains_iff.1 hcontains).2.1
  omega

end Progression

open Progression

/-! ## The characters of names -/

/-- The letters of ASCII and the underscore. -/
def asciiStarters : List Progression := [⟨0x41, 0x5a, 1⟩, ⟨0x5f, 0x5f, 1⟩, ⟨0x61, 0x7a, 1⟩]

def asciiContinuers : List Progression := ⟨0x30, 0x39, 1⟩ :: asciiStarters

/-- The signs that start a declared name without being letters. -/
def signStarters : List Progression := [⟨0x2118, 0x2118, 1⟩, ⟨0x212e, 0x212e, 1⟩]

/-- The code points that may start a declared name. -/
def starters : Nat :=
  tableBits asciiStarters ||| differenceBits alphabeticTable trailingTable ||| tableBits signStarters

/-- The code points that may continue a declared name. -/
def continuers : Nat :=
  tableBits asciiContinuers ||| differenceBits alphabeticTable unnamedTable
    ||| tableBits connectingTable

variable {c : Char}

/-- What is true of the characters of ASCII one by one. -/
theorem of_ascii (P : Char → Prop) (hc : c.toNat < 128) (h : ∀ n < 128, P (Char.ofNat n)) : P c := by
  have hp := h c.toNat hc
  rwa [Char.ofNat_toNat] at hp

theorem startsName_eq (c : Char) : startsName c = starters.testBit c.toNat := by
  rw [starters, Nat.testBit_or, Nat.testBit_or, testBit_tableBits, testBit_tableBits,
    testBit_differenceBits, startsName]
  split
  · next hc =>
    rw [of_ascii (fun c => (c.isAlpha || c == '_') = anyContains asciiStarters c.toNat) hc
        (by decide +kernel),
      anyContains_of_lt alphabeticTable hc (by decide +kernel),
      anyContains_of_lt signStarters hc (by decide)]
    simp
  · next hc =>
    have hsigns : anyContains signStarters c.toNat = (c.toNat == 0x2118 || c.toNat == 0x212e) := by
      rw [Bool.eq_iff_iff]
      simp only [anyContains, signStarters, List.any_cons, List.any_nil, Bool.or_eq_true,
        contains_iff, beq_iff_eq, Bool.false_eq_true, or_false]
      omega
    rw [anyContains_of_ge asciiStarters (Nat.le_of_not_lt hc) (by decide), isAlphabetic, if_neg hc,
      hsigns, Bool.false_or, Bool.or_assoc]

theorem continuesName_eq (c : Char) : continuesName c = continuers.testBit c.toNat := by
  rw [continuers, Nat.testBit_or, Nat.testBit_or, testBit_tableBits, testBit_tableBits,
    testBit_differenceBits, continuesName]
  split
  · next hc =>
    rw [of_ascii (fun c => (c.isAlphanum || c == '_') = anyContains asciiContinuers c.toNat) hc
        (by decide +kernel),
      anyContains_of_lt alphabeticTable hc (by decide +kernel),
      anyContains_of_lt connectingTable hc (by decide +kernel)]
    simp
  · next hc =>
    rw [anyContains_of_ge asciiContinuers (Nat.le_of_not_lt hc) (by decide), isAlphabetic,
      if_neg hc, Bool.false_or]

/-! ## Mappings -/

section Mapping

variable {expansions : List (Nat × List Nat)} {shifts : List Shift}

/-- The code points that the tables of a mapping move, each with what it becomes. -/
def images (expansions : List (Nat × List Nat)) (shifts : List Shift) : List (Nat × List Nat) :=
  expansions ++ shifts.flatMap fun row =>
    row.source.points.map fun n => (n, [(Int.ofNat n + row.distance).toNat])

theorem mapBeyondAscii_eq (c : Char) : mapBeyondAscii expansions shifts c = [c] ∨
    ∃ ns, (c.toNat, ns) ∈ images expansions shifts ∧
      mapBeyondAscii expansions shifts c = ns.map Char.ofNat := by
  unfold mapBeyondAscii
  split
  · next row hrow =>
    have hpoint : row.1 = c.toNat := by simpa using List.find?_some hrow
    have hmem := List.mem_append_left (shifts.flatMap fun row =>
      row.source.points.map fun n => (n, [(Int.ofNat n + row.distance).toNat]))
      (List.mem_of_find?_eq_some hrow)
    exact .inr ⟨row.2, by rwa [← hpoint], rfl⟩
  · split
    · next n hn =>
      obtain ⟨row, hrow, rfl⟩ := Option.map_eq_some_iff.1 hn
      have hpoint : c.toNat ∈ row.source.points := mem_points.2 (by simpa using List.find?_some hrow)
      refine .inr ⟨[(Int.ofNat c.toNat + row.distance).toNat], List.mem_append_right _ ?_, rfl⟩
      exact List.mem_flatMap.2
        ⟨row, List.mem_of_find?_eq_some hrow, List.mem_map_of_mem hpoint⟩
    · exact .inl rfl

/-- The characters `cs` can stand for `c` in a name: there are some, no underscore comes in, and they
continue a name, or start one, where `c` does. -/
structure StandsFor (cs : List Char) (c : Char) : Prop where
  ne_nil : cs ≠ []
  no_line : c ≠ '_' → '_' ∉ cs
  continues : continuesName c = true → ∀ d ∈ cs, continuesName d = true
  starts : startsName c = true → ∃ d ∈ cs.head?, startsName d = true

theorem StandsFor.refl (c : Char) : StandsFor [c] c where
  ne_nil := by simp
  no_line h := by simpa using h.symm
  continues h := by simpa using h
  starts h := ⟨c, rfl, h⟩

/-- What has to be checked of a moved code point. -/
def keepsNames (row : Nat × List Nat) : Bool :=
  !row.2.isEmpty && !row.2.contains 0x5f &&
    (!continuers.testBit row.1 ||
      (row.2.all continuers.testBit && row.2.head?.any starters.testBit))

theorem toNat_ofNat {n : Nat} (h : n.isValidChar) : (Char.ofNat n).toNat = n := by
  unfold Char.ofNat
  rw [dif_pos h]
  rfl

theorem eq_of_ofNat {n : Nat} {c : Char} (hc : c ≠ '\x00') (h : Char.ofNat n = c) : n = c.toNat := by
  by_cases hn : n.isValidChar
  · rw [← h, toNat_ofNat hn]
  · unfold Char.ofNat at h
    rw [dif_neg hn] at h
    exact absurd h.symm hc

/-- No row of a table reaches into the code points that are no characters. -/
def areScalars (table : List Progression) : Bool :=
  table.all fun p =>
    decide (p.last < 0xd800) || (decide (0xdfff < p.first) && decide (p.last < 0x110000))

theorem isValidChar_of_anyContains {table : List Progression} (htable : areScalars table = true)
    {n : Nat} (h : anyContains table n = true) : n.isValidChar := by
  obtain ⟨p, hp, hcontains⟩ := List.any_eq_true.1 h
  have hrow := List.all_eq_true.1 htable p hp
  obtain ⟨hfirst, hlast, -⟩ := contains_iff.1 hcontains
  simp only [Bool.or_eq_true, Bool.and_eq_true, decide_eq_true_eq] at hrow
  show n < 0xd800 ∨ (0xdfff < n ∧ n < 0x110000)
  omega

theorem isValidChar_of_continuers {n : Nat} (h : continuers.testBit n = true) : n.isValidChar := by
  rw [continuers, Nat.testBit_or, Nat.testBit_or, testBit_tableBits, testBit_tableBits,
    testBit_differenceBits, Bool.or_eq_true, Bool.or_eq_true, Bool.and_eq_true] at h
  rcases h with (hascii | ⟨halphabetic, -⟩) | hconnecting
  · exact isValidChar_of_anyContains (by decide) hascii
  · exact isValidChar_of_anyContains (by decide +kernel) halphabetic
  · exact isValidChar_of_anyContains (by decide +kernel) hconnecting

theorem continuesName_ofNat {n : Nat} (h : continuers.testBit n = true) :
    continuesName (Char.ofNat n) = true := by
  rw [continuesName_eq, toNat_ofNat (isValidChar_of_continuers h), h]

theorem startsName_ofNat {n : Nat} (h : continuers.testBit n = true) (h' : starters.testBit n = true) :
    startsName (Char.ofNat n) = true := by
  rw [startsName_eq, toNat_ofNat (isValidChar_of_continuers h), h']

theorem StandsFor.of_keepsNames {ns : List Nat} (h : keepsNames (c.toNat, ns) = true) :
    StandsFor (ns.map Char.ofNat) c := by
  simp only [keepsNames, Bool.and_eq_true, Bool.or_eq_true, Bool.not_eq_true',
    List.isEmpty_eq_false_iff, ← continuesName_eq] at h
  obtain ⟨⟨hne, hline⟩, hname⟩ := h
  have himages : continuesName c = true → ns.all continuers.testBit = true ∧
      ns.head?.any starters.testBit = true := by
    intro hc
    rw [hc] at hname
    exact hname.resolve_left (by simp)
  refine ⟨by simpa using hne, fun _ hmem => ?_, fun hc d hd => ?_, fun hc => ?_⟩
  · obtain ⟨n, hn, hofNat⟩ := List.mem_map.1 hmem
    rw [eq_of_ofNat (by decide) hofNat] at hn
    rw [← Bool.not_eq_true] at hline
    exact hline (List.contains_iff_mem.2 hn)
  · obtain ⟨n, hn, rfl⟩ := List.mem_map.1 hd
    exact continuesName_ofNat (List.all_eq_true.1 (himages hc).1 n hn)
  · obtain ⟨hall, hhead⟩ := himages (continuesName_of_startsName hc)
    cases ns with
    | nil => cases hhead
    | cons n ns =>
      exact ⟨_, rfl, startsName_ofNat (List.all_eq_true.1 hall n List.mem_cons_self) hhead⟩

theorem mapBeyondAscii_standsFor (h : (images expansions shifts).all keepsNames = true) (c : Char) :
    StandsFor (mapBeyondAscii expansions shifts c) c := by
  rcases @mapBeyondAscii_eq expansions shifts c with hsame | ⟨ns, hns, hmap⟩
  · rw [hsame]
    exact .refl c
  · rw [hmap]
    exact .of_keepsNames (List.all_eq_true.1 h _ hns)

/-- A single character that takes the place of one of ASCII. -/
theorem StandsFor.of_ascii (f : Char → Char) (hc : c.toNat < 128)
    (h : ∀ n < 128, let c := Char.ofNat n
      (f c = '_' → c = '_') ∧ (continuesName c = true → continuesName (f c) = true) ∧
        (startsName c = true → startsName (f c) = true)) : StandsFor [f c] c := by
  obtain ⟨hline, hcontinues, hstarts⟩ := Text.of_ascii (fun c =>
    (f c = '_' → c = '_') ∧ (continuesName c = true → continuesName (f c) = true) ∧
      (startsName c = true → startsName (f c) = true)) hc h
  refine ⟨by simp, fun hc hmem => hc (hline ?_), fun hc d hd => ?_, fun hc => ⟨_, rfl, hstarts hc⟩⟩
  · exact (List.mem_singleton.1 hmem).symm
  · rw [List.mem_singleton.1 hd]
    exact hcontinues hc

end Mapping

/-- The upper case of a character can stand for it in a name. -/
theorem upperChar_standsFor (c : Char) : StandsFor (upperChar c) c := by
  unfold upperChar
  split
  · next hc => exact .of_ascii Char.toUpper hc (by decide +kernel)
  · exact mapBeyondAscii_standsFor (by decide +kernel) c

/-- The lower case of a character can stand for it in a name. -/
theorem lowerChar_standsFor (c : Char) : StandsFor (lowerChar c) c := by
  unfold lowerChar
  split
  · next hc => exact .of_ascii Char.toLower hc (by decide +kernel)
  · exact mapBeyondAscii_standsFor (by decide +kernel) c

end Schemata.Text
