import Schemata.Proofs.Record.Reader
import Schemata.Proofs.Type.Written

/-!
# Paths in the grammar

A path is read segment by segment, whether the segments may have arguments (`pathOf`) or not
(`plainPath`). `run_path` is both: given what the reader for one segment does in front of a separator
and at the end of the path, it says what is read of a qualifier and the name behind it.

A rule for types is chosen by the first token. `BeginsPath` and `BeginsType` say which these are, and
`Closes` what stands behind a type.
-/

namespace Schemata.Record

open Reader

/-! ## Names -/

/-- A name that may stand in a path: no word of the grammar, or one of those that paths may begin
with. -/
def IsSegment (n : List Char) : Prop :=
  n ∉ keywords.map String.toList ∨ n ∈ ["super", "self", "Self", "crate"].map String.toList

instance (n : List Char) : Decidable (IsSegment n) :=
  inferInstanceAs (Decidable (_ ∨ _))

variable {n : List Char} {rest : List Token}

theorem run_word (text : String) (n : List Char) (rest : List Token) :
    (word text).run (.name n :: rest)
      = if n = text.toList then some ([.name n], rest) else none := by
  simp [word, token]

theorem run_words (texts : List String) (n : List Char) (rest : List Token) :
    (words texts).run (.name n :: rest)
      = if n ∈ texts.map String.toList then some ([.name n], rest) else none := by
  induction texts with
  | nil => rfl
  | cons text texts ih =>
    have hcons : (words (text :: texts)).run (.name n :: rest)
        = ((word text).run (.name n :: rest)).or ((words texts).run (.name n :: rest)) := by
      simp only [words, choice, List.map_cons, List.findSome?_cons]
      cases (word text).run (.name n :: rest) <;> rfl
    rw [hcons, ih, run_word]
    by_cases hn : n = text.toList <;> simp [hn]

theorem run_segmentName (h : IsSegment n) (rest : List Token) :
    segmentName.run (.name n :: rest) = some ([.name n], rest) := by
  by_cases hkeyword : n ∈ keywords.map String.toList
  · have hident : ident.run (.name n :: rest) = none := by
      simp only [ident, unlessAt, run_words, if_pos hkeyword]
      rfl
    rw [segmentName, run_orElse_of_none hident, run_words,
      if_pos (h.resolve_left (not_not_intro hkeyword))]
  · have hident : ident.run (.name n :: rest) = some ([.name n], rest) := by
      simp only [ident, unlessAt, run_words, if_neg hkeyword]
      rfl
    rw [segmentName, run_orElse_some hident]

theorem run_word_of_segment {text : String} (h : IsSegment n) (htext : ¬ IsSegment text.toList)
    (rest : List Token) : (word text).run (.name n :: rest) = none := by
  rw [run_word, if_neg]
  rintro rfl
  exact htext h

theorem run_words_of_segment {texts : List String} (h : IsSegment n)
    (htexts : ∀ text ∈ texts, ¬ IsSegment text.toList) (rest : List Token) :
    (words texts).run (.name n :: rest) = none := by
  rw [run_words, if_neg]
  intro hmem
  obtain ⟨text, htext, rfl⟩ := List.mem_map.1 hmem
  exact htexts text htext h

/-! ## Segments and separators -/

/-- The words of a qualifier, each with a separator behind it. -/
def Qualifier.steps (words : List Word) : List Token :=
  words.flatMap fun w => .name w.chars :: separator

/-- All words of the path may stand in it. -/
def Qualifier.IsReadable (q : Qualifier) : Prop :=
  ∀ w ∈ q.words, IsSegment w.chars

instance (q : Qualifier) : Decidable q.IsReadable :=
  inferInstanceAs (Decidable (∀ w ∈ q.words, IsSegment w.chars))

theorem Reads.of_steps {w : Word} {words : List Word} {steps : List Token}
    (h : Reads steps (Qualifier.steps (w :: words))) :
    ∃ joined steps', steps = .name w.chars :: .punct ':' true :: .punct ':' joined :: steps' ∧
      Reads steps' (Qualifier.steps words) := by
  obtain ⟨ts, rfl, hts⟩ := h.of_name
  obtain ⟨us, rfl, hus⟩ := hts.of_joined
  obtain ⟨joined, steps', rfl, hsteps'⟩ := hus.of_apart
  exact ⟨joined, steps', rfl, hsteps'⟩

theorem exists_name {words : List Word} {steps : List Token}
    (h : Reads steps (Qualifier.steps words)) (n : List Char) (rest : List Token) :
    ∃ k ts, steps ++ .name n :: rest = .name k :: ts := by
  cases words with
  | nil =>
    cases h
    exact ⟨n, rest, rfl⟩
  | cons w words =>
    obtain ⟨joined, steps', rfl, -⟩ := h.of_steps
    exact ⟨w.chars, _, rfl⟩

theorem run_separator (joined : Bool) (ts : List Token) :
    (symbol "::").run (.punct ':' true :: .punct ':' joined :: ts) = some (separator, ts) :=
  rfl

/-! ## Whole paths -/

/-- The reader takes the segments of a path; the last one is a name with what is written for `rest`. -/
structure ReadsSegment (segment : Reader) (n : List Char) (rest written rest' : List Token) : Prop where
  /-- In front of a separator and another name, a name stands alone. -/
  inner : ∀ m, IsSegment m → ∀ joined k ts,
    segment.run (.name m :: .punct ':' true :: .punct ':' joined :: .name k :: ts)
      = some ([.name m], .punct ':' true :: .punct ':' joined :: .name k :: ts)
  last : segment.run (.name n :: rest) = some (.name n :: written, rest')
  length_le : rest'.length ≤ rest.length
  behind : (symbol "::").run rest' = none

variable {segment : Reader} {written rest' : List Token}

theorem run_further (hsegment : ReadsSegment segment n rest written rest') {words : List Word}
    (hwords : ∀ w ∈ words, IsSegment w.chars) {steps : List Token}
    (hsteps : Reads steps (Qualifier.steps words)) (joined : Bool) :
    (many (symbol "::" ++ segment)).run
        (.punct ':' true :: .punct ':' joined :: (steps ++ .name n :: rest))
      = some (separator ++ (Qualifier.steps words ++ .name n :: written), rest') := by
  induction words generalizing steps joined with
  | nil =>
    cases hsteps
    have hlast : (symbol "::" ++ segment).run (.punct ':' true :: .punct ':' joined :: .name n :: rest)
        = some (separator ++ .name n :: written, rest') :=
      run_append_some (run_separator joined _) hsegment.last
    have hbehind := run_many_of_none (run_append_of_none (q := segment) hsegment.behind)
    have hlength := hsegment.length_le
    have hmany := run_many_some hlast (by simp only [List.length_cons]; omega) hbehind
    rwa [List.append_nil] at hmany
  | cons w words ih =>
    obtain ⟨joined', steps', rfl, hsteps'⟩ := hsteps.of_steps
    obtain ⟨k, ts, hname⟩ := exists_name hsteps' n rest
    have hinner : (symbol "::" ++ segment).run (.punct ':' true :: .punct ':' joined ::
          .name w.chars :: .punct ':' true :: .punct ':' joined' :: (steps' ++ .name n :: rest))
        = some (separator ++ [.name w.chars],
          .punct ':' true :: .punct ':' joined' :: (steps' ++ .name n :: rest)) := by
      rw [hname]
      exact run_append_some (run_separator joined _)
        (hsegment.inner w.chars (hwords w List.mem_cons_self) joined' k ts)
    have hfurther := ih (fun w' hw' => hwords w' (List.mem_cons_of_mem w hw')) hsteps' joined'
    have hmany := run_many_some hinner (by simp) hfurther
    simpa [Qualifier.steps] using hmany

theorem run_path (hsegment : ReadsSegment segment n rest written rest') {q : Qualifier}
    (hq : q.IsReadable) {path : List Token} (hpath : Reads path q.tokens) :
    (optional (symbol "::") ++ segment ++ many (symbol "::" ++ segment)).run
        (path ++ .name n :: rest)
      = some (q.tokens ++ .name n :: written, rest') := by
  have hunrooted : ∀ {words : List Word} {steps : List Token}, (∀ w ∈ words, IsSegment w.chars) →
      Reads steps (Qualifier.steps words) →
      (segment ++ many (symbol "::" ++ segment)).run (steps ++ .name n :: rest)
        = some (Qualifier.steps words ++ .name n :: written, rest') := by
    intro words steps hwords hsteps
    cases words with
    | nil =>
      cases hsteps
      have hbehind := run_many_of_none (run_append_of_none (q := segment) hsegment.behind)
      have hlast := run_append_some hsegment.last hbehind
      rwa [List.append_nil] at hlast
    | cons w words =>
      obtain ⟨joined, steps', rfl, hsteps'⟩ := hsteps.of_steps
      obtain ⟨k, ts, hname⟩ := exists_name hsteps' n rest
      have hfirst := hsegment.inner w.chars (hwords w List.mem_cons_self) joined k ts
      rw [← hname] at hfirst
      have hfurther := run_further hsegment (fun w' hw' => hwords w' (List.mem_cons_of_mem w hw'))
        hsteps' joined
      simpa [Qualifier.steps] using run_append_some hfirst hfurther
  rw [run_append_assoc]
  obtain ⟨isRooted, words⟩ := q
  cases isRooted with
  | false =>
    obtain ⟨k, ts, hname⟩ := @exists_name words path hpath n rest
    have hseparator : (optional (symbol "::")).run (path ++ .name n :: rest)
        = some ([], path ++ .name n :: rest) := by
      rw [hname]
      rfl
    have hrun := run_append_some hseparator (hunrooted hq hpath)
    exact hrun
  | true =>
    obtain ⟨ts, rfl, hts⟩ := Reads.of_joined hpath
    obtain ⟨joined, steps, rfl, hsteps⟩ := hts.of_apart
    have hseparator : ∀ us, (optional (symbol "::")).run (.punct ':' true :: .punct ':' joined :: us)
        = some (separator, us) := fun _ => rfl
    have hrun := run_append_some (hseparator _) (hunrooted hq hsteps)
    exact hrun

/-! ## What types begin with and end at -/

/-- The tokens begin with a path. -/
inductive BeginsPath : List Token → Prop
  | name {n : List Char} (h : IsSegment n) (ts : List Token) : BeginsPath (.name n :: ts)
  | separator (ts : List Token) : BeginsPath (.punct ':' true :: ts)

theorem beginsPath (hn : IsSegment n) {q : Qualifier} (hq : q.IsReadable) {path : List Token}
    (hpath : Reads path q.tokens) : BeginsPath (path ++ .name n :: rest) := by
  obtain ⟨isRooted, words⟩ := q
  cases isRooted with
  | false =>
    cases words with
    | nil =>
      cases hpath
      exact .name hn rest
    | cons w words =>
      obtain ⟨joined, steps, rfl, -⟩ := Reads.of_steps hpath
      exact .name (hq w List.mem_cons_self) _
  | true =>
    obtain ⟨ts, rfl, -⟩ := Reads.of_joined hpath
    exact .separator _

/-- The tokens begin with a path or a reference. -/
inductive BeginsType : List Token → Prop
  | path {ts : List Token} (h : BeginsPath ts) : BeginsType ts
  | reference (joined : Bool) (ts : List Token) : BeginsType (.punct '&' joined :: ts)

namespace BeginsType

variable {ts : List Token}

theorem append (h : BeginsType ts) (us : List Token) : BeginsType (ts ++ us) := by
  cases h with
  | path h =>
    cases h with
    | name hn ts => exact .path (.name hn (ts ++ us))
    | separator ts => exact .path (.separator (ts ++ us))
  | reference joined ts => exact .reference joined (ts ++ us)

theorem isLifetime (h : BeginsType ts) : isLifetime ts = false := by
  cases h with
  | path h => cases h <;> rfl
  | reference joined ts => rfl

theorem run_lifetime (h : BeginsType ts) : lifetime.run ts = none := by
  cases h with
  | path h => cases h <;> rfl
  | reference joined ts => rfl

theorem run_mut (h : BeginsType ts) : (word "mut").run ts = none := by
  cases h with
  | path h =>
    cases h with
    | name hn ts => exact run_word_of_segment hn (by decide) ts
    | separator ts => rfl
  | reference joined ts => rfl

end BeginsType

/-- Nothing is left of the tokens, or a bracket closes what stands before them. -/
inductive Closes : List Token → Prop
  | nil : Closes []
  | bracket (joined : Bool) (ts : List Token) : Closes (.punct '>' joined :: ts)

theorem Closes.symbol (h : Closes rest) :
    (symbol "::").run rest = none ∧ (symbol "!").run rest = none ∧ (symbol "+").run rest = none := by
  cases h with
  | nil => exact ⟨rfl, rfl, rfl⟩
  | bracket joined ts => cases joined <;> exact ⟨rfl, rfl, rfl⟩

end Schemata.Record
