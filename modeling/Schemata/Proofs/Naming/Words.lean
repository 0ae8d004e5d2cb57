import Schemata.Naming
import Schemata.Proofs.Text.CaseMap

/-!
# Words of an identifier

Cutting an identifier into words drops what is neither letter nor digit and keeps everything else in
order (`flatten_words`); no word is empty. So whether the words in upper case, joined by underscores,
are a name again depends on the first letter or digit alone (`shoutySnake_declared_iff`), and two
identifiers get the same one only if their words agree up to case (`shoutySnake_inj`).
-/

namespace Schemata.Naming

open Text

variable {cs word : List Char} {mode : Mode}

/-! ## Cutting -/

theorem flatten_cutPiece (mode : Mode) (word cs : List Char) :
    (cutPiece mode word cs).flatten = word.reverse ++ cs := by
  fun_induction cutPiece mode word cs with
  | case1 mode word hempty => simp_all
  | case2 mode word hempty => simp
  | case3 mode word c => simp
  | case4 mode word c n rest hcut ih => simp [ih]
  | case5 mode word c n rest hcut hcut' ih => simp [ih]
  | case6 mode word c n rest hcut hcut' ih => simp [ih]

/-- A word is cut off in front of a capital only behind another one. -/
theorem ne_nil_of_mem_cutPiece (hword : mode = .upper → word ≠ []) {w : List Char}
    (hw : w ∈ cutPiece mode word cs) : w ≠ [] := by
  fun_induction cutPiece mode word cs with
  | case1 mode word hempty => cases hw
  | case2 mode word hempty => simp_all
  | case3 mode word c => simp_all
  | case4 mode word c n rest hcut ih =>
    rcases List.mem_cons.1 hw with rfl | hw
    · simp
    · exact ih (by simp) hw
  | case5 mode word c n rest hcut hcut' ih =>
    rcases List.mem_cons.1 hw with rfl | hw
    · simpa using hword hcut'.1
    · exact ih (by simp) hw
  | case6 mode word c n rest hcut hcut' ih => exact ih (by simp) hw

theorem flatten_pieces (piece cs : List Char) :
    (pieces piece cs).flatten = piece.reverse ++ cs.filter isAlphanumeric := by
  induction cs generalizing piece with
  | nil => simp [pieces]
  | cons c cs ih =>
    unfold pieces
    split
    · next hc => simp [ih, hc]
    · next hc => simp [ih, hc]

/-- The words hold the letters and digits of an identifier, in order. -/
theorem flatten_words (cs : List Char) : (words cs).flatten = cs.filter isAlphanumeric := by
  have hcut : ∀ ps : List (List Char),
      (ps.flatMap (cutPiece .boundary [])).flatten = ps.flatten := by
    intro ps
    induction ps with
    | nil => rfl
    | cons p ps ih =>
      rw [List.flatMap_cons, List.flatten_append, ih, flatten_cutPiece]
      rfl
  rw [words, hcut, flatten_pieces]
  rfl

theorem ne_nil_of_mem_words (h : word ∈ words cs) : word ≠ [] := by
  obtain ⟨piece, -, hcut⟩ := List.mem_flatMap.1 h
  exact ne_nil_of_mem_cutPiece (by simp) hcut

theorem mem_of_mem_words (h : word ∈ words cs) {c : Char} (hc : c ∈ word) :
    c ∈ cs ∧ isAlphanumeric c = true := by
  have hmem := List.mem_flatten_of_mem h hc
  rwa [flatten_words, List.mem_filter] at hmem

/-! ## Joining -/

variable {part : List Char} {parts parts' : List (List Char)} {c : Char}

theorem mem_underscored (h : c ∈ underscored parts) : c = '_' ∨ ∃ part ∈ parts, c ∈ part := by
  unfold underscored at h
  induction parts with
  | nil => cases h
  | cons part parts ih =>
    cases parts with
    | nil => exact .inr ⟨part, List.mem_cons_self, by simpa using h⟩
    | cons part' parts =>
      rw [List.intercalate_cons_cons, List.append_assoc, List.mem_append] at h
      rcases h with h | h
      · exact .inr ⟨part, List.mem_cons_self, h⟩
      · rcases List.mem_cons.1 h with rfl | h
        · exact .inl rfl
        · exact (ih h).imp_right fun ⟨p, hp, hc⟩ => ⟨p, List.mem_cons_of_mem _ hp, hc⟩

theorem head?_underscored (hpart : part ≠ []) (parts : List (List Char)) :
    (underscored (part :: parts)).head? = part.head? := by
  unfold underscored
  cases parts with
  | nil => simp
  | cons part' parts =>
    obtain ⟨c, part, rfl⟩ := List.exists_cons_of_ne_nil hpart
    rw [List.intercalate_cons_cons]
    rfl

theorem underscored_eq_nil_iff (hparts : ∀ part ∈ parts, part ≠ []) :
    underscored parts = [] ↔ parts = [] := by
  cases parts with
  | nil => exact Iff.intro (fun _ => rfl) fun _ => rfl
  | cons part parts =>
    have hpart := hparts part List.mem_cons_self
    constructor
    · intro h
      have hhead := head?_underscored hpart parts
      rw [h, List.head?_nil] at hhead
      exact absurd (List.head?_eq_none_iff.1 hhead.symm) hpart
    · intro h
      cases h

/-- Parts that are not empty and hold no underscore can be read back. -/
theorem underscored_inj (hparts : ∀ part ∈ parts, part ≠ [] ∧ '_' ∉ part)
    (hparts' : ∀ part ∈ parts', part ≠ [] ∧ '_' ∉ part) :
    underscored parts = underscored parts' ↔ parts = parts' := by
  have hnil : underscored parts = [] ↔ parts = [] := underscored_eq_nil_iff fun p hp => (hparts p hp).1
  have hnil' : underscored parts' = [] ↔ parts' = [] :=
    underscored_eq_nil_iff fun p hp => (hparts' p hp).1
  refine ⟨fun h => ?_, congrArg _⟩
  by_cases hempty : parts = []
  · rw [hempty, eq_comm]
    rw [← hnil', ← h, hnil, hempty]
  · have hempty' : parts' ≠ [] := by rwa [Ne, ← hnil', ← h, hnil]
    calc parts
        = (underscored parts).splitOn '_' :=
          (List.splitOn_intercalate '_' (fun p hp => (hparts p hp).2) hempty).symm
      _ = (underscored parts').splitOn '_' := by rw [h]
      _ = parts' := List.splitOn_intercalate '_' (fun p hp => (hparts' p hp).2) hempty'

/-! ## Words in one case -/

theorem find?_of_words {ws : List (List Char)} (h : words cs = (c :: word) :: ws) :
    cs.find? isAlphanumeric = some c := by
  rw [← List.head?_filter, ← flatten_words, h]
  rfl

theorem find?_of_words_nil (h : words cs = []) : cs.find? isAlphanumeric = none := by
  rw [← List.head?_filter, ← flatten_words, h]
  rfl

theorem isDeclaredName_iff (h : ∀ c ∈ cs, continuesName c = true) :
    isDeclaredName cs = true ↔ ∃ c ∈ cs.head?, startsName c = true := by
  cases cs with
  | nil => simp [isDeclaredName]
  | cons c cs =>
    have hothers : cs.all continuesName = true :=
      List.all_eq_true.2 fun d hd => h d (List.mem_cons_of_mem c hd)
    simp [isDeclaredName, hothers]

/-- The letters and digits of a text are characters of names. -/
def Nameable (cs : List Char) : Prop :=
  ∀ c ∈ cs, isAlphanumeric c = true → continuesName c = true

/-- The first letter or digit becomes a character that starts a name in upper case. -/
def OpensUpper (cs : List Char) : Prop :=
  ∃ c ∈ cs.find? isAlphanumeric, ∃ d ∈ (upperChar c).head?, startsName d = true

instance (cs : List Char) : Decidable (OpensUpper cs) :=
  decidable_of_iff ((cs.find? isAlphanumeric).any fun c => (upperChar c).head?.any startsName) <| by
    simp [OpensUpper, Option.any_eq_true]

/-- The first letter or digit, if there is any, becomes a character that starts a name in lower case. -/
def OpensLower (cs : List Char) : Prop :=
  ∀ c ∈ cs.find? isAlphanumeric, ∃ d ∈ (lowerChar c).head?, startsName d = true

theorem head?_append_of_standsFor {cs ds : List Char} (h : StandsFor cs c) :
    (cs ++ ds).head? = cs.head? := by
  obtain ⟨d, cs, rfl⟩ := List.exists_cons_of_ne_nil h.ne_nil
  rfl

theorem upperText_ne_nil (h : word ≠ []) : upperText word ≠ [] := by
  obtain ⟨c, word, rfl⟩ := List.exists_cons_of_ne_nil h
  rw [upperText, List.flatMap_cons]
  exact List.append_ne_nil_of_left_ne_nil (upperChar_standsFor c).ne_nil _

theorem not_mem_upperText (h : '_' ∉ word) : '_' ∉ upperText word := by
  intro hmem
  obtain ⟨c, hc, hupper⟩ := List.mem_flatMap.1 hmem
  exact (upperChar_standsFor c).no_line (fun hline => h (hline ▸ hc)) hupper

theorem lowerWord_ne_nil (h : word ≠ []) : lowerWord word ≠ [] := by
  fun_cases lowerWord word with
  | case1 => exact absurd rfl h
  | case2 => simp
  | case3 c => exact (lowerChar_standsFor c).ne_nil
  | case4 c d rest => exact List.append_ne_nil_of_left_ne_nil (lowerChar_standsFor c).ne_nil _

theorem mem_lowerWord {d : Char} (h : d ∈ lowerWord word) :
    d = 'ς' ∨ ∃ c ∈ word, d ∈ lowerChar c := by
  fun_induction lowerWord word with
  | case1 => cases h
  | case2 => exact .inl (List.mem_singleton.1 h)
  | case3 c => exact .inr ⟨c, List.mem_cons_self, h⟩
  | case4 c rest hrest ih =>
    rcases List.mem_append.1 h with h | h
    · exact .inr ⟨c, List.mem_cons_self, h⟩
    · exact (ih h).imp_right fun ⟨b, hb, hlower⟩ => ⟨b, List.mem_cons_of_mem c hb, hlower⟩

/-- The final form of a sigma opens a name as the other one does. -/
theorem opens_lowerWord (c : Char) (word : List Char) :
    (∃ d ∈ (lowerWord (c :: word)).head?, startsName d = true)
      ↔ ∃ d ∈ (lowerChar c).head?, startsName d = true := by
  cases word with
  | nil =>
    by_cases hc : c = 'Σ'
    · rw [hc]
      exact iff_of_true ⟨'ς', rfl, by decide +kernel⟩ ⟨'σ', by decide +kernel, by decide +kernel⟩
    · rw [lowerWord, if_neg hc]
  | cons d word =>
    rw [lowerWord.eq_3 c (d :: word) (by simp), head?_append_of_standsFor (lowerChar_standsFor c)]

theorem words_not_mem_line (h : word ∈ words cs) : '_' ∉ word := by
  intro hline
  have halphanumeric := (mem_of_mem_words h hline).2
  exact absurd halphanumeric (by decide +kernel)

theorem continues_shoutySnake (h : Nameable cs) : ∀ c ∈ shoutySnake cs, continuesName c = true := by
  intro c hc
  rcases mem_underscored hc with rfl | ⟨part, hpart, hc⟩
  · decide +kernel
  · obtain ⟨word, hword, rfl⟩ := List.mem_map.1 hpart
    obtain ⟨b, hb, hupper⟩ := List.mem_flatMap.1 hc
    obtain ⟨hmem, halphanumeric⟩ := mem_of_mem_words hword hb
    exact (upperChar_standsFor b).continues (h b hmem halphanumeric) c hupper

theorem continues_snake (h : Nameable cs) : ∀ c ∈ snake cs, continuesName c = true := by
  intro c hc
  rcases mem_underscored hc with rfl | ⟨part, hpart, hc⟩
  · decide +kernel
  · obtain ⟨word, hword, rfl⟩ := List.mem_map.1 hpart
    rcases mem_lowerWord hc with rfl | ⟨b, hb, hlower⟩
    · decide +kernel
    · obtain ⟨hmem, halphanumeric⟩ := mem_of_mem_words hword hb
      exact (lowerChar_standsFor b).continues (h b hmem halphanumeric) c hlower

/-- Whether the words in upper case are a name depends on the first letter or digit. -/
theorem shoutySnake_declared_iff (h : Nameable cs) :
    isDeclaredName (shoutySnake cs) = true ↔ OpensUpper cs := by
  rw [isDeclaredName_iff (continues_shoutySnake h), OpensUpper]
  cases hwords : words cs with
  | nil =>
    rw [find?_of_words_nil hwords, shoutySnake, hwords]
    simp [underscored]
  | cons word ws =>
    have hword : word ∈ words cs := by rw [hwords]; exact List.mem_cons_self
    obtain ⟨c, word, rfl⟩ := List.exists_cons_of_ne_nil (ne_nil_of_mem_words hword)
    rw [find?_of_words hwords, shoutySnake, hwords, List.map_cons,
      head?_underscored (upperText_ne_nil (List.cons_ne_nil c word)), upperText, List.flatMap_cons,
      head?_append_of_standsFor (upperChar_standsFor c)]
    simp

/-- The same for the words in lower case, when a part of a name stands behind them. -/
theorem snake_declared_iff (h : Nameable cs) {rest : List Char}
    (hrest : ∀ c ∈ rest, continuesName c = true) :
    isDeclaredName (snake cs ++ '_' :: rest) = true ↔ OpensLower cs := by
  have hcontinues : ∀ c ∈ snake cs ++ '_' :: rest, continuesName c = true := by
    intro c hc
    rcases List.mem_append.1 hc with hc | hc
    · exact continues_snake h c hc
    · rcases List.mem_cons.1 hc with rfl | hc
      · decide +kernel
      · exact hrest c hc
  rw [isDeclaredName_iff hcontinues, OpensLower]
  cases hwords : words cs with
  | nil =>
    rw [find?_of_words_nil hwords, snake, hwords]
    have hline : startsName '_' = true := by decide +kernel
    simp [underscored, hline]
  | cons word ws =>
    have hword : word ∈ words cs := by rw [hwords]; exact List.mem_cons_self
    obtain ⟨c, word, rfl⟩ := List.exists_cons_of_ne_nil (ne_nil_of_mem_words hword)
    have hlower := lowerWord_ne_nil (List.cons_ne_nil c word)
    have hsnake : (snake cs ++ '_' :: rest).head? = (lowerWord (c :: word)).head? := by
      rw [List.head?_append, snake, hwords, List.map_cons, head?_underscored hlower]
      obtain ⟨d, ds, hd⟩ := List.exists_cons_of_ne_nil hlower
      rw [hd]
      rfl
    rw [find?_of_words hwords, hsnake, opens_lowerWord]
    simp

/-- Two identifiers have the same words in upper case, joined, only if word by word they agree up to
case. -/
theorem shoutySnake_inj {cs ds : List Char} :
    shoutySnake cs = shoutySnake ds ↔ (words cs).map upperText = (words ds).map upperText := by
  have hparts : ∀ cs, ∀ part ∈ (words cs).map upperText, part ≠ [] ∧ '_' ∉ part := by
    intro cs part hpart
    obtain ⟨word, hword, rfl⟩ := List.mem_map.1 hpart
    exact ⟨upperText_ne_nil (ne_nil_of_mem_words hword), not_mem_upperText (words_not_mem_line hword)⟩
  exact underscored_inj (hparts cs) (hparts ds)

/-! ## Conventional identifiers -/

/-- A lower case letter or a digit of ASCII. -/
def isPlain (c : Char) : Bool :=
  (decide ('a' ≤ c) && decide (c ≤ 'z')) || (decide ('0' ≤ c) && decide (c ≤ '9'))

/-- Words of lower case letters and digits, joined by underscores. -/
inductive IsConventional : List Char → Prop
  | mk {parts : List (List Char)} (h : ∀ part ∈ parts, part ≠ [] ∧ ∀ c ∈ part, isPlain c = true) :
    IsConventional (underscored parts)

theorem IsConventional.of_all (h : parts.all (fun part => !part.isEmpty && part.all isPlain) = true) :
    IsConventional (underscored parts) := by
  refine .mk fun part hpart => ?_
  simpa using List.all_eq_true.1 h part hpart

theorem toNat_lt_of_isPlain (h : isPlain c = true) : c.toNat < 128 := by
  simp only [isPlain, Bool.or_eq_true, Bool.and_eq_true, decide_eq_true_eq, Char.le_def,
    UInt32.le_iff_toNat_le] at h
  have hz : 'z'.val.toNat < 128 := by decide
  have h9 : '9'.val.toNat < 128 := by decide
  show c.val.toNat < 128
  omega

/-- What can be looked up for the plain characters. -/
theorem of_isPlain (h : isPlain c = true) :
    isAlphanumeric c = true ∧ isUpper c = false ∧ c.toUpper.toLower = c := by
  have hlookup := of_ascii (fun c => isPlain c = true →
    isAlphanumeric c = true ∧ isUpper c = false ∧ c.toUpper.toLower = c) (toNat_lt_of_isPlain h)
    (by decide +kernel)
  exact hlookup h

theorem cutPiece_of_not_upper (h : ∀ c ∈ cs, isUpper c = false) (hne : cs ≠ []) :
    cutPiece mode word cs = [word.reverse ++ cs] := by
  fun_induction cutPiece mode word cs with
  | case1 | case2 => exact absurd rfl hne
  | case3 mode word c => simp
  | case4 mode word c n rest hcut ih =>
    have hn := h n (by simp)
    simp [hn] at hcut
  | case5 mode word c n rest hcut hcut' ih =>
    have hc := h c (by simp)
    simp [hc] at hcut'
  | case6 mode word c n rest hcut hcut' ih =>
    rw [ih (fun d hd => h d (List.mem_cons_of_mem c hd)) (List.cons_ne_nil n rest)]
    simp

theorem pieces_of_alphanumeric (h : ∀ c ∈ cs, isAlphanumeric c = true) (piece : List Char) :
    pieces piece cs = [piece.reverse ++ cs] := by
  induction cs generalizing piece with
  | nil => simp [pieces]
  | cons c cs ih =>
    obtain ⟨hc, hcs⟩ := List.forall_mem_cons.1 h
    rw [pieces, if_pos hc, ih hcs]
    simp

theorem pieces_append_line (h : ∀ c ∈ cs, isAlphanumeric c = true) (piece rest : List Char) :
    pieces piece (cs ++ '_' :: rest) = (piece.reverse ++ cs) :: pieces [] rest := by
  induction cs generalizing piece with
  | nil =>
    have hline : ¬ isAlphanumeric '_' = true := by decide +kernel
    rw [List.nil_append, pieces, if_neg hline, List.append_nil]
  | cons c cs ih =>
    obtain ⟨hc, hcs⟩ := List.forall_mem_cons.1 h
    rw [List.cons_append, pieces, if_pos hc, ih hcs]
    simp

/-- Conventional words are read as they were joined. -/
theorem words_underscored (h : ∀ part ∈ parts, part ≠ [] ∧ ∀ c ∈ part, isPlain c = true) :
    words (underscored parts) = parts := by
  have hcut : ∀ part ∈ parts, cutPiece .boundary [] part = [part] := fun part hpart =>
    cutPiece_of_not_upper (fun c hc => (of_isPlain ((h part hpart).2 c hc)).2.1) (h part hpart).1
  unfold underscored words
  induction parts with
  | nil => rfl
  | cons part parts ih =>
    obtain ⟨⟨-, hpart⟩, hparts⟩ := List.forall_mem_cons.1 h
    obtain ⟨hfirst, hothers⟩ := List.forall_mem_cons.1 hcut
    have halphanumeric : ∀ c ∈ part, isAlphanumeric c = true :=
      fun c hc => (of_isPlain (hpart c hc)).1
    cases parts with
    | nil =>
      rw [List.intercalate_singleton, pieces_of_alphanumeric halphanumeric]
      simpa using hfirst
    | cons part' parts =>
      rw [List.intercalate_cons_cons, List.append_assoc, List.cons_append, List.nil_append,
        pieces_append_line halphanumeric, List.flatMap_cons, ih hparts hothers]
      simp [hfirst]

theorem map_toLower_upperText (h : ∀ c ∈ word, isPlain c = true) :
    (upperText word).map Char.toLower = word := by
  induction word with
  | nil => rfl
  | cons c word ih =>
    obtain ⟨hc, hword⟩ := List.forall_mem_cons.1 h
    have hupper : upperChar c = [c.toUpper] := if_pos (toNat_lt_of_isPlain hc)
    rw [upperText, List.flatMap_cons, hupper, List.map_append, ← upperText, ih hword,
      List.map_singleton, (of_isPlain hc).2.2]
    rfl

/-- Conventional identifiers can be told apart by their words in upper case. -/
theorem IsConventional.eq_of_shoutySnake {ds : List Char} (hcs : IsConventional cs)
    (hds : IsConventional ds) (h : shoutySnake cs = shoutySnake ds) : cs = ds := by
  obtain ⟨hparts⟩ := hcs
  obtain ⟨hparts'⟩ := hds
  rw [shoutySnake_inj, words_underscored hparts, words_underscored hparts'] at h
  have hlower : ∀ {parts : List (List Char)},
      (∀ part ∈ parts, part ≠ [] ∧ ∀ c ∈ part, isPlain c = true) →
      (parts.map upperText).map (List.map Char.toLower) = parts := by
    intro parts hparts
    rw [List.map_map]
    refine (List.map_congr_left fun part hpart => ?_).trans (List.map_id parts)
    exact map_toLower_upperText (hparts part hpart).2
  rw [← hlower hparts, h, hlower hparts']

end Schemata.Naming
