import Schemata.Proofs.Type.Collapse
import Schemata.Proofs.Type.Reading

/-!
# The tag of a type as it is written

A type of known value type is written in more than one way: its name may stand behind a path, and a
borrowed string may have a lifetime. `WrittenType` is such a spelling, and `WrittenType.tokens` are its
tokens. Their recorded text is read back to the tag of the value type
(`WrittenType.ofWritten?_typeText`), with one exception. Inside an optional type a lifetime is not told
apart from what follows it, because the blank between them is gone by then.
-/

namespace Schemata

/-- A value type that is written as a single name. -/
def ValueType.isName : ValueType → Bool
  | str | bytes | dateTime _ | option _ => false
  | _ => true

namespace Record

/-- A word of a declaration, raw or not. -/
structure Word where
  chars : List Char
  declared : Text.isDeclaredName (Text.unraw chars) = true

/-- What stands before the last name of a path. -/
structure Qualifier where
  /-- Whether the path begins with a separator. -/
  isRooted : Bool
  words : List Word

/-- A spelling of a value type. -/
inductive WrittenType where
  | name (path : Qualifier) (type : ValueType) (single : type.isName = true)
  | str (label : Option Word)
  | bytes (path : Qualifier)
  /-- The zone is not looked at. -/
  | dateTime (path : Qualifier) (zone : List Token)
  | option (path : Qualifier) (inner : WrittenType)

/-! ## Tokens -/

/-- The characters of some tokens, one token directly behind the other. -/
def spelled (ts : List Token) : List Char :=
  ts.flatMap Token.spelling

theorem spelled_cons (t : Token) (ts : List Token) : spelled (t :: ts) = t.spelling ++ spelled ts :=
  List.flatMap_cons

theorem spelled_append (ts us : List Token) : spelled (ts ++ us) = spelled ts ++ spelled us :=
  List.flatMap_append

/-- The tokens of a path separator. -/
def separator : List Token :=
  [.punct ':' true, .punct ':' false]

def Qualifier.tokens (q : Qualifier) : List Token :=
  (if q.isRooted then separator else []) ++ q.words.flatMap fun w => .name w.chars :: separator

def Qualifier.named (q : Qualifier) (name : String) : List Token :=
  q.tokens ++ [.name name.toList]

def Qualifier.applied (q : Qualifier) (name : String) (argument : List Token) : List Token :=
  q.named name ++ .punct '<' false :: argument ++ [.punct '>' false]

namespace WrittenType

/-- The tokens of the type, with their joints settled. -/
def tokens : WrittenType → List Token
  | name path type _ => path.named type.spelling
  | str none => [.punct '&' false, .name "str".toList]
  | str (some label) => [.punct '&' false, .lifetime label.chars, .name "str".toList]
  | bytes path => path.applied "Vec" [.name "u8".toList]
  | dateTime path zone => path.applied "DateTime" zone
  | option path inner => path.applied "Option" inner.tokens

/-- The value type that is written. -/
def type : WrittenType → ValueType
  | name _ type _ => type
  | str _ => .str
  | bytes _ => .bytes
  | dateTime _ zone => .dateTime (String.ofList (spelled zone))
  | option _ inner => .option inner.type

/-- Whether the type borrows a string under a lifetime, at any depth. -/
def hasLifetime : WrittenType → Bool
  | str label => label.isSome
  | option _ inner => inner.hasLifetime
  | _ => false

/-- Whether an optional type holds a lifetime. -/
def hidesLifetime : WrittenType → Bool
  | option _ inner => inner.hasLifetime
  | _ => false

end WrittenType

/-! ## Characters of paths -/

/-- The characters of names and path separators. -/
def IsPath (cs : List Char) : Prop :=
  ∀ c ∈ cs, Text.continuesName c = true ∨ c = '#' ∨ c = ':'

namespace IsPath

variable {cs ds : List Char}

theorem append (hcs : IsPath cs) (hds : IsPath ds) : IsPath (cs ++ ds) :=
  fun c hc => (List.mem_append.1 hc).elim (hcs c) (hds c)

theorem not_isBlank (h : IsPath cs) : ∀ c ∈ cs, Text.isBlank c = false := by
  intro c hc
  rcases h c hc with hc | rfl | rfl
  · exact Text.not_isBlank_of_continues hc
  · rfl
  · rfl

theorem not_mem {c : Char} (h : IsPath cs) (hc : Text.continuesName c = false) (hmark : c ≠ '#')
    (hcolon : c ≠ ':') : c ∉ cs := by
  intro hmem
  rcases h c hmem with h | h | h
  · rw [hc] at h
    cases h
  · exact hmark h
  · exact hcolon h

/-- What begins with a path does not begin with a reference. -/
theorem head?_append (h : IsPath cs) (hds : ds.head? ≠ some '&') :
    (cs ++ ds).head? ≠ some '&' := by
  cases cs with
  | nil => exact hds
  | cons c cs =>
    intro hhead
    obtain rfl : c = '&' := by simpa using hhead
    exact h.not_mem (by decide) (by decide) (by decide) List.mem_cons_self

end IsPath

namespace Word

variable (w : Word)

theorem continues : ∀ c ∈ w.chars, Text.continuesName c = true ∨ c = '#' := by
  have hdeclared := w.declared
  unfold Text.unraw at hdeclared
  intro c hc
  split at hdeclared
  · next rest hchars =>
    rw [hchars] at hc
    rcases List.mem_cons.1 hc with rfl | hc
    · exact .inl (by decide)
    · rcases List.mem_cons.1 hc with rfl | hc
      · exact .inr rfl
      · exact .inl (Text.continuesName_of_declared hdeclared c hc)
  · exact .inl (Text.continuesName_of_declared hdeclared c hc)

theorem not_mem {c : Char} (hc : Text.continuesName c = false) (hmark : c ≠ '#') : c ∉ w.chars := by
  intro hmem
  rcases w.continues c hmem with h | h
  · rw [hc] at h
    cases h
  · exact hmark h

theorem not_mem_symbols : ∀ a ∈ ['&', ' ', ':', '<'], a ∉ w.chars := by
  have hsymbol : ∀ a, Text.continuesName a = false → a ≠ '#' → a ∉ w.chars := fun a => w.not_mem
  simp only [List.forall_mem_cons]
  exact ⟨hsymbol '&' (by decide) (by decide), hsymbol ' ' (by decide) (by decide),
    hsymbol ':' (by decide) (by decide), hsymbol '<' (by decide) (by decide), by simp⟩

theorem isPath : IsPath w.chars :=
  fun c hc => (w.continues c hc).elim .inl fun hmark => .inr (.inl hmark)

end Word

/-! ## Paths -/

namespace Qualifier

variable (q : Qualifier)

theorem isPath : IsPath (spelled q.tokens) := by
  have hseparator : IsPath (spelled separator) := by
    intro c hc
    have hcolon : c ∈ [':', ':'] := hc
    exact .inr (.inr (by simpa using hcolon))
  have hwords : ∀ words : List Word,
      IsPath (spelled (words.flatMap fun w => .name w.chars :: separator)) := by
    intro words
    induction words with
    | nil => exact fun c hc => absurd hc (List.not_mem_nil)
    | cons w words ih =>
      rw [List.flatMap_cons, spelled_append, spelled_cons]
      exact (w.isPath.append hseparator).append ih
  rw [tokens, spelled_append]
  refine IsPath.append ?_ (hwords q.words)
  split
  · exact hseparator
  · exact fun c hc => absurd hc (List.not_mem_nil)

theorem eq_nil_or_append : spelled q.tokens = [] ∨ ∃ front, spelled q.tokens = front ++ [':', ':'] := by
  rcases List.eq_nil_or_concat q.words with hwords | ⟨words, w, hwords⟩
  · cases hrooted : q.isRooted with
    | false => exact .inl (by simp [tokens, hwords, hrooted, spelled])
    | true => exact .inr ⟨[], by simp [tokens, hwords, hrooted]; rfl⟩
  · refine .inr ⟨spelled ((if q.isRooted then separator else []) ++
      words.flatMap fun w => .name w.chars :: separator) ++ w.chars, ?_⟩
    rw [tokens, hwords]
    simp [spelled, separator, Token.spelling]

/-- Behind the last separator stands the name. -/
theorem behindLast_named {name : List Char} (h : ':' ∉ name) :
    Text.behindLast PathType.separator (spelled q.tokens ++ name) = name :=
  PathType.behindLast_path q.eq_nil_or_append h

variable {name : String} (hname : ∀ c ∈ name.toList, Text.continuesName c = true)
include hname

theorem isPath_named : IsPath (spelled q.tokens ++ name.toList) :=
  q.isPath.append fun c hc => .inl (hname c hc)

theorem squeeze_named :
    Text.squeeze (spelled (q.named name)) = spelled q.tokens ++ name.toList := by
  have hspelled : spelled (q.named name) = spelled q.tokens ++ name.toList := by
    simp [named, spelled, Token.spelling]
  rw [hspelled, Text.squeeze_of_forall (q.isPath_named hname).not_isBlank]

theorem squeeze_applied (argument : List Token) :
    Text.squeeze (spelled (q.applied name argument))
      = spelled q.tokens ++ name.toList ++ '<' :: Text.squeeze (spelled argument) ++ ['>'] := by
  have hspelled : spelled (q.applied name argument)
      = spelled (q.named name) ++ (['<'] ++ (spelled argument ++ ['>'])) := by
    simp [applied, spelled, Token.spelling]
  have hopen : Text.squeeze ['<'] = ['<'] := rfl
  have hclose : Text.squeeze ['>'] = ['>'] := rfl
  rw [hspelled, Text.squeeze_append, Text.squeeze_append, Text.squeeze_append,
    q.squeeze_named hname, hopen, hclose]
  simp

theorem head?_named : (Text.squeeze (spelled (q.named name))).head? ≠ some '&' := by
  rw [q.squeeze_named hname]
  simpa using @IsPath.head?_append _ [] (q.isPath_named hname) (by simp)

theorem head?_applied (argument : List Token) :
    (Text.squeeze (spelled (q.applied name argument))).head? ≠ some '&' := by
  rw [q.squeeze_applied hname, List.append_assoc]
  exact (q.isPath_named hname).head?_append (by simp)

theorem read?_named :
    PathType.read? (Text.squeeze (spelled (q.named name))) = some ⟨name.toList, none⟩ := by
  have hopen : '<' ∉ spelled q.tokens ++ name.toList :=
    (q.isPath_named hname).not_mem (by decide) (by decide) (by decide)
  have hcolon : ':' ∉ name.toList := fun hc => absurd (hname ':' hc) (by decide)
  have hhead := q.head?_named hname
  rw [← Text.squeeze_squeeze] at hhead
  rw [PathType.read?_of_head hhead, Text.squeeze_squeeze, q.squeeze_named hname,
    PathType.ofCompact?_plain hopen, q.behindLast_named hcolon]

theorem read?_applied (argument : List Token) :
    PathType.read? (Text.squeeze (spelled (q.applied name argument)))
      = some ⟨name.toList, some (Text.squeeze (spelled argument))⟩ := by
  have hopen : '<' ∉ spelled q.tokens ++ name.toList :=
    (q.isPath_named hname).not_mem (by decide) (by decide) (by decide)
  have hcolon : ':' ∉ name.toList := fun hc => absurd (hname ':' hc) (by decide)
  have hhead := q.head?_applied hname argument
  rw [← Text.squeeze_squeeze] at hhead
  rw [PathType.read?_of_head hhead, Text.squeeze_squeeze, q.squeeze_applied hname,
    PathType.ofCompact?_applied hopen, q.behindLast_named hcolon]

end Qualifier

/-! ## Recorded texts -/

theorem squeeze_spaced (ts : List Token) :
    Text.squeeze (Token.spaced ts) = Text.squeeze (spelled ts) := by
  induction ts using Token.spaced.induct with
  | case1 => rfl
  | case2 t => simp [Token.spaced, spelled]
  | case3 t u rest ih =>
    have hblank : Text.squeeze (if t.isSpaced u then [' '] else []) = [] := by
      split <;> rfl
    rw [Token.spaced, spelled_cons, Text.squeeze_append, Text.squeeze_append, Text.squeeze_append,
      hblank, ih, List.append_nil]

/-- Up to blanks, the recorded text of a type consists of its tokens. -/
theorem squeeze_typeText (ts : List Token) :
    Text.squeeze (typeText ts) = Text.squeeze (spelled ts) := by
  rw [typeText, squeeze_collapse, squeeze_spaced]

/-! ## Reading types back -/

namespace WrittenType

/-- The name of a value type, read without an argument, has its tag. -/
theorem ofPlain?_spelling {type : ValueType} (h : type.isName = true) :
    (∀ c ∈ type.spelling.toList, Text.continuesName c = true) ∧
      TypeTag.ofPlain? type.spelling.toList = some type.tag := by
  cases type with
  | str | bytes | dateTime _ | option _ => cases h
  | _ => exact ⟨List.all_eq_true.1 rfl, rfl⟩

/-! A borrowed string under a lifetime is the only type whose blanks count. -/

theorem isPath_labelled (label : Word) : IsPath (label.chars ++ ['s', 't', 'r']) := by
  refine label.isPath.append fun c hc => .inl ?_
  have hstr : ∀ c ∈ ['s', 't', 'r'], Text.continuesName c = true := List.all_eq_true.1 rfl
  exact hstr c hc

/-- Without blanks, nothing of the type is left behind the lifetime. -/
theorem ofWritten?_squeeze_labelled (label : Word) :
    TypeTag.ofWritten? (Text.squeeze (spelled (str (some label)).tokens)) = none := by
  have hlabel := (isPath_labelled label).not_isBlank
  have hspelled : spelled (str (some label)).tokens
      = '&' :: '\'' :: (label.chars ++ ['s', 't', 'r']) := by
    simp [tokens, spelled, Token.spelling]
  have hblank : ∀ c ∈ '&' :: '\'' :: (label.chars ++ ['s', 't', 'r']), Text.isBlank c = false := by
    rw [List.forall_mem_cons, List.forall_mem_cons]
    exact ⟨rfl, rfl, hlabel⟩
  have hreferent : PathType.referent ('&' :: '\'' :: (label.chars ++ ['s', 't', 'r'])) = [] :=
    @PathType.referent_labelled _ _ [] (by rw [Text.trim_of_forall hblank, List.append_nil])
      hlabel (by simp)
  have hread : PathType.read? ('&' :: '\'' :: (label.chars ++ ['s', 't', 'r'])) = some ⟨[], none⟩ := by
    rw [PathType.read?, hreferent]
    rfl
  rw [hspelled, Text.squeeze_of_forall hblank, TypeTag.ofWritten?_plain hread]
  rfl

theorem typeText_labelled (label : Word) :
    typeText (str (some label)).tokens = '&' :: '\'' :: (label.chars ++ [' ', 's', 't', 'r']) := by
  have hspaced : Token.spaced (str (some label)).tokens
      = '&' :: ' ' :: '\'' :: (label.chars ++ [' ', 's', 't', 'r']) := by
    simp [tokens, Token.spaced, Token.isSpaced, Token.spelling]
  have hstr : collapse [' ', 's', 't', 'r'] = [' ', 's', 't', 'r'] := by decide +kernel
  rw [typeText, hspaced, collapse_label label.not_mem_symbols, hstr]

/-- In its recorded text, the lifetime is kept apart from the type. -/
theorem ofWritten?_typeText_labelled (label : Word) :
    TypeTag.ofWritten? (typeText (str (some label)).tokens) = some .string := by
  have hreferent : PathType.referent ('&' :: '\'' :: (label.chars ++ [' ', 's', 't', 'r']))
      = ['s', 't', 'r'] := by
    have hmarks : ∀ c ∈ ['&', '\''], Text.isBlank c = false := by simp [Text.isBlank]
    have hstr : ∀ c ∈ ['s', 't', 'r'], Text.isBlank c = false := by simp [Text.isBlank]
    have htrim := @Text.trim_words [] ['&', '\''] ['s', 't', 'r'] [] (by simp) (by simp) hmarks hstr
      (by simp) (by simp) (label.chars ++ [' '])
    exact @PathType.referent_labelled _ label.chars [' ', 's', 't', 'r'] (by simpa using htrim)
      label.isPath.not_isBlank (by simp [Text.isBlank])
  have hread : PathType.read? ('&' :: '\'' :: (label.chars ++ [' ', 's', 't', 'r']))
      = some ⟨['s', 't', 'r'], none⟩ := by
    rw [PathType.read?, hreferent]
    decide
  rw [typeText_labelled, TypeTag.ofWritten?_plain hread]
  decide

/-- A type is read back from its tokens without any blanks, unless it holds a lifetime. -/
theorem ofWritten?_squeeze (w : WrittenType) :
    TypeTag.ofWritten? (Text.squeeze (spelled w.tokens))
      = if w.hasLifetime then none else some w.type.tag := by
  induction w with
  | name path type single =>
    obtain ⟨hname, htag⟩ := ofPlain?_spelling single
    exact (TypeTag.ofWritten?_plain (path.read?_named hname)).trans htag
  | str label =>
    cases label with
    | none => decide +kernel
    | some label => exact ofWritten?_squeeze_labelled label
  | bytes path =>
    rw [tokens, TypeTag.ofWritten?_applied (path.read?_applied (List.all_eq_true.1 rfl) _) (by decide)]
    rfl
  | dateTime path zone =>
    rw [tokens, TypeTag.ofWritten?_applied (path.read?_applied (List.all_eq_true.1 rfl) _) (by decide)]
    rfl
  | option path inner ih =>
    rw [tokens, TypeTag.ofWritten?_option (path.read?_applied (List.all_eq_true.1 rfl) _)]
    exact ih

/-- **A type is read back from its recorded text** as the tag of its value type, unless it is an
optional type that holds a lifetime. -/
theorem ofWritten?_typeText (w : WrittenType) :
    TypeTag.ofWritten? (typeText w.tokens) = if w.hidesLifetime then none else some w.type.tag := by
  have hread : (Text.squeeze (spelled w.tokens)).head? ≠ some '&' →
      TypeTag.ofWritten? (typeText w.tokens) = if w.hasLifetime then none else some w.type.tag := by
    intro hhead
    rw [← w.ofWritten?_squeeze, ← squeeze_typeText]
    rw [← squeeze_typeText] at hhead
    exact TypeTag.ofWritten?_congr (PathType.read?_squeeze hhead).symm
  cases w with
  | name path type single => exact hread (path.head?_named (ofPlain?_spelling single).1)
  | str label =>
    cases label with
    | none => decide +kernel
    | some label => exact ofWritten?_typeText_labelled label
  | bytes path => exact hread (path.head?_applied (List.all_eq_true.1 rfl) _)
  | dateTime path zone => exact hread (path.head?_applied (List.all_eq_true.1 rfl) _)
  | option path inner => exact hread (path.head?_applied (List.all_eq_true.1 rfl) _)

end WrittenType

end Record

end Schemata
