import Schemata.Proofs.Text.Identifier
import Schemata.Record.Lexer

/-!
# The words among tokens

Whatever text is taken apart into tokens, its names and labels are words: names that may be declared,
perhaps behind a raw mark (`isWord_of_tokens?`). So no symbol and no blank is in them.
-/

namespace Schemata.Record

/-- The text of a name or a label is a word, raw or not. -/
def Token.IsWord : Token → Prop
  | .name text => Text.isDeclaredName (Text.unraw text) = true
  | .lifetime label => Text.isDeclaredName (Text.unraw label) = true
  | _ => True

variable {cs rest : List Char} {t : Token}

theorem declared_of_name? {text : List Char} (h : name? cs = some (text, rest)) :
    Text.isDeclaredName (Text.unraw text) = true := by
  unfold name? at h
  split at h
  · dsimp only at h
    split at h
    · next hname =>
      cases h
      exact (Bool.and_eq_true_iff.1 hname).1
    · cases h
  · dsimp only at h
    split at h
    · next hname =>
      cases h
      rwa [Text.unraw_of_not_mem (Text.mark_not_mem hname)]
    · cases h

theorem isWord_of_map {α : Type} {found : Option α} {token : α → Token × List Char}
    (h : found.map token = some (t, rest)) (htoken : ∀ a, (token a).1.IsWord) : t.IsWord := by
  obtain ⟨a, -, ha⟩ := Option.map_eq_some_iff.1 h
  have := htoken a
  rwa [ha] at this

theorem isWord_of_raw? {value : List Char → Literal} {whole : List Char}
    (h : raw? value whole cs = some (t, rest)) : t.IsWord := by
  unfold raw? at h
  split at h
  · cases h
  · exact isWord_of_map h fun _ => trivial

theorem isWord_of_lettered? (h : lettered? cs = some (t, rest)) : t.IsWord := by
  unfold lettered? at h
  split at h
  · exact isWord_of_raw? h
  · exact isWord_of_raw? h
  · exact isWord_of_raw? h
  · exact isWord_of_map h fun _ => trivial
  · exact isWord_of_map h fun _ => trivial
  · exact isWord_of_map h fun _ => trivial
  · cases h

theorem isWord_of_apostrophe? {whole : List Char} (h : apostrophe? whole cs = some (t, rest)) :
    t.IsWord := by
  unfold apostrophe? at h
  split at h
  · cases h
    trivial
  · obtain ⟨⟨label, behind⟩, hname, h⟩ := Option.bind_eq_some_iff.1 h
    dsimp only at h
    split at h
    · cases h
    · cases h
      exact declared_of_name? hname

theorem isWord_of_bracket? {c : Char} (h : bracket? c = some t) : t.IsWord := by
  unfold bracket? at h
  split at h <;> cases h <;> trivial

theorem isWord_of_token? (h : token? cs = some (t, rest)) : t.IsWord := by
  unfold token? at h
  split at h
  · next hlettered =>
    cases h
    exact isWord_of_lettered? hlettered
  · cases h
  · split at h
    · exact isWord_of_map h fun _ => trivial
    · split at h
      · exact isWord_of_map h fun _ => trivial
      · split at h
        · exact isWord_of_apostrophe? h
        · split at h
          · cases h
            trivial
          · split at h
            · next hbracket =>
              cases h
              exact isWord_of_bracket? hbracket
            · split at h
              · cases h
              · obtain ⟨⟨text, behind⟩, hname, heq⟩ := Option.map_eq_some_iff.1 h
                cases heq
                exact declared_of_name? hname

/-- The attribute that a documentation comment stands for has one name. -/
theorem isWord_of_documentation? {ts : List Token} (h : documentation? cs = some (ts, rest)) :
    ∀ t ∈ ts, t.IsWord := by
  have hname : Token.IsWord (.name "doc".toList) := by
    show Text.isDeclaredName (Text.unraw "doc".toList) = true
    decide +kernel
  have hattribute : ∀ inner text, ∀ t ∈ documentation inner text, t.IsWord := by
    intro inner text
    have hmarks : ∀ t ∈ Token.punct '#' false :: (if inner then [Token.punct '!' false] else []),
        t.IsWord := by
      cases inner
      · exact List.forall_mem_singleton.2 trivial
      · exact List.forall_mem_cons.2 ⟨trivial, List.forall_mem_singleton.2 trivial⟩
    refine List.forall_mem_append.2 ⟨hmarks, ?_⟩
    simp only [List.forall_mem_cons]
    exact ⟨trivial, hname, trivial, trivial, trivial, by simp⟩
  unfold documentation? at h
  split at h
  · obtain ⟨⟨text, behind⟩, -, h⟩ := Option.bind_eq_some_iff.1 h
    dsimp only at h
    split at h
    · cases h
      exact hattribute _ text
    · cases h
  · cases h

theorem isWord_of_tokensWithin {bound : Nat} {ts : List Token} (h : tokensWithin bound cs = some ts) :
    ∀ t ∈ ts, t.IsWord := by
  induction bound generalizing cs ts with
  | zero => cases h
  | succ bound ih =>
    unfold tokensWithin at h
    split at h
    · cases h
      simp
    · split at h
      · next hdocumentation =>
        obtain ⟨others, hothers, rfl⟩ := Option.map_eq_some_iff.1 h
        exact List.forall_mem_append.2 ⟨isWord_of_documentation? hdocumentation, ih hothers⟩
      · next htoken =>
        obtain ⟨others, hothers, rfl⟩ := Option.map_eq_some_iff.1 h
        exact List.forall_mem_cons.2 ⟨isWord_of_token? htoken, ih hothers⟩
      · cases h

/-- **The names and labels of a text are words.** -/
theorem isWord_of_tokens? {text : String} {ts : List Token} (h : tokens? text = some ts) :
    ∀ t ∈ ts, t.IsWord :=
  isWord_of_tokensWithin (Option.filter_eq_some_iff.1 h).1

end Schemata.Record
