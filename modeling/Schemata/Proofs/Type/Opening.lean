import Schemata.Proofs.Record.Reader
import Schemata.Record.Grammar

/-!
# How a type begins

What is written for a type begins with the token that it is read from, up to the joint of a mark, and
few tokens can be that: a name, a lifetime, an opening bracket, one of some marks, or a path separator,
which has a name behind it (`Opening`). No rule for a type has to be read to its end to see this; a
reader opens like that (`Opens`) if the first reader does that it is made of.

Only a reference begins with an ampersand, so that its lifetime, if it has one, and the type behind it
can be told from what is written (`exists_reference`).
-/

namespace Schemata.Record

open Reader

/-- The marks that a type may begin with. -/
def openingMarks : List Char :=
  ['&', '*', '!', '~', '?', '<']

/-- The beginning of what is written, given the tokens that are read. -/
inductive Opening : List Token → List Token → Prop
  | name (n : List Char) (ts written : List Token) : Opening (.name n :: ts) (.name n :: written)
  | lifetime (l : List Char) (ts written : List Token) :
    Opening (.lifetime l :: ts) (.lifetime l :: written)
  | bracket (b : Bracket) (ts written : List Token) :
    Opening (.opening b :: ts) (.opening b :: written)
  | mark {c : Char} (h : c ∈ openingMarks) (joined joined' : Bool) (ts written : List Token) :
    Opening (.punct c joined :: ts) (.punct c joined' :: written)
  | path (joined : Bool) (n : List Char) (ts written : List Token) :
    Opening (.punct ':' true :: .punct ':' joined :: .name n :: ts)
      (.punct ':' true :: .punct ':' false :: .name n :: written)

variable {ts rest written : List Token}

theorem Opening.append (h : Opening ts written) (more : List Token) :
    Opening ts (written ++ more) := by
  cases h with
  | name n ts written => exact .name n ts _
  | lifetime l ts written => exact .lifetime l ts _
  | bracket b ts written => exact .bracket b ts _
  | mark h joined joined' ts written => exact .mark h joined joined' ts _
  | path joined n ts written => exact .path joined n ts _

/-! ## Readers that begin with a name -/

/-- A reader takes a name first and writes it first. -/
def BeginsName (p : Reader) : Prop :=
  ∀ ts written rest, p.run ts = some (written, rest) →
    ∃ n us more, ts = .name n :: us ∧ written = .name n :: more

/-- What a reader writes is not empty and begins as a type may. -/
def Opens (p : Reader) : Prop :=
  ∀ ts written rest, p.run ts = some (written, rest) → Opening ts written

/-- A reader takes nothing, or opens as a type may. -/
def MayOpen (p : Reader) : Prop :=
  ∀ ts written rest, p.run ts = some (written, rest) → (written = [] ∧ rest = ts) ∨ Opening ts written

variable {p q : Reader}

namespace BeginsName

theorem append (hp : BeginsName p) (q : Reader) : BeginsName (p ++ q) := by
  intro ts written rest h
  obtain ⟨front, mid, back, hfront, -, rfl⟩ := exists_of_run_append h
  obtain ⟨n, us, more, rfl, rfl⟩ := hp ts front mid hfront
  exact ⟨n, us, more ++ back, rfl, rfl⟩

theorem orElse (hp : BeginsName p) (hq : BeginsName q) : BeginsName (p <|> q) :=
  fun ts written rest h => (run_orElse_cases h).elim (hp ts written rest) (hq ts written rest)

theorem unlessAt (sign : Reader) (hp : BeginsName p) : BeginsName (unlessAt sign p) := by
  intro ts written rest h
  simp only [Reader.unlessAt] at h
  split at h
  · cases h
  · exact hp ts written rest h

theorem name : BeginsName name := by
  intro ts written rest h
  obtain ⟨t, rfl, rfl, hname⟩ := exists_of_run_token h
  cases t with
  | name n => exact ⟨n, rest, [], rfl, rfl⟩
  | _ => cases hname

theorem word (text : String) : BeginsName (word text) := by
  intro ts written rest h
  obtain ⟨t, rfl, rfl, hword⟩ := exists_of_run_token h
  obtain rfl := eq_of_beq hword
  exact ⟨text.toList, rest, [], rfl, rfl⟩

theorem words (texts : List String) : BeginsName (words texts) := by
  intro ts written rest h
  obtain ⟨p, hp, hrun⟩ := List.exists_of_findSome?_eq_some h
  obtain ⟨text, -, rfl⟩ := List.mem_map.1 hp
  exact word text ts written rest hrun

theorem segmentName : BeginsName segmentName :=
  (name.unlessAt _).orElse (words _)

theorem opens (hp : BeginsName p) : Opens p := by
  intro ts written rest h
  obtain ⟨n, us, more, rfl, rfl⟩ := hp ts written rest h
  exact .name n us more

end BeginsName

/-! ## Readers that open as a type may -/

namespace Opens

theorem append (hp : Opens p) (q : Reader) : Opens (p ++ q) := by
  intro ts written rest h
  obtain ⟨front, mid, back, hfront, -, rfl⟩ := exists_of_run_append h
  exact (hp ts front mid hfront).append back

theorem orElse (hp : Opens p) (hq : Opens q) : Opens (p <|> q) :=
  fun ts written rest h => (run_orElse_cases h).elim (hp ts written rest) (hq ts written rest)

theorem ifAt (sign : Reader) (hp : Opens p) : Opens (ifAt sign p) := by
  intro ts written rest h
  simp only [Reader.ifAt] at h
  split at h
  · exact hp ts written rest h
  · cases h

theorem optional (hp : Opens p) : MayOpen (optional p) := by
  intro ts written rest h
  rcases run_orElse_cases h with h | h
  · exact .inr (hp ts written rest h)
  · cases h
    exact .inl ⟨rfl, rfl⟩

theorem lifetime : Opens lifetime := by
  intro ts written rest h
  obtain ⟨t, rfl, rfl, hlifetime⟩ := exists_of_run_token h
  cases t with
  | lifetime l => exact .lifetime l rest []
  | _ => cases hlifetime

theorem inside (b : Bracket) (p : Reader) : Opens (inside b p) := by
  have hbracket : Opens (Reader.bracket (.opening b)) := by
    intro ts written rest h
    obtain ⟨t, rfl, rfl, hopening⟩ := exists_of_run_token h
    obtain rfl := eq_of_beq hopening
    exact .bracket b rest []
  exact (hbracket.append p).append _

theorem symbol {text : String} {c : Char} (htext : text.toList = [c]) (hc : c ∈ openingMarks) :
    Opens (symbol text) := by
  intro ts written rest h
  rw [Reader.symbol, htext] at h
  obtain ⟨behind, hbehind, h⟩ := Option.map_eq_some_iff.1 h
  cases h
  obtain ⟨joined, rfl⟩ := eq_of_behindSymbol?_singleton hbehind
  exact .mark hc joined false rest []

end Opens

namespace MayOpen

theorem append (hp : MayOpen p) (hq : MayOpen q) : MayOpen (p ++ q) := by
  intro ts written rest h
  obtain ⟨front, mid, back, hfront, hback, rfl⟩ := exists_of_run_append h
  rcases hp ts front mid hfront with ⟨rfl, rfl⟩ | hopening
  · exact hq mid back rest hback
  · exact .inr (hopening.append back)

theorem append_opens (hp : MayOpen p) (hq : Opens q) : Opens (p ++ q) := by
  intro ts written rest h
  obtain ⟨front, mid, back, hfront, hback, rfl⟩ := exists_of_run_append h
  rcases hp ts front mid hfront with ⟨rfl, rfl⟩ | hopening
  · exact hq mid back rest hback
  · exact hopening.append back

end MayOpen

/-! ## Paths, bounds and types -/

theorem opens_path {segment : Reader} (hsegment : BeginsName segment) (q : Reader) :
    Opens (optional (symbol "::") ++ segment ++ q) := by
  intro ts written rest h
  obtain ⟨front, mid, back, hfront, -, rfl⟩ := exists_of_run_append h
  refine Opening.append ?_ back
  obtain ⟨separator, us, names, hseparator, hnames, rfl⟩ := exists_of_run_append hfront
  obtain ⟨n, us', more, rfl, rfl⟩ := hsegment us names mid hnames
  rcases run_orElse_cases hseparator with hseparator | hnothing
  · obtain ⟨behind, hbehind, heq⟩ := Option.map_eq_some_iff.1 hseparator
    cases heq
    obtain ⟨joined, rfl⟩ := eq_of_behindSymbol?_pair hbehind
    exact .path joined n us' more
  · cases hnothing
    exact .name n us' more

section Rules

variable (sub : Forms)

theorem opens_binder : Opens (binder sub) :=
  (((BeginsName.word "for").append _).append _).append _ |>.opens

theorem opens_pathOf (arguments : Reader) : Opens (pathOf arguments) :=
  opens_path (BeginsName.segmentName.append _) _

theorem opens_bound : Opens (bound sub) := by
  have hbinder := (opens_binder sub).optional
  have hconstness : Opens constness :=
    ((Opens.symbol (c := '~') rfl (by decide)).append _).orElse
      ((Opens.inside .square _).orElse (BeginsName.words _).opens)
  have hquestion : Opens (symbol "?") := .symbol (c := '?') rfl (by decide)
  refine Opens.lifetime.orElse (.orElse ?_ (.orElse (.inside .round _) ?_))
  · exact ((BeginsName.word "use").append _).opens
  · exact (((hbinder.append hconstness.optional).append hquestion.optional).append hbinder).append_opens
      (opens_pathOf _)

theorem opens_boundsRule (sums : Bool) : Opens (boundsRule sub sums) :=
  (opens_bound sub).append _

theorem opens_functionType : Opens (functionType sub) := by
  have hsafety := (BeginsName.word "unsafe").opens.optional
  have hextern := ((BeginsName.word "extern").append (optional stringLiteral)).opens.optional
  exact (((hsafety.append hextern).append_opens (BeginsName.word "fn").opens).append _).append _

theorem opens_macroCall : Opens macroCall :=
  ((opens_path .segmentName _).append _).append _

/-- Every rule for a type opens as a type may, provided that bounds do. -/
theorem opens_typeRule (hbounds : Opens (sub (.bounds true))) (sums : Bool) :
    Opens (typeRule sub sums) := by
  have hmark {text : String} {c : Char} (htext : text.toList = [c]) (hc : c ∈ openingMarks)
      (p : Reader) : Opens (symbol text ++ p) := (Opens.symbol htext hc).append p
  refine .orElse ((opens_binder sub).append _) ?_
  refine .orElse ((Opens.inside .round _).append _) ?_
  refine .orElse (opens_functionType sub) ?_
  refine .orElse (((((hmark (c := '<') rfl (by decide) _).append _).append _).append _)) ?_
  refine .orElse (((BeginsName.word "dyn").append _).append _).opens ?_
  refine .orElse ((BeginsName.word "impl").append _).opens ?_
  refine .orElse (.inside .square _) ?_
  refine .orElse ((hmark (c := '*') rfl (by decide) _).append _) ?_
  refine .orElse (((hmark (c := '&') rfl (by decide) _).append _).append _) ?_
  refine .orElse (.symbol (c := '!') rfl (by decide)) ?_
  refine .orElse (BeginsName.word "_").opens ?_
  refine .orElse (.ifAt _ hbounds) ?_
  exact .orElse opens_macroCall ((opens_pathOf _).append _)

end Rules

theorem opens_readForm_bounds (depth : Nat) (sums : Bool) : Opens (readForm depth (.bounds sums)) := by
  cases depth with
  | zero =>
    intro ts written rest h
    cases h
  | succ depth => exact opens_boundsRule (readForm depth) sums

theorem opens_readForm (depth : Nat) (sums : Bool) : Opens (readForm depth (.type sums)) := by
  cases depth with
  | zero =>
    intro ts written rest h
    cases h
  | succ depth => exact opens_typeRule (readForm depth) (opens_readForm_bounds depth true) sums

/-! ## References -/

/-- What is written for a type that begins with an ampersand. -/
inductive WritesReference : List Token → List Token → Prop
  /-- The type may begin with a word that makes it mutable. -/
  | labelled (l : List Char) {ts type : List Token} (h : Opening ts type) :
    WritesReference (.lifetime l :: ts) (.punct '&' false :: .lifetime l :: type)
  | plain {ts type : List Token} (h : Opening ts type) (hlabel : ∀ l us, type ≠ .lifetime l :: us) :
    WritesReference ts (.punct '&' false :: type)

/-- Behind an ampersand, no other rule applies than that for references. -/
theorem run_typeRule_reference (sub : Forms) (sums joined : Bool) (ts : List Token) :
    (typeRule sub sums).run (.punct '&' joined :: ts)
      = (symbol "&" ++ optional lifetime ++ optional (word "mut") ++ sub (.type false)).run
        (.punct '&' joined :: ts) := by
  have hothers : (symbol "!" <|> word "_" <|> ifAt lifetime (sub (.bounds true)) <|> macroCall
      <|> pathOf (typeArguments sub) ++ furtherBounds sub sums).run (.punct '&' joined :: ts)
      = none := by
    cases joined <;> rfl
  rw [typeRule, run_orElse_of_none rfl, run_orElse_of_none rfl, run_orElse_of_none rfl,
    run_orElse_of_none rfl, run_orElse_of_none rfl, run_orElse_of_none rfl, run_orElse_of_none rfl,
    run_orElse_of_none rfl, run_orElse, hothers, Option.or_none]

theorem writesReference {depth : Nat} {sums joined : Bool}
    (h : (readForm depth (.type sums)).run (.punct '&' joined :: ts) = some (written, rest)) :
    WritesReference ts written := by
  cases depth with
  | zero => cases h
  | succ depth =>
    have hrun := (run_typeRule_reference (readForm depth) sums joined ts).symm.trans h
    obtain ⟨front, mid, type, hfront, htype, rfl⟩ := exists_of_run_append hrun
    obtain ⟨reference, mid', mutable, hreference, hmutable, rfl⟩ := exists_of_run_append hfront
    obtain ⟨ampersand, us, label, hampersand, hlabel, rfl⟩ := exists_of_run_append hreference
    cases hampersand
    have hopens := (BeginsName.word "mut").opens.optional.append_opens (opens_readForm depth false)
    have hopening : Opening mid' (mutable ++ type) :=
      hopens mid' _ rest (run_append_some hmutable htype)
    rcases run_orElse_cases hlabel with hlabel' | hnothing
    · obtain ⟨t, rfl, rfl, hlifetime⟩ := exists_of_run_token hlabel'
      cases t with
      | lifetime l => exact .labelled l hopening
      | _ => cases hlifetime
    · cases hnothing
      refine .plain hopening ?_
      intro l us (heq : mutable ++ type = .lifetime l :: us)
      rw [heq] at hopening
      cases hopening
      cases hlabel

/-- If an ampersand is written first, it is read first, and a reference is. -/
theorem exists_reference {depth : Nat} {sums joined : Bool}
    (h : (readForm depth (.type sums)).run ts = some (.punct '&' joined :: written, rest)) :
    ∃ joined' us, ts = .punct '&' joined' :: us ∧
      WritesReference us (.punct '&' joined :: written) := by
  have hopening := opens_readForm depth sums ts _ rest h
  cases hopening with
  | mark hc joined' _ us _ => exact ⟨joined', us, rfl, writesReference h⟩

end Schemata.Record
