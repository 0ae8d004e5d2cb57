import Mathlib.Data.List.Forall2
import Schemata.Record.Grammar.Form

/-!
# What readers take

Laws for the readers of tokens: what a reader made of others takes follows from what these take, or
refuse to take. Readers settle the joints of punctuation on the way, so that tokens may be read
(`Reads`) which are not quite those that are written.
-/

namespace Schemata.Record

/-! ## Readers made of readers -/

namespace Reader

variable {p q r : Reader} {ts rest rest' written written' : List Token}

theorem run_append (p q : Reader) (ts : List Token) :
    (p ++ q).run ts
      = (p.run ts).bind fun a => (q.run a.2).map fun b => (a.1 ++ b.1, b.2) := by
  show (p.run ts).bind _ = _
  cases p.run ts with
  | none => rfl
  | some a => cases hq : q.run a.2 <;> simp [hq]

theorem run_append_some (hp : p.run ts = some (written, rest))
    (hq : q.run rest = some (written', rest')) :
    (p ++ q).run ts = some (written ++ written', rest') := by
  rw [run_append, hp, Option.bind_some, hq]
  rfl

theorem run_append_of_none (hp : p.run ts = none) : (p ++ q).run ts = none := by
  rw [run_append, hp]
  rfl

/-- The second reader fails behind what the first has taken. -/
theorem run_append_none (hp : p.run ts = some (written, rest)) (hq : q.run rest = none) :
    (p ++ q).run ts = none := by
  rw [run_append, hp, Option.bind_some, hq]
  rfl

theorem run_append_assoc (p q r : Reader) (ts : List Token) :
    (p ++ q ++ r).run ts = (p ++ (q ++ r)).run ts := by
  simp only [run_append]
  cases p.run ts with
  | none => rfl
  | some a =>
    simp only [Option.bind_some]
    cases hq : q.run a.2 with
    | none => rfl
    | some b =>
      simp only [Option.map_some, Option.bind_some]
      cases r.run b.2 <;> simp

theorem run_orElse (p q : Reader) (ts : List Token) :
    (p <|> q).run ts = (p.run ts).or (q.run ts) := by
  cases hp : p.run ts <;> simp [HOrElse.hOrElse, OrElse.orElse, hp]

theorem run_orElse_some {taken : List Token × List Token} (hp : p.run ts = some taken) :
    (p <|> q).run ts = some taken := by
  rw [run_orElse, hp, Option.some_or]

theorem run_orElse_of_none (hp : p.run ts = none) : (p <|> q).run ts = q.run ts := by
  rw [run_orElse, hp, Option.none_or]

theorem run_optional_of_none (hp : p.run ts = none) : (optional p).run ts = some ([], ts) :=
  run_orElse_of_none hp

/-! ## What has been taken -/

theorem exists_of_run_append (h : (p ++ q).run ts = some (written, rest)) :
    ∃ front mid back, p.run ts = some (front, mid) ∧ q.run mid = some (back, rest) ∧
      written = front ++ back := by
  rw [run_append] at h
  obtain ⟨⟨front, mid⟩, hp, h⟩ := Option.bind_eq_some_iff.1 h
  obtain ⟨⟨back, rest'⟩, hq, h⟩ := Option.map_eq_some_iff.1 h
  cases h
  exact ⟨front, mid, back, hp, hq, rfl⟩

theorem run_orElse_cases {taken : List Token × List Token} (h : (p <|> q).run ts = some taken) :
    p.run ts = some taken ∨ q.run ts = some taken := by
  rw [run_orElse, Option.or_eq_some_iff] at h
  exact h.imp id And.right

theorem exists_of_run_token {allowed : Token → Bool}
    (h : (token allowed).run ts = some (written, rest)) :
    ∃ t, ts = t :: rest ∧ written = [t] ∧ allowed t = true := by
  cases ts with
  | nil => cases h
  | cons t ts =>
    simp only [token] at h
    split at h
    · next hallowed =>
      cases h
      exact ⟨t, rfl, rfl, hallowed⟩
    · cases h

theorem eq_of_behindSymbol?_singleton {c : Char} (h : behindSymbol? [c] ts = some rest) :
    ∃ joined, ts = .punct c joined :: rest := by
  match ts, h with
  | .punct d joined :: us, h =>
    simp only [behindSymbol?, Option.ite_none_right_eq_some, Option.some.injEq] at h
    obtain ⟨rfl, rfl⟩ := h
    exact ⟨joined, rfl⟩

theorem eq_of_behindSymbol?_pair {c d : Char} (h : behindSymbol? [c, d] ts = some rest) :
    ∃ joined, ts = .punct c true :: .punct d joined :: rest := by
  match ts, h with
  | .punct e true :: us, h =>
    simp only [behindSymbol?, Option.ite_none_right_eq_some] at h
    obtain ⟨rfl, h⟩ := h
    obtain ⟨joined, rfl⟩ := eq_of_behindSymbol?_singleton h
    exact ⟨joined, rfl⟩

/-! ## Repetition -/

theorem pieces_nil (p : Reader) (bound : Nat) : p.pieces bound [] = ([], []) := by
  cases bound with
  | zero => rfl
  | succ bound => cases hp : p.run [] <;> simp [pieces, hp]

theorem pieces_eq_of_le {bound bound' : Nat} (h : ts.length ≤ bound) (h' : ts.length ≤ bound') :
    p.pieces bound ts = p.pieces bound' ts := by
  induction bound generalizing ts bound' with
  | zero =>
    obtain rfl := List.eq_nil_of_length_eq_zero (Nat.le_zero.1 h)
    rw [pieces_nil, pieces_nil]
  | succ bound ih =>
    cases bound' with
    | zero =>
      obtain rfl := List.eq_nil_of_length_eq_zero (Nat.le_zero.1 h')
      rw [pieces_nil, pieces_nil]
    | succ bound' =>
      unfold pieces
      cases p.run ts with
      | none => rfl
      | some a =>
        by_cases hlength : a.2.length < ts.length
        · have hrest : p.pieces bound a.2 = p.pieces bound' a.2 := ih (by omega) (by omega)
          simp only [if_pos hlength, hrest]
        · simp only [if_neg hlength]

theorem pieces_of_none (hp : p.run ts = none) (bound : Nat) : p.pieces bound ts = ([], ts) := by
  cases bound with
  | zero => rfl
  | succ bound => simp only [pieces, hp]

theorem pieces_some (hp : p.run ts = some (written, rest)) (hlength : rest.length < ts.length) :
    p.pieces ts.length ts
      = (written :: (p.pieces rest.length rest).1, (p.pieces rest.length rest).2) := by
  have hround : ∀ bound, p.pieces (bound + 1) ts
      = (written :: (p.pieces bound rest).1, (p.pieces bound rest).2) := by
    intro bound
    simp only [pieces, hp, if_pos hlength]
  obtain ⟨bound, hbound⟩ := Nat.exists_eq_succ_of_ne_zero (Nat.ne_zero_of_lt hlength)
  have hrest : p.pieces bound rest = p.pieces rest.length rest :=
    pieces_eq_of_le (by omega) (Nat.le_refl _)
  rw [hbound, hround, hrest]

theorem run_many_of_none (hp : p.run ts = none) : (many p).run ts = some ([], ts) := by
  simp only [many, arranged, pieces_of_none hp]
  rfl

theorem run_many_some (hp : p.run ts = some (written, rest)) (hlength : rest.length < ts.length)
    (hmany : (many p).run rest = some (written', rest')) :
    (many p).run ts = some (written ++ written', rest') := by
  simp only [many, arranged, Option.some.injEq, Prod.mk.injEq] at hmany ⊢
  rw [pieces_some hp hlength]
  obtain ⟨hwritten, hrest⟩ := hmany
  exact ⟨by rw [← hwritten]; rfl, hrest⟩

/-- A reader that applies once. -/
theorem run_arranged_once (arrange : List (List Token) → List Token)
    (hp : p.run ts = some (written, rest)) (hlength : rest.length < ts.length)
    (hrest : p.run rest = none) :
    (p.arranged arrange).run ts = some (arrange [written], rest) := by
  simp only [arranged, pieces_some hp hlength, pieces_of_none hrest]

end Reader

/-! ## Joints -/

/-- A token with its joint settled: punctuation need not be joined to what follows it. -/
inductive Token.Settles : Token → Token → Prop
  | same (t : Token) : Settles t t
  | apart (symbol : Char) (joined : Bool) : Settles (.punct symbol joined) (.punct symbol false)

/-- The token with its joint open. -/
def Token.apart : Token → Token
  | .punct symbol _ => .punct symbol false
  | t => t

theorem Token.settles_iff {t u : Token} : t.Settles u ↔ u = t ∨ u = t.apart := by
  constructor
  · rintro (_ | _)
    · exact .inl rfl
    · exact .inr rfl
  · rintro (rfl | rfl)
    · exact .same u
    · cases t with
      | punct symbol joined => exact .apart symbol joined
      | _ => exact .same _

instance (t u : Token) : Decidable (t.Settles u) :=
  decidable_of_iff _ Token.settles_iff.symm

/-- The tokens as they may have been read. -/
def Reads (ts written : List Token) : Prop :=
  List.Forall₂ Token.Settles ts written

instance (ts written : List Token) : Decidable (Reads ts written) :=
  inferInstanceAs (Decidable (List.Forall₂ Token.Settles ts written))

namespace Reads

variable {ts us vs : List Token}

theorem refl (ts : List Token) : Reads ts ts := by
  induction ts with
  | nil => exact .nil
  | cons t ts ih => exact .cons (.same t) ih

theorem of_append (h : Reads ts (us ++ vs)) :
    ∃ ts₁ ts₂, ts = ts₁ ++ ts₂ ∧ Reads ts₁ us ∧ Reads ts₂ vs :=
  ⟨ts.take us.length, ts.drop us.length, (List.take_append_drop ..).symm,
    List.forall₂_take_append ts us vs h, List.forall₂_drop_append ts us vs h⟩

theorem of_name {n : List Char} (h : Reads ts (.name n :: us)) :
    ∃ vs, ts = .name n :: vs ∧ Reads vs us := by
  obtain ⟨t, vs, ht, hvs, rfl⟩ := List.forall₂_cons_right_iff.1 h
  cases ht
  exact ⟨vs, rfl, hvs⟩

theorem of_lifetime {l : List Char} (h : Reads ts (.lifetime l :: us)) :
    ∃ vs, ts = .lifetime l :: vs ∧ Reads vs us := by
  obtain ⟨t, vs, ht, hvs, rfl⟩ := List.forall₂_cons_right_iff.1 h
  cases ht
  exact ⟨vs, rfl, hvs⟩

theorem of_joined {symbol : Char} (h : Reads ts (.punct symbol true :: us)) :
    ∃ vs, ts = .punct symbol true :: vs ∧ Reads vs us := by
  obtain ⟨t, vs, ht, hvs, rfl⟩ := List.forall₂_cons_right_iff.1 h
  cases ht
  exact ⟨vs, rfl, hvs⟩

theorem of_apart {symbol : Char} (h : Reads ts (.punct symbol false :: us)) :
    ∃ joined vs, ts = .punct symbol joined :: vs ∧ Reads vs us := by
  obtain ⟨t, vs, ht, hvs, rfl⟩ := List.forall₂_cons_right_iff.1 h
  cases ht with
  | same => exact ⟨false, vs, rfl, hvs⟩
  | apart symbol joined => exact ⟨joined, vs, rfl, hvs⟩

end Reads

end Schemata.Record
