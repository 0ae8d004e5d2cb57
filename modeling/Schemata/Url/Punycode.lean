import Schemata.Text.Split

/-!
# Punycode

A label of a domain name may be written with ASCII characters alone: first those of its characters that
are ASCII, then, behind the last hyphen, where the others belong. Each of them is a number in base
thirty-six with its least digit first; how far a number goes depends on a bias that adapts to the
numbers before it. Reading a number takes at least one digit, so the reader ends with the text.
-/

namespace Schemata.Url.Punycode

/-- The value of a digit: letters of either case, then decimal digits. -/
def digit? (c : Char) : Option Nat :=
  let n := c.toNat
  if 97 ≤ n ∧ n ≤ 122 then some (n - 97)
  else if 65 ≤ n ∧ n ≤ 90 then some (n - 65)
  else if 48 ≤ n ∧ n ≤ 57 then some (n - 22)
  else none

/-- A digit below the threshold of its place is the last one of its number. -/
def threshold (place bias : Nat) : Nat :=
  min 26 (max 1 (place - bias))

/-- Takes a number off a text and adds it to `sum`; `place` is a multiple of the base. -/
def readNumber? (bias : Nat) : Nat → Nat → Nat → List Char → Option (Nat × List Char)
  | _, _, _, [] => none
  | place, weight, sum, c :: cs => do
    let d ← digit? c
    let t := threshold place bias
    if d < t then return (sum + d * weight, cs)
    readNumber? bias (place + 36) (weight * (36 - t)) (sum + d * weight) cs

theorem length_lt_of_readNumber? {bias place weight sum n : Nat} {cs rest : List Char}
    (h : readNumber? bias place weight sum cs = some (n, rest)) : rest.length < cs.length := by
  induction cs generalizing place weight sum with
  | nil => simp [readNumber?] at h
  | cons c cs ih =>
    cases hd : digit? c with
    | none => simp [readNumber?, hd] at h
    | some d =>
      by_cases ht : d < threshold place bias
      · have : cs = rest := by simp [readNumber?, hd, ht] at h; exact h.2
        simp [this]
      · have := ih (by simpa [readNumber?, hd, ht] using h)
        simp only [List.length_cons]
        omega

/-- Divides until the rest is small, and counts the divisions in steps of the base. -/
def scale (delta steps : Nat) : Nat × Nat :=
  if 455 < delta then scale (delta / 35) (steps + 36) else (delta, steps)
termination_by delta
decreasing_by exact Nat.div_lt_self (by omega) (by omega)

/-- The bias for the next number, from how far the last one went among so many characters. -/
def adapted (delta count : Nat) (isFirst : Bool) : Nat :=
  let damped := if isFirst then delta / 700 else delta / 2
  let (delta, steps) := scale (damped + damped / count) 0
  steps + 36 * delta / (delta + 38)

/-- Inserts the characters that the numbers stand for. `code` and `position` are where the last one
went. -/
def insert? (bias code position : Nat) (text : List Char) (cs : List Char) : Option (List Char) :=
  if cs.isEmpty then some text
  else match _h : readNumber? bias 36 1 position cs with
    | none => none
    | some (n, rest) =>
      let count := text.length + 1
      let code := code + n / count
      if code.isValidChar then
        insert? (adapted (n - position) count (position == 0)) code
          (n % count + 1) (text.insertIdx (n % count) (Char.ofNat code)) rest
      else none
termination_by cs.length
decreasing_by exact length_lt_of_readNumber? _h

/-- The label that a text of ASCII characters stands for. -/
def decode? (cs : List Char) : Option (List Char) :=
  if cs.any fun c => decide (128 ≤ c.toNat) then none
  else match Text.splitFirst ['-'] cs.reverse with
    | none => insert? 72 128 0 [] cs
    | some (numbers, ascii) => insert? 72 128 0 ascii.reverse numbers.reverse

end Schemata.Url.Punycode
