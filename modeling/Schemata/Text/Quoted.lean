/-!
# Quoted names

A quoted name stands between an opening and a closing character, and a closing character inside the
name is written twice. `enclose` writes that form and `scan` reads it back: it takes the name off the
front of a text and leaves what follows (`scan_append`), whatever the name holds, as long as what
follows does not begin with the closing character.
-/

namespace Schemata.Text.Quoted

/-- The text with every closing character written twice. -/
def double (close : Char) : List Char → List Char
  | [] => []
  | c :: cs => if c = close then close :: c :: double close cs else c :: double close cs

/-- The quoted form of a name. -/
def enclose (opening close : Char) (name : List Char) : List Char :=
  opening :: (double close name ++ [close])

/-- Reads up to the closing character that is not doubled; the opening one is already read. -/
def scan (close : Char) : List Char → Option (List Char × List Char)
  | [] => none
  | [c] => if c = close then some ([], []) else none
  | c :: d :: cs =>
    if c = close then
      if d = close then (scan close cs).map fun (name, rest) => (close :: name, rest)
      else some ([], d :: cs)
    else (scan close (d :: cs)).map fun (name, rest) => (c :: name, rest)

/-- A quoted name as a string. -/
def quote (opening close : Char) (name : String) : String :=
  String.ofList (enclose opening close name.toList)

theorem toList_quote (opening close : Char) (name : String) :
    (quote opening close name).toList = enclose opening close name.toList := by
  simp [quote]

theorem double_of_not_mem {close : Char} {name : List Char} (h : close ∉ name) :
    double close name = name := by
  induction name with
  | nil => rfl
  | cons c name ih =>
    have hc : c ≠ close := by
      rintro rfl
      exact h List.mem_cons_self
    have hname := ih fun hmem => h (List.mem_cons_of_mem c hmem)
    simp [double, hc, hname]

theorem double_append (close : Char) (front back : List Char) :
    double close (front ++ back) = double close front ++ double close back := by
  induction front with
  | nil => rfl
  | cons c front ih =>
    by_cases hc : c = close
    · simp [double, hc, ih]
    · simp [double, hc, ih]

theorem scan_close {close : Char} {rest : List Char} (h : rest.head? ≠ some close) :
    scan close (close :: rest) = some ([], rest) := by
  cases rest with
  | nil => simp [scan]
  | cons d cs =>
    have hd : d ≠ close := fun e => h (by simp [e])
    simp [scan, hd]

theorem scan_cons {close c : Char} {cs : List Char} (h : c ≠ close) :
    scan close (c :: cs) = (scan close cs).map fun (name, rest) => (c :: name, rest) := by
  cases cs with
  | nil => simp [scan, h]
  | cons d cs => simp [scan, h]

/-- Reading takes back what `enclose` wrote and stops right behind it. -/
theorem scan_append {close : Char} {name rest : List Char} (h : rest.head? ≠ some close) :
    scan close (double close name ++ close :: rest) = some (name, rest) := by
  induction name with
  | nil => exact scan_close h
  | cons c cs ih =>
    by_cases hc : c = close
    · subst hc
      simp only [double, ite_true, List.cons_append]
      simp [scan, ih]
    · simp only [double, hc, ite_false, List.cons_append]
      rw [scan_cons hc, ih]
      rfl

end Schemata.Text.Quoted
