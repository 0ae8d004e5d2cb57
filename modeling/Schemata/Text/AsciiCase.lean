/-!
# ASCII case

Column names, type tags and backend names are compared with the case of ASCII letters ignored; all
other characters have to agree exactly. `eqIgnoreCase` is agreement of the folded texts, so it is an
equivalence.
-/

namespace Schemata.Text

/-- A string with its ASCII letters in lower case. -/
def foldCase (s : String) : String :=
  String.ofList (s.toList.map Char.toLower)

/-- Agreement up to the case of ASCII letters. -/
def eqIgnoreCase (s t : String) : Bool :=
  s.toList.map Char.toLower == t.toList.map Char.toLower

theorem eqIgnoreCase_iff {s t : String} :
    eqIgnoreCase s t = true ↔ s.toList.map Char.toLower = t.toList.map Char.toLower := by
  simp [eqIgnoreCase]

theorem eqIgnoreCase_refl (s : String) : eqIgnoreCase s s = true := by
  simp [eqIgnoreCase]

theorem eqIgnoreCase_comm (s t : String) : eqIgnoreCase s t = eqIgnoreCase t s := by
  simp only [eqIgnoreCase, Bool.beq_comm]

theorem eqIgnoreCase_trans {s t u : String} (hst : eqIgnoreCase s t = true)
    (htu : eqIgnoreCase t u = true) : eqIgnoreCase s u = true := by
  rw [eqIgnoreCase_iff] at *
  exact hst.trans htu

end Schemata.Text
