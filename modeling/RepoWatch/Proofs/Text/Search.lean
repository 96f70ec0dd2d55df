import RepoWatch.Text.Search
/-!
# Occurrences

A search for a text finds it exactly if the text stands somewhere in what is searched.
-/

namespace RepoWatch.Text

/-- A text stands somewhere in another one. -/
def Occurs (part whole : String) : Prop := ∃ before after, whole = before ++ part ++ after

variable {part whole : String}

theorem occursIn_iff {part cs : List Char} : occursIn part cs = true ↔ part <:+: cs := by
  induction cs with
  | nil => simp [occursIn]
  | cons c cs ih => simp [occursIn, List.infix_cons_iff, List.isPrefixOf_iff_prefix, ih]

theorem occurs_iff : Occurs part whole ↔ part.toList <:+: whole.toList := by
  constructor
  · rintro ⟨before, after, rfl⟩
    exact ⟨before.toList, after.toList, by simp [String.toList_append]⟩
  · rintro ⟨before, after, hwhole⟩
    refine ⟨.ofList before, .ofList after, ?_⟩
    apply String.ext
    simp [String.toList_append, ← hwhole]

theorem contains_iff : contains whole part = true ↔ Occurs part whole := by
  rw [contains, occursIn_iff, occurs_iff]

/-- A text does not stand where one of its characters does not. -/
theorem not_occurs_of_notMem {c : Char} (hpart : c ∈ part.toList) (hwhole : c ∉ whole.toList) :
    ¬ Occurs part whole := by
  intro h
  exact hwhole ((occurs_iff.1 h).subset hpart)

/-- A number is written in digits. -/
theorem isDigit_of_mem_toString {n : Nat} {c : Char} (h : c ∈ (toString n).toList) :
    c.isDigit = true := by
  have hdigits : c ∈ Nat.toDigits 10 n := by
    rw [← Nat.toList_repr]
    exact h
  exact Nat.isDigit_of_mem_toDigits (by decide) (by decide) hdigits

end RepoWatch.Text
