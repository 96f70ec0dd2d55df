import RepoWatch.Proofs.Text.Search
/-!
# Marks

Where a text is cut, and which words were put together in it, can be told from a character that the
parts do not have.
-/

namespace RepoWatch.Text

section Marks

variable {α : Type} {mark : α} {xs xs' ys ys' : List α}

/-- A text is cut at its first mark in one way. -/
theorem eq_of_first_mark (hxs : mark ∉ xs) (hxs' : mark ∉ xs')
    (h : xs ++ mark :: ys = xs' ++ mark :: ys') : xs = xs' ∧ ys = ys' := by
  rcases List.append_eq_append_iff.1 h with ⟨zs, rfl, hrest⟩ | ⟨zs, rfl, hrest⟩
  · cases zs with
    | nil => exact ⟨(List.append_nil xs).symm, (List.cons.inj hrest).2⟩
    | cons z zs =>
        obtain ⟨rfl, -⟩ := List.cons.inj hrest
        exact absurd (List.mem_append_right xs List.mem_cons_self) hxs'
  · cases zs with
    | nil => exact ⟨List.append_nil xs', (List.cons.inj hrest).2.symm⟩
    | cons z zs =>
        obtain ⟨rfl, -⟩ := List.cons.inj hrest
        exact absurd (List.mem_append_right xs' List.mem_cons_self) hxs

/-- A text is cut at its last mark in one way. -/
theorem eq_of_last_mark (hys : mark ∉ ys) (hys' : mark ∉ ys')
    (h : xs ++ mark :: ys = xs' ++ mark :: ys') : xs = xs' ∧ ys = ys' := by
  have hreverse : ys.reverse ++ mark :: xs.reverse = ys'.reverse ++ mark :: xs'.reverse := by
    simpa using congrArg List.reverse h
  obtain ⟨hafter, hbefore⟩ := eq_of_first_mark (by simpa using hys) (by simpa using hys') hreverse
  exact ⟨List.reverse_inj.1 hbefore, List.reverse_inj.1 hafter⟩

variable {sep : List α} {words words' : List (List α)}

theorem mem_intercalate {x : α} (h : x ∈ sep.intercalate words) :
    x ∈ sep ∨ ∃ word ∈ words, x ∈ word := by
  induction words with
  | nil => simp at h
  | cons word words ih =>
      cases words with
      | nil => exact .inr ⟨word, List.mem_cons_self, by simpa using h⟩
      | cons next words =>
          rw [List.intercalate_cons_cons, List.mem_append, List.mem_append] at h
          rcases h with (hword | hsep) | hrest
          · exact .inr ⟨word, List.mem_cons_self, hword⟩
          · exact .inl hsep
          · obtain hsep | ⟨other, hmem, hother⟩ := ih hrest
            · exact .inl hsep
            · exact .inr ⟨other, List.mem_cons_of_mem _ hmem, hother⟩

/-- Words are told apart by a separator that begins with a mark, if they are not empty and do not have
the mark. -/
theorem eq_of_intercalate (hwords : ∀ word ∈ words, word ≠ [] ∧ mark ∉ word)
    (hwords' : ∀ word ∈ words', word ≠ [] ∧ mark ∉ word)
    (h : (mark :: sep).intercalate words = (mark :: sep).intercalate words') : words = words' := by
  induction words generalizing words' with
  | nil =>
      rcases words' with _ | ⟨word', _ | ⟨next', words'⟩⟩
      · rfl
      · exact absurd (by simpa using h) (hwords' _ List.mem_cons_self).1
      · simp at h
  | cons word words ih =>
      obtain ⟨hne, hmark⟩ := hwords word List.mem_cons_self
      rcases words' with _ | ⟨word', words'⟩
      · rcases words with _ | ⟨next, words⟩
        · exact absurd (by simpa using h) hne
        · simp at h
      · obtain ⟨-, hmark'⟩ := hwords' word' List.mem_cons_self
        rcases words with _ | ⟨next, words⟩ <;> rcases words' with _ | ⟨next', words'⟩
        · simpa using h
        · obtain rfl : word = _ := by simpa using h
          simp at hmark
        · obtain rfl : _ = word' := by simpa using h
          simp at hmark'
        · simp only [List.intercalate_cons_cons, List.append_assoc, List.cons_append] at h
          obtain ⟨rfl, hrest⟩ := eq_of_first_mark hmark hmark' h
          rw [ih (fun w hw => hwords w (List.mem_cons_of_mem _ hw))
            (fun w hw => hwords' w (List.mem_cons_of_mem _ hw)) (List.append_cancel_left hrest)]

end Marks

/-! ## Numbers -/

theorem comma_not_mem_toString (n : Nat) : ',' ∉ (toString n).toList := by
  intro hmem
  exact absurd (isDigit_of_mem_toString hmem) (by decide)

theorem toString_injective : Function.Injective fun n : Nat => toString n := by
  intro n m h
  have hread := congrArg (fun text : String => Nat.ofDigitChars 10 text.toList 0) h
  simpa [Nat.toString_eq_repr, Nat.toList_repr] using hread

end RepoWatch.Text
