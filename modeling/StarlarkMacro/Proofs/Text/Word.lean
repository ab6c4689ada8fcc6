/-!
# Words in front of a text

A word of some class of characters ends where the class does, so a text that begins with a word and goes
on outside the class has only one such beginning.
-/

namespace StarlarkMacro.Text

/-- A text is empty or begins outside the class. -/
def StartsOutside (p : Char → Bool) (cs : List Char) : Prop :=
  ∀ c rest, cs = c :: rest → p c = false

namespace StartsOutside

variable {p : Char → Bool}

theorem nil : StartsOutside p [] := by
  intro c rest h
  cases h

theorem cons {c : Char} {cs : List Char} (h : p c = false) : StartsOutside p (c :: cs) := by
  rintro _ _ ⟨⟩
  exact h

end StartsOutside

variable {p : Char → Bool} {word other rest more : List Char}

theorem takeWhile_word_append (hword : ∀ c ∈ word, p c = true) (hrest : StartsOutside p rest) :
    (word ++ rest).takeWhile p = word := by
  rw [List.takeWhile_append_of_pos hword]
  cases rest with
  | nil => simp
  | cons c rest => simp [hrest c rest rfl]

/-- Behind a word stands what was put there, if it does not go on as the word does. -/
theorem dropWhile_word_append (hword : ∀ c ∈ word, p c = true) (hrest : StartsOutside p rest) :
    (word ++ rest).dropWhile p = rest := by
  rw [List.dropWhile_append_of_pos hword]
  cases rest with
  | nil => simp
  | cons c rest => simp [hrest c rest rfl]

/-- Words are read uniquely where what follows them starts outside their characters. -/
theorem word_append_inj (hword : ∀ c ∈ word, p c = true) (hrest : StartsOutside p rest)
    (hother : ∀ c ∈ other, p c = true) (hmore : StartsOutside p more)
    (h : word ++ rest = other ++ more) : word = other ∧ rest = more := by
  constructor
  · rw [← takeWhile_word_append hword hrest, h, takeWhile_word_append hother hmore]
  · rw [← dropWhile_word_append hword hrest, h, dropWhile_word_append hother hmore]

end StarlarkMacro.Text
