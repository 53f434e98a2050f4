/-!
# Lines and pieces of a text

A line ends at a line feed, and a carriage return just before the line feed
belongs to the line end.  A text is cut at the first or at every occurrence
of a separator.
-/

namespace TypedOptions.Text

/-- The lines of a text without their ends; a final line end opens no further line. -/
def lines : List Char → List (List Char)
  | [] => []
  | '\n' :: rest => [] :: lines rest
  | '\r' :: '\n' :: rest => [] :: lines rest
  | c :: rest =>
      match lines rest with
      | [] => [[c]]
      | line :: more => (c :: line) :: more

@[simp] theorem lines_nil : lines [] = [] := by
  simp [lines]

@[simp] theorem lines_newline (rest : List Char) : lines ('\n' :: rest) = [] :: lines rest := by
  simp [lines]

/-- What stands before and after the first separator, if there is one. -/
def splitFirst (separator : Char) : List Char → Option (List Char × List Char)
  | [] => none
  | c :: rest =>
      if c = separator then some ([], rest)
      else (splitFirst separator rest).map fun (before, after) => (c :: before, after)

/-- All pieces between separators; a text without separator is one piece. -/
def splitAll (separator : Char) : List Char → List (List Char)
  | [] => [[]]
  | c :: rest =>
      if c = separator then [] :: splitAll separator rest
      else
        match splitAll separator rest with
        | [] => [[c]]
        | piece :: more => (c :: piece) :: more

@[simp] theorem splitFirst_nil (separator : Char) : splitFirst separator [] = none :=
  rfl

theorem splitFirst_eq_some {separator : Char} {text before after : List Char}
    (h : splitFirst separator text = some (before, after)) :
    text = before ++ separator :: after ∧ separator ∉ before := by
  induction text generalizing before after with
  | nil => simp [splitFirst] at h
  | cons c rest ih =>
      by_cases hc : c = separator
      · simp only [splitFirst, hc, if_true, Option.some.injEq, Prod.mk.injEq] at h
        obtain ⟨rfl, rfl⟩ := h
        simp [hc]
      · simp only [splitFirst, hc, if_false, Option.map_eq_some_iff] at h
        obtain ⟨⟨first, second⟩, hrest, heq⟩ := h
        simp only [Prod.mk.injEq] at heq
        obtain ⟨rfl, rfl⟩ := heq
        obtain ⟨htext, hnot⟩ := ih hrest
        refine ⟨by simp [htext], ?_⟩
        simp only [List.mem_cons, not_or]
        exact ⟨fun heq => hc heq.symm, hnot⟩

theorem splitFirst_append {separator : Char} {before : List Char} (after : List Char)
    (h : separator ∉ before) :
    splitFirst separator (before ++ separator :: after) = some (before, after) := by
  induction before with
  | nil => simp [splitFirst]
  | cons c rest ih =>
      simp only [List.mem_cons, not_or] at h
      have hc : c ≠ separator := fun heq => h.1 heq.symm
      simp [splitFirst, hc, ih h.2]

theorem splitFirst_of_not_mem {separator : Char} {text : List Char} (h : separator ∉ text) :
    splitFirst separator text = none := by
  induction text with
  | nil => rfl
  | cons c rest ih =>
      simp only [List.mem_cons, not_or] at h
      have hc : c ≠ separator := fun heq => h.1 heq.symm
      simp [splitFirst, hc, ih h.2]

theorem splitAll_ne_nil (separator : Char) (text : List Char) : splitAll separator text ≠ [] := by
  cases text with
  | nil => simp [splitAll]
  | cons c rest =>
      simp only [splitAll]
      split
      · simp
      · split <;> simp

end TypedOptions.Text
