import TypedOptions.Regex.Matching

/-!
# Matches

An expression matches the characters between two places of a text.  The search
leads from a set of places to exactly those places where the matches that begin
there end.
-/

namespace TypedOptions.Regex

variable {text : Array Char} {expression body : Regex} {i j k : Nat}

/-! ## Repeated steps -/

/-- A number of steps of a relation. -/
def Steps (step : Nat → Nat → Prop) : Nat → Nat → Nat → Prop
  | 0, i, j => i = j
  | count + 1, i, j => ∃ k, step i k ∧ Steps step count k j

section Steps

variable {step : Nat → Nat → Prop} {first second count : Nat}

theorem steps_add :
    Steps step (first + second) i j ↔ ∃ k, Steps step first i k ∧ Steps step second k j := by
  induction first generalizing i with
  | zero => simp [Steps]
  | succ first ih =>
      rw [Nat.succ_add_eq_add_succ, Nat.add_succ]
      simp only [Steps, ih]
      constructor
      · rintro ⟨l, hstep, k, hfirst, hsecond⟩
        exact ⟨k, ⟨l, hstep, hfirst⟩, hsecond⟩
      · rintro ⟨k, ⟨l, hstep, hfirst⟩, hsecond⟩
        exact ⟨l, hstep, k, hfirst, hsecond⟩

theorem Steps.le (hle : ∀ i j, step i j → i ≤ j) (hsteps : Steps step count i j) : i ≤ j := by
  induction count generalizing i with
  | zero => exact Nat.le_of_eq hsteps
  | succ count ih =>
      obtain ⟨k, hstep, hrest⟩ := hsteps
      exact Nat.le_trans (hle i k hstep) (ih hrest)

/-- Steps that stay at their place are not needed, and the others go forward. -/
theorem Steps.exists_le_sub (hle : ∀ i j, step i j → i ≤ j) (hsteps : Steps step count i j) :
    ∃ fewer ≤ count, fewer ≤ j - i ∧ Steps step fewer i j := by
  induction count generalizing i with
  | zero => exact ⟨0, Nat.le_refl _, Nat.zero_le _, hsteps⟩
  | succ count ih =>
      obtain ⟨k, hstep, hrest⟩ := hsteps
      obtain ⟨fewer, hfewer, hdistance, hshort⟩ := ih hrest
      have hik := hle i k hstep
      have hkj := hrest.le hle
      by_cases hstays : i = k
      · exact ⟨fewer, by omega, by omega, hstays ▸ hshort⟩
      · exact ⟨fewer + 1, by omega, by omega, k, hstep, hshort⟩

end Steps

/-! ## Matches -/

/-- The expression matches the characters between two places. -/
def Matches (text : Array Char) : Regex → Nat → Nat → Prop
  | .empty, i, j => i = j
  | .char set, i, j => text[i]?.any set.contains = true ∧ j = i + 1
  | .assert condition, i, j => condition.holds text i = true ∧ i = j
  | .sequence first second, i, j => ∃ k, first.Matches text i k ∧ second.Matches text k j
  | .alternative first second, i, j => first.Matches text i j ∨ second.Matches text i j
  | .repetition body least greatest?, i, j =>
      ∃ more, (∀ greatest, greatest? = some greatest → more ≤ greatest - least) ∧
        Steps (body.Matches text) (least + more) i j
  | .capture body, i, j => body.Matches text i j

theorem matches_sequence_assoc {first second third : Regex} :
    (sequence (sequence first second) third).Matches text i j ↔
      (sequence first (sequence second third)).Matches text i j := by
  constructor
  · rintro ⟨l, ⟨k, hfirst, hsecond⟩, hthird⟩
    exact ⟨k, hfirst, l, hsecond, hthird⟩
  · rintro ⟨k, hfirst, l, hsecond, hthird⟩
    exact ⟨l, ⟨k, hfirst, hsecond⟩, hthird⟩

theorem Matches.le (hmatches : expression.Matches text i j) : i ≤ j := by
  induction expression generalizing i j with
  | empty => exact Nat.le_of_eq hmatches
  | char set => exact hmatches.2 ▸ Nat.le_succ i
  | assert condition => exact Nat.le_of_eq hmatches.2
  | sequence first second ihFirst ihSecond =>
      obtain ⟨k, hfirst, hsecond⟩ := hmatches
      exact Nat.le_trans (ihFirst hfirst) (ihSecond hsecond)
  | alternative first second ihFirst ihSecond => exact hmatches.elim ihFirst ihSecond
  | repetition body least greatest? ih =>
      obtain ⟨more, -, hsteps⟩ := hmatches
      exact hsteps.le fun i j => ih
  | capture body ih => exact ih hmatches

theorem Steps.le_size {step : Nat → Nat → Prop} {size count : Nat}
    (hle : ∀ i j, step i j → i ≤ size → j ≤ size) (hsteps : Steps step count i j)
    (hi : i ≤ size) : j ≤ size := by
  induction count generalizing i with
  | zero => exact hsteps ▸ hi
  | succ count ih =>
      obtain ⟨k, hstep, hrest⟩ := hsteps
      exact ih hrest (hle i k hstep hi)

theorem Matches.le_size (hmatches : expression.Matches text i j) (hi : i ≤ text.size) :
    j ≤ text.size := by
  induction expression generalizing i j with
  | empty => exact hmatches ▸ hi
  | char set =>
      obtain ⟨hany, rfl⟩ := hmatches
      have hplace : i < text.size := by
        refine Nat.lt_of_not_le fun hbeyond => ?_
        rw [Array.getElem?_eq_none hbeyond] at hany
        cases hany
      exact hplace
  | assert condition => exact hmatches.2 ▸ hi
  | sequence first second ihFirst ihSecond =>
      obtain ⟨k, hfirst, hsecond⟩ := hmatches
      exact ihSecond hsecond (ihFirst hfirst hi)
  | alternative first second ihFirst ihSecond =>
      exact hmatches.elim (ihFirst · hi) (ihSecond · hi)
  | repetition body least greatest? ih =>
      obtain ⟨more, -, hsteps⟩ := hmatches
      exact hsteps.le_size (fun i j => ih) hi
  | capture body ih => exact ih hmatches hi

/-! ## The search -/

/-- A function on sets of places follows a relation up to some place. -/
def Follows (size : Nat) (follow : List Nat → List Nat) (step : Nat → Nat → Prop) : Prop :=
  ∀ places, (∀ i ∈ places, i ≤ size) → ∀ j, j ∈ follow places ↔ ∃ i ∈ places, step i j

section Search

variable {size : Nat} {follow : List Nat → List Nat} {step : Nat → Nat → Prop}

theorem Follows.le_size (hfollow : Follows size follow step)
    (hle : ∀ i j, step i j → i ≤ size → j ≤ size) {places : List Nat}
    (hplaces : ∀ i ∈ places, i ≤ size) : ∀ j ∈ follow places, j ≤ size := by
  intro j hj
  obtain ⟨i, hi, hstep⟩ := (hfollow places hplaces j).1 hj
  exact hle i j hstep (hplaces i hi)

theorem follows_exactly (hfollow : Follows size follow step)
    (hle : ∀ i j, step i j → i ≤ size → j ≤ size) (count : Nat) :
    Follows size (exactly follow count) (Steps step count) := by
  induction count with
  | zero =>
      intro places hplaces j
      simp [exactly, Steps]
  | succ count ih =>
      intro places hplaces j
      rw [exactly]
      split
      · rename_i hnil
        simp [hnil]
      · rw [ih _ (hfollow.le_size hle hplaces)]
        simp only [hfollow places hplaces, Steps]
        constructor
        · rintro ⟨k, ⟨i, hi, hstep⟩, hsteps⟩
          exact ⟨i, hi, k, hstep, hsteps⟩
        · rintro ⟨i, hi, k, hstep, hsteps⟩
          exact ⟨k, ⟨i, hi, hstep⟩, hsteps⟩

theorem Steps.mem_of_closed {places : List Nat} {count : Nat}
    (hclosed : ∀ i ∈ places, ∀ k, step i k → k ∈ places) (hsteps : Steps step count i j)
    (hi : i ∈ places) : j ∈ places := by
  induction count generalizing i with
  | zero => exact hsteps ▸ hi
  | succ count ih =>
      obtain ⟨k, hstep, hrest⟩ := hsteps
      exact ih hrest (hclosed i hi k hstep)

/-- Where the steps from all places that are not fresh have been made, the search leads to what a
few steps lead to. -/
theorem mem_atMost_iff (hfollow : Follows size follow step)
    (hle : ∀ i j, step i j → i ≤ size → j ≤ size) {count : Nat} {places fresh : List Nat}
    (hplaces : ∀ i ∈ places, i ≤ size) (hfresh : ∀ i ∈ fresh, i ∈ places)
    (hmade : ∀ i ∈ places, i ∉ fresh → ∀ k, step i k → k ∈ places) :
    j ∈ atMost follow count places fresh ↔
      ∃ i ∈ places, ∃ few ≤ count, Steps step few i j := by
  induction count generalizing places fresh with
  | zero =>
      constructor
      · exact fun hj => ⟨j, hj, 0, Nat.le_refl 0, rfl⟩
      · rintro ⟨i, hi, few, hfew, hsteps⟩
        cases Nat.le_zero.1 hfew
        exact hsteps ▸ hi
  | succ count ih =>
      rw [atMost]
      have hfollowed : ∀ k, k ∈ (follow fresh).filter (fun place => !places.contains place) ↔
          (∃ i ∈ fresh, step i k) ∧ k ∉ places := fun k => by
        rw [List.mem_filter, hfollow fresh fun i hi => hplaces i (hfresh i hi)]
        simp
      generalize (follow fresh).filter (fun place => !places.contains place) = next at hfollowed
      have hstepped : ∀ i ∈ places, ∀ k, step i k → k ∈ places ++ next := by
        intro i hi k hstep
        by_cases hk : k ∈ places
        · exact List.mem_append_left next hk
        · by_cases hif : i ∈ fresh
          · exact List.mem_append_right places ((hfollowed k).2 ⟨⟨i, hif, hstep⟩, hk⟩)
          · exact absurd (hmade i hi hif k hstep) hk
      split
      · rename_i hnil
        subst hnil
        rw [List.append_nil] at hstepped
        constructor
        · exact fun hj => ⟨j, hj, 0, Nat.zero_le _, rfl⟩
        · rintro ⟨i, hi, few, -, hsteps⟩
          exact hsteps.mem_of_closed hstepped hi
      · rw [ih]
        · constructor
          · rintro ⟨i, hi, few, hfew, hsteps⟩
            rcases List.mem_append.1 hi with hi | hi
            · exact ⟨i, hi, few, Nat.le_succ_of_le hfew, hsteps⟩
            · obtain ⟨⟨first, hfirst, hstep⟩, -⟩ := (hfollowed i).1 hi
              exact ⟨first, hfresh first hfirst, few + 1, Nat.succ_le_succ hfew, i, hstep, hsteps⟩
          · rintro ⟨i, hi, few, hfew, hsteps⟩
            cases few with
            | zero => exact ⟨i, List.mem_append_left next hi, 0, Nat.zero_le _, hsteps⟩
            | succ few =>
                obtain ⟨k, hstep, hrest⟩ := hsteps
                exact ⟨k, hstepped i hi k hstep, few, Nat.le_of_succ_le_succ hfew, hrest⟩
        · intro i hi
          rcases List.mem_append.1 hi with hi | hi
          · exact hplaces i hi
          · obtain ⟨⟨first, hfirst, hstep⟩, -⟩ := (hfollowed i).1 hi
            exact hle first i hstep (hplaces first (hfresh first hfirst))
        · exact fun i hi => List.mem_append_right places hi
        · intro i hi hnext k hstep
          exact hstepped i ((List.mem_append.1 hi).resolve_right hnext) k hstep

end Search

/-- How many steps beyond the least number the search makes in a text of some size. -/
def searchLimit (size least : Nat) : Option Nat → Nat
  | some greatest => min (greatest - least) (size + 1)
  | none => size + 1

theorem le_searchLimit_iff {size least few : Nat} {greatest? : Option Nat} :
    few ≤ searchLimit size least greatest? ↔
      few ≤ size + 1 ∧ ∀ greatest, greatest? = some greatest → few ≤ greatest - least := by
  cases greatest? with
  | none => simp [searchLimit]
  | some greatest =>
      simp only [searchLimit, Option.some.injEq, forall_eq']
      omega

/-- The search finds the matches. -/
theorem follows_ends (text : Array Char) (expression : Regex) :
    Follows text.size (expression.ends text) (expression.Matches text) := by
  induction expression with
  | empty =>
      intro places hplaces j
      simp [Matches]
  | char set =>
      intro places hplaces j
      simp only [ends, List.mem_map, List.mem_filter, Matches]
      constructor
      · rintro ⟨i, ⟨hi, hany⟩, rfl⟩
        exact ⟨i, hi, hany, rfl⟩
      · rintro ⟨i, hi, hany, rfl⟩
        exact ⟨i, ⟨hi, hany⟩, rfl⟩
  | assert condition =>
      intro places hplaces j
      simp only [ends, List.mem_filter, Matches]
      constructor
      · rintro ⟨hj, hholds⟩
        exact ⟨j, hj, hholds, rfl⟩
      · rintro ⟨i, hi, hholds, rfl⟩
        exact ⟨hi, hholds⟩
  | sequence first second ihFirst ihSecond =>
      intro places hplaces j
      rw [ends_sequence, ihSecond _ (ihFirst.le_size (fun i j => Matches.le_size) hplaces)]
      simp only [ihFirst places hplaces, Matches]
      constructor
      · rintro ⟨k, ⟨i, hi, hfirst⟩, hsecond⟩
        exact ⟨i, hi, k, hfirst, hsecond⟩
      · rintro ⟨i, hi, k, hfirst, hsecond⟩
        exact ⟨k, ⟨i, hi, hfirst⟩, hsecond⟩
  | alternative first second ihFirst ihSecond =>
      intro places hplaces j
      rw [ends, mem_unite, ihFirst places hplaces, ihSecond places hplaces]
      simp only [Matches, and_or_left, exists_or]
  | repetition body least greatest? ih =>
      intro places hplaces j
      have hreached := follows_exactly ih (fun i j => Matches.le_size) least
      have hinside := hreached.le_size (fun i j hsteps => hsteps.le_size fun i j => Matches.le_size)
        hplaces
      refine (mem_atMost_iff ih (fun i j => Matches.le_size) hinside (fun i hi => hi)
        fun i hi hnot => absurd hi hnot).trans ?_
      simp only [hreached places hplaces, Matches]
      constructor
      · rintro ⟨k, ⟨i, hi, hleast⟩, few, hfew, hmore⟩
        exact ⟨i, hi, few, (le_searchLimit_iff.1 hfew).2, steps_add.2 ⟨k, hleast, hmore⟩⟩
      · rintro ⟨i, hi, more, hgreatest, hsteps⟩
        obtain ⟨k, hleast, hmore⟩ := steps_add.1 hsteps
        obtain ⟨few, hfew, hdistance, hshort⟩ := hmore.exists_le_sub fun i j => Matches.le
        have hj := hsteps.le_size (fun i j => Matches.le_size) (hplaces i hi)
        have hlimit : few ≤ searchLimit text.size least greatest? :=
          le_searchLimit_iff.2 ⟨by omega, fun greatest hsome =>
            Nat.le_trans hfew (hgreatest greatest hsome)⟩
        exact ⟨k, ⟨i, hi, hleast⟩, few, hlimit, hshort⟩
  | capture body ih =>
      intro places hplaces j
      exact ih places hplaces j

/-! ## Matches of whole texts -/

theorem isMatch_iff {value : String} :
    expression.isMatch value = true ↔
      ∃ i ≤ value.toList.toArray.size, ∃ j, expression.Matches value.toList.toArray i j := by
  have hmem := follows_ends value.toList.toArray expression
    (List.range (value.toList.toArray.size + 1)) fun i hi => Nat.le_of_lt_succ (List.mem_range.1 hi)
  simp only [List.mem_range, Nat.lt_succ_iff] at hmem
  rw [isMatch, bne_iff_ne]
  constructor
  · intro hfound
    obtain ⟨j, hj⟩ := List.exists_mem_of_ne_nil _ hfound
    obtain ⟨i, hi, hmatches⟩ := (hmem j).1 hj
    exact ⟨i, hi, j, hmatches⟩
  · rintro ⟨i, hi, j, hmatches⟩
    exact List.ne_nil_of_mem ((hmem j).2 ⟨i, hi, hmatches⟩)

theorem spans_iff {value : String} :
    expression.spans value = true ↔
      expression.Matches value.toList.toArray 0 value.toList.toArray.size := by
  have hmem := follows_ends value.toList.toArray expression [0] fun i hi =>
    List.mem_singleton.1 hi ▸ Nat.zero_le _
  rw [spans, List.contains_iff_mem, hmem]
  simp

/-- The expression between the beginning and the end of a text. -/
def enclosed (own : Regex) : Regex :=
  .sequence (.assert .textStart) (.sequence own (.assert .textEnd))

theorem holds_textStart_iff (hi : i ≤ text.size) :
    Assertion.textStart.holds text i = true ↔ i = 0 := by
  simp only [Assertion.holds, Assertion.charBefore?, Option.isNone_iff_eq_none]
  split
  · simp [*]
  · simp [*]
    omega

theorem holds_textEnd_iff : Assertion.textEnd.holds text j = true ↔ text.size ≤ j := by
  simp [Assertion.holds]

/-- An enclosed expression is found in the texts that the expression matches as a whole. -/
theorem isMatch_enclosed_iff {own : Regex} {value : String} :
    (enclosed own).isMatch value = true ↔
      own.Matches value.toList.toArray 0 value.toList.toArray.size := by
  rw [isMatch_iff]
  constructor
  · rintro ⟨i, hi, j, k, ⟨hstart, rfl⟩, l, hown, hend, rfl⟩
    rw [holds_textStart_iff hi] at hstart
    rw [holds_textEnd_iff] at hend
    subst hstart
    exact Nat.le_antisymm (hown.le_size hi) hend ▸ hown
  · intro hown
    exact ⟨0, Nat.zero_le _, _, 0, ⟨(holds_textStart_iff (Nat.zero_le _)).2 rfl, rfl⟩, _, hown,
      holds_textEnd_iff.2 (Nat.le_refl _), rfl⟩

end TypedOptions.Regex
