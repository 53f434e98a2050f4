import Mathlib.Data.List.Basic
import TypedOptions.PathTemplate

/-!
# Templates that are filled

A template is read from left to right, as percent signs that are written
twice, as places, and as single characters.  A text behind another one is
filled by itself, with the arguments that are left, unless it goes on with
what a percent sign at the end of the first has begun.  A text in which no
percent sign goes together with what is behind it stays as it is.
-/

namespace TypedOptions.PathTemplate

/-- The letters of places. -/
def letters : List Char :=
  ['s', 'd']

/-- What a percent sign goes together with. -/
def marks : List Char :=
  ['%', 's', 'd']

/-- The character is no percent sign that goes together with what is behind it. -/
def StandsAlone (c : Char) (rest : List Char) : Prop :=
  c = '%' → ∀ next ∈ rest.head?, next ∉ marks

instance (c : Char) : (rest : List Char) → Decidable (StandsAlone c rest)
  | [] => isTrue fun _ _ hnext => nomatch hnext
  | next :: _ => decidable_of_iff (c = '%' → next ∉ marks) (by simp [StandsAlone])

theorem ne_percent_of_mem_letters {letter : Char} (hletter : letter ∈ letters) : letter ≠ '%' := by
  rintro rfl
  exact absurd hletter (by decide)

theorem ne_slash_of_mem_letters {letter : Char} (hletter : letter ∈ letters) : letter ≠ '/' := by
  rintro rfl
  exact absurd hletter (by decide)

theorem StandsAlone.false_of_cons {c next : Char} {rest more : List Char}
    (halone : StandsAlone c rest) (hnext : next ∈ marks) (hpercent : c = '%')
    (hrest : rest = next :: more) : False :=
  halone hpercent next (hrest ▸ rfl) hnext

theorem standsAlone_append {c : Char} {rest after : List Char} (hc : StandsAlone c rest)
    (hafter : ∀ next ∈ after.head?, next ∉ marks) : StandsAlone c (rest ++ after) := by
  intro hpercent next hnext
  cases rest with
  | nil => exact hafter next hnext
  | cons first more => exact hc hpercent next hnext

/-- Induction along the reading of a template. -/
theorem reading {motive : List Char → Prop} (nil : motive [])
    (double : ∀ rest, motive rest → motive ('%' :: '%' :: rest))
    (place : ∀ letter rest, letter ∈ letters → motive rest → motive ('%' :: letter :: rest))
    (single : ∀ c rest, StandsAlone c rest → motive rest → motive (c :: rest)) :
    ∀ text, motive text
  | [] => nil
  | [c] => single c [] (fun _ _ hnone => nomatch hnone) nil
  | c :: next :: rest => by
      have hrest := reading nil double place single rest
      have hnext := reading nil double place single (next :: rest)
      by_cases hmark : c = '%' ∧ next ∈ marks
      · obtain ⟨rfl, hmark⟩ := hmark
        rcases List.mem_cons.1 hmark with rfl | hletter
        · exact double rest hrest
        · exact place next rest hletter hrest
      · refine single c (next :: rest) (fun hpercent first hfirst => ?_) hnext
        cases hfirst
        exact fun hfirst => hmark ⟨hpercent, hfirst⟩

/-! ## Filling -/

theorem fill_place {letter : Char} (hletter : letter ∈ letters) (rest arg : List Char)
    (args : List (List Char)) :
    fill ('%' :: letter :: rest) (arg :: args) = arg ++ fill rest args := by
  simp only [letters, List.mem_cons, List.not_mem_nil, or_false] at hletter
  rcases hletter with rfl | rfl <;> rfl

theorem fill_single {c : Char} {rest : List Char} (halone : StandsAlone c rest)
    (args : List (List Char)) : fill (c :: rest) args = c :: fill rest args := by
  rw [fill]
  · exact fun _ => halone.false_of_cons (by decide)
  · exact fun _ _ _ _ => halone.false_of_cons (by decide)
  · exact fun _ _ _ _ => halone.false_of_cons (by decide)

/-- A place without argument. -/
theorem fill_place_nil {letter : Char} (hletter : letter ∈ letters) (rest : List Char) :
    fill ('%' :: letter :: rest) [] = '%' :: letter :: fill rest [] := by
  simp only [letters, List.mem_cons, List.not_mem_nil, or_false] at hletter
  rcases hletter with rfl | rfl <;> rfl

/-- How many arguments the places of a text take. -/
def places : List Char → Nat
  | '%' :: '%' :: rest => places rest
  | '%' :: 's' :: rest => places rest + 1
  | '%' :: 'd' :: rest => places rest + 1
  | _ :: rest => places rest
  | [] => 0

@[simp] theorem places_nil : places [] = 0 :=
  rfl

@[simp] theorem places_double (rest : List Char) : places ('%' :: '%' :: rest) = places rest :=
  rfl

theorem places_place {letter : Char} (hletter : letter ∈ letters) (rest : List Char) :
    places ('%' :: letter :: rest) = places rest + 1 := by
  simp only [letters, List.mem_cons, List.not_mem_nil, or_false] at hletter
  rcases hletter with rfl | rfl <;> rfl

theorem places_single {c : Char} {rest : List Char} (halone : StandsAlone c rest) :
    places (c :: rest) = places rest := by
  rw [places]
  · exact fun _ => halone.false_of_cons (by decide)
  · exact fun _ => halone.false_of_cons (by decide)
  · exact fun _ => halone.false_of_cons (by decide)

/-- What a text with some arguments is filled to, by what stands first in it. -/
inductive Filled : List Char → List (List Char) → List Char → Prop where
  | nil (args : List (List Char)) : Filled [] args []
  | double {rest result : List Char} {args : List (List Char)} (hrest : Filled rest args result) :
      Filled ('%' :: '%' :: rest) args ('%' :: result)
  | place {letter : Char} {rest result : List Char} {args : List (List Char)} (arg : List Char)
      (hletter : letter ∈ letters) (hrest : Filled rest args result) :
      Filled ('%' :: letter :: rest) (arg :: args) (arg ++ result)
  | missing {letter : Char} {rest result : List Char} (hletter : letter ∈ letters)
      (hrest : Filled rest [] result) : Filled ('%' :: letter :: rest) [] ('%' :: letter :: result)
  | single {c : Char} {rest result : List Char} {args : List (List Char)}
      (halone : StandsAlone c rest) (hrest : Filled rest args result) :
      Filled (c :: rest) args (c :: result)

theorem filled_fill (text : List Char) (args : List (List Char)) :
    Filled text args (fill text args) := by
  induction text using reading generalizing args with
  | nil => exact fill_nil args ▸ .nil args
  | double rest ih => exact fill_percent_percent rest args ▸ .double (ih args)
  | place letter rest hletter ih =>
      cases args with
      | nil => exact fill_place_nil hletter rest ▸ .missing hletter (ih [])
      | cons arg more => exact fill_place hletter rest arg more ▸ .place arg hletter (ih more)
  | single c rest halone ih => exact fill_single halone args ▸ .single halone (ih args)

/-- What is behind a text is filled with the arguments that the text leaves. -/
theorem Filled.fill_append {before result after : List Char} {args : List (List Char)}
    (hbefore : Filled before args result) (hafter : ∀ next ∈ after.head?, next ∉ marks) :
    fill (before ++ after) args = result ++ fill after (args.drop (places before)) := by
  induction hbefore with
  | nil args => simp
  | double hrest ih => simp [ih]
  | place arg hletter hrest ih =>
      rw [List.cons_append, List.cons_append, fill_place hletter, places_place hletter, ih,
        List.drop_succ_cons, List.append_assoc]
  | missing hletter hrest ih => simp [fill_place_nil hletter, ih]
  | single halone hrest ih =>
      rw [List.cons_append, fill_single (standsAlone_append halone hafter), places_single halone,
        ih, List.cons_append]

theorem places_append_slash (before rest : List Char) :
    places (before ++ '/' :: rest) = places before + places rest := by
  have hslash : ∀ rest : List Char, StandsAlone '/' rest :=
    fun _ hpercent => absurd hpercent (by decide)
  induction before using reading with
  | nil => rw [List.nil_append, places_single (hslash rest), places_nil, Nat.zero_add]
  | double text ih => simp [ih]
  | place letter text hletter ih =>
      rw [List.cons_append, List.cons_append, places_place hletter, places_place hletter, ih]
      omega
  | single c text halone ih =>
      rw [List.cons_append, places_single (standsAlone_append halone (by simp [marks])),
        places_single halone, ih]

theorem fill_append_slash (before rest : List Char) (args : List (List Char)) :
    fill (before ++ '/' :: rest) args =
      fill before args ++ '/' :: fill rest (args.drop (places before)) := by
  rw [(filled_fill before args).fill_append (by simp [marks]), fill_cons_of_ne _ _ (by decide)]

/-- Arguments behind the last place are not looked at. -/
theorem Filled.fill_take {text result : List Char} {args : List (List Char)} {count : Nat}
    (hfilled : Filled text args result) (hcount : places text ≤ count) :
    fill text (args.take count) = result := by
  induction hfilled generalizing count with
  | nil args => simp
  | double hrest ih => simp [ih (places_double _ ▸ hcount)]
  | place arg hletter hrest ih =>
      rw [places_place hletter] at hcount
      obtain ⟨smaller, rfl⟩ : ∃ smaller, count = smaller + 1 := ⟨count - 1, by omega⟩
      rw [List.take_succ_cons, fill_place hletter, ih (by omega)]
  | missing hletter hrest ih =>
      rw [places_place hletter] at hcount
      have hrest : fill _ (List.take count []) = _ := ih (by omega)
      rw [List.take_nil] at hrest ⊢
      rw [fill_place_nil hletter, hrest]
  | single halone hrest ih =>
      rw [places_single halone] at hcount
      rw [fill_single halone, ih hcount]

/-! ## What filling keeps -/

section Arguments

variable {text result : List Char} {args : List (List Char)}

theorem Filled.mem (hfilled : Filled text args result) {c : Char} (hc : c ∈ result) :
    c ∈ text ∨ ∃ arg ∈ args, c ∈ arg := by
  induction hfilled with
  | nil args => exact absurd hc List.not_mem_nil
  | double hrest ih =>
      rcases List.mem_cons.1 hc with rfl | hc
      · exact Or.inl List.mem_cons_self
      · exact (ih hc).imp_left fun hmem => List.mem_cons_of_mem _ (List.mem_cons_of_mem _ hmem)
  | place arg hletter hrest ih =>
      rcases List.mem_append.1 hc with hc | hc
      · exact Or.inr ⟨arg, List.mem_cons_self, hc⟩
      · rcases ih hc with hmem | ⟨other, hother, hmem⟩
        · exact Or.inl (List.mem_cons_of_mem _ (List.mem_cons_of_mem _ hmem))
        · exact Or.inr ⟨other, List.mem_cons_of_mem _ hother, hmem⟩
  | missing hletter hrest ih =>
      simp only [List.mem_cons, List.not_mem_nil, false_and, exists_false, or_false] at hc ih ⊢
      exact hc.imp_right (Or.imp_right ih)
  | single halone hrest ih =>
      rcases List.mem_cons.1 hc with rfl | hc
      · exact Or.inl List.mem_cons_self
      · exact (ih hc).imp_left fun hmem => List.mem_cons_of_mem _ hmem

theorem Filled.eq_nil_iff (hfilled : Filled text args result) (hargs : ∀ arg ∈ args, arg ≠ []) :
    result = [] ↔ text = [] := by
  cases hfilled with
  | nil args => simp
  | double hrest => simp
  | place arg hletter hrest => simp [hargs arg List.mem_cons_self]
  | missing hletter hrest => simp
  | single halone hrest => simp

variable (hargs : ∀ arg ∈ args, arg ≠ [] ∧ '/' ∉ arg)

include hargs

theorem Filled.head?_eq_slash_iff (hfilled : Filled text args result) :
    result.head? = some '/' ↔ text.head? = some '/' := by
  cases hfilled with
  | nil args => rfl
  | double hrest => rfl
  | place arg hletter hrest =>
      obtain ⟨hne, hslash⟩ := hargs arg List.mem_cons_self
      obtain ⟨first, more, rfl⟩ := List.exists_cons_of_ne_nil hne
      simp only [List.mem_cons, not_or] at hslash
      simp [Ne.symm hslash.1]
  | missing hletter hrest => rfl
  | single halone hrest => rfl

omit hargs in
theorem getLast?_cons_of_ne {first last : Char} {rest : List Char} (hne : first ≠ last) :
    (first :: rest).getLast? = some last ↔ rest.getLast? = some last := by
  rw [List.getLast?_cons]
  cases rest.getLast? <;> simp [hne]

theorem Filled.getLast?_eq_slash_iff (hfilled : Filled text args result) :
    result.getLast? = some '/' ↔ text.getLast? = some '/' := by
  induction hfilled with
  | nil args => rfl
  | double hrest ih => simp [getLast?_cons_of_ne, ih hargs]
  | place arg hletter hrest ih =>
      obtain ⟨⟨-, hslash⟩, hmore⟩ := List.forall_mem_cons.1 hargs
      have hletterNe := ne_slash_of_mem_letters hletter
      have hlast : arg.getLast? ≠ some '/' := fun heq => hslash (List.mem_of_getLast? heq)
      rw [getLast?_cons_of_ne (by decide), getLast?_cons_of_ne hletterNe, ← ih hmore,
        List.getLast?_append, Option.or_eq_some_iff]
      simp [hlast]
  | missing hletter hrest ih =>
      have hletterNe := ne_slash_of_mem_letters hletter
      simp [getLast?_cons_of_ne, hletterNe, ih hargs]
  | @single c rest result args halone hrest ih =>
      have hempty := hrest.eq_nil_iff fun arg harg => (hargs arg harg).1
      by_cases hnil : rest = []
      · rw [hempty.2 hnil, hnil]
      · have hresult : result ≠ [] := fun heq => hnil (hempty.1 heq)
        rw [List.getLast?_cons_of_ne_nil hresult, List.getLast?_cons_of_ne_nil hnil, ih hargs]

end Arguments

/-! ## Literal texts -/

/-- No percent sign goes together with what is behind it. -/
def IsLiteral (text : List Char) : Prop :=
  ∀ next ∈ marks, ¬['%', next] <:+: text

theorem isLiteral_cons_iff {c : Char} {rest : List Char} :
    IsLiteral (c :: rest) ↔ StandsAlone c rest ∧ IsLiteral rest := by
  have hhead : ∀ next, [next] <+: rest ↔ next ∈ rest.head? := by
    intro next
    cases rest <;> simp [eq_comm]
  unfold IsLiteral StandsAlone
  simp only [List.infix_cons_iff, List.cons_prefix_cons, hhead, not_or, not_and]
  constructor
  · intro hliteral
    exact ⟨fun hpercent next hnext hmark => (hliteral next hmark).1 hpercent.symm hnext,
      fun next hmark => (hliteral next hmark).2⟩
  · rintro ⟨halone, hrest⟩ next hmark
    exact ⟨fun hpercent hnext => halone hpercent.symm next hnext hmark, hrest next hmark⟩

instance decidableIsLiteral : (text : List Char) → Decidable (IsLiteral text)
  | [] => isTrue (by simp [IsLiteral])
  | _ :: rest =>
      have := decidableIsLiteral rest
      decidable_of_iff _ isLiteral_cons_iff.symm

theorem isLiteral_of_not_mem {text : List Char} (htext : '%' ∉ text) : IsLiteral text :=
  fun _ _ hpart => htext (hpart.subset List.mem_cons_self)

theorem fill_of_isLiteral {text : List Char} (hliteral : IsLiteral text)
    (args : List (List Char)) : fill text args = text := by
  induction text with
  | nil => exact fill_nil args
  | cons c rest ih =>
      obtain ⟨halone, hrest⟩ := isLiteral_cons_iff.1 hliteral
      rw [fill_single halone, ih hrest]

theorem places_of_isLiteral {text : List Char} (hliteral : IsLiteral text) : places text = 0 := by
  induction text with
  | nil => exact places_nil
  | cons c rest ih =>
      obtain ⟨halone, hrest⟩ := isLiteral_cons_iff.1 hliteral
      rw [places_single halone, ih hrest]

/-- Points alone are not left of a text with a percent sign. -/
theorem Filled.exists_ne_point {text result : List Char} {args : List (List Char)}
    (hfilled : Filled text args result) (hpercent : '%' ∈ text)
    (hargs : ∀ arg ∈ args, ∃ c ∈ arg, c ≠ '.') : ∃ c ∈ result, c ≠ '.' := by
  induction hfilled with
  | nil args => exact absurd hpercent List.not_mem_nil
  | double hrest ih => exact ⟨'%', List.mem_cons_self, by decide⟩
  | place arg hletter hrest ih =>
      obtain ⟨c, hc, hne⟩ := hargs arg List.mem_cons_self
      exact ⟨c, List.mem_append_left _ hc, hne⟩
  | missing hletter hrest ih => exact ⟨'%', List.mem_cons_self, by decide⟩
  | single halone hrest ih =>
      rcases List.mem_cons.1 hpercent with rfl | hpercent
      · exact ⟨'%', List.mem_cons_self, by decide⟩
      · obtain ⟨c, hc, hne⟩ := ih hpercent hargs
        exact ⟨c, List.mem_cons_of_mem _ hc, hne⟩

section Percent

variable {text result : List Char} {args : List (List Char)}

theorem Filled.count_le (hfilled : Filled text args result) (hargs : ∀ arg ∈ args, '%' ∉ arg) :
    result.count '%' ≤ text.count '%' := by
  induction hfilled with
  | nil args => simp
  | double hrest ih =>
      have hcount := ih hargs
      simp only [List.count_cons_self]
      omega
  | place arg hletter hrest ih =>
      obtain ⟨harg, hmore⟩ := List.forall_mem_cons.1 hargs
      have hcount := ih hmore
      have hletterNe := ne_percent_of_mem_letters hletter
      rw [List.count_append, List.count_eq_zero.2 harg, List.count_cons_self,
        List.count_cons_of_ne hletterNe]
      omega
  | missing hletter hrest ih =>
      have hcount := ih hargs
      have hletterNe := ne_percent_of_mem_letters hletter
      simpa [List.count_cons_of_ne hletterNe] using hcount
  | single halone hrest ih =>
      have hcount := ih hargs
      simp only [List.count_cons]
      omega

/-- Where all places are filled and no percent sign is lost, there was nothing to fill. -/
theorem Filled.isLiteral (hfilled : Filled text args result) (hargs : ∀ arg ∈ args, '%' ∉ arg)
    (hplaces : places text ≤ args.length) (hcount : text.count '%' ≤ result.count '%') :
    IsLiteral text := by
  induction hfilled with
  | nil args => exact isLiteral_of_not_mem List.not_mem_nil
  | double hrest ih =>
      have hless := hrest.count_le hargs
      simp only [List.count_cons_self] at hcount
      omega
  | place arg hletter hrest ih =>
      obtain ⟨harg, hmore⟩ := List.forall_mem_cons.1 hargs
      have hless := hrest.count_le hmore
      have hletterNe := ne_percent_of_mem_letters hletter
      rw [List.count_append, List.count_eq_zero.2 harg, List.count_cons_self,
        List.count_cons_of_ne hletterNe] at hcount
      omega
  | missing hletter hrest ih =>
      rw [places_place hletter] at hplaces
      simp at hplaces
  | single halone hrest ih =>
      rw [places_single halone] at hplaces
      simp only [List.count_cons] at hcount
      exact isLiteral_cons_iff.2 ⟨halone, ih hargs hplaces (by omega)⟩

end Percent

end TypedOptions.PathTemplate
