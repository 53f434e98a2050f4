import Mathlib.Data.List.Basic
import TypedOptions.Proofs.PathTemplate

/-!
# Templates as rows of tokens

Every text is in exactly one way a row of doubled percent signs, places and
single characters in which no single percent sign goes together with what is
behind it.  A template is filled token by token: a place becomes the argument
of its number, or stays if there is none, and nothing is read twice.  So texts
without percent signs of their own come back from their doubled form, and two
templates one behind the other are filled as they are by themselves.
-/

namespace TypedOptions.PathTemplate

/-! ## Tokens -/

inductive Token where
  /-- A percent sign that is written twice. -/
  | percent
  | place (letter : Char) (hletter : letter ∈ letters)
  | single (c : Char)
  deriving DecidableEq

namespace Token

def text : Token → List Char
  | percent => ['%', '%']
  | place letter _ => ['%', letter]
  | single c => [c]

def isPlace : Token → Bool
  | place _ _ => true
  | _ => false

/-- What a token becomes, where `arg?` is the argument for it. -/
def filled (arg? : Option (List Char)) : Token → List Char
  | percent => ['%']
  | place letter _ => arg?.getD ['%', letter]
  | single c => [c]

end Token

/-- The text that tokens write. -/
def written (tokens : List Token) : List Char :=
  tokens.flatMap Token.text

/-- The tokens write the text, and no single percent sign among them goes together with what is
behind it. -/
structure IsReading (text : List Char) (tokens : List Token) : Prop where
  writes : written tokens = text
  alone : ∀ before after, tokens = before ++ .single '%' :: after →
    StandsAlone '%' (written after)

def tokens : List Char → List Token
  | '%' :: '%' :: rest => .percent :: tokens rest
  | '%' :: 's' :: rest => .place 's' (by decide) :: tokens rest
  | '%' :: 'd' :: rest => .place 'd' (by decide) :: tokens rest
  | c :: rest => .single c :: tokens rest
  | [] => []

@[simp] theorem tokens_nil : tokens [] = [] :=
  rfl

@[simp] theorem tokens_double (rest : List Char) :
    tokens ('%' :: '%' :: rest) = .percent :: tokens rest :=
  rfl

theorem tokens_place {letter : Char} (hletter : letter ∈ letters) (rest : List Char) :
    tokens ('%' :: letter :: rest) = .place letter hletter :: tokens rest := by
  have hcases := hletter
  simp only [letters, List.mem_cons, List.not_mem_nil, or_false] at hcases
  rcases hcases with rfl | rfl <;> rfl

theorem tokens_single {c : Char} {rest : List Char} (halone : StandsAlone c rest) :
    tokens (c :: rest) = .single c :: tokens rest := by
  rw [tokens]
  · exact fun _ => halone.false_of_cons (by decide)
  · exact fun _ => halone.false_of_cons (by decide)
  · exact fun _ => halone.false_of_cons (by decide)

/-! ## The one reading of a text -/

theorem isReading_cons_iff {token : Token} {rest : List Token} {text : List Char} :
    IsReading (token.text ++ text) (token :: rest) ↔
      (token = .single '%' → StandsAlone '%' text) ∧ IsReading text rest := by
  constructor
  · intro hreading
    have hwritten : written rest = text := List.append_cancel_left hreading.writes
    refine ⟨fun htoken => ?_, hwritten, fun before after hsplit => ?_⟩
    · rw [← hwritten]
      exact hreading.alone [] rest (by rw [htoken, List.nil_append])
    · exact hreading.alone (token :: before) after (by rw [hsplit, List.cons_append])
  · rintro ⟨htoken, hrest⟩
    refine ⟨congrArg (token.text ++ ·) hrest.writes, fun before after hsplit => ?_⟩
    cases before with
    | nil =>
        obtain ⟨rfl, rfl⟩ := List.cons.inj hsplit
        rw [hrest.writes]
        exact htoken rfl
    | cons first more => exact hrest.alone more after (List.cons.inj hsplit).2

theorem isReading_tokens (text : List Char) : IsReading text (tokens text) := by
  induction text using reading with
  | nil => exact ⟨rfl, fun before after hsplit => by simp at hsplit⟩
  | double rest ih => exact (@isReading_cons_iff .percent _ _).2 ⟨nofun, ih⟩
  | place letter rest hletter ih =>
      rw [tokens_place hletter]
      exact (@isReading_cons_iff (.place letter hletter) _ _).2 ⟨nofun, ih⟩
  | single c rest halone ih =>
      rw [tokens_single halone]
      refine (@isReading_cons_iff (.single c) _ _).2 ⟨fun htoken => ?_, ih⟩
      cases htoken
      exact halone

theorem IsReading.eq_tokens {text : List Char} {row : List Token} (hreading : IsReading text row) :
    row = tokens text := by
  induction row generalizing text with
  | nil => rw [← hreading.writes]; rfl
  | cons token rest ih =>
      obtain rfl : token.text ++ written rest = text := hreading.writes
      obtain ⟨halone, hrest⟩ := isReading_cons_iff.1 hreading
      refine (congrArg (token :: ·) (ih hrest)).trans ?_
      cases token with
      | percent => rfl
      | place letter hletter => exact (tokens_place hletter _).symm
      | single c =>
          refine (tokens_single fun hpercent => ?_).symm
          subst hpercent
          exact halone rfl rfl

theorem isReading_iff {text : List Char} {row : List Token} :
    IsReading text row ↔ row = tokens text :=
  ⟨IsReading.eq_tokens, fun heq => heq ▸ isReading_tokens text⟩

theorem places_eq_countP (text : List Char) : places text = (tokens text).countP Token.isPlace := by
  induction text using reading with
  | nil => rfl
  | double rest ih => rw [places_double, tokens_double, ih]; rfl
  | place letter rest hletter ih =>
      rw [places_place hletter, tokens_place hletter, ih, List.countP_cons]
      rfl
  | single c rest halone ih =>
      rw [places_single halone, tokens_single halone, ih]
      rfl

/-! ## Filling token by token -/

/-- What the tokens become: a place with the number `i` takes the argument with this number. -/
def parts (row : List Token) (args : List (List Char)) : List (List Char) :=
  row.mapIdx fun k token => token.filled args[(row.take k).countP Token.isPlace]?

theorem parts_cons_of_not_isPlace {token : Token} (htoken : token.isPlace = false)
    (rest : List Token) (args : List (List Char)) :
    parts (token :: rest) args = token.filled args[0]? :: parts rest args := by
  simp [parts, List.mapIdx_cons, htoken]

theorem parts_cons_of_isPlace {token : Token} (htoken : token.isPlace = true)
    (rest : List Token) (args : List (List Char)) :
    parts (token :: rest) args = token.filled args[0]? :: parts rest args.tail := by
  simp [parts, List.mapIdx_cons, htoken]

theorem fill_eq_flatten_parts (text : List Char) (args : List (List Char)) :
    fill text args = (parts (tokens text) args).flatten := by
  induction text using reading generalizing args with
  | nil => rfl
  | double rest ih =>
      rw [fill_percent_percent, tokens_double, parts_cons_of_not_isPlace rfl, ih]
      rfl
  | place letter rest hletter ih =>
      rw [tokens_place hletter, parts_cons_of_isPlace rfl, List.flatten_cons, ← ih]
      cases args with
      | nil => exact fill_place_nil hletter rest
      | cons arg more => exact fill_place hletter rest arg more
  | single c rest halone ih =>
      rw [fill_single halone, tokens_single halone, parts_cons_of_not_isPlace rfl, ih]
      rfl

/-! ## Doubled percent signs -/

/-- The text with each of its percent signs written twice. -/
def doubled (text : List Char) : List Char :=
  text.flatMap fun c => if c = '%' then ['%', '%'] else [c]

theorem fill_doubled (text : List Char) (args : List (List Char)) :
    fill (doubled text) args = text := by
  induction text with
  | nil => rfl
  | cons c rest ih =>
      have hrest : doubled (c :: rest) = (if c = '%' then ['%', '%'] else [c]) ++ doubled rest :=
        List.flatMap_cons
      rw [hrest]
      split
      · rename_i hpercent
        subst hpercent
        exact congrArg ('%' :: ·) ih
      · rename_i hne
        rw [List.singleton_append, fill_cons_of_ne _ _ hne, ih]

/-! ## One template behind another -/

/-- The text ends in a percent sign that goes together with nothing in it. -/
def EndsOpen (text : List Char) : Prop :=
  (tokens text).getLast? = some (.single '%')

theorem EndsOpen.cons {token : Token} {rest : List Char} {text : List Char}
    (htokens : tokens text = token :: tokens rest) (hopen : EndsOpen rest) : EndsOpen text := by
  unfold EndsOpen at hopen ⊢
  rw [htokens, List.getLast?_cons, hopen]
  rfl

theorem fill_append_of_not_endsOpen {before : List Char} (hclosed : ¬EndsOpen before)
    (after : List Char) (args : List (List Char)) :
    fill (before ++ after) args =
      fill before args ++ fill after (args.drop (places before)) := by
  induction before using reading generalizing args with
  | nil => simp
  | double rest ih =>
      have hrest : ¬EndsOpen rest := fun hopen => hclosed (hopen.cons (tokens_double rest))
      simp [ih hrest]
  | place letter rest hletter ih =>
      have hrest : ¬EndsOpen rest := fun hopen => hclosed (hopen.cons (tokens_place hletter rest))
      rw [List.cons_append, List.cons_append, places_place hletter]
      cases args with
      | nil => simp [fill_place_nil hletter, ih hrest]
      | cons arg more =>
          rw [fill_place hletter, fill_place hletter, ih hrest, List.drop_succ_cons,
            List.append_assoc]
  | single c rest halone ih =>
      have hrest : ¬EndsOpen rest := fun hopen => hclosed (hopen.cons (tokens_single halone))
      have hwhole : StandsAlone c (rest ++ after) := by
        cases rest with
        | nil =>
            -- The character is the last one, so it is no percent sign.
            intro hpercent
            subst hpercent
            exact absurd rfl hclosed
        | cons next more => exact fun hpercent first hfirst => halone hpercent first hfirst
      rw [List.cons_append, fill_single hwhole, fill_single halone, places_single halone, ih hrest,
        List.cons_append]

theorem fill_append_append {before : List Char} (hclosed : ¬EndsOpen before) (after : List Char)
    {args : List (List Char)} (hargs : args.length = places before) (more : List (List Char)) :
    fill (before ++ after) (args ++ more) = fill before args ++ fill after more := by
  have htake : fill before args = fill before (args ++ more) := by
    have hfilled := (filled_fill before (args ++ more)).fill_take (Nat.le_of_eq hargs.symm)
    rwa [List.take_left] at hfilled
  rw [fill_append_of_not_endsOpen hclosed, ← hargs, List.drop_left, htake]

/-! ## Expansion -/

/-- A template has one reading as tokens, and it is expanded in one pass over them: the place with
the number `i` becomes the argument with the number `i` as it is, or stays as it is written, and
two percent signs become one.  A text with all its percent signs doubled is expanded to the text,
and one template behind another is expanded as both are by themselves, if the first one does not
end in a percent sign of its own and has an argument for each of its places. -/
theorem expanded_token_by_token :
    (∀ (template : PathTemplate) (row : List Token) (args : List String),
      (IsReading template.text.toList row ↔ row = tokens template.text.toList) ∧
      (template.expand args).toList =
        (parts (tokens template.text.toList) (args.map String.toList)).flatten) ∧
    (∀ (text : String) (args : List String),
      (⟨String.ofList (doubled text.toList)⟩ : PathTemplate).expand args = text) ∧
    ∀ (first second : String) (firstArgs secondArgs : List String),
      ¬EndsOpen first.toList →
      firstArgs.length = (tokens first.toList).countP Token.isPlace →
        (⟨first ++ second⟩ : PathTemplate).expand (firstArgs ++ secondArgs) =
          (⟨first⟩ : PathTemplate).expand firstArgs ++
            (⟨second⟩ : PathTemplate).expand secondArgs := by
  refine ⟨fun template row args => ⟨isReading_iff, ?_⟩, fun text args => ?_, ?_⟩
  · rw [expand, String.toList_ofList, fill_eq_flatten_parts]
  · unfold expand
    rw [String.toList_ofList, fill_doubled, String.ofList_toList]
  · intro first second firstArgs secondArgs hclosed hargs
    have hlength : (firstArgs.map String.toList).length = places first.toList := by
      rw [List.length_map, hargs, places_eq_countP]
    apply String.toList_inj.1
    unfold expand
    rw [String.toList_append, List.map_append, String.toList_ofList, String.toList_append,
      String.toList_ofList, String.toList_ofList, fill_append_append hclosed _ hlength]

/-- An argument that looks like a place, and a percent sign before the letter of a place. -/
theorem expanded_token_by_token_sample :
    ¬EndsOpen "a%s%%".toList ∧
      ["%d"].length = (tokens "a%s%%".toList).countP Token.isPlace ∧
      (⟨"a%s%%" ++ "d%d%"⟩ : PathTemplate).expand (["%d"] ++ ["7", "8"]) = "a%d%d7%" := by
  have hclosed : ¬EndsOpen "a%s%%".toList := by
    unfold EndsOpen
    decide
  have hargs : ["%d"].length = (tokens "a%s%%".toList).countP Token.isPlace := by decide
  refine ⟨hclosed, hargs, ?_⟩
  rw [expanded_token_by_token.2.2 "a%s%%" "d%d%" ["%d"] ["7", "8"] hclosed hargs]
  decide

end TypedOptions.PathTemplate
