import TypedOptions.Proofs.Regex.Escapes

/-!
# Elements of classes in front of a parenthesis

The elements of a class, and what stands at its beginning, need a character
behind them.  Where the text ends there is none, and the parenthesis that
follows a pattern does not make up for it, as it does not end a class.
-/

namespace TypedOptions.Regex

/-! ## Elements -/

theorem leaves_readClassItem? (flags : Flags) : Reader.Leaves (readClassItem? flags) := by
  intro text item rest hread
  unfold readClassItem? at hread
  split at hread
  · cases hread
  · exact (leaves_readEscape? flags _ item rest hread).trans (List.suffix_cons ..)
  · cases hread
    exact List.suffix_cons ..

theorem shortens_readClassItem? (flags : Flags) : Reader.Shortens (readClassItem? flags) := by
  intro text item rest hread
  unfold readClassItem? at hread
  split at hread
  · cases hread
  · exact Nat.lt_succ_of_le (leaves_readEscape? flags _ item rest hread).length_le
  · cases hread
    exact Nat.lt_succ_self _

theorem splices_readClassItem? {flags : Flags} {text : List Char}
    (hcounts : ∀ rest, text = '\\' :: rest → ¬HidesBrace flags rest) :
    Reader.Splices (readClassItem? flags) text := by
  cases text with
  | nil =>
      refine .beyond rfl fun count item rest hread => ?_
      cases hread
      exact List.suffix_rfl
  | cons c rest =>
      by_cases hc : c = '\\'
      · subst hc
        exact (splices_readEscape? (hcounts rest rfl)).of_eq fun more _ => rfl
      · refine (Reader.splices_given (some (.literal c)) rest).of_eq fun more _ => ?_
        rw [List.cons_append, readClassItem?]
        · rfl
        · exact hc

/-- Nothing reads on where a brace has been hidden in a class. -/
theorem readClassItem?_of_hidesBrace {flags : Flags} {rest : List Char}
    (hhides : HidesBrace flags rest) :
    readClassItem? flags ('\\' :: rest) = none ∧
      ∀ count item after, readClassItem? flags ('\\' :: rest ++ closing count) = some (item, after) →
        item = .condition (.wordBoundary flags.word) ∧
          ∃ inner, flags.skip inner = [] ∧ after = '\x7b' :: inner ++ closing count :=
  readEscape?_of_hidesBrace hhides

/-! ## Ranges -/

/-- The range between two characters. -/
def rangeBetween? (flags : Flags) : Primitive → Primitive → Option CharSet
  | .literal first, .literal last =>
      if first ≤ last && flags.allows last then some (.range first.toNat last.toNat) else none
  | _, _ => none

theorem readRangeEnd?_eq (flags : Flags) (first : Primitive) :
    readRangeEnd? flags first = flags.skipping.andThen fun _ =>
      Reader.andThen (readClassItem? flags) fun last => .given (rangeBetween? flags first last) := by
  funext text
  rw [readRangeEnd?, Flags.skipping_andThen, Reader.andThen]
  cases readClassItem? flags (flags.skip text) with
  | none => rfl
  | some result =>
      obtain ⟨last, rest⟩ := result
      cases first <;> cases last <;> try rfl
      simp only [Option.bind_eq_bind, Option.bind_some, rangeBetween?, Reader.given]
      split <;> rfl

theorem leaves_readRangeEnd? (flags : Flags) (first : Primitive) :
    Reader.Leaves (readRangeEnd? flags first) := by
  rw [readRangeEnd?_eq]
  exact flags.leaves_skipping.andThen fun _ =>
    (leaves_readClassItem? flags).andThen_given _

theorem splices_readRangeEnd? (flags : Flags) (first : Primitive) (text : List Char) :
    Reader.Splices (readRangeEnd? flags first) text := by
  rw [readRangeEnd?_eq]
  refine Flags.splices_skipping_andThen rfl ?_
  generalize flags.skip text = text
  by_cases hhidden : ∃ rest, text = '\\' :: rest ∧ HidesBrace flags rest
  · obtain ⟨rest, rfl, hhides⟩ := hhidden
    obtain ⟨hnone, hspliced⟩ := readClassItem?_of_hidesBrace hhides
    refine .beyond (Reader.andThen_of_none hnone) fun count set after hread => ?_
    obtain ⟨last, more, hlast, hset⟩ := Reader.andThen_eq_some.1 hread
    obtain ⟨rfl, -⟩ := hspliced count last more hlast
    cases first <;> cases hset
  · exact (splices_readClassItem? fun rest heq hhides =>
      hhidden ⟨rest, heq, hhides⟩).andThen_given _

/-! ## Dashes -/

/-- A dash before the text makes no range. -/
def EndsItem (flags : Flags) (text : List Char) : Prop :=
  flags.deciding? text = some ']' ∨ flags.deciding? text = some '-'

theorem afterMark?_append_closing (inComment : Bool) (text : List Char) (count : Nat) :
    afterMark? inComment (text ++ closing count) = (afterMark? inComment text).or (some ')') := by
  induction text generalizing inComment with
  | nil => cases inComment <;> rfl
  | cons c rest ih =>
      rw [List.cons_append, afterMark?, afterMark?]
      split
      · exact ih inComment
      · split
        · exact ih true
        · rfl

theorem head?_of_afterMark?_eq_none {inComment : Bool} {text : List Char} {c : Char}
    (hnone : afterMark? inComment text = none) (hhead : text.head? = some c) :
    Text.isBlank c = true ∨ c = '#' := by
  cases text with
  | nil => cases hhead
  | cons d rest =>
      cases hhead
      rw [afterMark?] at hnone
      split at hnone
      · exact .inl ‹_›
      · split at hnone
        · rename_i hmark
          exact .inr (by simpa using (Bool.and_eq_true_iff.1 hmark).2)
        · cases hnone

/-- A parenthesis does not end the element before a dash, and neither does the end of a text. -/
theorem endsItem_append_iff {flags : Flags} {text more : List Char} (hmore : Ending more) :
    EndsItem flags (text ++ more) ↔ EndsItem flags text := by
  cases hmore with
  | nothing => rw [List.append_nil]
  | closing count =>
      unfold EndsItem Flags.deciding?
      cases flags.extended with
      | false => cases text <;> simp [closing]
      | true =>
          simp only [if_pos, afterMark?_append_closing]
          cases hmark : afterMark? false text with
          | some c => rfl
          | none =>
              cases hhead : text.head? with
              | none => simp
              | some c =>
                  have hplain := head?_of_afterMark?_eq_none hmark hhead
                  have hbracket : c ≠ ']' := by
                    rintro rfl
                    exact absurd hplain (by decide)
                  have hdash : c ≠ '-' := by
                    rintro rfl
                    exact absurd hplain (by decide)
                  simp [hbracket, hdash]

/-- What follows the first character of an element, where everything counts up to the next
character. -/
def readAfterItem? (flags : Flags) (first : Primitive) : Reader CharSet
  | [] => none
  | '-' :: after =>
      match flags.deciding? after with
      | some ']' | some '-' => (itemSet? flags first).map (·, '-' :: after)
      | _ => readRangeEnd? flags first after
  | rest => (itemSet? flags first).map (·, rest)

theorem readAfterItem?_dash_of_endsItem {flags : Flags} {first : Primitive} {after : List Char}
    (hends : EndsItem flags after) :
    readAfterItem? flags first ('-' :: after) = Reader.given (itemSet? flags first) ('-' :: after) := by
  rcases hends with hends | hends <;> simp only [readAfterItem?, hends] <;> rfl

theorem readAfterItem?_dash_of_not_endsItem {flags : Flags} {first : Primitive}
    {after : List Char} (hends : ¬EndsItem flags after) :
    readAfterItem? flags first ('-' :: after) = readRangeEnd? flags first after := by
  rw [readAfterItem?]
  split
  · exact absurd (Or.inl ‹_›) hends
  · exact absurd (Or.inr ‹_›) hends
  · rfl

theorem readAfterItem?_of_ne_dash {flags : Flags} {first : Primitive} {c : Char} (hc : c ≠ '-')
    (rest : List Char) :
    readAfterItem? flags first (c :: rest) = Reader.given (itemSet? flags first) (c :: rest) := by
  rw [readAfterItem?]
  · rfl
  · exact fun h => nomatch h
  · exact fun after heq => hc (List.cons.inj heq).1

theorem leaves_readAfterItem? (flags : Flags) (first : Primitive) :
    (readAfterItem? flags first).Leaves := by
  intro text set after hread
  cases text with
  | nil => cases hread
  | cons c rest =>
      by_cases hc : c = '-'
      · subst hc
        by_cases hends : EndsItem flags rest
        · rw [readAfterItem?_dash_of_endsItem hends] at hread
          exact Reader.leaves_given _ _ set after hread
        · rw [readAfterItem?_dash_of_not_endsItem hends] at hread
          exact (leaves_readRangeEnd? flags first rest set after hread).trans
            (List.suffix_cons ..)
      · rw [readAfterItem?_of_ne_dash hc] at hread
        exact Reader.leaves_given _ _ set after hread

theorem peeks_readAfterItem? (flags : Flags) (first : Primitive) (c : Char) (rest : List Char) :
    (readAfterItem? flags first).Peeks (c :: rest) := by
  have hgiven := Reader.splices_given (itemSet? flags first) (c :: rest)
  by_cases hc : c = '-'
  · subst hc
    by_cases hends : EndsItem flags rest
    · exact hgiven.peeks.of_eq fun more hmore =>
        readAfterItem?_dash_of_endsItem ((endsItem_append_iff hmore).2 hends)
    · exact (splices_readRangeEnd? flags first rest).peeks.of_eq fun more hmore =>
        readAfterItem?_dash_of_not_endsItem (mt (endsItem_append_iff hmore).1 hends)
  · exact hgiven.peeks.of_eq fun more _ => readAfterItem?_of_ne_dash hc _

theorem readClassRange?_eq (flags : Flags) :
    readClassRange? flags = Reader.andThen (readClassItem? flags) fun first =>
      flags.skipping.andThen fun _ => readAfterItem? flags first := by
  funext text
  rw [readClassRange?, Reader.andThen]
  cases readClassItem? flags text with
  | none => rfl
  | some result =>
      obtain ⟨first, rest⟩ := result
      simp only [Option.bind_eq_bind, Option.bind_some, Flags.skipping_andThen]
      generalize flags.skip rest = rest
      unfold readAfterItem?
      cases itemSet? flags first <;> rfl

theorem leaves_readClassRange?_rest (flags : Flags) (first : Primitive) :
    (flags.skipping.andThen fun _ => readAfterItem? flags first).Leaves :=
  flags.leaves_skipping.andThen fun _ => leaves_readAfterItem? flags first

theorem leaves_readClassRange? (flags : Flags) : Reader.Leaves (readClassRange? flags) := by
  rw [readClassRange?_eq]
  exact (leaves_readClassItem? flags).andThen fun first => leaves_readClassRange?_rest flags first

theorem shortens_readClassRange? (flags : Flags) : Reader.Shortens (readClassRange? flags) := by
  rw [readClassRange?_eq]
  exact (shortens_readClassItem? flags).andThen fun first => leaves_readClassRange?_rest flags first

theorem peeks_readClassRange? (flags : Flags) (text : List Char) :
    Reader.Peeks (readClassRange? flags) text := by
  rw [readClassRange?_eq]
  by_cases hhidden : ∃ rest, text = '\\' :: rest ∧ HidesBrace flags rest
  · obtain ⟨rest, rfl, hhides⟩ := hhidden
    obtain ⟨hnone, hspliced⟩ := readClassItem?_of_hidesBrace hhides
    refine .atEnd (fun set after hread => ?_) fun count set after hread => ?_
    · rw [Reader.andThen_of_none hnone] at hread
      cases hread
    · obtain ⟨first, more, hfirst, hset⟩ := Reader.andThen_eq_some.1 hread
      obtain ⟨rfl, inner, -, rfl⟩ := hspliced count first more hfirst
      rw [List.cons_append, Flags.skipping_andThen, flags.skip_of_plain (by decide) (by decide),
        readAfterItem?_of_ne_dash (by decide)] at hset
      cases hset
  · have hitem : Reader.Splices (readClassItem? flags) text :=
      splices_readClassItem? fun rest heq hhides => hhidden ⟨rest, heq, hhides⟩
    exact hitem.peeks.andThen (fun first => leaves_readClassRange?_rest flags first)
      fun first c rest _ => (flags.peeks_skipping (c :: rest)).andThen
        (fun _ => leaves_readAfterItem? flags first)
        fun _ d more _ => peeks_readAfterItem? flags first d more

/-! ## The beginning of a class -/

/-- The elements that dashes at the beginning of a class are. -/
def dashes (flags : Flags) (body : ClassBody) : Reader ClassBody := fun text =>
  some (readDashes flags body text)

theorem dashes_dash (flags : Flags) (body : ClassBody) (rest : List Char) :
    dashes flags body ('-' :: rest) =
      flags.skipping.andThen (fun _ => dashes flags (body.insert (.single '-') 0)) rest := by
  rw [dashes, readDashes]
  rfl

theorem dashes_of_ne {flags : Flags} {body : ClassBody} {text : List Char}
    (htext : ∀ rest, text ≠ '-' :: rest) :
    dashes flags body text = Reader.given (some body) text := by
  rw [dashes, readDashes]
  · rfl
  · exact htext

theorem leaves_dashes (flags : Flags) (body : ClassBody) : (dashes flags body).Leaves := by
  intro text inner after hread
  induction hlength : text.length using Nat.strongRecOn generalizing text body with
  | ind length ih =>
      by_cases hdash : ∃ rest, text = '-' :: rest
      · obtain ⟨rest, rfl⟩ := hdash
        rw [dashes_dash, Flags.skipping_andThen] at hread
        have hless : (flags.skip rest).length < length :=
          hlength ▸ Nat.lt_succ_of_le (flags.length_skip_le rest)
        exact (ih _ hless _ _ hread rfl).trans
          ((flags.skip_suffix rest).trans (List.suffix_cons ..))
      · rw [dashes_of_ne (not_exists.1 hdash)] at hread
        exact Reader.leaves_given _ _ inner after hread

theorem peeks_dashes (flags : Flags) (body : ClassBody) (text : List Char) :
    (dashes flags body).Peeks text := by
  induction hlength : text.length using Nat.strongRecOn generalizing text body with
  | ind length ih =>
      refine .of_mark (by decide) (dashes_dash flags body) (fun text => dashes_of_ne)
        (fun rest heq => ?_) fun _ => (Reader.splices_given (some body) text).peeks
      refine (flags.peeks_skipping rest).andThen (fun _ => leaves_dashes flags _)
        fun _ c more hskip => ih _ ?_ _ _ rfl
      have hskipped : flags.skip rest = c :: more := congrArg Prod.snd (Option.some.inj hskip)
      rw [← hskipped, ← hlength, heq]
      exact Nat.lt_succ_of_le (flags.length_skip_le rest)

/-- Whether a class is negated. -/
def readCaret (flags : Flags) : Reader Bool
  | '^' :: rest => some (true, flags.skip rest)
  | text => some (false, text)

/-- The first elements of a class: a bracket or dashes. -/
def readFirst (flags : Flags) (negated : Bool) : Reader (Bool × ClassBody)
  | ']' :: rest => some ((negated, .insert .nothing (.single ']') 0), rest)
  | text => (dashes flags .nothing).andThen (fun body => .given (some (negated, body))) text

/-- The beginning of a class. -/
def opening (flags : Flags) : Reader (Bool × ClassBody) :=
  flags.skipping.andThen fun _ => (readCaret flags).andThen (readFirst flags)

theorem readCaret_eq (flags : Flags) (text : List Char) :
    readCaret flags text =
      some (match text with
        | '^' :: rest => (true, flags.skip rest)
        | _ => (false, text)) := by
  unfold readCaret
  split <;> rfl

theorem opening_eq (flags : Flags) (text : List Char) :
    opening flags text =
      some (((openClass flags text).1, (openClass flags text).2.1), (openClass flags text).2.2) := by
  rw [opening, Flags.skipping_andThen]
  fun_cases openClass flags text with
  | case1 _ negated rest hcaret =>
      have hread : readCaret flags (flags.skip text) = some (negated, ']' :: rest) :=
        (readCaret_eq flags _).trans (congrArg some hcaret)
      rw [Reader.andThen_of_some hread]
      rfl
  | case2 _ negated rest hplain hcaret =>
      have hread : readCaret flags (flags.skip text) = some (negated, rest) :=
        (readCaret_eq flags _).trans (congrArg some hcaret)
      rw [Reader.andThen_of_some hread, readFirst]
      · rfl
      · exact hplain

theorem leaves_readFirst (flags : Flags) (negated : Bool) : (readFirst flags negated).Leaves := by
  intro text result after hread
  unfold readFirst at hread
  split at hread
  · cases hread
    exact List.suffix_cons ..
  · exact (leaves_dashes flags .nothing).andThen_given (fun body => some (negated, body)) _ result
      after hread

theorem readFirst_of_ne {flags : Flags} {negated : Bool} {text : List Char}
    (htext : ∀ rest, text ≠ ']' :: rest) :
    readFirst flags negated text =
      (dashes flags .nothing).andThen (fun body => .given (some (negated, body))) text := by
  rw [readFirst]
  exact htext

theorem peeks_readFirst (flags : Flags) (negated : Bool) (text : List Char) :
    (readFirst flags negated).Peeks text :=
  .of_mark (by decide) (fun rest => rfl) (fun text => readFirst_of_ne)
    (fun rest _ => (Reader.splices_given
      (some (negated, ClassBody.insert .nothing (.single ']') 0)) rest).peeks)
    fun _ => (peeks_dashes flags .nothing text).andThen_given _

theorem leaves_readCaret (flags : Flags) : (readCaret flags).Leaves := by
  intro text negated after hread
  unfold readCaret at hread
  split at hread
  · cases hread
    exact (flags.skip_suffix _).trans (List.suffix_cons ..)
  · cases hread
    exact List.suffix_rfl

theorem readCaret_of_ne {flags : Flags} {text : List Char} (htext : ∀ rest, text ≠ '^' :: rest) :
    readCaret flags text = Reader.given (some false) text := by
  rw [readCaret]
  · rfl
  · exact htext

theorem peeks_readCaret (flags : Flags) (text : List Char) : (readCaret flags).Peeks text :=
  .of_mark (by decide) (fun rest => rfl) (fun text => readCaret_of_ne)
    (fun rest _ => (flags.peeks_skipping rest).andThen_given fun _ => some true)
    fun _ => (Reader.splices_given (some false) text).peeks

theorem leaves_opening (flags : Flags) : (opening flags).Leaves :=
  flags.leaves_skipping.andThen fun _ => (leaves_readCaret flags).andThen (leaves_readFirst flags)

theorem peeks_opening (flags : Flags) (text : List Char) : (opening flags).Peeks text :=
  (flags.peeks_skipping text).andThen
    (fun _ => (leaves_readCaret flags).andThen (leaves_readFirst flags))
    fun _ c rest _ => (peeks_readCaret flags (c :: rest)).andThen (leaves_readFirst flags)
      fun negated d more _ => peeks_readFirst flags negated (d :: more)

/-! ## Named classes -/

/-- The colon of a named class, and whether the class is negated. -/
def readColon : Reader Bool
  | ':' :: '^' :: rest => some (true, rest)
  | ':' :: rest => some (false, rest)
  | _ => none

/-- The bracket behind the name of a class. -/
def readNamed (flags : Flags) (negated : Bool) (name : List Char) : Reader (Option CharSet)
  | ']' :: rest =>
      (CharSet.ofAsciiName? (String.ofList name)).map fun set =>
        (flags.negate? negated (flags.fold set), rest)
  | _ => none

theorem readAsciiClass?_of_readColon {flags : Flags} {text name : List Char} {negated : Bool}
    (hcolon : readColon text = some (negated, name)) :
    readAsciiClass? flags text =
      Reader.andThen (Text.splitFirst ':') (readNamed flags negated) name := by
  unfold readColon at hcolon
  split at hcolon <;> cases hcolon
  all_goals
    rw [readAsciiClass?]
    · simp only [Option.bind_eq_bind, Option.bind_some, Reader.andThen]
      cases Text.splitFirst ':' name with
      | none => rfl
      | some parts =>
          obtain ⟨name, after⟩ := parts
          cases after with
          | nil => rfl
          | cons c rest =>
              by_cases hc : c = ']'
              · subst hc
                simp only [Option.bind_some, readNamed]
                cases CharSet.ofAsciiName? (String.ofList name) <;> rfl
              · simp [readNamed, hc]
    all_goals assumption

theorem readAsciiClass?_eq (flags : Flags) :
    readAsciiClass? flags = readColon.andThen fun negated =>
      Reader.andThen (Text.splitFirst ':') (readNamed flags negated) := by
  funext text
  cases hcolon : readColon text with
  | some found => rw [readAsciiClass?_of_readColon hcolon, Reader.andThen_of_some hcolon]
  | none =>
      rw [Reader.andThen_of_none hcolon]
      unfold readColon at hcolon
      split at hcolon
      · cases hcolon
      · cases hcolon
      · rw [readAsciiClass?]
        · rfl
        all_goals assumption

theorem extends_readColon (text : List Char) : readColon.Extends text := by
  intro more hmore
  cases text with
  | nil => cases hmore <;> rfl
  | cons c rest =>
      by_cases hc : c = ':'
      · subst hc
        cases rest with
        | nil => cases hmore <;> rfl
        | cons d rest =>
            by_cases hd : d = '^'
            · subst hd
              rfl
            · simp [readColon, hd]
      · simp [readColon, hc]

theorem extends_readNamed (flags : Flags) (negated : Bool) (name text : List Char) :
    (readNamed flags negated name).Extends text := by
  intro more hmore
  cases text with
  | nil => cases hmore <;> rfl
  | cons c rest =>
      by_cases hc : c = ']'
      · subst hc
        simp [readNamed, Function.comp_def]
      · simp [readNamed, hc]

theorem extends_readAsciiClass? (flags : Flags) (text : List Char) :
    Reader.Extends (readAsciiClass? flags) text := by
  rw [readAsciiClass?_eq]
  exact (extends_readColon text).andThen fun negated rest _ =>
    (Reader.extends_splitFirst (by decide) (by decide) rest).andThen fun name after _ =>
      extends_readNamed flags negated name after

theorem leaves_readAsciiClass? (flags : Flags) : Reader.Leaves (readAsciiClass? flags) := by
  rw [readAsciiClass?_eq]
  refine Reader.Leaves.andThen ?_ fun negated => Reader.leaves_splitFirst.andThen fun name => ?_
  · intro text negated after hread
    unfold readColon at hread
    split at hread <;> cases hread
    · exact (List.suffix_cons ..).trans (List.suffix_cons ..)
    · exact List.suffix_cons ..
  · intro text set after hread
    unfold readNamed at hread
    split at hread
    · obtain ⟨named, -, heq⟩ := Option.map_eq_some_iff.1 hread
      cases heq
      exact List.suffix_cons ..
    · cases hread

end TypedOptions.Regex
