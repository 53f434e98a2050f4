import TypedOptions.Proofs.Regex.ClassItems

/-!
# Classes in front of a parenthesis

A class ends with a square bracket.  The parenthesis behind a pattern holds
none, so a class that a pattern leaves open stays open.
-/

namespace TypedOptions.Regex

/-! ## Parts of a class -/

/-- What comes of a part of a class: the whole class, or what it holds so far. -/
inductive ClassStep where
  | finished (set : CharSet) (depth : Nat)
  | unfinished (stack : List ClassFrame) (body : ClassBody)

/-- The bracket that ends a class. -/
def closeClass? (flags : Flags) (stack : List ClassFrame) (body : ClassBody) : Option ClassStep :=
  match flags.popOperation body stack with
  | ((set, depth), .bracket outer negated :: stack) =>
      (flags.negate? negated (flags.fold set)).map fun set =>
        if stack.isEmpty then .finished set (depth + 1)
        else .unfinished stack (outer.insert set (depth + 1))
  | _ => none

/-- The bracket that opens a class in a class. -/
def openInner (stack : List ClassFrame) (body : ClassBody) :
    Bool × ClassBody → Option ClassStep
  | (negated, inner) => some (.unfinished (.bracket body negated :: stack) inner)

/-- A class in a class, behind its bracket. -/
def readInnerClass? (flags : Flags) (stack : List ClassFrame) (body : ClassBody) :
    Reader ClassStep := fun text =>
  match readAsciiClass? flags text with
  | some (some named, rest) => some (.unfinished stack (body.insert named 0), rest)
  | some (none, _) => none
  | none => (opening flags).andThen (fun inner => .given (openInner stack body inner)) text

/-- An element of a class, or a range. -/
def readElement? (flags : Flags) (stack : List ClassFrame) (body : ClassBody) : Reader ClassStep :=
  Reader.andThen (readClassRange? flags) fun element =>
    .given (some (.unfinished stack (body.insert element 0)))

/-- A part of a class where everything counts up to the next character. -/
def readPart? (flags : Flags) (stack : List ClassFrame) (body : ClassBody) : Reader ClassStep
  | [] => none
  | '[' :: rest => readInnerClass? flags stack body rest
  | ']' :: rest => Reader.given (closeClass? flags stack body) rest
  | '&' :: '&' :: rest =>
      Reader.given (some (.unfinished (flags.pushOperation .intersection body stack) .nothing)) rest
  | '-' :: '-' :: rest =>
      Reader.given (some (.unfinished (flags.pushOperation .difference body stack) .nothing)) rest
  | '~' :: '~' :: rest =>
      Reader.given (some (.unfinished (flags.pushOperation .symmetricDifference body stack) .nothing)) rest
  | text => readElement? flags stack body text

theorem readPart?_of_plain {flags : Flags} {stack : List ClassFrame} {body : ClassBody} {c : Char}
    {rest : List Char} (hopen : c ≠ '[') (hclose : c ≠ ']')
    (htwice : ∀ more, c ∈ ['&', '-', '~'] → rest ≠ c :: more) :
    readPart? flags stack body (c :: rest) = readElement? flags stack body (c :: rest) := by
  unfold readPart?
  split
  · rename_i heq
    cases heq
  · rename_i heq
    exact absurd (List.cons.inj heq).1 hopen
  · rename_i heq
    exact absurd (List.cons.inj heq).1 hclose
  · rename_i heq
    obtain ⟨rfl, rfl⟩ := List.cons.inj heq
    exact absurd rfl (htwice _ (by decide))
  · rename_i heq
    obtain ⟨rfl, rfl⟩ := List.cons.inj heq
    exact absurd rfl (htwice _ (by decide))
  · rename_i heq
    obtain ⟨rfl, rfl⟩ := List.cons.inj heq
    exact absurd rfl (htwice _ (by decide))
  · rfl

/-- What follows a part of a class. -/
def resumeClass? (flags : Flags) (rounds : Nat) :
    Option (ClassStep × List Char) → Option (CharSet × Nat × List Char)
  | none => none
  | some (.finished set depth, rest) => some (set, depth, rest)
  | some (.unfinished stack body, rest) => readClass? flags rounds stack body rest

theorem readClass?_succ (flags : Flags) (rounds : Nat) (stack : List ClassFrame) (body : ClassBody)
    (text : List Char) :
    readClass? flags (rounds + 1) stack body text =
      resumeClass? flags rounds (readPart? flags stack body (flags.skip text)) := by
  rw [readClass?]
  generalize flags.skip text = text
  split
  · rfl
  · rename_i rest
    change _ = resumeClass? flags rounds (readInnerClass? flags stack body rest)
    rw [readInnerClass?]
    cases readAsciiClass? flags rest with
    | none =>
        dsimp only
        rw [Reader.andThen_of_some (opening_eq flags rest)]
        rfl
    | some named =>
        obtain ⟨set?, after⟩ := named
        cases set? <;> rfl
  · rename_i rest
    change _ = resumeClass? flags rounds ((closeClass? flags stack body).map (·, rest))
    rw [closeClass?]
    obtain ⟨⟨set, depth⟩, frames⟩ := flags.popOperation body stack
    cases frames with
    | nil => rfl
    | cons frame frames =>
        cases frame with
        | operation => rfl
        | bracket outer negated =>
            dsimp only
            cases flags.negate? negated (flags.fold set) with
            | none => rfl
            | some set => cases frames <;> rfl
  · rfl
  · rfl
  · rfl
  · rename_i hempty hopen hclose hand hdash htilde
    cases text with
    | nil => exact (hempty rfl).elim
    | cons c rest =>
        rw [readPart?_of_plain, readElement?, Reader.andThen]
        · cases readClassRange? flags (c :: rest) <;> rfl
        · rintro rfl
          exact hopen rest rfl
        · rintro rfl
          exact hclose rest rfl
        · rintro more hmem rfl
          simp only [List.mem_cons, List.not_mem_nil, or_false] at hmem
          rcases hmem with rfl | rfl | rfl
          · exact hand more rfl
          · exact hdash more rfl
          · exact htilde more rfl

theorem leaves_readInnerClass? (flags : Flags) (stack : List ClassFrame) (body : ClassBody) :
    (readInnerClass? flags stack body).Leaves := by
  intro text step after hread
  unfold readInnerClass? at hread
  split at hread
  · rename_i hnamed
    cases hread
    exact leaves_readAsciiClass? flags text _ _ hnamed
  · cases hread
  · exact (leaves_opening flags).andThen_given (openInner stack body) text step after hread

theorem peeks_readInnerClass? (flags : Flags) (stack : List ClassFrame) (body : ClassBody)
    (text : List Char) : (readInnerClass? flags stack body).Peeks text := by
  have hextends := extends_readAsciiClass? flags text
  cases hnamed : readAsciiClass? flags text with
  | none =>
      refine ((peeks_opening flags text).andThen_given (openInner stack body)).of_eq
        fun more hmore => ?_
      rw [readInnerClass?, hextends more hmore, hnamed]
      rfl
  | some named =>
      obtain ⟨set?, rest⟩ := named
      refine ((Reader.splices_given
        (set?.map fun set => ClassStep.unfinished stack (body.insert set 0)) rest).peeks).of_eq
          fun more hmore => ?_
      rw [readInnerClass?, hextends more hmore, hnamed]
      cases set? <;> rfl

theorem leaves_readElement? (flags : Flags) (stack : List ClassFrame) (body : ClassBody) :
    (readElement? flags stack body).Leaves :=
  (leaves_readClassRange? flags).andThen_given _

theorem peeks_readElement? (flags : Flags) (stack : List ClassFrame) (body : ClassBody)
    (text : List Char) : (readElement? flags stack body).Peeks text :=
  (peeks_readClassRange? flags text).andThen_given _

theorem unfinished_of_readInnerClass? {flags : Flags} {stack : List ClassFrame} {body : ClassBody}
    {text after : List Char} {step : ClassStep}
    (hread : readInnerClass? flags stack body text = some (step, after)) :
    ∃ frames inner, step = .unfinished frames inner := by
  rw [readInnerClass?] at hread
  split at hread
  · cases hread
    exact ⟨_, _, rfl⟩
  · cases hread
  · obtain ⟨inner, more, -, hinner⟩ := Reader.andThen_eq_some.1 hread
    cases hinner
    exact ⟨_, _, rfl⟩

/-- An element takes its first character. -/
theorem suffix_of_readElement? {flags : Flags} {stack : List ClassFrame} {body : ClassBody} {c : Char}
    {rest after : List Char} {step : ClassStep}
    (hread : readElement? flags stack body (c :: rest) = some (step, after)) : after <:+ rest := by
  have hshort := (shortens_readClassRange? flags).andThen (fun _ => Reader.leaves_given _) _ step
    after hread
  rcases List.suffix_cons_iff.1 (leaves_readElement? flags stack body _ step after hread) with
    rfl | hsuffix
  · exact absurd hshort (Nat.lt_irrefl _)
  · exact hsuffix

theorem unfinished_of_readElement? {flags : Flags} {stack : List ClassFrame} {body : ClassBody}
    {text after : List Char} {step : ClassStep}
    (hread : readElement? flags stack body text = some (step, after)) :
    ∃ frames inner, step = .unfinished frames inner := by
  obtain ⟨element, more, -, helement⟩ := Reader.andThen_eq_some.1 hread
  cases helement
  exact ⟨_, _, rfl⟩

/-- The shapes of a text in which a part of a class begins. -/
inductive PartKind (flags : Flags) (stack : List ClassFrame) (body : ClassBody) (c : Char)
    (rest : List Char) : Prop where
  | inner (hread : ∀ more,
      readPart? flags stack body (c :: rest ++ more) =
        readInnerClass? flags stack body (rest ++ more))
  | close (hc : c = ']')
      (hread : ∀ more, readPart? flags stack body (c :: rest ++ more) =
        Reader.given (closeClass? flags stack body) (rest ++ more))
  | operation (frames : List ClassFrame) (after : List Char) (hafter : after <:+ rest)
      (hread : ∀ more, readPart? flags stack body (c :: rest ++ more) =
        Reader.given (some (.unfinished frames .nothing)) (after ++ more))
  | element (hread : ∀ more, Ending more →
      readPart? flags stack body (c :: rest ++ more) =
        readElement? flags stack body (c :: rest ++ more))

theorem partKind (flags : Flags) (stack : List ClassFrame) (body : ClassBody) (c : Char)
    (rest : List Char) : PartKind flags stack body c rest := by
  by_cases hopen : c = '['
  · subst hopen
    exact .inner fun more => rfl
  · by_cases hclose : c = ']'
    · subst hclose
      exact .close rfl fun more => rfl
    · by_cases htwice : c ∈ ['&', '-', '~'] ∧ ∃ more, rest = c :: more
      · obtain ⟨hmem, after, rfl⟩ := htwice
        simp only [List.mem_cons, List.not_mem_nil, or_false] at hmem
        rcases hmem with rfl | rfl | rfl <;>
          exact .operation _ after (List.suffix_cons ..) fun more => rfl
      · refine .element fun more hmore => readPart?_of_plain hopen hclose fun after hmem heq => ?_
        cases rest with
        | nil =>
            cases hmore with
            | nothing => cases heq
            | closing count =>
                cases heq
                revert hmem
                decide
        | cons d rest =>
            obtain ⟨rfl, -⟩ := List.cons.inj heq
            exact htwice ⟨hmem, rest, rfl⟩

theorem leaves_readPart? (flags : Flags) (stack : List ClassFrame) (body : ClassBody) :
    (readPart? flags stack body).Leaves := by
  intro text step after hread
  cases text with
  | nil => cases hread
  | cons c rest =>
      rw [← List.append_nil (c :: rest)] at hread
      cases partKind flags stack body c rest with
      | inner hkind =>
          rw [hkind, List.append_nil] at hread
          exact (leaves_readInnerClass? flags stack body rest step after hread).trans
            (List.suffix_cons ..)
      | close hc hkind =>
          rw [hkind, List.append_nil] at hread
          exact (Reader.leaves_given _ rest step after hread).trans (List.suffix_cons ..)
      | operation frames more hmore hkind =>
          rw [hkind, List.append_nil] at hread
          exact (Reader.leaves_given _ more step after hread).trans
            (hmore.trans (List.suffix_cons ..))
      | element hkind =>
          rw [hkind [] .nothing, List.append_nil] at hread
          exact leaves_readElement? flags stack body _ step after hread

theorem shortens_readPart? (flags : Flags) (stack : List ClassFrame) (body : ClassBody) :
    (readPart? flags stack body).Shortens := by
  intro text step after hread
  cases text with
  | nil => cases hread
  | cons c rest =>
      rw [← List.append_nil (c :: rest)] at hread
      cases partKind flags stack body c rest with
      | inner hkind =>
          rw [hkind, List.append_nil] at hread
          exact Nat.lt_succ_of_le
            (leaves_readInnerClass? flags stack body rest step after hread).length_le
      | close hc hkind =>
          rw [hkind, List.append_nil] at hread
          exact Nat.lt_succ_of_le (Reader.leaves_given _ rest step after hread).length_le
      | operation frames more hmore hkind =>
          rw [hkind, List.append_nil] at hread
          exact Nat.lt_succ_of_le
            ((Reader.leaves_given _ more step after hread).trans hmore).length_le
      | element hkind =>
          rw [hkind [] .nothing, List.append_nil] at hread
          exact (shortens_readClassRange? flags).andThen (fun _ => Reader.leaves_given _) _ step
            after hread

/-! ## Whole classes -/

/-- A part of a class. -/
def readStep? (flags : Flags) (stack : List ClassFrame) (body : ClassBody) : Reader ClassStep :=
  flags.skipping.andThen fun _ => readPart? flags stack body

/-- A class ends with a bracket only. -/
theorem mem_of_readPart?_finished {flags : Flags} {stack : List ClassFrame} {body : ClassBody}
    {text after : List Char} {set : CharSet} {depth : Nat}
    (hread : readPart? flags stack body text = some (.finished set depth, after)) : ']' ∈ text := by
  cases text with
  | nil => cases hread
  | cons c rest =>
      rw [← List.append_nil (c :: rest)] at hread
      cases partKind flags stack body c rest with
      | inner hkind =>
          obtain ⟨frames, inner, hstep⟩ := unfinished_of_readInnerClass? (hkind [] ▸ hread)
          cases hstep
      | close hc hkind => exact hc ▸ List.mem_cons_self
      | operation frames more hmore hkind =>
          rw [hkind] at hread
          cases hread
      | element hkind =>
          obtain ⟨frames, inner, hstep⟩ := unfinished_of_readElement? (hkind [] .nothing ▸ hread)
          cases hstep

theorem leaves_readStep? (flags : Flags) (stack : List ClassFrame) (body : ClassBody) :
    (readStep? flags stack body).Leaves :=
  flags.leaves_skipping.andThen fun _ => leaves_readPart? flags stack body

theorem shortens_readStep? (flags : Flags) (stack : List ClassFrame) (body : ClassBody) :
    (readStep? flags stack body).Shortens :=
  flags.leaves_skipping.andThen_shortens fun _ => shortens_readPart? flags stack body

/-- The number of rounds does not matter if it is large enough. -/
theorem readClass?_rounds {flags : Flags} {rounds rounds' : Nat} {stack : List ClassFrame}
    {body : ClassBody} {text : List Char} (hrounds : text.length < rounds)
    (hrounds' : text.length < rounds') :
    readClass? flags rounds stack body text = readClass? flags rounds' stack body text := by
  induction rounds generalizing rounds' stack body text with
  | zero => omega
  | succ rounds ih =>
      obtain ⟨rounds', rfl⟩ : ∃ n, rounds' = n + 1 := ⟨rounds' - 1, by omega⟩
      rw [readClass?_succ, readClass?_succ]
      cases hstep : readPart? flags stack body (flags.skip text) with
      | none => rfl
      | some result =>
          obtain ⟨step, rest⟩ := result
          have hless := shortens_readStep? flags stack body text step rest hstep
          cases step with
          | finished set depth => rfl
          | unfinished stack body => exact ih (by omega) (by omega)

/-- The rest of a class. -/
def restOfClass (flags : Flags) (stack : List ClassFrame) (body : ClassBody) :
    Reader (CharSet × Nat) := fun text =>
  (readClass? flags (text.length + 1) stack body text).map fun (set, depth, rest) =>
    ((set, depth), rest)

/-- What follows a part of a class. -/
def afterStep (flags : Flags) : ClassStep → Reader (CharSet × Nat)
  | .finished set depth => .given (some (set, depth))
  | .unfinished stack body => restOfClass flags stack body

theorem restOfClass_eq (flags : Flags) (stack : List ClassFrame) (body : ClassBody) :
    restOfClass flags stack body = (readStep? flags stack body).andThen (afterStep flags) := by
  funext text
  rw [restOfClass, readClass?_succ, Reader.andThen]
  change _ = (readPart? flags stack body (flags.skip text)).bind _
  cases hstep : readPart? flags stack body (flags.skip text) with
  | none => rfl
  | some result =>
      obtain ⟨step, rest⟩ := result
      have hless := shortens_readStep? flags stack body text step rest hstep
      cases step with
      | finished set depth => rfl
      | unfinished stack body =>
          simp only [Option.bind_some, afterStep, restOfClass, resumeClass?]
          rw [readClass?_rounds hless (Nat.lt_succ_self rest.length)]

theorem leaves_restOfClass (flags : Flags) (stack : List ClassFrame) (body : ClassBody) :
    (restOfClass flags stack body).Leaves := by
  intro text result after hread
  induction hlength : text.length using Nat.strongRecOn generalizing text stack body with
  | ind length ih =>
      rw [restOfClass_eq] at hread
      obtain ⟨step, rest, hstep, hrest⟩ := Reader.andThen_eq_some.1 hread
      have hless := shortens_readStep? flags stack body text step rest hstep
      refine List.IsSuffix.trans ?_ (leaves_readStep? flags stack body text step rest hstep)
      cases step with
      | finished set depth => exact Reader.leaves_given _ rest result after hrest
      | unfinished stack body => exact ih rest.length (hlength ▸ hless) stack body rest hrest rfl

theorem restOfClass_of_not_mem {flags : Flags} {stack : List ClassFrame} {body : ClassBody}
    {text : List Char} (hmem : ']' ∉ flags.skip text) : restOfClass flags stack body text = none := by
  induction hlength : text.length using Nat.strongRecOn generalizing text stack body with
  | ind length ih =>
      rw [restOfClass_eq]
      cases hstep : readStep? flags stack body text with
      | none => exact Reader.andThen_of_none hstep
      | some result =>
          obtain ⟨step, rest⟩ := result
          rw [Reader.andThen_of_some hstep]
          cases step with
          | finished set depth => exact absurd (mem_of_readPart?_finished hstep) hmem
          | unfinished stack' body' =>
              have hless := shortens_readStep? flags _ _ text _ rest hstep
              have hrest := leaves_readPart? flags _ _ _ _ rest hstep
              refine ih rest.length (hlength ▸ hless) (fun h => hmem (hrest.subset ?_)) rfl
              exact (flags.skip_suffix rest).subset h

theorem restOfClass_of_suffix_closing {flags : Flags} {stack : List ClassFrame} {body : ClassBody}
    {count : Nat} {text : List Char} (htext : text <:+ closing count) :
    restOfClass flags stack body text = none :=
  restOfClass_of_not_mem fun hmem => not_mem_of_suffix_closing htext (by decide) (by decide)
    ((flags.skip_suffix text).subset hmem)

theorem leaves_afterStep (flags : Flags) (step : ClassStep) : (afterStep flags step).Leaves := by
  cases step with
  | finished set depth => exact Reader.leaves_given _
  | unfinished stack body => exact leaves_restOfClass flags stack body

theorem restOfClass_of_skip {flags : Flags} {text rest : List Char} (hskip : flags.skip text = rest)
    (stack : List ClassFrame) (body : ClassBody) :
    restOfClass flags stack body text =
      (readPart? flags stack body).andThen (afterStep flags) rest := by
  rw [restOfClass_eq, ← hskip]
  rfl

theorem splices_restOfClass (flags : Flags) (stack : List ClassFrame) (body : ClassBody)
    (text : List Char) : (restOfClass flags stack body).Splices text := by
  induction hlength : text.length using Nat.strongRecOn generalizing text stack body with
  | ind length ih =>
      cases flags.skips text with
      | atEnd hidden hskip hspliced =>
          refine .beyond (restOfClass_of_not_mem (hskip ▸ List.not_mem_nil)) fun count set rest hread => ?_
          have hmem : ']' ∉ flags.skip (text ++ closing count) := by
            rw [hspliced]
            cases hidden with
            | true => exact List.not_mem_nil
            | false => exact not_mem_of_suffix_closing List.suffix_rfl (by decide) (by decide)
          rw [restOfClass_of_not_mem hmem] at hread
          cases hread
      | @inside c rest hskip hspliced =>
          have hless : rest.length < text.length := flags.length_lt_of_skip hskip
          have hafter : ∀ step after, after <:+ rest → (afterStep flags step).Splices after := by
            intro step after hsuffix
            cases step with
            | finished set depth => exact Reader.splices_given _ after
            | unfinished frames inner =>
                exact ih after.length (hlength ▸ Nat.lt_of_le_of_lt hsuffix.length_le hless)
                  frames inner after rfl
          have hpart : ∀ (part : Reader ClassStep) (text' : List Char),
              (part.andThen (afterStep flags)).Splices text' →
              (∀ more, Ending more →
                readPart? flags stack body (c :: rest ++ more) = part (text' ++ more)) →
              (restOfClass flags stack body).Splices text := by
            intro part text' hsplices hkind
            refine hsplices.of_eq fun more hmore => ?_
            rw [restOfClass_of_skip (hspliced more), Reader.andThen, hkind more hmore]
            rfl
          have hunfinished : ∀ {step : ClassStep} {count : Nat} {more : List Char},
              (∃ frames inner, step = .unfinished frames inner) → more <:+ closing count →
              afterStep flags step more = none := by
            rintro step count more ⟨frames, inner, rfl⟩ hmore
            exact restOfClass_of_suffix_closing hmore
          cases partKind flags stack body c rest with
          | inner hkind =>
              refine hpart _ rest ?_ fun more _ => hkind more
              exact (peeks_readInnerClass? flags stack body rest).splices
                (fun step d more hread =>
                  hafter step _ (leaves_readInnerClass? flags stack body rest step _ hread))
                fun text step after hread count more hmore =>
                  hunfinished (unfinished_of_readInnerClass? hread) hmore
          | close hc hkind =>
              refine hpart _ rest ?_ fun more _ => hkind more
              exact (Reader.splices_given _ rest).andThen (leaves_afterStep flags)
                fun step after hread => hafter step after
                  (Reader.leaves_given _ rest step after hread)
          | operation frames after hsuffix hkind =>
              refine hpart _ after ?_ fun more _ => hkind more
              exact (Reader.splices_given _ after).andThen (leaves_afterStep flags)
                fun step last hread => hafter step last
                  ((Reader.leaves_given _ after step last hread).trans hsuffix)
          | element hkind =>
              refine hpart _ (c :: rest) ?_ hkind
              exact (peeks_readElement? flags stack body (c :: rest)).splices
                (fun step d more hread => hafter step _ (suffix_of_readElement? hread))
                fun text step after hread count more hmore =>
                  hunfinished (unfinished_of_readElement? hread) hmore

/-! ## Classes behind their brackets -/

/-- A whole class. -/
def bracket (flags : Flags) : Reader (CharSet × Nat) := fun text =>
  (readBracket? flags text).map fun (set, depth, rest) => ((set, depth), rest)

theorem bracket_eq (flags : Flags) :
    bracket flags = (opening flags).andThen fun (negated, body) =>
      restOfClass flags [.bracket .nothing negated] body := by
  funext text
  have hopening := opening_eq flags text
  have hlength := (leaves_opening flags text _ _ hopening).length_le
  rw [Reader.andThen_of_some hopening, bracket, readBracket?]
  dsimp only [restOfClass]
  rw [readClass?_rounds (Nat.lt_succ_of_le hlength) (Nat.lt_succ_self _)]

theorem leaves_bracket (flags : Flags) : (bracket flags).Leaves := by
  rw [bracket_eq]
  exact (leaves_opening flags).andThen fun (negated, body) => leaves_restOfClass flags _ body

theorem splices_bracket (flags : Flags) (text : List Char) : (bracket flags).Splices text := by
  rw [bracket_eq]
  exact (peeks_opening flags text).splices
    (fun (negated, body) c rest _ => splices_restOfClass flags _ body (c :: rest))
    fun _ (negated, body) _ _ count more hmore => restOfClass_of_suffix_closing hmore

end TypedOptions.Regex
