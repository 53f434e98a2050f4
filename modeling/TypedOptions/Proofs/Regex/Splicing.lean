import TypedOptions.Regex.Reader

/-!
# Reading in front of a parenthesis

A pattern is put into a group by writing a parenthesis behind it.  The readers
of its parts then find this parenthesis where their text used to end.  Either
this makes no difference to them, or they take the parenthesis, or they fail
with and without it.
-/

namespace TypedOptions.Regex

variable {α β : Type}

/-- A reader takes characters from the front of a text. -/
abbrev Reader (α : Type) := List Char → Option (α × List Char)

/-- The end of a group and some anchors. -/
def closing (count : Nat) : List Char :=
  ')' :: List.replicate count '$'

theorem mem_closing {count : Nat} {c : Char} (hc : c ∈ closing count) : c = ')' ∨ c = '$' :=
  (List.mem_cons.1 hc).imp id List.eq_of_mem_replicate

/-- What may stand behind a pattern. -/
inductive Ending : List Char → Prop where
  | nothing : Ending []
  | closing (count : Nat) : Ending (closing count)

theorem Ending.suffix_closing {more : List Char} (hmore : Ending more) :
    ∃ count, more <:+ Regex.closing count := by
  cases hmore with
  | nothing => exact ⟨0, List.nil_suffix⟩
  | closing count => exact ⟨count, List.suffix_rfl⟩

theorem not_mem_of_suffix_closing {count : Nat} {rest : List Char} (hrest : rest <:+ closing count)
    {c : Char} (hparenthesis : c ≠ ')') (hanchor : c ≠ '$') : c ∉ rest :=
  fun hmem => (mem_closing (hrest.subset hmem)).elim hparenthesis hanchor

namespace Reader

/-- What the reader leaves is an end of what it is given. -/
def Leaves (reader : Reader α) : Prop :=
  ∀ text a rest, reader text = some (a, rest) → rest <:+ text

/-- The reader takes a character at least. -/
def Shortens (reader : Reader α) : Prop :=
  ∀ text a rest, reader text = some (a, rest) → rest.length < text.length

/-- Where the text goes on with a parenthesis, the reader does the same, or it takes the
parenthesis, which the text alone does not have. -/
inductive Splices (reader : Reader α) (text : List Char) : Prop where
  | inside {a : α} {rest : List Char} (hread : reader text = some (a, rest))
      (hspliced : ∀ count, reader (text ++ closing count) = some (a, rest ++ closing count)) :
      Splices reader text
  | beyond (hread : reader text = none)
      (hspliced : ∀ count a rest, reader (text ++ closing count) = some (a, rest) →
        rest <:+ List.replicate count '$') :
      Splices reader text

/-- Where the text goes on with a parenthesis, the reader does the same unless it comes to the end
of the text. -/
inductive Peeks (reader : Reader α) (text : List Char) : Prop where
  | inside {a : α} {c : Char} {rest : List Char} (hread : reader text = some (a, c :: rest))
      (hspliced : ∀ count,
        reader (text ++ closing count) = some (a, c :: rest ++ closing count)) :
      Peeks reader text
  | atEnd (hread : ∀ a rest, reader text = some (a, rest) → rest = [])
      (hspliced : ∀ count a rest, reader (text ++ closing count) = some (a, rest) →
        rest <:+ closing count) :
      Peeks reader text

variable {reader : Reader α} {next : α → Reader β} {text : List Char}

theorem Splices.peeks (hreader : reader.Splices text) : reader.Peeks text := by
  cases hreader with
  | @inside a rest hread hspliced =>
      cases rest with
      | cons c rest => exact .inside hread hspliced
      | nil =>
          refine .atEnd (fun b after hb => ?_) fun count b after hb => ?_
          · rw [hread] at hb
            cases hb
            rfl
          · rw [hspliced] at hb
            cases hb
            exact List.suffix_rfl
  | beyond hread hspliced =>
      refine .atEnd (fun b after hb => ?_) fun count b after hb => ?_
      · rw [hread] at hb
        cases hb
      · exact (hspliced count b after hb).trans (List.suffix_cons ..)

theorem Splices.of_eq {reader' : Reader α} {text' : List Char} (hreader : reader'.Splices text')
    (heq : ∀ more, Ending more → reader (text ++ more) = reader' (text' ++ more)) :
    reader.Splices text := by
  have htext : reader text = reader' text' := by simpa using heq [] .nothing
  cases hreader with
  | inside hread hspliced =>
      exact .inside (htext.trans hread) fun count =>
        (heq _ (.closing count)).trans (hspliced count)
  | beyond hread hspliced =>
      exact .beyond (htext.trans hread) fun count a rest ha =>
        hspliced count a rest (heq _ (.closing count) ▸ ha)

theorem Peeks.of_eq {reader' : Reader α} {text' : List Char} (hreader : reader'.Peeks text')
    (heq : ∀ more, Ending more → reader (text ++ more) = reader' (text' ++ more)) :
    reader.Peeks text := by
  have htext : reader text = reader' text' := by simpa using heq [] .nothing
  cases hreader with
  | inside hread hspliced =>
      exact .inside (htext.trans hread) fun count =>
        (heq _ (.closing count)).trans (hspliced count)
  | atEnd hread hspliced =>
      exact .atEnd (fun a rest ha => hread a rest (htext ▸ ha)) fun count a rest ha =>
        hspliced count a rest (heq _ (.closing count) ▸ ha)

/-! ## Readers that look for a mark -/

section Mark

variable {behind before : Reader α} {mark : Char}

theorem ne_of_ending {more : List Char} (hmark : mark ≠ ')') (hmore : Ending more)
    (rest : List Char) : more ≠ mark :: rest := by
  rintro rfl
  cases hmore
  exact hmark rfl

theorem append_ne_of_mark (hmark : mark ≠ ')') (htext : ∀ rest, text ≠ mark :: rest)
    {more : List Char} (hmore : Ending more) (rest : List Char) : text ++ more ≠ mark :: rest := by
  cases text with
  | nil => exact ne_of_ending hmark hmore rest
  | cons c after =>
      intro heq
      obtain ⟨rfl, -⟩ := List.cons.inj heq
      exact htext after rfl

/-- A reader that reads one way behind a mark and another way where there is none. -/
theorem Splices.of_mark (hmark : mark ≠ ')') (heq : ∀ rest, reader (mark :: rest) = behind rest)
    (hplain : ∀ text, (∀ rest, text ≠ mark :: rest) → reader text = before text)
    (hbehind : ∀ rest, text = mark :: rest → behind.Splices rest)
    (hbefore : (∀ rest, text ≠ mark :: rest) → before.Splices text) : reader.Splices text := by
  by_cases htext : ∃ rest, text = mark :: rest
  · obtain ⟨rest, rfl⟩ := htext
    exact (hbehind rest rfl).of_eq fun more _ => heq (rest ++ more)
  · exact (hbefore (not_exists.1 htext)).of_eq fun more hmore =>
      hplain _ (append_ne_of_mark hmark (not_exists.1 htext) hmore)

theorem Peeks.of_mark (hmark : mark ≠ ')') (heq : ∀ rest, reader (mark :: rest) = behind rest)
    (hplain : ∀ text, (∀ rest, text ≠ mark :: rest) → reader text = before text)
    (hbehind : ∀ rest, text = mark :: rest → behind.Peeks rest)
    (hbefore : (∀ rest, text ≠ mark :: rest) → before.Peeks text) : reader.Peeks text := by
  by_cases htext : ∃ rest, text = mark :: rest
  · obtain ⟨rest, rfl⟩ := htext
    exact (hbehind rest rfl).of_eq fun more _ => heq (rest ++ more)
  · exact (hbefore (not_exists.1 htext)).of_eq fun more hmore =>
      hplain _ (append_ne_of_mark hmark (not_exists.1 htext) hmore)

end Mark

/-! ## One reader after another -/

/-- Reads on with what the first reader leaves. -/
def andThen (reader : Reader α) (next : α → Reader β) : Reader β := fun text =>
  (reader text).bind fun (a, rest) => next a rest

theorem andThen_eq_some {text after : List Char} {b : β} :
    reader.andThen next text = some (b, after) ↔
      ∃ a rest, reader text = some (a, rest) ∧ next a rest = some (b, after) := by
  simp [andThen, Option.bind_eq_some_iff]

theorem andThen_of_some {a : α} {rest : List Char} (hread : reader text = some (a, rest)) :
    reader.andThen next text = next a rest := by
  rw [andThen, hread]
  rfl

theorem andThen_of_none (hread : reader text = none) : reader.andThen next text = none := by
  rw [andThen, hread]
  rfl

theorem Leaves.andThen (hreader : reader.Leaves) (hnext : ∀ a, (next a).Leaves) :
    (reader.andThen next).Leaves := by
  intro text b after hread
  obtain ⟨a, rest, hfirst, hsecond⟩ := andThen_eq_some.1 hread
  exact (hnext a rest b after hsecond).trans (hreader text a rest hfirst)

theorem Shortens.andThen (hreader : reader.Shortens) (hnext : ∀ a, (next a).Leaves) :
    (reader.andThen next).Shortens := by
  intro text b after hread
  obtain ⟨a, rest, hfirst, hsecond⟩ := andThen_eq_some.1 hread
  exact Nat.lt_of_le_of_lt (hnext a rest b after hsecond).length_le (hreader text a rest hfirst)

theorem Leaves.andThen_shortens (hreader : reader.Leaves) (hnext : ∀ a, (next a).Shortens) :
    (reader.andThen next).Shortens := by
  intro text b after hread
  obtain ⟨a, rest, hfirst, hsecond⟩ := andThen_eq_some.1 hread
  exact Nat.lt_of_lt_of_le (hnext a rest b after hsecond) (hreader text a rest hfirst).length_le

theorem Splices.andThen (hreader : reader.Splices text) (hleaves : ∀ a, (next a).Leaves)
    (hnext : ∀ a rest, reader text = some (a, rest) → (next a).Splices rest) :
    (reader.andThen next).Splices text := by
  cases hreader with
  | @inside a rest hread hspliced =>
      cases hnext a rest hread with
      | inside hread' hspliced' =>
          refine .inside ((andThen_of_some hread).trans hread') fun count => ?_
          rw [andThen_of_some (hspliced count), hspliced']
      | beyond hread' hspliced' =>
          refine .beyond ((andThen_of_some hread).trans hread') fun count b after hb => ?_
          rw [andThen_of_some (hspliced count)] at hb
          exact hspliced' count b after hb
  | beyond hread hspliced =>
      refine .beyond (andThen_of_none hread) fun count b after hb => ?_
      obtain ⟨a, rest, hfirst, hsecond⟩ := andThen_eq_some.1 hb
      exact (hleaves a rest b after hsecond).trans (hspliced count a rest hfirst)

theorem Peeks.andThen (hreader : reader.Peeks text) (hleaves : ∀ a, (next a).Leaves)
    (hnext : ∀ a c rest, reader text = some (a, c :: rest) → (next a).Peeks (c :: rest)) :
    (reader.andThen next).Peeks text := by
  cases hreader with
  | @inside a c rest hread hspliced =>
      cases hnext a c rest hread with
      | inside hread' hspliced' =>
          refine .inside ((andThen_of_some hread).trans hread') fun count => ?_
          rw [andThen_of_some (hspliced count), hspliced']
      | atEnd hread' hspliced' =>
          refine .atEnd (fun b after hb => ?_) fun count b after hb => ?_
          · rw [andThen_of_some hread] at hb
            exact hread' b after hb
          · rw [andThen_of_some (hspliced count)] at hb
            exact hspliced' count b after hb
  | atEnd hread hspliced =>
      refine .atEnd (fun b after hb => ?_) fun count b after hb => ?_
      · obtain ⟨a, rest, hfirst, hsecond⟩ := andThen_eq_some.1 hb
        rw [hread a rest hfirst] at hsecond
        exact List.suffix_nil.1 (hleaves a [] b after hsecond)
      · obtain ⟨a, rest, hfirst, hsecond⟩ := andThen_eq_some.1 hb
        exact (hleaves a rest b after hsecond).trans (hspliced count a rest hfirst)

/-- A reader that comes to the end of the text is followed by one that needs more than that. -/
theorem Peeks.splices (hreader : reader.Peeks text)
    (hnext : ∀ a c rest, reader text = some (a, c :: rest) → (next a).Splices (c :: rest))
    (hend : ∀ text a rest, reader text = some (a, rest) →
      ∀ count more, more <:+ closing count → next a more = none) :
    (reader.andThen next).Splices text := by
  cases hreader with
  | @inside a c rest hread hspliced =>
      cases hnext a c rest hread with
      | inside hread' hspliced' =>
          refine .inside ((andThen_of_some hread).trans hread') fun count => ?_
          rw [andThen_of_some (hspliced count), hspliced']
      | beyond hread' hspliced' =>
          refine .beyond ((andThen_of_some hread).trans hread') fun count b after hb => ?_
          rw [andThen_of_some (hspliced count)] at hb
          exact hspliced' count b after hb
  | atEnd hread hspliced =>
      refine .beyond ?_ fun count b after hb => ?_
      · refine Option.eq_none_iff_forall_not_mem.2 fun (b, after) hb => ?_
        obtain ⟨a, rest, hfirst, hsecond⟩ := andThen_eq_some.1 hb
        rw [hread a rest hfirst, hend text a rest hfirst 0 [] List.nil_suffix] at hsecond
        cases hsecond
      · obtain ⟨a, rest, hfirst, hsecond⟩ := andThen_eq_some.1 hb
        rw [hend _ a rest hfirst count rest (hspliced count a rest hfirst)] at hsecond
        cases hsecond

/-- Where the text goes on with a parenthesis, the reader does the same. -/
def Extends (reader : Reader α) (text : List Char) : Prop :=
  ∀ more, Ending more →
    reader (text ++ more) = (reader text).map fun (a, rest) => (a, rest ++ more)

theorem Extends.andThen (hreader : reader.Extends text)
    (hnext : ∀ a rest, reader text = some (a, rest) → (next a).Extends rest) :
    (reader.andThen next).Extends text := by
  intro more hmore
  rw [Reader.andThen, hreader more hmore]
  cases hread : reader text with
  | none => rw [andThen_of_none hread]; rfl
  | some result =>
      obtain ⟨a, rest⟩ := result
      rw [andThen_of_some hread]
      exact hnext a rest hread more hmore

theorem Extends.splices (hreader : reader.Extends text) : reader.Splices text := by
  cases hread : reader text with
  | none =>
      refine .beyond hread fun count a rest ha => ?_
      rw [hreader _ (.closing count), hread] at ha
      cases ha
  | some result =>
      exact .inside hread fun count => by
        rw [hreader _ (.closing count), hread]
        rfl

/-- Yields a value, if there is one, and takes nothing. -/
def given (value? : Option α) : Reader α := fun text => value?.map (·, text)

theorem leaves_given (value? : Option α) : (given value?).Leaves := by
  intro text a rest hread
  cases value? with
  | none => cases hread
  | some value =>
      cases hread
      exact List.suffix_rfl

theorem splices_given (value? : Option α) (text : List Char) : (given value?).Splices text := by
  cases value? with
  | none => exact .beyond rfl fun count a rest hread => by cases hread
  | some value => exact .inside rfl fun count => rfl

theorem Leaves.andThen_given (hreader : reader.Leaves) (value? : α → Option β) :
    (reader.andThen fun a => given (value? a)).Leaves :=
  hreader.andThen fun a => leaves_given (value? a)

theorem Splices.andThen_given (hreader : reader.Splices text) (value? : α → Option β) :
    (reader.andThen fun a => given (value? a)).Splices text :=
  hreader.andThen (fun a => leaves_given (value? a)) fun a rest _ => splices_given (value? a) rest

theorem Peeks.andThen_given (hreader : reader.Peeks text) (value? : α → Option β) :
    (reader.andThen fun a => given (value? a)).Peeks text :=
  hreader.andThen (fun a => leaves_given (value? a)) fun a c rest _ =>
    (splices_given (value? a) (c :: rest)).peeks

/-- A separator is looked for in the text alone. -/
theorem extends_splitFirst {separator : Char} (hparenthesis : separator ≠ ')')
    (hanchor : separator ≠ '$') (text : List Char) :
    Extends (Text.splitFirst separator) text := by
  intro more hmore
  induction text with
  | nil =>
      obtain ⟨count, hsuffix⟩ := hmore.suffix_closing
      exact Text.splitFirst_of_not_mem
        (not_mem_of_suffix_closing hsuffix hparenthesis hanchor)
  | cons c rest ih =>
      by_cases hc : c = separator
      · simp [Text.splitFirst, hc]
      · rw [List.cons_append, Text.splitFirst, Text.splitFirst, if_neg hc, if_neg hc, ih,
          Option.map_map, Option.map_map]
        rfl

theorem leaves_splitFirst {separator : Char} : Leaves (Text.splitFirst separator) := by
  intro text before after hread
  obtain ⟨rfl, -⟩ := Text.splitFirst_eq_some hread
  exact (List.suffix_cons ..).trans (List.suffix_append ..)

end Reader

/-! ## What does not count -/

theorem skipExtended_true_of_not_mem {text : List Char} (htext : '\n' ∉ text) :
    skipExtended true text = [] := by
  induction text with
  | nil => rfl
  | cons c rest ih =>
      obtain ⟨hc, hrest⟩ := not_or.1 (mt List.mem_cons.2 htext)
      have hbne : (c != '\n') = true := by simpa using Ne.symm hc
      rw [skipExtended, if_pos rfl, hbne]
      exact ih hrest

theorem skipExtended_suffix (inComment : Bool) (text : List Char) :
    skipExtended inComment text <:+ text := by
  induction text generalizing inComment with
  | nil => exact List.suffix_rfl
  | cons c rest ih =>
      rw [skipExtended]
      split
      · exact (ih _).trans (List.suffix_cons ..)
      · split
        · exact (ih _).trans (List.suffix_cons ..)
        · split
          · exact (ih _).trans (List.suffix_cons ..)
          · exact List.suffix_rfl

/-- What is passed over ends in the text, or the text ends in it; then a comment that is open swallows
the parenthesis. -/
inductive Skips (skip : List Char → List Char) (text : List Char) : Prop where
  | inside {c : Char} {rest : List Char} (hskip : skip text = c :: rest)
      (hspliced : ∀ more, skip (text ++ more) = c :: rest ++ more) : Skips skip text
  | atEnd (hidden : Bool) (hskip : skip text = [])
      (hspliced : ∀ count, skip (text ++ closing count) = if hidden then [] else closing count) :
      Skips skip text

theorem Skips.cons {skip skip' : List Char → List Char} {c : Char} {text : List Char}
    (hskips : Skips skip' text) (hcons : ∀ rest, skip (c :: rest) = skip' rest) :
    Skips skip (c :: text) := by
  cases hskips with
  | inside hskip hspliced =>
      exact .inside (by rw [hcons, hskip]) fun more => by
        rw [List.cons_append, hcons, hspliced]
  | atEnd hidden hskip hspliced =>
      exact .atEnd hidden (by rw [hcons, hskip]) fun count => by
        rw [List.cons_append, hcons, hspliced]

theorem skips_skipExtended (inComment : Bool) (text : List Char) :
    Skips (skipExtended inComment) text := by
  induction text generalizing inComment with
  | nil =>
      cases inComment with
      | true =>
          refine .atEnd true rfl fun count => ?_
          exact skipExtended_true_of_not_mem
            (not_mem_of_suffix_closing List.suffix_rfl (by decide) (by decide))
      | false => exact .atEnd false rfl fun count => rfl
  | cons c rest ih =>
      cases inComment with
      | true => exact (ih (c != '\n')).cons fun rest => by rw [skipExtended, if_pos rfl]
      | false =>
          by_cases hblank : Text.isBlank c = true
          · exact (ih false).cons fun rest => by simp [skipExtended, hblank]
          · by_cases hmark : c == '#'
            · exact (ih true).cons fun rest => by simp [skipExtended, hblank, hmark]
            · have hstays : ∀ rest, skipExtended false (c :: rest) = c :: rest := fun rest => by
                simp [skipExtended, hblank, hmark]
              exact .inside (hstays rest) fun more => hstays (rest ++ more)

namespace Flags

theorem skip_suffix (flags : Flags) (text : List Char) : flags.skip text <:+ text := by
  unfold skip
  split
  · exact skipExtended_suffix false text
  · exact List.suffix_rfl

theorem skip_of_plain (flags : Flags) {c : Char} (hblank : Text.isBlank c = false) (hmark : c ≠ '#')
    (rest : List Char) : flags.skip (c :: rest) = c :: rest := by
  unfold skip
  split
  · simp [skipExtended, hblank, hmark]
  · rfl

@[simp] theorem skip_nil (flags : Flags) : flags.skip [] = [] :=
  List.suffix_nil.1 (flags.skip_suffix [])

theorem skips (flags : Flags) (text : List Char) : Skips flags.skip text := by
  cases hextended : flags.extended with
  | true =>
      have hskip : flags.skip = skipExtended false := by
        funext text
        rw [skip, if_pos hextended]
      rw [hskip]
      exact skips_skipExtended false text
  | false =>
      cases text with
      | nil => exact .atEnd false (skip_of_not_extended hextended _) fun count =>
          skip_of_not_extended hextended _
      | cons c rest => exact .inside (skip_of_not_extended hextended _) fun more =>
          skip_of_not_extended hextended _

theorem exists_hidden {flags : Flags} {text : List Char} (hskip : flags.skip text = []) :
    ∃ hidden : Bool, ∀ count,
      flags.skip (text ++ closing count) = if hidden then [] else closing count := by
  cases flags.skips text with
  | inside hskip' =>
      rw [hskip] at hskip'
      cases hskip'
  | atEnd hidden _ hspliced => exact ⟨hidden, hspliced⟩

/-- The next character that counts. -/
def next? (flags : Flags) : Reader Char := fun text =>
  match flags.skip text with
  | [] => none
  | c :: rest => some (c, rest)

theorem next?_eq_some {flags : Flags} {text rest : List Char} {c : Char} :
    flags.next? text = some (c, rest) ↔ flags.skip text = c :: rest := by
  unfold next?
  cases flags.skip text with
  | nil => simp
  | cons d more => simp

theorem leaves_next? (flags : Flags) : flags.next?.Leaves := by
  intro text c rest hread
  rw [next?_eq_some] at hread
  exact (List.suffix_cons c rest).trans (hread ▸ flags.skip_suffix text)

theorem splices_next? (flags : Flags) (text : List Char) : flags.next?.Splices text := by
  cases flags.skips text with
  | inside hskip hspliced =>
      exact .inside (next?_eq_some.2 hskip) fun count => next?_eq_some.2 (hspliced _)
  | atEnd hidden hskip hspliced =>
      refine .beyond (by rw [next?, hskip]) fun count c rest hread => ?_
      rw [next?_eq_some, hspliced] at hread
      cases hidden with
      | true => cases hread
      | false =>
          cases hread
          exact List.suffix_rfl

/-- Takes what does not count. -/
def skipping (flags : Flags) : Reader Unit := fun text =>
  some ((), flags.skip text)

theorem skipping_andThen (flags : Flags) (next : Unit → Reader α) (text : List Char) :
    flags.skipping.andThen next text = next () (flags.skip text) :=
  rfl

theorem leaves_skipping (flags : Flags) : flags.skipping.Leaves := by
  intro text a rest hread
  cases hread
  exact flags.skip_suffix text

theorem peeks_skipping (flags : Flags) (text : List Char) : flags.skipping.Peeks text := by
  cases flags.skips text with
  | inside hskip hspliced =>
      exact .inside (by rw [skipping, hskip]) fun count => by rw [skipping, hspliced]
  | atEnd hidden hskip hspliced =>
      refine .atEnd (fun a rest hread => ?_) fun count a rest hread => ?_
      · cases hread
        exact hskip
      · cases hread
        rw [hspliced]
        cases hidden with
        | true => exact List.nil_suffix
        | false => exact List.suffix_rfl

/-- A reader that needs a character reads on where everything counts up to it. -/
theorem splices_skipping_andThen {flags : Flags} {reader : Reader α} {text : List Char}
    (hnil : reader [] = none) (hreader : reader.Splices (flags.skip text)) :
    (flags.skipping.andThen fun _ => reader).Splices text := by
  cases flags.skips text with
  | inside hskip hspliced =>
      rw [hskip] at hreader
      refine hreader.of_eq fun more _ => ?_
      rw [← hspliced]
      rfl
  | atEnd hidden hskip hspliced =>
      rw [hskip] at hreader
      refine .beyond ?_ fun count a rest hread => ?_
      · exact (congrArg reader hskip).trans hnil
      · have hread' : reader (flags.skip (text ++ closing count)) = some (a, rest) := hread
        rw [hspliced] at hread'
        cases hidden with
        | true => rw [if_pos rfl, hnil] at hread'; cases hread'
        | false =>
            cases hreader with
            | inside hread'' => rw [hnil] at hread''; cases hread''
            | beyond _ hspliced' => exact hspliced' count a rest hread'

theorem length_lt_of_next? {flags : Flags} {text rest : List Char} {c : Char}
    (hread : flags.next? text = some (c, rest)) : rest.length < text.length :=
  flags.length_lt_of_skip (next?_eq_some.1 hread)

end Flags

end TypedOptions.Regex
