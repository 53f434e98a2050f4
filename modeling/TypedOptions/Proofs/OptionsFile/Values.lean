import TypedOptions.Proofs.OptionName
import TypedOptions.Proofs.OptionsFile.Inclusion

/-!
# Values that texts give

Whatever a text says, directly or through the files that it includes, is said
about names, and the values have a common form: there is no newline in them,
they do not start with white space, and they do not end with a continuation
mark.  They may end with white space, for what stands before a continuation
mark is kept, and the line behind it may be empty.
-/

namespace TypedOptions

namespace Statement

def EndsInLoneBackslash (text : List Char) : Prop :=
  ∃ before, text = before ++ ['\\'] ∧ before.getLast? ≠ some '\\'

/-- The form of all values that are read. -/
structure Legible (value : List Char) : Prop where
  unbroken : '\n' ∉ value
  start : Text.StartsPlain value
  complete : ¬EndsInLoneBackslash value

/-- The form of what is known of a value while it goes on. -/
structure Begun (value : List Char) : Prop where
  unbroken : '\n' ∉ value
  start : Text.StartsPlain value
  unmarked : value.getLast? ≠ some '\\'

theorem not_endsInLoneBackslash {text : List Char} (htext : text.getLast? ≠ some '\\') :
    ¬EndsInLoneBackslash text := by
  rintro ⟨before, rfl, -⟩
  exact htext List.getLast?_concat

/-! ## Continuation marks -/

theorem splitContinuation_of_lone {before : List Char} (hbefore : before.getLast? ≠ some '\\') :
    splitContinuation (before ++ ['\\']) = (before, true) := by
  unfold splitContinuation
  rw [List.reverse_append, List.reverse_singleton, List.singleton_append]
  rw [List.getLast?_eq_head?_reverse] at hbefore
  cases hreverse : before.reverse with
  | nil => simp
  | cons c rest =>
      rw [hreverse] at hbefore
      have hc : c ≠ '\\' := fun heq => hbefore (heq ▸ rfl)
      split
      · rename_i heq
        simp only [List.cons.injEq, true_and] at heq
        exact absurd heq.1 hc
      · simp
      · rename_i heq
        exact absurd rfl (heq _)

theorem splitContinuation_of_not_lone {text : List Char} (htext : ¬EndsInLoneBackslash text) :
    splitContinuation text = (text, false) := by
  rcases List.eq_nil_or_concat text with rfl | ⟨before, c, rfl⟩
  · rfl
  · rw [List.concat_eq_append] at htext ⊢
    unfold splitContinuation
    rw [List.reverse_append, List.reverse_singleton, List.singleton_append]
    split
    · rfl
    · rename_i rest hsingle heq
      obtain ⟨rfl, hrest⟩ := List.cons.inj heq
      refine absurd ⟨before, rfl, ?_⟩ htext
      rw [List.getLast?_eq_head?_reverse, hrest]
      cases rest with
      | nil => simp
      | cons next more =>
          intro hnext
          cases hnext
          exact hsingle _ rfl
    · rfl

/-- A part ends the value, or it goes on without its mark. -/
theorem splitContinuation_cases (part : List Char) :
    (¬EndsInLoneBackslash part ∧ splitContinuation part = (part, false)) ∨
      ∃ cut, part = cut ++ ['\\'] ∧ cut.getLast? ≠ some '\\' ∧
        splitContinuation part = (cut, true) := by
  by_cases hlone : EndsInLoneBackslash part
  · obtain ⟨cut, rfl, hcut⟩ := hlone
    exact Or.inr ⟨cut, rfl, hcut, splitContinuation_of_lone hcut⟩
  · exact Or.inl ⟨hlone, splitContinuation_of_not_lone hlone⟩

theorem begun_nil : Begun [] :=
  ⟨List.not_mem_nil, Text.startsPlain_nil, by simp⟩

theorem Begun.legible {value : List Char} (hbegun : Begun value) : Legible value :=
  ⟨hbegun.unbroken, hbegun.start, not_endsInLoneBackslash hbegun.unmarked⟩

theorem Begun.append_open {value cut : List Char} (hbegun : Begun value)
    (hunbroken : '\n' ∉ cut ++ ['\\']) (hstart : Text.StartsPlain (cut ++ ['\\']))
    (hcut : cut.getLast? ≠ some '\\') : Begun (value ++ cut) := by
  constructor
  · rw [List.mem_append, not_or] at hunbroken ⊢
    exact ⟨hbegun.unbroken, hunbroken.1⟩
  · exact hbegun.start.append (hstart.of_isPrefix (List.prefix_append cut _))
  · rw [List.getLast?_append]
    cases hlast : cut.getLast? with
    | none => exact hbegun.unmarked
    | some c =>
        rw [Option.some_or, ← hlast]
        exact hcut

theorem Begun.append_complete {value part : List Char} (hbegun : Begun value)
    (hunbroken : '\n' ∉ part) (hstart : Text.StartsPlain part)
    (hpart : ¬EndsInLoneBackslash part) : Legible (value ++ part) := by
  constructor
  · rw [List.mem_append, not_or]
    exact ⟨hbegun.unbroken, hunbroken⟩
  · exact hbegun.start.append hstart
  · rcases List.eq_nil_or_concat part with rfl | ⟨before, c, rfl⟩
    · rw [List.append_nil]
      exact not_endsInLoneBackslash hbegun.unmarked
    · rw [List.concat_eq_append] at hpart ⊢
      rintro ⟨whole, heq, hwhole⟩
      rw [← List.append_assoc] at heq
      obtain ⟨rfl, hc⟩ := List.append_inj' heq rfl
      obtain ⟨rfl, -⟩ := List.cons.inj hc
      -- The mark belongs to the part, so what stands before it there is a backslash.
      refine hpart ⟨before, rfl, fun hlast => hwhole ?_⟩
      rw [List.getLast?_append, hlast, Option.some_or]

/-! ## The statements of a text -/

/-- A statement whose name is one, and whose value has the form of values. -/
def Regular : Statement → Prop
  | .assignment key value => isName key.toList = true ∧ Legible value
  | .heading name => name = "" ∨ isName name.toList = true
  | _ => True

/-- A trimmed line assigns a value if a name stands before the first separator. -/
theorem read_of_splitFirst {line before after : List Char} (hstart : Text.StartsPlain line)
    (hsplit : Text.splitFirst '=' line = some (before, after))
    (hlegal : isName (Text.trim before) = true) :
    read line = .assignment (String.ofList (Text.trim before)) (Text.trim after) := by
  obtain ⟨c, rest, hname, hc⟩ := exists_cons_of_isName hlegal
  have hline := (Text.splitFirst_eq_some hsplit).1
  obtain ⟨more, hbefore⟩ : Text.trim before <+: before := by
    rw [hline] at hstart
    rw [Text.trim_of_startsPlain (hstart.of_isPrefix (List.prefix_append _ _))]
    exact Text.isPrefix_trimEnd _
  have hcons : line = c :: (rest ++ more ++ '=' :: after) := by
    rw [hline, ← hbefore, hname]
    rfl
  have hlength : ¬line.length < 2 := by
    rw [hcons, List.length_cons, List.length_append, List.length_cons]
    omega
  rw [hcons, read_of_isNameChar _ hc, ← hcons]
  simp only [ofAssignment, hlength, if_false, hsplit, hlegal, if_true]

theorem regular_of_read {line : List Char} {statement : Statement}
    (hread : read line = statement) (hother : ∀ key value, statement ≠ .assignment key value) :
    statement.Regular := by
  cases statement with
  | assignment key value => exact absurd rfl (hother key value)
  | heading name => exact read_eq_heading hread
  | nothing => trivial
  | inclusion argument => trivial
  | faulty fault => trivial

theorem regular_of_mem_withPart {key : String} {value part : List Char} {statement : Statement}
    {following : Option (String × List Char) → List Statement}
    (hkey : isName key.toList = true) (hbegun : Begun value) (hunbroken : '\n' ∉ part)
    (hstart : Text.StartsPlain part)
    (hnone : statement ∈ following none → statement.Regular)
    (hsome : ∀ longer, Begun longer → statement ∈ following (some (key, longer)) →
      statement.Regular)
    (hmem : statement ∈ withPart key value part following) : statement.Regular := by
  unfold withPart at hmem
  rcases splitContinuation_cases part with ⟨hcomplete, hsplit⟩ | ⟨cut, rfl, hcut, hsplit⟩
  · rw [hsplit] at hmem
    rcases List.mem_cons.1 hmem with rfl | hrest
    · exact ⟨hkey, hbegun.append_complete hunbroken hstart hcomplete⟩
    · exact hnone hrest
  · rw [hsplit] at hmem
    exact hsome _ (hbegun.append_open hunbroken hstart hcut) hmem

theorem regular_of_mem_ofLines {begun? : Option (String × List Char)} {lines : List (List Char)}
    {statement : Statement}
    (hbegun : ∀ key value, begun? = some (key, value) → isName key.toList = true ∧ Begun value)
    (hlines : ∀ line ∈ lines, '\n' ∉ line) (hmem : statement ∈ ofLines begun? lines) :
    statement.Regular := by
  induction lines generalizing begun? with
  | nil =>
      cases begun? with
      | none => exact absurd hmem List.not_mem_nil
      | some begun =>
          obtain ⟨key, value⟩ := begun
          obtain ⟨hkey, hvalue⟩ := hbegun key value rfl
          rw [ofLines, Option.toList_some, List.map_singleton, List.mem_singleton] at hmem
          rw [hmem]
          exact ⟨hkey, hvalue.legible⟩
  | cons line rest ih =>
      have hrest : ∀ line ∈ rest, '\n' ∉ line := fun other hother =>
        hlines other (List.mem_cons_of_mem _ hother)
      have hline : '\n' ∉ Text.trim line := fun hnewline =>
        hlines line List.mem_cons_self (Text.mem_of_mem_trim hnewline)
      have hclosed : statement ∈ ofLines none rest → statement.Regular :=
        ih (fun key value heq => by cases heq) hrest
      have hopen : ∀ key, isName key.toList = true → ∀ longer, Begun longer →
          statement ∈ ofLines (some (key, longer)) rest → statement.Regular := by
        intro key hkey longer hlonger
        refine ih (fun other value heq => ?_) hrest
        cases heq
        exact ⟨hkey, hlonger⟩
      cases begun? with
      | some begun =>
          obtain ⟨key, value⟩ := begun
          obtain ⟨hkey, hvalue⟩ := hbegun key value rfl
          rw [ofLines] at hmem
          exact regular_of_mem_withPart hkey hvalue hline (Text.startsPlain_trim line) hclosed
            (hopen key hkey) hmem
      | none =>
          cases hread : read (Text.trim line) with
          | assignment key value =>
              simp only [ofLines, hread] at hmem
              obtain ⟨before, after, hsplit, -, -, rfl⟩ := read_eq_assignment hread
              have hkey := isName_of_read_eq_assignment hread
              have hvalue : '\n' ∉ Text.trim after := by
                intro hnewline
                apply hline
                rw [(Text.splitFirst_eq_some hsplit).1]
                exact List.mem_append_right _ (.tail _ (Text.mem_of_mem_trim hnewline))
              exact regular_of_mem_withPart hkey begun_nil hvalue (Text.startsPlain_trim after)
                hclosed (hopen key hkey) hmem
          | _ =>
              simp only [ofLines, hread] at hmem
              rcases List.mem_cons.1 hmem with heq | hlater
              · rw [heq]
                exact regular_of_read hread (by simp)
              · exact hclosed hlater

theorem regular_of_mem_ofText {content : String} {statement : Statement}
    (hmem : statement ∈ ofText content) : statement.Regular :=
  regular_of_mem_ofLines (fun _ _ heq => by cases heq)
    (fun _ hline => Text.not_mem_newline_of_mem_lines hline) hmem

theorem legible_of_mem_assignments {heading : String} {statements : List Statement}
    (hheading : heading = "" ∨ isName heading.toList = true)
    (hregular : ∀ statement ∈ statements, statement.Regular) {key value : String}
    (hmem : (key, value) ∈ assignments heading statements) :
    isName key.toList = true ∧ Legible value.toList := by
  induction statements generalizing heading with
  | nil => exact absurd hmem List.not_mem_nil
  | cons statement rest ih =>
      have hfirst := hregular statement List.mem_cons_self
      have hrest : ∀ other ∈ rest, other.Regular := fun other hother =>
        hregular other (List.mem_cons_of_mem _ hother)
      cases statement with
      | heading name => exact ih hfirst hrest hmem
      | assignment name text =>
          rw [assignments, List.mem_cons] at hmem
          rcases hmem with heq | hlater
          · cases heq
            rw [String.toList_ofList]
            exact ⟨isName_qualify hheading hfirst.1, hfirst.2⟩
          · exact ih hheading hrest hlater
      | nothing => exact ih hheading hrest hmem
      | inclusion argument => exact ih hheading hrest hmem
      | faulty fault => exact ih hheading hrest hmem

end Statement

namespace OptionsFile

open Statement

/-- What holds of all direct assignments of any text holds of all that a text says. -/
theorem forall_of_readNested_ok {motive : String → String → Prop}
    (hdirect : ∀ content key value, (key, value) ∈ assignments "" (ofText content) →
      motive key value)
    {fileSystem : FileSystem} {opened : List Location} {context : SourceContext}
    {content : String} {result : Settings}
    (hread : (readNested fileSystem opened context content).outcome = .ok result)
    {key value : String} (hvalue : result.value? key = some value) : motive key value := by
  rw [← toOption_eq_some_iff, toOption_readNested, perform_eq_some_iff] at hread
  obtain ⟨hsound, nested, hnested, rfl⟩ := hread
  rw [value?_merged hsound.distinct, Option.or_eq_some_iff] at hvalue
  rcases hvalue with hown | ⟨-, hlater⟩
  · exact hdirect content key value (mem_of_lookup hown)
  · obtain ⟨settings, hsettings, hlookup⟩ := List.exists_of_findSome?_eq_some hlater
    obtain ⟨argument, hincluded⟩ :=
      exists_of_forall₂ hnested.flip (List.mem_reverse.1 hsettings)
    obtain ⟨location, text, hopen, hinner⟩ := included?_eq_some_iff.1 hincluded
    have hclosed := hopen.2.1
    have htext := hopen.2.2
    exact forall_of_readNested_ok hdirect hinner hlookup
termination_by (fileSystem.locations.filter (· ∉ opened)).length
decreasing_by exact closed_length_lt (FileSystem.mem_locations_of_readAt htext) hclosed

theorem legible_of_readNested_ok {fileSystem : FileSystem} {opened : List Location}
    {context : SourceContext} {content : String} {result : Settings}
    (hread : (readNested fileSystem opened context content).outcome = .ok result)
    {key value : String} (hvalue : result.value? key = some value) :
    isName key.toList = true ∧ Legible value.toList :=
  forall_of_readNested_ok (motive := fun key value =>
      isName key.toList = true ∧ Legible value.toList)
    (fun _ _ _ hmem =>
      legible_of_mem_assignments (Or.inl rfl) (fun _ => regular_of_mem_ofText) hmem)
    hread hvalue

end OptionsFile

end TypedOptions
