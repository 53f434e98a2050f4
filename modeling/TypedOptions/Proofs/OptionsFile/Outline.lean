import Mathlib.Data.List.Forall2
import TypedOptions.OptionsFile.Reading
import TypedOptions.Proofs.Lists
import TypedOptions.Proofs.Outcome

/-!
# The statements of a whole text

A line that continues a value belongs to the assignment whose value goes on,
so a text is a row of statements with complete values.  Reading lines one by
one is performing these statements in their order.  A performance succeeds
exactly if no statement is faulty, no key is assigned twice and every
inclusion succeeds, and its result is then known from the inclusions and from
the assignments of the text itself, each in their order.
-/

namespace TypedOptions

namespace Statement

/-- A value with one more part: open for the lines that follow, or complete. -/
def withPart (key : String) (value part : List Char)
    (following : Option (String × List Char) → List Statement) : List Statement :=
  match splitContinuation part with
  | (cut, true) => following (some (key, value ++ cut))
  | (cut, false) => .assignment key (value ++ cut) :: following none

/-- The statements of lines, the first of which may continue a value that was begun before. -/
def ofLines (begun? : Option (String × List Char)) : List (List Char) → List Statement
  | [] => begun?.toList.map fun (key, value) => .assignment key value
  | line :: rest =>
      match begun? with
      | some (key, value) => withPart key value (Text.trim line) fun next? => ofLines next? rest
      | none =>
          match read (Text.trim line) with
          | .assignment key value => withPart key [] value fun next? => ofLines next? rest
          | statement => statement :: ofLines none rest

def ofText (content : String) : List Statement :=
  ofLines none (Text.lines content.toList)

def argument? : Statement → Option String
  | .inclusion argument => some argument
  | _ => none

def inclusions (statements : List Statement) : List String :=
  statements.filterMap argument?

def own (statements : List Statement) : List Statement :=
  statements.filter fun statement => statement.argument?.isNone

/-- The assignments that statements make below a heading, in their order. -/
def assignments (heading : String) : List Statement → List (String × String)
  | [] => []
  | .heading name :: rest => assignments name rest
  | .assignment key value :: rest =>
      (OptionName.qualify heading key, String.ofList value) :: assignments heading rest
  | _ :: rest => assignments heading rest

/-- Performs the statements of a source one after the other, where `known` tells what inclusions
lead to. -/
def perform (known : String → Option Settings) (source : OptionSource) (heading : String)
    (direct included : Settings) : List Statement → Option Settings
  | [] => some ((included.extend direct).withSource source)
  | .nothing :: rest => perform known source heading direct included rest
  | .inclusion argument :: rest =>
      (known argument).bind fun nested =>
        perform known source heading direct (included.extend nested) rest
  | .heading name :: rest => perform known source name direct included rest
  | .assignment key value :: rest =>
      if OptionName.qualify heading key ∈ direct then none
      else
        perform known source heading
          (direct.insert (OptionName.qualify heading key) ⟨String.ofList value, source⟩) included
          rest
  | .faulty _ :: _ => none

/-- Statements that succeed below a heading as far as the text itself goes. -/
structure Sound (heading : String) (direct : Settings) (statements : List Statement) : Prop where
  faultless : ∀ fault, .faulty fault ∉ statements
  distinct : ((assignments heading statements).map Prod.fst).Nodup
  fresh : ∀ key ∈ (assignments heading statements).map Prod.fst, key ∉ direct

theorem sound_nil (heading : String) (direct : Settings) : Sound heading direct [] := by
  constructor <;> simp [assignments]

theorem sound_cons_of_assignments_eq {heading below : String} {direct : Settings}
    {statement : Statement} {rest : List Statement}
    (hfaultless : ∀ fault, statement ≠ .faulty fault)
    (hsame : assignments heading (statement :: rest) = assignments below rest) :
    Sound heading direct (statement :: rest) ↔ Sound below direct rest := by
  constructor
  · rintro ⟨hnone, hdistinct, hfresh⟩
    rw [hsame] at hdistinct hfresh
    exact ⟨fun fault hmem => hnone fault (List.mem_cons_of_mem _ hmem), hdistinct, hfresh⟩
  · rintro ⟨hnone, hdistinct, hfresh⟩
    refine ⟨fun fault hmem => ?_, by rwa [hsame], by rwa [hsame]⟩
    rcases List.mem_cons.1 hmem with heq | hrest
    · exact hfaultless fault heq.symm
    · exact hnone fault hrest

theorem not_sound_faulty_cons {heading : String} {direct : Settings} {fault : LineFault}
    {rest : List Statement} : ¬Sound heading direct (.faulty fault :: rest) := by
  intro hsound
  exact hsound.faultless fault List.mem_cons_self

theorem sound_assignment_cons {heading key : String} {value : List Char} {direct : Settings}
    {rest : List Statement} (setting : Setting) :
    Sound heading direct (.assignment key value :: rest) ↔
      OptionName.qualify heading key ∉ direct ∧
        Sound heading (direct.insert (OptionName.qualify heading key) setting) rest := by
  constructor
  · rintro ⟨hfaultless, hdistinct, hfresh⟩
    simp only [assignments, List.map_cons, List.nodup_cons] at hdistinct
    refine ⟨hfresh _ (by simp [assignments]), by simpa using hfaultless, hdistinct.2, ?_⟩
    intro other hother hmem
    rcases Settings.mem_insert.1 hmem with heq | hdirect
    · exact hdistinct.1 (heq ▸ hother)
    · exact hfresh other (by simp only [assignments, List.map_cons]; exact .tail _ hother) hdirect
  · rintro ⟨hfree, hfaultless, hdistinct, hfresh⟩
    refine ⟨by simpa using hfaultless, ?_, ?_⟩
    · simp only [assignments, List.map_cons, List.nodup_cons]
      exact ⟨fun hmem => hfresh _ hmem (by simp), hdistinct⟩
    · intro other hother
      simp only [assignments, List.map_cons, List.mem_cons] at hother
      rcases hother with rfl | hother
      · exact hfree
      · exact fun hdirect => hfresh other hother (Settings.mem_insert.2 (Or.inr hdirect))

/-- What a performance leads to, if it succeeds: the results of the inclusions are merged in their
order, the assignments of the text itself on top of them, and everything has the text for its
source. -/
def merged (source : OptionSource) (direct included : Settings) (nested : List Settings)
    (entries : List (String × String)) : Settings :=
  ((nested.foldl .extend included).extend
    (entries.foldl (fun direct (key, value) => direct.insert key ⟨value, source⟩)
      direct)).withSource source

theorem perform_eq_some_iff {known : String → Option Settings} {source : OptionSource}
    {heading : String} {direct included result : Settings} {statements : List Statement} :
    perform known source heading direct included statements = some result ↔
      Sound heading direct statements ∧
        ∃ nested,
          List.Forall₂ (fun argument settings => known argument = some settings)
            (inclusions statements) nested ∧
          result = merged source direct included nested (assignments heading statements) := by
  induction statements generalizing heading direct included with
  | nil =>
      simp only [perform, Option.some.injEq, sound_nil, true_and]
      constructor
      · rintro rfl
        exact ⟨[], .nil, rfl⟩
      · rintro ⟨nested, hnested, rfl⟩
        cases hnested
        rfl
  | cons statement rest ih =>
      cases statement with
      | nothing =>
          rw [perform, sound_cons_of_assignments_eq (by simp) rfl]
          exact ih
      | heading name =>
          rw [perform, sound_cons_of_assignments_eq (by simp) rfl]
          exact ih
      | faulty fault => simp [perform, not_sound_faulty_cons]
      | assignment key value =>
          by_cases hfree : OptionName.qualify heading key ∈ direct
          · simp [perform, sound_assignment_cons ⟨String.ofList value, source⟩, hfree]
          · simp only [perform, hfree, if_false,
              sound_assignment_cons ⟨String.ofList value, source⟩, not_false_eq_true, true_and]
            exact ih
      | inclusion argument =>
          rw [perform, Option.bind_eq_some_iff, sound_cons_of_assignments_eq (by simp) rfl]
          constructor
          · rintro ⟨first, hfirst, hrest⟩
            obtain ⟨hsound, nested, hnested, rfl⟩ := ih.1 hrest
            exact ⟨hsound, first :: nested, .cons hfirst hnested, rfl⟩
          · rintro ⟨hsound, nested, hnested, rfl⟩
            cases hnested with
            | cons hfirst hmore => exact ⟨_, hfirst, ih.2 ⟨hsound, _, hmore, rfl⟩⟩

theorem perform_mono {known more : String → Option Settings} {source : OptionSource}
    {heading : String} {direct included result : Settings} {statements : List Statement}
    (hmore : ∀ argument settings, known argument = some settings →
      more argument = some settings)
    (hresult : perform known source heading direct included statements = some result) :
    perform more source heading direct included statements = some result := by
  obtain ⟨hsound, nested, hnested, hmerged⟩ := perform_eq_some_iff.1 hresult
  exact perform_eq_some_iff.2
    ⟨hsound, nested, hnested.imp fun argument settings => hmore argument settings, hmerged⟩

/-! ## Where inclusions stand -/

theorem assignments_own (heading : String) (statements : List Statement) :
    assignments heading (own statements) = assignments heading statements := by
  induction statements generalizing heading with
  | nil => rfl
  | cons statement rest ih =>
      cases statement <;> simp_all [own, argument?, assignments]

theorem sound_own {heading : String} {direct : Settings} {statements : List Statement} :
    Sound heading direct (own statements) ↔ Sound heading direct statements := by
  constructor <;> rintro ⟨hfaultless, hdistinct, hfresh⟩
  · rw [assignments_own] at hdistinct hfresh
    refine ⟨fun fault hmem => hfaultless fault ?_, hdistinct, hfresh⟩
    exact List.mem_filter.2 ⟨hmem, rfl⟩
  · refine ⟨fun fault hmem => hfaultless fault (List.mem_filter.1 hmem).1, ?_, ?_⟩ <;>
      rwa [assignments_own]

/-- Only the order of the inclusions among themselves matters, not what stands between them. -/
theorem perform_congr_own {known : String → Option Settings} {source : OptionSource}
    {heading : String} {direct included : Settings} {statements others : List Statement}
    (hown : own statements = own others) (hinclusions : inclusions statements = inclusions others) :
    perform known source heading direct included statements =
      perform known source heading direct included others := by
  ext result
  rw [perform_eq_some_iff, perform_eq_some_iff, ← sound_own, hown, sound_own, hinclusions,
    ← assignments_own heading statements, hown, assignments_own]

/-! ## The value of a key -/

theorem value?_foldl_extend (nested : List Settings) (included : Settings) (key : String) :
    (nested.foldl .extend included).value? key =
      (nested.reverse.findSome? fun settings => settings.value? key).or (included.value? key) := by
  induction nested generalizing included with
  | nil => simp
  | cons first rest ih =>
      rw [List.foldl_cons, ih, Settings.value?_extend, List.reverse_cons, List.findSome?_append,
        Option.or_assoc]
      simp

theorem value?_foldl_insert {source : OptionSource} {entries : List (String × String)}
    (hdistinct : (entries.map Prod.fst).Nodup) (direct : Settings) (key : String) :
    (entries.foldl (fun direct (key, value) => direct.insert key ⟨value, source⟩)
        direct).value? key =
      (entries.lookup key).or (direct.value? key) := by
  have hfold := Settings.get_foldl Settings.value?
    (fun direct entry => direct.insert entry.1 ⟨entry.2, source⟩) id
    (fun direct name value other => direct.value?_insert name other ⟨value, source⟩)
    entries direct key
  rwa [Option.map_id_fun, id_eq, lookup_reverse hdistinct] at hfold

theorem value?_merged {source : OptionSource} {nested : List Settings}
    {entries : List (String × String)} (hdistinct : (entries.map Prod.fst).Nodup) (key : String) :
    (merged source ∅ ∅ nested entries).value? key =
      (entries.lookup key).or (nested.reverse.findSome? fun settings => settings.value? key) := by
  rw [merged, Settings.value?_withSource, Settings.value?_extend, value?_foldl_extend,
    value?_foldl_insert hdistinct]
  simp

theorem assembled_merged {source : OptionSource} {nested : List Settings}
    (hnested : ∀ settings ∈ nested, settings.Assembled) (entries : List (String × String)) :
    (merged source ∅ ∅ nested entries).Assembled := by
  have hincluded : (nested.foldl .extend ∅ : Settings).Assembled :=
    List.foldlRecOn nested _ .empty fun _ hsettings settings hmem =>
      hsettings.extend (hnested settings hmem)
  have hdirect : (entries.foldl (fun direct (key, value) => direct.insert key ⟨value, source⟩)
      (∅ : Settings)).Assembled :=
    List.foldlRecOn entries _ .empty fun _ hsettings entry _ =>
      hsettings.insert entry.1 ⟨entry.2, source⟩
  exact (hincluded.extend hdirect).withSource source

end Statement

/-! ## Reading lines -/

namespace Draft

/-- What the statements have to know of a draft: the value that goes on, and that its key is not
taken yet. -/
structure Continues (draft : Draft) (begun? : Option (String × List Char)) : Prop where
  pending?_eq :
    draft.pending? = begun?.map fun (key, value) => (OptionName.qualify draft.heading key, value)
  free : ∀ key value, begun? = some (key, value) →
    OptionName.qualify draft.heading key ∉ draft.direct

theorem settings_of_continues {known : String → Option Settings} {draft : Draft}
    {begun? : Option (String × List Char)} (hdraft : draft.Continues begun?) :
    some draft.settings =
      Statement.perform known draft.source draft.heading draft.direct draft.included
        (Statement.ofLines begun? []) := by
  cases begun? with
  | none => simp [settings, hdraft.pending?_eq, Statement.ofLines, Statement.perform]
  | some begun =>
      obtain ⟨key, value⟩ := begun
      have hfree := hdraft.free key value rfl
      simp [settings, hdraft.pending?_eq, Statement.ofLines, Statement.perform, hfree, assign]

end Draft

namespace OptionsFile

open Statement

variable {context : SourceContext} {visit : Visit} {known : String → Option Settings}

theorem perform_withPart_of_taken {source : OptionSource} {heading key : String}
    {direct included : Settings}
    (value part : List Char) (following : Option (String × List Char) → List Statement)
    (htaken : OptionName.qualify heading key ∈ direct)
    (hfollowing : ∀ value,
      perform known source heading direct included (following (some (key, value))) = none) :
    perform known source heading direct included (withPart key value part following) = none := by
  unfold withPart
  rcases splitContinuation part with ⟨cut, goesOn⟩
  cases goesOn with
  | true => exact hfollowing (value ++ cut)
  | false => simp [perform, htaken]

/-- A key that is taken fails in any case, however long its value goes on. -/
theorem perform_ofLines_of_taken {source : OptionSource} {heading key : String}
    {direct included : Settings} {lines : List (List Char)} (value : List Char)
    (htaken : OptionName.qualify heading key ∈ direct) :
    perform known source heading direct included (ofLines (some (key, value)) lines) = none := by
  induction lines generalizing value with
  | nil => simp [ofLines, perform, htaken]
  | cons line rest ih =>
      exact perform_withPart_of_taken value (Text.trim line) (fun next? => ofLines next? rest)
        htaken ih

theorem readLine_of_pending {draft : Draft} {key : String} {value : List Char}
    (hpending : draft.pending? = some (key, value)) (number : Nat) (line : List Char) :
    readLine context visit draft number line =
      pure (draft.addPart key value (Text.trim line)) := by
  simp only [readLine, hpending]

theorem readLine_of_pending_none {draft : Draft} (hpending : draft.pending? = none) (number : Nat)
    (line : List Char) :
    readLine context visit draft number line =
      execute context visit draft number (Text.trim line) := by
  simp only [readLine, hpending]

def Performs (context : SourceContext) (visit : Visit) (known : String → Option Settings)
    (lines : List (List Char)) : Prop :=
  ∀ (draft : Draft) (begun? : Option (String × List Char)) (number : Nat),
    draft.Continues begun? →
      (readLines context visit draft number lines).outcome.toOption.map Draft.settings =
        perform known draft.source draft.heading draft.direct draft.included (ofLines begun? lines)

theorem perform_addPart {lines : List (List Char)} (hlines : Performs context visit known lines)
    {draft : Draft} {key : String} (value part : List Char) (number : Nat)
    (hfree : OptionName.qualify draft.heading key ∉ draft.direct) :
    (readLines context visit (draft.addPart (OptionName.qualify draft.heading key) value part)
        number lines).outcome.toOption.map Draft.settings =
      perform known draft.source draft.heading draft.direct draft.included
        (withPart key value part fun next? => ofLines next? lines) := by
  unfold Draft.addPart withPart
  rcases splitContinuation part with ⟨cut, goesOn⟩
  cases goesOn with
  | true =>
      refine hlines
        { draft with pending? := some (OptionName.qualify draft.heading key, value ++ cut) }
        (some (key, value ++ cut)) number ⟨rfl, ?_⟩
      rintro _ _ ⟨⟩
      exact hfree
  | false =>
      simp only [perform, hfree, if_false, Bool.false_eq_true]
      exact hlines ({ draft with pending? := none }.assign _ (value ++ cut)) none number
        ⟨rfl, fun _ _ heq => by cases heq⟩

/-- Reading lines is performing the statements that they make up. -/
theorem performs_readLines (context : SourceContext)
    (hvisit : ∀ argument number line,
      (visit argument number line).outcome.toOption = known argument)
    (lines : List (List Char)) : Performs context visit known lines := by
  induction lines with
  | nil =>
      intro draft begun? number hdraft
      exact Draft.settings_of_continues hdraft
  | cons line rest ih =>
      intro draft begun? number hdraft
      rw [readLines, Logged.outcome_bind, toOption_bind]
      cases begun? with
      | some begun =>
          obtain ⟨key, value⟩ := begun
          rw [readLine_of_pending hdraft.pending?_eq]
          exact perform_addPart ih value (Text.trim line) (number + 1) (hdraft.free key value rfl)
      | none =>
          rw [readLine_of_pending_none hdraft.pending?_eq]
          unfold execute ofLines
          cases hread : read (Text.trim line) with
          | nothing => exact ih draft none (number + 1) hdraft
          | faulty fault => rfl
          | heading name =>
              exact ih { draft with heading := name } none (number + 1)
                ⟨hdraft.pending?_eq, fun _ _ heq => by cases heq⟩
          | inclusion argument =>
              simp only [Logged.outcome_bind, toOption_bind, hvisit, perform]
              cases known argument with
              | none => rfl
              | some nested =>
                  exact ih { draft with included := draft.included.extend nested } none (number + 1)
                    ⟨hdraft.pending?_eq, fun _ _ heq => by cases heq⟩
          | assignment key value =>
              by_cases htaken : OptionName.qualify draft.heading key ∈ draft.direct
              · simp only [htaken, if_true]
                exact (perform_withPart_of_taken [] value (fun next? => ofLines next? rest) htaken
                  fun value => perform_ofLines_of_taken value htaken).symm
              · simp only [htaken, if_false]
                exact perform_addPart ih [] value (number + 1) htaken

theorem toOption_readText
    (hvisit : ∀ argument number line,
      (visit argument number line).outcome.toOption = known argument)
    (content : String) :
    (readText context visit content).outcome.toOption =
      perform known context.source "" ∅ ∅ (ofText content) := by
  have hlines := performs_readLines context hvisit (Text.lines content.toList)
    (.empty context.source) none 1 ⟨rfl, fun _ _ heq => by cases heq⟩
  refine Eq.trans ?_ hlines
  simp only [readText, Logged.outcome_bind, Logged.outcome_log, Logged.outcome_pure]
  cases (readLines context visit (.empty context.source) 1
    (Text.lines content.toList)).outcome <;> rfl

end OptionsFile

end TypedOptions
