import TypedOptions.Proofs.CommandLine
import TypedOptions.Proofs.OptionsFile.Reloading
import TypedOptions.Proofs.Text.Pieces

/-!
# Names of settings

A name is a row of segments with points between them, so a point joins names
and nothing else.  Sections have names themselves, and a key below a section is
one as well.  Hence whatever texts, files and arguments say, they say about
names.
-/

namespace TypedOptions

structure IsSegment (text : List Char) : Prop where
  nonempty : text ≠ []
  legal : ∀ c ∈ text, IsSegmentChar c

/-- A text of one or more segments, with a point between each two of them. -/
def IsDotted (text : List Char) : Prop :=
  ∃ segments, segments ≠ [] ∧ (∀ segment ∈ segments, IsSegment segment) ∧
    text = ['.'].intercalate segments

/-- Settings that a text, a file or the arguments of a command line give. -/
def Offered (settings : Settings) : Prop :=
  (∃ fileSystem, OptionsFile.Gives fileSystem settings) ∨
    ∃ arguments, CommandLine.read arguments = .ok settings

theorem isNameFrom_of_not_mem {inSegment : Bool} {text : List Char} (hpoint : '.' ∉ text) :
    isNameFrom inSegment text = true ↔
      (text = [] → inSegment = true) ∧ ∀ c ∈ text, IsSegmentChar c := by
  induction text generalizing inSegment with
  | nil => simp
  | cons c rest ih =>
      rw [List.mem_cons, not_or] at hpoint
      have hc : (c == '.') = false := beq_eq_false_iff_ne.2 fun heq => hpoint.1 heq.symm
      rw [isNameFrom, List.forall_mem_cons, ← isNameChar_iff]
      by_cases hlegal : isNameChar c = true
      · simp [hlegal, ih hpoint.2]
      · simp [hlegal, hc]

theorem point_not_mem {segment : List Char} (hsegment : IsSegment segment) : '.' ∉ segment := by
  intro hpoint
  have hlegal := isNameChar_iff.2 (hsegment.legal '.' hpoint)
  exact absurd hlegal (by decide)

theorem isName_iff_isSegment {text : List Char} (hpoint : '.' ∉ text) :
    isName text = true ↔ IsSegment text := by
  rw [isName, isNameFrom_of_not_mem hpoint]
  constructor
  · rintro ⟨hempty, hlegal⟩
    exact ⟨fun heq => Bool.false_ne_true (hempty heq), hlegal⟩
  · rintro ⟨hnonempty, hlegal⟩
    exact ⟨fun heq => absurd heq hnonempty, hlegal⟩

theorem isName_intercalate {pieces : List (List Char)} (hne : pieces ≠ [])
    (hpoint : ∀ piece ∈ pieces, '.' ∉ piece) :
    isName (['.'].intercalate pieces) = true ↔ ∀ piece ∈ pieces, IsSegment piece := by
  induction pieces with
  | nil => exact absurd rfl hne
  | cons piece rest ih =>
      have hpiece := isName_iff_isSegment (hpoint piece List.mem_cons_self)
      cases rest with
      | nil => simpa using hpiece
      | cons next more =>
          have hrest := ih (List.cons_ne_nil _ _) fun other hother =>
            hpoint other (List.mem_cons_of_mem _ hother)
          rw [List.intercalate_cons_cons, List.append_assoc, List.singleton_append, isName,
            isNameFrom_append_point, Bool.and_eq_true, List.forall_mem_cons]
          exact and_congr hpiece hrest

theorem isName_iff_isDotted {text : List Char} : isName text = true ↔ IsDotted text := by
  constructor
  · intro hname
    have hne := Text.splitAll_ne_nil '.' text
    rw [← Text.intercalate_splitAll '.' text, isName_intercalate hne
      fun _ hpiece => Text.not_mem_of_mem_splitAll hpiece] at hname
    exact ⟨_, hne, hname, (Text.intercalate_splitAll '.' text).symm⟩
  · rintro ⟨segments, hne, hsegments, rfl⟩
    exact (isName_intercalate hne fun segment hsegment =>
      point_not_mem (hsegments segment hsegment)).2 hsegments

namespace CommandLine

theorem isName_of_mem_read {arguments : List String} {settings : Settings}
    (hread : read arguments = .ok settings) {name : String} (hname : name ∈ settings) :
    isName name.toList = true := by
  obtain ⟨options, -, hwins⟩ := exists_options_of_read hread
  obtain ⟨shown, hshown⟩ := Settings.mem_iff_exists_value?.1 hname
  rw [(hwins name).1, Option.map_map] at hshown
  obtain ⟨value, hvalue, -⟩ := Option.map_eq_some_iff.1 hshown
  obtain ⟨option, -, hpair⟩ := List.mem_map.1 (List.mem_reverse.1 (mem_of_lookup hvalue))
  cases hpair
  exact option.name.valid

end CommandLine

/-- Names are the texts of segments with points between them, a point puts a name below a name and
below nothing else, and whatever is said by a text, by a file, with all that they include, or by
the arguments of a command line is said about names. -/
theorem offered_names_legal :
    (∀ text, isName text = true ↔ IsDotted text) ∧
      (∀ parent name, isName (OptionName.qualify parent name).toList = true ↔
        isName name.toList = true ∧ (parent = "" ∨ isName parent.toList = true)) ∧
      ∀ settings, Offered settings → ∀ name ∈ settings, isName name.toList = true := by
  refine ⟨fun text => isName_iff_isDotted, fun parent name => isName_qualify_iff, ?_⟩
  rintro settings (⟨fileSystem, hgives⟩ | ⟨arguments, hread⟩) name hname
  · exact hgives.isName_of_mem name hname
  · exact CommandLine.isName_of_mem_read hread hname

namespace OfferedSample

open OptionsFile

/-- A section, a file that is included within it, and a section in the file. -/
def files : MemoryFiles :=
  (MemoryFiles.empty.withFile ⟨"/c/main"⟩ "[s.t]\na = 1\n#include inner\n").withFile ⟨"/c/inner"⟩
    "b = 2\n[u]\nc+d = 3\n"

def loaded : Settings :=
  (parseFile (.memory files) ⟨"/c/main"⟩).outcome.toOption.getD ∅

theorem offered_names_legal_sample :
    loaded.keys = ["b", "s.t.a", "u.c+d"] ∧ IsDotted "s.t.a".toList ∧
      ¬IsDotted "s..a".toList ∧ isName (OptionName.qualify "s." "a").toList = false := by
  have hload : (parseFile (.memory files) ⟨"/c/main"⟩).outcome = .ok loaded :=
    eq_ok_getD (by decide +kernel) ∅
  have hkeys : loaded.keys = ["b", "s.t.a", "u.c+d"] := by decide +kernel
  have hmem : "s.t.a" ∈ loaded := by
    rw [← Settings.mem_keys, hkeys]
    simp
  obtain ⟨hgrammar, hqualify, hoffered⟩ := offered_names_legal
  have hlegal := hoffered loaded (Or.inl ⟨_, Or.inr ⟨_, hload⟩⟩) "s.t.a" hmem
  refine ⟨hkeys, (hgrammar _).1 hlegal, fun hdotted => ?_, ?_⟩
  · exact absurd ((hgrammar _).2 hdotted) (by decide)
  · rw [← Bool.not_eq_true, hqualify]
    decide

end OfferedSample

end TypedOptions
