import TypedOptions.Proofs.OptionsFile.Dump
import TypedOptions.Proofs.OptionsFile.Keys

/-!
# Values over several lines

A value goes on as long as its lines end with a mark.  What such a line says is
a segment of the value, also if it looks like a comment, a section, an inclusion
or an assignment, and the segments are joined as they stand, without their
marks and their indentation.  The line behind the last segment is read afresh,
and a text that ends before it ends the value.
-/

namespace TypedOptions

namespace Text

/-- The line is the text, indented by any white space. -/
def Indents (text line : List Char) : Prop :=
  ∃ indentation, (∀ c ∈ indentation, isBlank c = true) ∧ line = indentation ++ text

theorem indents_of_all {text line : List Char} (indentation : List Char)
    (hblanks : indentation.all isBlank = true) (hline : line = indentation ++ text) :
    Indents text line :=
  ⟨indentation, List.all_eq_true.1 hblanks, hline⟩

theorem map_trim_of_indented {texts lines : List (List Char)}
    (hindented : List.Forall₂ Indents texts lines) : lines.map trim = texts.map trim := by
  induction hindented with
  | nil => rfl
  | cons hline _ ih =>
      obtain ⟨indentation, hblanks, rfl⟩ := hline
      rw [List.map_cons, List.map_cons, trim_append_left _ hblanks, ih]

end Text

namespace Statement

/-- A segment that stands before a mark as it stands in the value. -/
structure GoesOn (segment : List Char) : Prop where
  start : Text.StartsPlain segment
  unmarked : segment.getLast? ≠ some '\\'

/-- A segment that stands at the end of a value. -/
structure Completes (segment : List Char) : Prop where
  start : Text.StartsPlain segment
  finish : Text.EndsPlain segment
  complete : ¬EndsInLoneBackslash segment

def marked (segment : List Char) : List Char :=
  segment ++ ['\\']

theorem trim_marked {segment : List Char} (hsegment : GoesOn segment) :
    Text.trim (marked segment) = marked segment := by
  apply Text.trim_eq_self
  · exact hsegment.start.append (Text.startsPlain_cons_iff.2 (by decide))
  · intro c hc
    rw [marked, List.getLast?_concat] at hc
    cases hc
    decide

theorem trim_of_completes {segment : List Char} (hsegment : Completes segment) :
    Text.trim segment = segment :=
  Text.trim_eq_self hsegment.start hsegment.finish

theorem read_of_marked {key : String} {segment line : List Char} (hkey : isName key.toList = true)
    (hsegment : GoesOn segment)
    (hline : Text.trim line = Text.trim (dumpLine key.toList (marked segment))) :
    read (Text.trim line) = .assignment key (marked segment) := by
  rw [hline, read_trim_dumpLine hkey, String.ofList_toList, trim_marked hsegment]

/-- A value in at least two segments. -/
structure Segments where
  first : List Char
  more : List (List Char)
  last : List Char
  goesOn : ∀ segment ∈ first :: more, GoesOn segment
  completes : Completes last

namespace Segments

/-- The segments that stand before marks. -/
def opening (segments : Segments) : List (List Char) :=
  segments.first :: segments.more

def value (segments : Segments) : List Char :=
  segments.opening.flatten ++ segments.last

/-- The lines that assign the value to a key. -/
def lines (segments : Segments) (key : List Char) : List (List Char) :=
  dumpLine key (marked segments.first) :: (segments.more.map marked ++ [segments.last])

theorem goesOn_of_mem_more {segments : Segments} {segment : List Char}
    (hsegment : segment ∈ segments.more) : GoesOn segment :=
  segments.goesOn segment (List.mem_cons_of_mem _ hsegment)

theorem goesOn_first (segments : Segments) : GoesOn segments.first :=
  segments.goesOn _ List.mem_cons_self

/-- Lines that show the segments are one line each for the first segment, for those that go on
behind it and for the last one. -/
theorem exists_of_indented {segments : Segments} {key : List Char} {shown : List (List Char)}
    (hshown : List.Forall₂ Text.Indents (segments.lines key) shown) :
    ∃ head middle final, shown = head :: (middle ++ [final]) ∧
      Text.trim head = Text.trim (dumpLine key (marked segments.first)) ∧
      middle.map Text.trim = segments.more.map marked ∧ Text.trim final = segments.last := by
  have htrimmed := Text.map_trim_of_indented hshown
  rw [lines, List.map_cons, List.map_append, List.map_singleton,
    trim_of_completes segments.completes] at htrimmed
  obtain ⟨head, rest, rfl, hhead, hrest⟩ := List.map_eq_cons_iff.1 htrimmed
  obtain ⟨middle, ends, rfl, hmiddle, hends⟩ := List.map_eq_append_iff.1 hrest
  obtain ⟨final, rfl, hfinal⟩ := List.map_eq_singleton_iff.1 hends
  refine ⟨head, middle, final, rfl, hhead, ?_, hfinal⟩
  rw [hmiddle, List.map_map]
  exact List.map_congr_left fun segment hsegment => trim_marked (goesOn_of_mem_more hsegment)

end Segments

theorem wholeValue_marked {segment line : List Char} (hsegment : GoesOn segment)
    (rest : List (List Char)) :
    wholeValue (marked segment) (line :: rest) =
      segment ++ wholeValue (Text.trim line) rest := by
  rw [wholeValue, marked, splitContinuation_of_lone hsegment.unmarked]

theorem wholeValue_of_completes {segment : List Char} (hsegment : Completes segment)
    (rest : List (List Char)) : wholeValue segment rest = segment := by
  cases rest with
  | nil => rw [wholeValue, splitContinuation_of_not_lone hsegment.complete]
  | cons line more => rw [wholeValue, splitContinuation_of_not_lone hsegment.complete]

theorem wholeValue_segments {first final last : List Char} {more middle : List (List Char)}
    (hgoesOn : ∀ segment ∈ first :: more, GoesOn segment)
    (hmiddle : middle.map Text.trim = more.map marked) (hfinal : Text.trim final = last)
    (hlast : Completes last) (after : List (List Char)) :
    wholeValue (marked first) (middle ++ final :: after) = (first :: more).flatten ++ last := by
  induction more generalizing first middle with
  | nil =>
      obtain rfl := List.map_eq_nil_iff.1 hmiddle
      rw [List.nil_append, wholeValue_marked (hgoesOn _ List.mem_cons_self), hfinal,
        wholeValue_of_completes hlast]
      simp
  | cons second rest ih =>
      obtain ⟨line, others, rfl, hline, hothers⟩ := List.map_eq_cons_iff.1 hmiddle
      obtain ⟨hfirst, hrest⟩ := List.forall_mem_cons.1 hgoesOn
      rw [List.cons_append, wholeValue_marked hfirst, hline, ih hrest hothers]
      simp

end Statement

namespace Draft

open Statement

theorem addPart_marked {segment : List Char} (draft : Draft) (key : String) (value : List Char)
    (hsegment : GoesOn segment) :
    draft.addPart key value (marked segment) =
      { draft with pending? := some (key, value ++ segment) } := by
  rw [addPart, marked, splitContinuation_of_lone hsegment.unmarked]
  rfl

theorem addPart_of_completes {segment : List Char} (draft : Draft) (key : String)
    (value : List Char) (hsegment : Completes segment) :
    draft.addPart key value segment =
      { draft with pending? := none }.assign key (value ++ segment) := by
  rw [addPart, splitContinuation_of_not_lone hsegment.complete]
  rfl

theorem value?_settings_assign {draft : Draft} (hopen : draft.pending? = none) (key : String)
    (value : List Char) :
    (draft.assign key value).settings.value? key = some (String.ofList value) := by
  have hsettings : (draft.assign key value).settings = (draft.included.extend
      (draft.direct.insert key ⟨String.ofList value, draft.source⟩)).withSource draft.source := by
    simp only [settings, assign, hopen]
  rw [hsettings, Settings.value?_withSource, Settings.value?_extend, Settings.value?_insert,
    if_pos rfl, Option.some_or]

/-- An open value is complete at the end of the text. -/
theorem settings_of_pending {draft : Draft} (hopen : draft.pending? = none) (key : String)
    (value : List Char) :
    { draft with pending? := some (key, value) }.settings = (draft.assign key value).settings := by
  simp only [settings, assign, hopen]

end Draft

namespace OptionsFile

open Statement

variable {context : SourceContext} {visit : Visit}

theorem readLines_cons_of_pure {draft next : Draft} {number : Nat} {line : List Char}
    (hline : readLine context visit draft number line = pure next) (rest : List (List Char)) :
    readLines context visit draft number (line :: rest) =
      readLines context visit next (number + 1) rest := by
  rw [readLines, hline]
  rfl

/-- While a value goes on, each line adds its segment. -/
theorem readLines_marked {draft : Draft} {key : String} {value : List Char}
    {segments shown : List (List Char)} (hpending : draft.pending? = some (key, value))
    (hgoesOn : ∀ segment ∈ segments, GoesOn segment)
    (hshown : shown.map Text.trim = segments.map marked) (number : Nat)
    (rest : List (List Char)) :
    readLines context visit draft number (shown ++ rest) =
      readLines context visit { draft with pending? := some (key, value ++ segments.flatten) }
        (number + shown.length) rest := by
  induction segments generalizing draft value shown number with
  | nil =>
      obtain rfl := List.map_eq_nil_iff.1 hshown
      rw [List.flatten_nil, List.append_nil, ← hpending]
      rfl
  | cons segment more ih =>
      obtain ⟨line, others, rfl, hline, hothers⟩ := List.map_eq_cons_iff.1 hshown
      obtain ⟨hsegment, hmore⟩ := List.forall_mem_cons.1 hgoesOn
      have hread : readLine context visit draft number line =
          pure { draft with pending? := some (key, value ++ segment) } := by
        rw [readLine_of_pending hpending, hline, Draft.addPart_marked _ _ _ hsegment]
      rw [List.cons_append, readLines_cons_of_pure hread, ih rfl hmore hothers, List.flatten_cons,
        List.append_assoc, List.length_cons, Nat.add_assoc, Nat.add_comm 1]

variable {draft : Draft} {key : String} {first head : List Char}
variable {more middle : List (List Char)}

/-- The lines before the last one leave the value open. -/
theorem readLines_opening (hopen : draft.pending? = none) (hkey : isName key.toList = true)
    (hfresh : OptionName.qualify draft.heading key ∉ draft.direct)
    (hgoesOn : ∀ segment ∈ first :: more, GoesOn segment)
    (hhead : Text.trim head = Text.trim (dumpLine key.toList (marked first)))
    (hmiddle : middle.map Text.trim = more.map marked) (number : Nat)
    (rest : List (List Char)) :
    readLines context visit draft number (head :: (middle ++ rest)) =
      readLines context visit
        { draft with
          pending? := some (OptionName.qualify draft.heading key, (first :: more).flatten) }
        (number + 1 + middle.length) rest := by
  obtain ⟨hfirst, hmore⟩ := List.forall_mem_cons.1 hgoesOn
  have hread := read_of_marked hkey hfirst hhead
  have hline : readLine context visit draft number head =
      pure { draft with pending? := some (OptionName.qualify draft.heading key, first) } := by
    rw [readLine_of_assignment hopen hread, if_neg hfresh, Draft.addPart_marked _ _ _ hfirst,
      List.nil_append]
  rw [readLines_cons_of_pure hline, readLines_marked rfl hmore hmiddle, List.flatten_cons]

theorem readLines_segments {segments : Segments} {shown : List (List Char)}
    (hopen : draft.pending? = none) (hkey : isName key.toList = true)
    (hfresh : OptionName.qualify draft.heading key ∉ draft.direct)
    (hshown : List.Forall₂ Text.Indents (segments.lines key.toList) shown) (number : Nat)
    (after : List (List Char)) :
    readLines context visit draft number (shown ++ after) =
      readLines context visit
        (draft.assign (OptionName.qualify draft.heading key) segments.value)
        (number + shown.length) after := by
  obtain ⟨head, middle, final, rfl, hhead, hmiddle, hfinal⟩ := Segments.exists_of_indented hshown
  have hlast : readLine context visit
      { draft with
        pending? := some (OptionName.qualify draft.heading key,
          (segments.first :: segments.more).flatten) }
      (number + 1 + middle.length) final =
        pure (draft.assign (OptionName.qualify draft.heading key) segments.value) := by
    rw [readLine_of_pending rfl, hfinal, Draft.addPart_of_completes _ _ _ segments.completes,
      ← hopen]
    rfl
  rw [List.cons_append, List.append_assoc, List.singleton_append,
    readLines_opening hopen hkey hfresh segments.goesOn hhead hmiddle,
    readLines_cons_of_pure hlast]
  congr 1
  simp only [List.length_cons, List.length_append, List.length_nil]
  omega

/-- Without the last segment the others are left open. -/
theorem readLines_take_segments {segments : Segments} {shown : List (List Char)} {count : Nat}
    (hopen : draft.pending? = none) (hkey : isName key.toList = true)
    (hfresh : OptionName.qualify draft.heading key ∉ draft.direct)
    (hshown : List.Forall₂ Text.Indents (segments.lines key.toList) shown) (hpositive : 0 < count)
    (hcount : count < shown.length) (number : Nat) :
    readLines context visit draft number (shown.take count) =
      pure { draft with
        pending? := some (OptionName.qualify draft.heading key,
          (segments.opening.take count).flatten) } := by
  obtain ⟨head, middle, final, rfl, hhead, hmiddle, -⟩ := Segments.exists_of_indented hshown
  obtain ⟨count, rfl⟩ := Nat.exists_eq_succ_of_ne_zero (Nat.ne_of_gt hpositive)
  have htake : (head :: (middle ++ [final])).take (count + 1) =
      head :: (middle.take count ++ []) := by
    rw [List.take_succ_cons, List.append_nil, List.take_append_of_le_length]
    simp only [List.length_cons, List.length_append, List.length_nil] at hcount
    omega
  have hgoesOn : ∀ segment ∈ segments.first :: segments.more.take count, GoesOn segment :=
    fun segment hsegment => segments.goesOn segment
      (List.mem_of_mem_take (i := count + 1) (by simpa using hsegment))
  have hmiddle : (middle.take count).map Text.trim = (segments.more.take count).map marked := by
    rw [List.map_take, hmiddle, List.map_take]
  rw [htake, readLines_opening hopen hkey hfresh hgoesOn hhead hmiddle]
  rfl

/-- The lines of a key with the segments of a value make one assignment, of all segments joined, if
the key has no value yet; the lines behind them are read afresh.  A text that ends early assigns
the segments that it has.  If the key has a value, the first line is refused. -/
theorem segments_joined {segments : Segments} {shown : List (List Char)}
    (hkey : isName key.toList = true)
    (hshown : List.Forall₂ Text.Indents (segments.lines key.toList) shown)
    (fileSystem : FileSystem) (text : OpenText) (before : List (List Char)) (reached : Draft)
    (hopen : reached.pending? = none) :
    (OptionName.qualify reached.heading key ∉ reached.direct →
      (∀ after, text.Arrives fileSystem before (shown ++ after) reached →
        text.Arrives fileSystem (before ++ shown) after
            (reached.assign (OptionName.qualify reached.heading key) segments.value) ∧
          ∀ result, (text.read fileSystem).outcome = .ok result →
            result.value? (OptionName.qualify reached.heading key) =
              some (String.ofList segments.value)) ∧
      ∀ count, 0 < count → count < shown.length →
        text.Arrives fileSystem before (shown.take count) reached →
          ∃ result, (text.read fileSystem).outcome = .ok result ∧
            result = (reached.assign (OptionName.qualify reached.heading key)
              (segments.opening.take count).flatten).settings ∧
            result.value? (OptionName.qualify reached.heading key) =
              some (String.ofList (segments.opening.take count).flatten)) ∧
    (OptionName.qualify reached.heading key ∈ reached.direct →
      ∀ after, text.Arrives fileSystem before (shown ++ after) reached →
        (text.read fileSystem).outcome =
          .error (.line .duplicateOption text.context.name (1 + before.length)
            (String.ofList (Text.trim (dumpLine key.toList (marked segments.first)))))) := by
  refine ⟨fun hfresh => ⟨fun after harrives => ⟨?_, fun result hread => ?_⟩,
    fun count hpositive hcount harrives => ?_⟩, fun htaken after harrives => ?_⟩
  · constructor
    · rw [harrives.lines_eq, List.append_assoc]
    · have hlines : readLines text.context (text.visit fileSystem (OpenText.read fileSystem))
          reached (1 + before.length) (shown ++ []) = _ :=
        readLines_segments hopen hkey hfresh hshown (1 + before.length) []
      rw [List.append_nil] at hlines
      rw [outcome_readLines_append, harrives.outcome_eq]
      exact congrArg Logged.outcome hlines
  · obtain ⟨head, middle, final, rfl, hhead, hmiddle, hfinal⟩ :=
      Segments.exists_of_indented hshown
    have hassigns : AssignsTo before head (OptionName.qualify reached.heading key)
        (marked segments.first) :=
      (assignsTo_iff harrives).2
        ⟨hopen, key, read_of_marked hkey segments.goesOn_first hhead, rfl⟩
    have hlines := harrives.lines_eq
    rw [List.cons_append, List.append_assoc, List.singleton_append] at hlines
    rw [value?_of_assignsTo hread hlines hassigns,
      wholeValue_segments segments.goesOn hmiddle hfinal segments.completes]
    rfl
  · refine ⟨_, ?_, rfl, Draft.value?_settings_assign hopen _ _⟩
    rw [harrives.outcome_read, readLines_take_segments hopen hkey hfresh hshown hpositive hcount]
    exact congrArg Except.ok (Draft.settings_of_pending hopen _ _)
  · obtain ⟨head, middle, final, rfl, hhead, -, -⟩ := Segments.exists_of_indented hshown
    rw [← hhead]
    exact harrives.outcome_read_of_failing (readLine_eq_duplicate_iff.2
      ⟨hopen, key, marked segments.first, read_of_marked hkey segments.goesOn_first hhead, htaken⟩)

namespace ContinuationSample

/-- Segments that look like a comment, an inclusion, a section and an assignment. -/
def segments : Segments where
  first := "// a ".toList
  more := ["#include x".toList, "[t]".toList]
  last := "b = c\\\\".toList
  goesOn := by
    simp only [List.forall_mem_cons]
    exact ⟨⟨by decide, by decide⟩, ⟨by decide, by decide⟩, ⟨by decide, by decide⟩,
      List.forall_mem_nil _⟩
  completes :=
    ⟨by decide, by decide, by
      rintro ⟨before, hsplit, hbefore⟩
      have hlone := splitContinuation_of_lone hbefore
      rw [← hsplit] at hlone
      revert hlone
      simp [splitContinuation]⟩

def shown : List (List Char) :=
  ["k = // a \\", "  #include x\\", "\t[t]\\", " b = c\\\\"].map String.toList

theorem indented : List.Forall₂ Text.Indents (segments.lines "k".toList) shown :=
  .cons (Text.indents_of_all [] (by decide) (by decide)) <|
    .cons (Text.indents_of_all "  ".toList (by decide) (by decide)) <|
    .cons (Text.indents_of_all "\t".toList (by decide) (by decide)) <|
    .cons (Text.indents_of_all " ".toList (by decide) (by decide)) .nil

/-- What is known behind a heading. -/
def reached : Draft :=
  { Draft.empty (.path ⟨"inline"⟩) with heading := "s" }

def text : OpenText :=
  ⟨[], ⟨"inline", none⟩,
    "[s]\nk = // a \\\n  #include x\\\n\t[t]\\\n b = c\\\\\nz = 1\n"⟩

def brokenText : OpenText :=
  ⟨[], ⟨"inline", none⟩, "[s]\nk = // a \\\n  #include x\\\n"⟩

theorem segments_joined_sample :
    (∃ result, (text.read (.memory .empty)).outcome = .ok result ∧
      result.value? "s.k" = some "// a #include x[t]b = c\\\\") ∧
    ∃ result, (brokenText.read (.memory .empty)).outcome = .ok result ∧
      result.value? "s.k" = some "// a #include x" := by
  have hfresh : OptionName.qualify reached.heading "k" ∉ reached.direct := by decide
  have hwhole := (segments_joined (by decide) indented (.memory .empty) text ["[s]".toList] reached
    rfl).1 hfresh
  have hbroken := (segments_joined (by decide) indented (.memory .empty) brokenText
    ["[s]".toList] reached rfl).1 hfresh
  constructor
  · have hread : (text.read (.memory .empty)).outcome.toOption.isSome = true := by
      decide +kernel
    exact ⟨_, eq_ok_getD hread ∅,
      (hwhole.1 ["z = 1".toList] ⟨by decide, rfl⟩).2 _ (eq_ok_getD hread ∅)⟩
  · obtain ⟨result, hread, -, hvalue⟩ := hbroken.2 2 (by decide) (by decide) ⟨by decide, rfl⟩
    exact ⟨result, hread, hvalue⟩

/-! ## A key that has a value -/

def pair : Segments where
  first := "a".toList
  more := []
  last := "b".toList
  goesOn := by
    simp only [List.forall_mem_cons]
    exact ⟨⟨by decide, by decide⟩, List.forall_mem_nil _⟩
  completes := ⟨by decide, by decide, not_endsInLoneBackslash (by decide)⟩

def takenText : OpenText :=
  ⟨[], ⟨"inline", none⟩, "k = 0\nk = a\\\nb\n"⟩

/-- The second and the third line show the segments, and a new line is expected, but no value is
joined. -/
theorem segments_of_taken_key_not_joined :
    isName "k".toList = true ∧
      List.Forall₂ Text.Indents (pair.lines "k".toList) ["k = a\\".toList, "b".toList] ∧
      takenText.Arrives (.memory .empty) ["k = 0".toList] ["k = a\\".toList, "b".toList]
        ((Draft.empty (.path ⟨"inline"⟩)).assign "k" "0".toList) ∧
      ((Draft.empty (.path ⟨"inline"⟩)).assign "k" "0".toList).pending? = none ∧
      pair.value = "ab".toList ∧
      (takenText.read (.memory .empty)).outcome =
        .error (.line .duplicateOption "inline" 2 "k = a\\") := by
  refine ⟨by decide, ?_, ⟨by decide, rfl⟩, rfl, by decide, ?_⟩
  · exact .cons (Text.indents_of_all [] (by decide) (by decide))
      (.cons (Text.indents_of_all [] (by decide) (by decide)) .nil)
  · exact error?_eq_some_iff.1 (by decide +kernel)

end ContinuationSample

end OptionsFile

end TypedOptions
