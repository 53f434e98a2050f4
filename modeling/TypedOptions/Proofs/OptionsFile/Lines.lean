import TypedOptions.Proofs.OptionsFile.Outline

/-!
# Lines behind lines

What a line says depends on the lines before it only through the value that
may go on behind them.  Lines are read one after the other, so they fail at
one of them, whatever stands behind it.  What fails there is the line itself or
the inclusion that it is.
-/

namespace TypedOptions

namespace Statement

/-- Whether a value goes on behind a line, given whether one goes on before it. -/
def leavesOpen (isOpen : Bool) (line : List Char) : Bool :=
  if isOpen then (splitContinuation (Text.trim line)).2
  else
    match read (Text.trim line) with
    | .assignment _ value => (splitContinuation value).2
    | _ => false

def leftOpen (isOpen : Bool) (lines : List (List Char)) : Bool :=
  lines.foldl leavesOpen isOpen

/-- The numbered line does not continue a value, and it names a file to include. -/
def IncludesAt (content : String) (number : Nat) (line : List Char) (argument : String) : Prop :=
  ∃ before raw after,
    Text.lines content.toList = before ++ raw :: after ∧ 1 + before.length = number ∧
      Text.trim raw = line ∧ leftOpen false before = false ∧ read line = .inclusion argument

theorem exists_withPart (key : String) (value part : List Char) :
    ∃ said next?, next?.isSome = (splitContinuation part).2 ∧
      ∀ following, withPart key value part following = said ++ following next? := by
  unfold withPart
  rcases splitContinuation part with ⟨cut, goesOn⟩
  cases goesOn with
  | true => exact ⟨[], some (key, value ++ cut), rfl, fun _ => rfl⟩
  | false => exact ⟨[.assignment key (value ++ cut)], none, rfl, fun _ => rfl⟩

theorem exists_ofLines_cons (begun? : Option (String × List Char)) (line : List Char) :
    ∃ said next?, next?.isSome = leavesOpen begun?.isSome line ∧
      ∀ rest, ofLines begun? (line :: rest) = said ++ ofLines next? rest := by
  cases begun? with
  | some begun =>
      obtain ⟨key, value⟩ := begun
      obtain ⟨said, next?, hnext, hsaid⟩ := exists_withPart key value (Text.trim line)
      exact ⟨said, next?, hnext, fun rest => hsaid fun next? => ofLines next? rest⟩
  | none =>
      cases hread : read (Text.trim line) with
      | assignment key value =>
          obtain ⟨said, next?, hnext, hsaid⟩ := exists_withPart key [] value
          refine ⟨said, next?, by simp [hnext, leavesOpen, hread], fun rest => ?_⟩
          simp only [ofLines, hread]
          exact hsaid fun next? => ofLines next? rest
      | _ =>
          exact ⟨[read (Text.trim line)], none, by simp [leavesOpen, hread],
            fun rest => by simp [ofLines, hread]⟩

/-- What lines say comes before what the lines behind them say, which are only told whether a value
goes on and how it has begun. -/
theorem exists_ofLines_append (begun? : Option (String × List Char)) (before : List (List Char)) :
    ∃ said next?, next?.isSome = leftOpen begun?.isSome before ∧
      ∀ rest, ofLines begun? (before ++ rest) = said ++ ofLines next? rest := by
  induction before generalizing begun? with
  | nil => exact ⟨[], begun?, rfl, fun _ => rfl⟩
  | cons line more ih =>
      obtain ⟨first, next?, hnext, hfirst⟩ := exists_ofLines_cons begun? line
      obtain ⟨said, last?, hlast, hsaid⟩ := ih next?
      refine ⟨first ++ said, last?, ?_, fun rest => ?_⟩
      · rw [hlast, hnext]
        rfl
      · rw [List.cons_append, hfirst, hsaid, List.append_assoc]

theorem exists_ofLines_of_leftOpen {before : List (List Char)}
    (hopen : leftOpen false before = false) :
    ∃ said, ∀ rest, ofLines none (before ++ rest) = said ++ ofLines none rest := by
  obtain ⟨said, next?, hnext, hsaid⟩ := exists_ofLines_append none before
  rw [Option.isSome_none, hopen, Option.isSome_eq_false_iff, Option.isNone_iff_eq_none] at hnext
  rw [hnext] at hsaid
  exact ⟨said, hsaid⟩

theorem IncludesAt.mem_inclusions {content : String} {number : Nat} {line : List Char}
    {argument : String} (hincludes : IncludesAt content number line argument) :
    argument ∈ inclusions (ofText content) := by
  obtain ⟨before, raw, after, hlines, -, rfl, hopen, hread⟩ := hincludes
  obtain ⟨said, hsaid⟩ := exists_ofLines_of_leftOpen hopen
  rw [ofText, hlines, hsaid, ofLines, hread, inclusions, List.filterMap_append]
  exact List.mem_append_right _ List.mem_cons_self

end Statement

namespace OptionsFile

open Statement

variable {context : SourceContext} {visit : Visit}

theorem isSome_pending?_addPart (draft : Draft) (key : String) (value part : List Char) :
    (draft.addPart key value part).pending?.isSome = (splitContinuation part).2 := by
  unfold Draft.addPart
  rcases splitContinuation part with ⟨cut, goesOn⟩
  cases goesOn <;> rfl

theorem isSome_pending?_of_readLine {draft next : Draft} {number : Nat} {line : List Char}
    (hline : (readLine context visit draft number line).outcome = .ok next) :
    next.pending?.isSome = leavesOpen draft.pending?.isSome line := by
  cases hpending : draft.pending? with
  | some begun =>
      rw [readLine_of_pending hpending] at hline
      cases hline
      exact isSome_pending?_addPart ..
  | none =>
      rw [readLine_of_pending_none hpending, execute] at hline
      unfold leavesOpen
      cases hread : read (Text.trim line) with
      | nothing =>
          rw [hread] at hline
          cases hline
          simp [hpending]
      | heading name =>
          rw [hread] at hline
          cases hline
          simp [hpending]
      | inclusion argument =>
          simp only [hread] at hline
          obtain ⟨nested, -, rfl⟩ := outcome_bind_pure_eq_ok_iff.1 hline
          simp [hpending]
      | assignment key value =>
          simp only [hread] at hline
          split at hline
          · cases hline
          · cases hline
            exact isSome_pending?_addPart ..
      | faulty fault =>
          rw [hread] at hline
          cases hline

/-! ## Lines that fail -/

theorem outcome_readLines_append (draft : Draft) (number : Nat) (before rest : List (List Char)) :
    (readLines context visit draft number (before ++ rest)).outcome =
      (readLines context visit draft number before).outcome >>= fun reached =>
        (readLines context visit reached (number + before.length) rest).outcome := by
  induction before generalizing draft number with
  | nil => rfl
  | cons line more ih =>
      simp only [List.cons_append, readLines, Logged.outcome_bind, ih, List.length_cons, bind_assoc,
        Nat.add_assoc, Nat.add_comm 1]

theorem isSome_pending?_of_readLines {before : List (List Char)} {draft reached : Draft}
    {number : Nat} (hbefore : (readLines context visit draft number before).outcome = .ok reached) :
    reached.pending?.isSome = leftOpen draft.pending?.isSome before := by
  induction before generalizing draft number with
  | nil =>
      cases hbefore
      rfl
  | cons line more ih =>
      rw [readLines, Logged.outcome_bind] at hbefore
      obtain ⟨next, hline, hmore⟩ := bind_eq_ok_iff.1 hbefore
      rw [ih hmore, isSome_pending?_of_readLine hline]
      rfl

/-- Lines fail at one of them, and those before it succeed. -/
theorem exists_failing_line {lines : List (List Char)} {draft : Draft} {number : Nat}
    {error : OptionsFileError}
    (hlines : (readLines context visit draft number lines).outcome = .error error) :
    ∃ before raw after reached, lines = before ++ raw :: after ∧
      (readLines context visit draft number before).outcome = .ok reached ∧
      (readLine context visit reached (number + before.length) raw).outcome = .error error := by
  induction lines generalizing draft number with
  | nil => cases hlines
  | cons line rest ih =>
      rw [readLines, Logged.outcome_bind] at hlines
      cases hline : (readLine context visit draft number line).outcome with
      | error cause =>
          rw [hline] at hlines
          cases hlines
          exact ⟨[], line, rest, draft, rfl, rfl, hline⟩
      | ok next =>
          rw [hline] at hlines
          obtain ⟨before, raw, after, reached, rfl, hbefore, hraw⟩ := ih hlines
          refine ⟨line :: before, raw, after, reached, rfl, ?_, ?_⟩
          · rw [readLines, Logged.outcome_bind, hline]
            exact hbefore
          · rw [List.length_cons, Nat.add_comm before.length, ← Nat.add_assoc]
            exact hraw

theorem outcome_readLines_of_failing {before rest : List (List Char)} {raw : List Char}
    {draft reached : Draft} {number : Nat} {error : OptionsFileError}
    (hbefore : (readLines context visit draft number before).outcome = .ok reached)
    (hraw : (readLine context visit reached (number + before.length) raw).outcome =
      .error error) :
    (readLines context visit draft number (before ++ raw :: rest)).outcome = .error error := by
  have hline : (readLines context visit reached (number + before.length) (raw :: rest)).outcome =
      .error error := by
    rw [readLines, Logged.outcome_bind, hraw]
    rfl
  rw [outcome_readLines_append, hbefore]
  exact hline

/-- A line fails because the file that it includes does, or by itself and then not as circular. -/
theorem error_of_readLine {draft : Draft} {number : Nat} {line : List Char}
    {error : OptionsFileError}
    (hline : (readLine context visit draft number line).outcome = .error error) :
    (draft.pending?.isSome = false ∧ ∃ argument,
        read (Text.trim line) = .inclusion argument ∧
          (visit argument number (Text.trim line)).outcome = .error error) ∨
      ∃ fault, fault ≠ .circularInclusion ∧
        error = .line fault context.name number (String.ofList (Text.trim line)) := by
  cases hpending : draft.pending? with
  | some begun =>
      rw [readLine_of_pending hpending] at hline
      cases hline
  | none =>
      rw [readLine_of_pending_none hpending, execute] at hline
      cases hread : read (Text.trim line) with
      | nothing =>
          rw [hread] at hline
          cases hline
      | heading name =>
          rw [hread] at hline
          cases hline
      | inclusion argument =>
          simp only [hread, Logged.outcome_bind] at hline
          refine Or.inl ⟨rfl, argument, rfl, ?_⟩
          cases hvisit : (visit argument number (Text.trim line)).outcome with
          | ok nested =>
              rw [hvisit] at hline
              cases hline
          | error cause =>
              rw [hvisit] at hline
              cases hline
              rfl
      | assignment key value =>
          simp only [hread] at hline
          split at hline
          · cases hline
            exact Or.inr ⟨.duplicateOption, nofun, rfl⟩
          · cases hline
      | faulty fault =>
          rw [hread] at hline
          cases hline
          exact Or.inr ⟨fault, faulty_ne_circular hread, rfl⟩

theorem outcome_readText (content : String) :
    (readText context visit content).outcome =
      Draft.settings <$>
        (readLines context visit (.empty context.source) 1
          (Text.lines content.toList)).outcome := by
  simp only [readText, Logged.outcome_bind]
  cases (readLines context visit (.empty context.source) 1
    (Text.lines content.toList)).outcome <;> rfl

theorem readText_outcome_eq_error_iff {content : String} {error : OptionsFileError} :
    (readText context visit content).outcome = .error error ↔
      (readLines context visit (.empty context.source) 1
        (Text.lines content.toList)).outcome = .error error := by
  rw [outcome_readText]
  exact map_eq_error_iff

end OptionsFile

end TypedOptions
