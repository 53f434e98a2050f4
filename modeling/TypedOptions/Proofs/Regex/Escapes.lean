import TypedOptions.Proofs.Regex.Splicing

/-!
# Escapes in front of a parenthesis

The readers of codes, properties and boundaries take what belongs to them and
no more.  An escape needs a character behind its backslash and takes the
parenthesis if there is no other.
-/

namespace TypedOptions.Regex

namespace Flags

theorem inBraces?_eq (flags : Flags) :
    flags.inBraces? = flags.next?.andThen fun c =>
      if c = '\x7d' then .given (some [])
      else Reader.andThen flags.inBraces? fun inner => .given (some (c :: inner)) := by
  funext text
  rw [inBraces?, Reader.andThen, next?]
  cases hskip : flags.skip text with
  | nil => simp
  | cons c rest =>
      by_cases hc : c = '\x7d'
      · simp [hc, Reader.given]
      · simp only [hc, ↓reduceIte, Option.bind_some]
        rw [Reader.andThen]
        cases flags.inBraces? rest <;> rfl

theorem leaves_inBraces? (flags : Flags) : Reader.Leaves flags.inBraces? := by
  intro text inner after hread
  induction hlength : text.length using Nat.strongRecOn generalizing text inner after with
  | ind length ih =>
      rw [inBraces?_eq] at hread
      obtain ⟨c, rest, hnext, hrest⟩ := Reader.andThen_eq_some.1 hread
      refine List.IsSuffix.trans ?_ (flags.leaves_next? text c rest hnext)
      split at hrest
      · exact Reader.leaves_given _ rest inner after hrest
      · obtain ⟨more, last, hmore, hlast⟩ := Reader.andThen_eq_some.1 hrest
        refine (Reader.leaves_given _ last inner after hlast).trans ?_
        exact ih rest.length (hlength ▸ length_lt_of_next? hnext) rest more last hmore rfl

theorem splices_inBraces? (flags : Flags) (text : List Char) :
    Reader.Splices flags.inBraces? text := by
  induction hlength : text.length using Nat.strongRecOn generalizing text with
  | ind length ih =>
      rw [inBraces?_eq]
      refine (flags.splices_next? text).andThen (fun c => ?_) fun c rest hnext => ?_
      · split
        · exact Reader.leaves_given _
        · exact flags.leaves_inBraces?.andThen_given _
      · split
        · exact Reader.splices_given _ rest
        · exact (ih rest.length (hlength ▸ length_lt_of_next? hnext) rest rfl).andThen_given _

end Flags

/-! ## Codes -/

theorem readHexDigits?_succ (flags : Flags) (value count : Nat) :
    readHexDigits? flags value (count + 1) =
      flags.next?.andThen fun c => (Reader.given (hexValue? c)).andThen fun digit =>
        readHexDigits? flags (value * 16 + digit) count := by
  funext text
  rw [readHexDigits?, Reader.andThen, Flags.next?]
  cases flags.skip text with
  | nil => rfl
  | cons c rest =>
      dsimp only [Option.bind_some]
      cases hexValue? c <;> rfl

theorem leaves_readHexDigits? (flags : Flags) (value count : Nat) :
    Reader.Leaves (readHexDigits? flags value count) := by
  induction count generalizing value with
  | zero => exact Reader.leaves_given (some value)
  | succ count ih =>
      rw [readHexDigits?_succ]
      exact flags.leaves_next?.andThen fun c => (Reader.leaves_given _).andThen fun digit => ih _

theorem splices_readHexDigits? (flags : Flags) (value count : Nat) (text : List Char) :
    Reader.Splices (readHexDigits? flags value count) text := by
  induction count generalizing value text with
  | zero => exact Reader.splices_given (some value) text
  | succ count ih =>
      rw [readHexDigits?_succ]
      refine (flags.splices_next? text).andThen (fun c => ?_) fun c rest _ => ?_
      · exact (Reader.leaves_given _).andThen fun digit => leaves_readHexDigits? flags _ _
      · exact (Reader.splices_given _ rest).andThen (fun digit => leaves_readHexDigits? flags _ _)
          fun digit after _ => ih _ after

/-- The character of a code between braces. -/
def codeInBraces? (inner : List Char) : Option Primitive := do
  let code ← inner.foldlM (fun value c => (hexValue? c).map (value * 16 + ·)) 0
  if inner = [] then none
  return .literal (← charOfCode? code)

/-- The character of a code with a fixed number of digits. -/
def codeOfDigits? (flags : Flags) (digits code : Nat) : Option Primitive := do
  if digits = 2 && !flags.unicode && code ≥ 0x80 then none
  return .literal (← charOfCode? code)

/-- A code where everything counts up to its next character. -/
def readCode? (flags : Flags) (digits : Nat) : Reader Primitive
  | '\x7b' :: rest => Reader.andThen flags.inBraces? (fun inner => .given (codeInBraces? inner)) rest
  | rest =>
      Reader.andThen (readHexDigits? flags 0 digits)
        (fun code => .given (codeOfDigits? flags digits code)) rest

theorem readHex?_eq (flags : Flags) (digits : Nat) :
    readHex? flags digits = flags.skipping.andThen fun _ => readCode? flags digits := by
  funext text
  rw [readHex?, Flags.skipping_andThen]
  generalize flags.skip text = rest
  unfold readCode?
  split
  · rename_i rest
    simp only [Reader.andThen]
    cases flags.inBraces? rest with
    | none => rfl
    | some result =>
        simp only [codeInBraces?, Reader.given, Option.bind_eq_bind, Option.bind_some,
          Option.map_bind]
        congr 1
        funext code
        rw [Function.comp_apply]
        split <;> cases charOfCode? code <;> rfl
  · simp only [Reader.andThen]
    cases readHexDigits? flags 0 digits _ with
    | none => rfl
    | some result =>
        simp only [codeOfDigits?, Reader.given, Option.bind_eq_bind, Option.bind_some]
        split <;> cases charOfCode? _ <;> rfl

theorem leaves_readCode? (flags : Flags) (digits : Nat) : (readCode? flags digits).Leaves := by
  intro text a after hread
  unfold readCode? at hread
  split at hread
  · exact (flags.leaves_inBraces?.andThen_given codeInBraces? _ a after hread).trans
      (List.suffix_cons ..)
  · exact (leaves_readHexDigits? flags 0 digits).andThen_given (codeOfDigits? flags digits) _ a
      after hread

theorem readCode?_of_ne {flags : Flags} {digits : Nat} {text : List Char}
    (htext : ∀ rest, text ≠ '\x7b' :: rest) :
    readCode? flags digits text =
      Reader.andThen (readHexDigits? flags 0 digits)
        (fun code => .given (codeOfDigits? flags digits code)) text := by
  rw [readCode?]
  exact htext

theorem splices_readCode? (flags : Flags) (digits : Nat) (text : List Char) :
    (readCode? flags digits).Splices text :=
  .of_mark (by decide) (fun rest => rfl) (fun text => readCode?_of_ne)
    (fun rest _ => (flags.splices_inBraces? rest).andThen_given codeInBraces?)
    fun _ => (splices_readHexDigits? flags 0 digits text).andThen_given _

theorem leaves_readHex? (flags : Flags) (digits : Nat) :
    Reader.Leaves (readHex? flags digits) := by
  rw [readHex?_eq]
  exact flags.leaves_skipping.andThen fun _ => leaves_readCode? flags digits

theorem splices_readHex? (flags : Flags) {digits : Nat} (hdigits : digits ≠ 0)
    (text : List Char) : Reader.Splices (readHex? flags digits) text := by
  obtain ⟨digits, rfl⟩ := Nat.exists_eq_succ_of_ne_zero hdigits
  have hdigit : readHexDigits? flags 0 (digits + 1) [] = none := by
    rw [readHexDigits?, flags.skip_nil]
  have hnil : readCode? flags (digits + 1) [] = none := by
    simp [readCode?, Reader.andThen_of_none hdigit]
  rw [readHex?_eq]
  exact Flags.splices_skipping_andThen hnil (splices_readCode? flags _ _)

/-! ## Properties and boundaries -/

/-- The name of a property. -/
def readPropertyName? (flags : Flags) : Reader (List Char) :=
  flags.next?.andThen fun c =>
    if c = '\x7b' then flags.inBraces? else .given (if c = '\\' then none else some [c])

/-- The set that the name of a property stands for. -/
def setOfName? (flags : Flags) (negated : Bool) (name : List Char) : Option Primitive := do
  let (set, unequal) ← propertySet? name
  if !flags.unicode then none
  return .set (← flags.negate? (negated != unequal) (flags.fold set))

theorem readPropertyName?_of_skip {flags : Flags} {text rest : List Char} {c : Char}
    (hskip : flags.skip text = c :: rest) :
    readPropertyName? flags text =
      (if c = '\x7b' then flags.inBraces?
      else Reader.given (if c = '\\' then none else some [c])) rest := by
  rw [readPropertyName?, Reader.andThen_of_some (Flags.next?_eq_some.2 hskip)]

theorem readProperty?_eq (flags : Flags) (negated : Bool) :
    readProperty? flags negated =
      (readPropertyName? flags).andThen fun name => .given (setOfName? flags negated name) := by
  funext text
  have hset : ∀ name? : Option (List Char × List Char),
      (name?.bind fun found => (propertySet? found.1).bind fun named =>
        if !flags.unicode then none
        else (flags.negate? (negated != named.2) (flags.fold named.1)).bind fun set =>
          some (.set set, found.2)) =
        name?.bind fun found => Reader.given (setOfName? flags negated found.1) found.2 := by
    intro name?
    cases name? with
    | none => rfl
    | some result =>
        simp only [setOfName?, Reader.given, Option.bind_eq_bind, Option.bind_some,
          Option.map_bind]
        congr 1
        funext named
        rw [Function.comp_apply]
        split <;> cases flags.negate? _ _ <;> rfl
  rw [readProperty?, Reader.andThen]
  split
  · rename_i hskip
    have hname : readPropertyName? flags text = none :=
      Reader.andThen_of_none (by rw [Flags.next?, hskip])
    rw [hname]
    exact hset none
  · rename_i rest hskip
    rw [readPropertyName?_of_skip hskip]
    exact hset (flags.inBraces? rest)
  · rename_i rest hskip
    rw [readPropertyName?_of_skip hskip]
    exact hset none
  · rename_i c rest hbrace hslash hskip
    rw [readPropertyName?_of_skip hskip, if_neg hbrace, if_neg hslash]
    exact hset (some ([c], rest))

theorem leaves_readPropertyName? (flags : Flags) : (readPropertyName? flags).Leaves := by
  refine flags.leaves_next?.andThen fun c => ?_
  split
  · exact flags.leaves_inBraces?
  · exact Reader.leaves_given _

theorem leaves_readProperty? (flags : Flags) (negated : Bool) :
    Reader.Leaves (readProperty? flags negated) := by
  rw [readProperty?_eq]
  exact (leaves_readPropertyName? flags).andThen_given _

theorem splices_readProperty? (flags : Flags) (negated : Bool) (text : List Char) :
    Reader.Splices (readProperty? flags negated) text := by
  rw [readProperty?_eq]
  refine Reader.Splices.andThen_given ?_ _
  refine (flags.splices_next? text).andThen (fun c => ?_) fun c rest _ => ?_
  · split
    · exact flags.leaves_inBraces?
    · exact Reader.leaves_given _
  · split
    · exact flags.splices_inBraces? rest
    · exact Reader.splices_given _ rest

/-- The boundary that has a name. -/
def boundaryNamed? (flags : Flags) (name : List Char) : Option Primitive :=
  match String.ofList name with
  | "start" => some (.condition (.wordStart flags.word))
  | "end" => some (.condition (.wordEnd flags.word))
  | "start-half" => some (.condition (.wordStartHalf flags.word))
  | "end-half" => some (.condition (.wordEndHalf flags.word))
  | _ => none

theorem readBoundary?_of_not_brace (flags : Flags) {text : List Char}
    (htext : ∀ inner, text ≠ '\x7b' :: inner) :
    readBoundary? flags text = Reader.given (some (.condition (.wordBoundary flags.word))) text := by
  rw [readBoundary?]
  · rfl
  · exact htext

theorem readBoundary?_of_skip {flags : Flags} {inner more : List Char} {c : Char}
    (hskip : flags.skip inner = c :: more) :
    readBoundary? flags ('\x7b' :: inner) =
      if isBoundaryNameChar c then
        Reader.andThen flags.inBraces? (fun name => .given (boundaryNamed? flags name)) inner
      else some (.condition (.wordBoundary flags.word), '\x7b' :: inner) := by
  simp only [readBoundary?, hskip, Reader.andThen]
  cases isBoundaryNameChar c with
  | false => rfl
  | true =>
      cases flags.inBraces? inner with
      | none => rfl
      | some result =>
          simp only [Bool.not_true, Bool.false_eq_true, ↓reduceIte, Option.bind_some,
            boundaryNamed?, Reader.given]
          split <;> simp_all

theorem leaves_readBoundary? (flags : Flags) : Reader.Leaves (readBoundary? flags) := by
  intro text a after hread
  by_cases hbrace : ∃ inner, text = '\x7b' :: inner
  · obtain ⟨inner, rfl⟩ := hbrace
    cases hskip : flags.skip inner with
    | nil => simp [readBoundary?, hskip] at hread
    | cons c more =>
        rw [readBoundary?_of_skip hskip] at hread
        split at hread
        · exact (flags.leaves_inBraces?.andThen_given (boundaryNamed? flags) inner a after
            hread).trans (List.suffix_cons ..)
        · cases hread
          exact List.suffix_rfl
  · rw [readBoundary?_of_not_brace flags (not_exists.1 hbrace)] at hread
    exact Reader.leaves_given _ text a after hread

/-- Behind a brace nothing may count but the parenthesis.  In all other cases the reader takes what
belongs to the boundary. -/
theorem splices_readBoundary? (flags : Flags) {text : List Char}
    (hcounts : ∀ inner, text = '\x7b' :: inner → flags.skip inner ≠ []) :
    Reader.Splices (readBoundary? flags) text := by
  refine .of_mark (by decide) (fun rest => rfl) (fun text => readBoundary?_of_not_brace flags)
    (fun inner heq => ?_) fun _ => Reader.splices_given _ text
  cases flags.skips inner with
  | atEnd hidden hskip => exact absurd hskip (hcounts inner heq)
  | @inside c rest hskip hspliced =>
      cases hname : isBoundaryNameChar c with
      | true =>
          refine ((flags.splices_inBraces? inner).andThen_given
            (boundaryNamed? flags)).of_eq fun more _ => ?_
          rw [readBoundary?_of_skip (hspliced more), if_pos hname]
      | false =>
          refine (Reader.splices_given (some (.condition (.wordBoundary flags.word)))
            ('\x7b' :: inner)).of_eq fun more _ => ?_
          rw [readBoundary?_of_skip (hspliced more), if_neg (by simp [hname])]
          rfl

/-- With nothing but the parenthesis behind it a brace is no name of a boundary, and is left over. -/
theorem readBoundary?_of_hidden {flags : Flags} {inner : List Char} (hskip : flags.skip inner = []) :
    readBoundary? flags ('\x7b' :: inner) = none ∧
      ∀ count a rest, readBoundary? flags ('\x7b' :: inner ++ closing count) = some (a, rest) →
        a = .condition (.wordBoundary flags.word) ∧ rest = '\x7b' :: inner ++ closing count := by
  refine ⟨by simp [readBoundary?, hskip], fun count a rest hread => ?_⟩
  obtain ⟨hidden, hspliced⟩ := Flags.exists_hidden hskip
  cases hidden with
  | true => simp [readBoundary?, hspliced] at hread
  | false =>
      have hskipped : flags.skip (inner ++ closing count) = ')' :: List.replicate count '$' :=
        hspliced count
      rw [List.cons_append, readBoundary?_of_skip hskipped, if_neg (by decide)] at hread
      cases hread
      exact ⟨rfl, rfl⟩

/-! ## Escapes -/

/-- What a character behind a backslash calls for. -/
inductive EscapeKind (flags : Flags) (c : Char) : Prop where
  | alone (value? : Option Primitive)
      (hread : ∀ rest, readEscape? flags (c :: rest) = Reader.given value? rest)
  | code (digits : Nat) (hdigits : digits ≠ 0)
      (hread : ∀ rest, readEscape? flags (c :: rest) = readHex? flags digits rest)
  | property (negated : Bool)
      (hread : ∀ rest, readEscape? flags (c :: rest) = readProperty? flags negated rest)
  | boundary (hc : c = 'b')
      (hread : ∀ rest, readEscape? flags (c :: rest) = readBoundary? flags rest)

theorem escapeKind (flags : Flags) (c : Char) : EscapeKind flags c := by
  cases hescapable : isEscapable c with
  | true =>
      exact .alone (some (.literal c)) fun rest => by
        rw [readEscape?.eq_def]
        exact if_pos hescapable
  | false =>
      by_cases hletter : c ∈ "xuUpPdDsSwWaftnrvAzbB<>".toList
      · simp only [String.reduceToList, List.mem_cons, List.not_mem_nil, or_false] at hletter
        rcases hletter with rfl | rfl | rfl | rfl | rfl | rfl | rfl | rfl | rfl | rfl | rfl | rfl |
          rfl | rfl | rfl | rfl | rfl | rfl | rfl | rfl | rfl | rfl | rfl
        all_goals
          first
          | exact .alone (some _) fun rest => rfl
          | exact .code _ (by decide) fun rest => rfl
          | exact .property _ fun rest => rfl
          | exact .boundary rfl fun rest => rfl
          | exact .alone ((flags.shortClass? _).map .set) fun rest => by
              rw [Reader.given, Option.map_map]
              rfl
      · refine .alone none fun rest => ?_
        simp only [readEscape?, hescapable, Bool.false_eq_true, ↓reduceIte]
        split <;> simp_all [Reader.given]

theorem leaves_readEscape? (flags : Flags) : Reader.Leaves (readEscape? flags) := by
  intro text a after hread
  cases text with
  | nil => cases hread
  | cons c rest =>
      refine List.IsSuffix.trans ?_ (List.suffix_cons c rest)
      cases escapeKind flags c with
      | alone value? heq => exact Reader.leaves_given value? rest a after (heq rest ▸ hread)
      | code digits hdigits heq => exact leaves_readHex? flags digits rest a after (heq rest ▸ hread)
      | property negated heq =>
          exact leaves_readProperty? flags negated rest a after (heq rest ▸ hread)
      | boundary hc heq => exact leaves_readBoundary? flags rest a after (heq rest ▸ hread)

/-- The escape of a boundary, with a brace behind it of which nothing counts. -/
def HidesBrace (flags : Flags) (text : List Char) : Prop :=
  ∃ inner, text = 'b' :: '\x7b' :: inner ∧ flags.skip inner = []

theorem splices_readEscape? {flags : Flags} {text : List Char} (hcounts : ¬HidesBrace flags text) :
    Reader.Splices (readEscape? flags) text := by
  cases text with
  | nil =>
      refine .beyond rfl fun count a rest hread => ?_
      cases hread
      exact List.suffix_rfl
  | cons c rest =>
      cases escapeKind flags c with
      | alone value? heq => exact (Reader.splices_given value? rest).of_eq fun more _ => heq _
      | code digits hdigits heq => exact (splices_readHex? flags hdigits rest).of_eq fun more _ => heq _
      | property negated heq =>
          exact (splices_readProperty? flags negated rest).of_eq fun more _ => heq _
      | boundary hc heq =>
          refine (splices_readBoundary? flags fun inner hinner hskip => ?_).of_eq fun more _ => heq _
          exact hcounts ⟨inner, by rw [hc, hinner], hskip⟩

theorem readEscape?_of_hidesBrace {flags : Flags} {text : List Char} (hhides : HidesBrace flags text) :
    readEscape? flags text = none ∧
      ∀ count a rest, readEscape? flags (text ++ closing count) = some (a, rest) →
        a = .condition (.wordBoundary flags.word) ∧
          ∃ inner, flags.skip inner = [] ∧ rest = '\x7b' :: inner ++ closing count := by
  obtain ⟨inner, rfl, hskip⟩ := hhides
  obtain ⟨hnone, hspliced⟩ := readBoundary?_of_hidden hskip
  refine ⟨hnone, fun count a rest hread => ?_⟩
  obtain ⟨ha, hrest⟩ := hspliced count a rest hread
  exact ⟨ha, inner, hskip, hrest⟩

end TypedOptions.Regex
