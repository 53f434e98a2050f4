import TypedOptions.Proofs.Regex.Bounds
import TypedOptions.Proofs.Regex.Brackets

/-!
# Pieces in front of a parenthesis

What a round of the loop takes is a piece of the text.  Which piece it is
depends on the flags alone; what has been read before decides only whether the
piece may stand there.
-/

namespace TypedOptions.Regex

/-- A piece of the text of an expression. -/
inductive Piece where
  | part (expression : Regex) (depth : Nat)
  | bar
  | count (least : Nat) (greatest? : Option Nat)
  /-- The beginning of a group, which may have a name, with the flags that hold in it. -/
  | opening (name? : Option (List Char)) (flags : Flags) (captures : Bool)
  | change (flags : Flags)
  | parenthesis

/-- What is read when a piece follows what has been read, if it may follow it. -/
def Piece.follow? (progress : Progress) : Piece → Option Progress
  | .part expression depth => some (progress.push expression depth)
  | .bar => some progress.alternate
  | .count least greatest? => progress.repeat? least greatest?
  | .opening none flags captures => some (progress.openGroup flags captures)
  | .opening (some name) flags captures =>
      if progress.names.contains name then none
      else some ({ progress with names := name :: progress.names }.openGroup flags captures)
  | .change flags => some { progress with flags, items := .flags :: progress.items }
  | .parenthesis => progress.closeGroup?

/-! ## Beginnings of groups -/

/-- Flags with the character that ends them, and whether there are any. -/
def flagsAndEnd (flags : Flags) (on : Bool) (seen : List Char) : Reader (Flags × Bool × Char) :=
  fun text => (readFlags? flags on seen text).map fun (flags, named, c, rest) =>
    ((flags, named, c), rest)

/-- The character that ends flags. -/
def endFlags? (flags : Flags) (seen : List Char) (c : Char) : Option (Flags × Bool × Char) :=
  if seen.head? == some '-' then none else some (flags, !seen.isEmpty, c)

/-- What a character does to flags. -/
inductive FlagKind (flags : Flags) (on : Bool) (seen : List Char) (c : Char) : Prop where
  | alone (value? : Option (Flags × Bool × Char))
      (hread : ∀ rest, flagsAndEnd flags on seen (c :: rest) = Reader.given value? rest)
  | more (flags' : Flags) (on' : Bool) (seen' : List Char)
      (hread : ∀ rest, flagsAndEnd flags on seen (c :: rest) = flagsAndEnd flags' on' seen' rest)

theorem flagKind (flags : Flags) (on : Bool) (seen : List Char) (c : Char) :
    FlagKind flags on seen c := by
  by_cases hend : (c == ':' || c == ')') = true
  · refine .alone (endFlags? flags seen c) fun rest => ?_
    rw [flagsAndEnd, readFlags?, if_pos hend, endFlags?]
    split <;> rfl
  · by_cases hseen : seen.contains c = true
    · exact .alone none fun rest => by
        rw [flagsAndEnd, readFlags?, if_neg hend, if_pos hseen]
        rfl
    · by_cases hdash : (c == '-') = true
      · exact .more flags false ('-' :: seen) fun rest => by
          rw [flagsAndEnd, readFlags?, if_neg hend, if_neg hseen, if_pos hdash]
          rfl
      · by_cases hflag : ['i', 'm', 's', 'R', 'U', 'u', 'x'].contains c = true
        · exact .more (flags.set c on) on (c :: seen) fun rest => by
            rw [flagsAndEnd, readFlags?, if_neg hend, if_neg hseen, if_neg hdash, if_pos hflag]
            rfl
        · exact .alone none fun rest => by
            rw [flagsAndEnd, readFlags?, if_neg hend, if_neg hseen, if_neg hdash, if_neg hflag]
            rfl

theorem leaves_flagsAndEnd (flags : Flags) (on : Bool) (seen : List Char) :
    (flagsAndEnd flags on seen).Leaves := by
  intro text value after hread
  induction text generalizing flags on seen with
  | nil => cases hread
  | cons c rest ih =>
      refine List.IsSuffix.trans ?_ (List.suffix_cons c rest)
      cases flagKind flags on seen c with
      | alone value? heq => exact Reader.leaves_given value? rest value after (heq rest ▸ hread)
      | more flags' on' seen' heq => exact ih flags' on' seen' (heq rest ▸ hread)

theorem splices_flagsAndEnd (flags : Flags) (on : Bool) (seen : List Char) (text : List Char) :
    (flagsAndEnd flags on seen).Splices text := by
  induction text generalizing flags on seen with
  | nil =>
      refine .beyond rfl fun count value rest hread => ?_
      cases flagKind flags on seen ')' with
      | alone value? heq =>
          rw [List.nil_append, closing, heq] at hread
          exact Reader.leaves_given value? _ value rest hread
      | more flags' on' seen' heq =>
          rw [List.nil_append, closing, heq] at hread
          exact leaves_flagsAndEnd flags' on' seen' _ value rest hread
  | cons c rest ih =>
      cases flagKind flags on seen c with
      | alone value? heq => exact (Reader.splices_given value? rest).of_eq fun more _ => heq _
      | more flags' on' seen' heq => exact (ih flags' on' seen').of_eq fun more _ => heq _

/-- The beginning of a group that flags make, or the flags alone. -/
def pieceOfFlags? : Flags × Bool × Char → Option Piece
  | (flags, _, ':') => some (.opening none flags false)
  | (flags, true, _) => some (.change flags)
  | _ => none

/-- The beginning of a group with a name. -/
def pieceOfName? (flags : Flags) : List Char → Option Piece
  | [] => none
  | first :: more =>
      if isNameStart first && more.all isNamePart then
        some (.opening (some (first :: more)) flags true)
      else none

def namedOpening (flags : Flags) : Reader Piece :=
  Reader.andThen (Text.splitFirst '>') fun name => .given (pieceOfName? flags name)

/-- What follows a question mark behind a parenthesis. -/
def markedOpening (flags : Flags) : Reader Piece
  | '=' :: _ => none
  | '!' :: _ => none
  | '<' :: '=' :: _ => none
  | '<' :: '!' :: _ => none
  | 'P' :: '<' :: rest => namedOpening flags rest
  | '<' :: rest => namedOpening flags rest
  | text => (flagsAndEnd flags true []).andThen (fun value => .given (pieceOfFlags? value)) text

/-- What follows a parenthesis, where everything counts up to the next character. -/
def plainOpening (flags : Flags) : Reader Piece
  | '?' :: rest => markedOpening flags rest
  | text => some (.opening none flags true, text)

/-- What follows a parenthesis. -/
def groupOpening (flags : Flags) : Reader Piece :=
  flags.skipping.andThen fun _ => plainOpening flags

theorem leaves_namedOpening (flags : Flags) : (namedOpening flags).Leaves :=
  Reader.leaves_splitFirst.andThen_given _

theorem splices_namedOpening (flags : Flags) (text : List Char) :
    (namedOpening flags).Splices text :=
  (Reader.extends_splitFirst (by decide) (by decide) text).splices.andThen_given _

theorem leaves_markedOpening (flags : Flags) : (markedOpening flags).Leaves := by
  intro text piece after hread
  unfold markedOpening at hread
  split at hread
  · cases hread
  · cases hread
  · cases hread
  · cases hread
  · exact (leaves_namedOpening flags _ piece after hread).trans
      ((List.suffix_cons ..).trans (List.suffix_cons ..))
  · exact (leaves_namedOpening flags _ piece after hread).trans (List.suffix_cons ..)
  · exact (leaves_flagsAndEnd flags true []).andThen_given pieceOfFlags? _ piece after hread

theorem markedOpening_named {flags : Flags} {rest : List Char}
    (hrest : ∀ more, rest ≠ '=' :: more ∧ rest ≠ '!' :: more) :
    markedOpening flags ('<' :: rest) = namedOpening flags rest := by
  rw [markedOpening]
  · exact fun more heq => (hrest more).1 heq
  · exact fun more heq => (hrest more).2 heq

theorem markedOpening_of_ne {flags : Flags} {c : Char} {rest : List Char}
    (hc : c ∉ ['=', '!', '<']) (hname : c = 'P' → ∀ more, rest ≠ '<' :: more) :
    markedOpening flags (c :: rest) =
      (flagsAndEnd flags true []).andThen (fun value => .given (pieceOfFlags? value)) (c :: rest) := by
  simp only [List.mem_cons, List.not_mem_nil, or_false, not_or] at hc
  obtain ⟨heq, hexclamation, hless⟩ := hc
  rw [markedOpening]
  · exact fun more h => heq (List.cons.inj h).1
  · exact fun more h => hexclamation (List.cons.inj h).1
  · exact fun more h => hless (List.cons.inj h).1
  · exact fun more h => hless (List.cons.inj h).1
  · exact fun more h => hname (List.cons.inj h).1 more (List.cons.inj h).2
  · exact fun more h => hless (List.cons.inj h).1

theorem splices_markedOpening (flags : Flags) (text : List Char) :
    (markedOpening flags).Splices text := by
  have hflags := (splices_flagsAndEnd flags true [] text).andThen_given pieceOfFlags?
  cases text with
  | nil => exact hflags.of_eq fun more hmore => by cases hmore <;> rfl
  | cons c rest =>
      by_cases hc : c ∈ ['=', '!', '<']
      · simp only [List.mem_cons, List.not_mem_nil, or_false] at hc
        rcases hc with rfl | rfl | rfl
        · exact (Reader.splices_given none rest).of_eq fun more _ => rfl
        · exact (Reader.splices_given none rest).of_eq fun more _ => rfl
        · cases rest with
          | nil => exact (splices_namedOpening flags []).of_eq fun more hmore => by cases hmore <;> rfl
          | cons d rest =>
              by_cases hlook : d = '=' ∨ d = '!'
              · refine (Reader.splices_given none rest).of_eq fun more _ => ?_
                rcases hlook with rfl | rfl <;> rfl
              · refine (splices_namedOpening flags (d :: rest)).of_eq fun more _ => ?_
                exact markedOpening_named fun after =>
                  ⟨fun heq => hlook (.inl (List.cons.inj heq).1),
                    fun heq => hlook (.inr (List.cons.inj heq).1)⟩
      · by_cases hname : c = 'P' ∧ ∃ more, rest = '<' :: more
        · obtain ⟨rfl, after, rfl⟩ := hname
          exact (splices_namedOpening flags after).of_eq fun more _ => rfl
        · refine hflags.of_eq fun more hmore => markedOpening_of_ne hc fun hP after heq => ?_
          cases rest with
          | nil => cases hmore <;> cases heq
          | cons d rest => exact hname ⟨hP, rest, by rw [(List.cons.inj heq).1]⟩

/-! ## Pieces and the end of the text -/

/-- Where the text goes on with a parenthesis, the reader takes the same piece, and the parenthesis
follows what it leaves unless an open comment swallows it.  If the text alone has no piece, the
reader takes the parenthesis, or it leaves a brace behind which nothing counts. -/
inductive Continues (flags : Flags) (reader : Reader Piece) (text : List Char) : Prop where
  | inside {piece : Piece} {rest : List Char} (hidden : Bool)
      (hread : reader text = some (piece, rest)) (hrest : hidden = true → rest = [])
      (hspliced : ∀ count, reader (text ++ closing count) =
        some (piece, if hidden then [] else rest ++ closing count)) :
      Continues flags reader text
  | beyond (hread : reader text = none)
      (hspliced : ∀ count piece rest, reader (text ++ closing count) = some (piece, rest) →
        rest <:+ List.replicate count '$') :
      Continues flags reader text
  | brace (hread : reader text = none)
      (hspliced : ∀ count piece rest, reader (text ++ closing count) = some (piece, rest) →
        ∃ expression depth inner, piece = .part expression depth ∧ flags.skip inner = [] ∧
          rest = '\x7b' :: inner ++ closing count) :
      Continues flags reader text

variable {flags : Flags} {reader reader' : Reader Piece} {text text' : List Char}

theorem Reader.Splices.continues (hreader : reader.Splices text) : Continues flags reader text := by
  cases hreader with
  | inside hread hspliced => exact .inside false hread (fun h => nomatch h) hspliced
  | beyond hread hspliced => exact .beyond hread hspliced

theorem Continues.of_eq (hreader : Continues flags reader' text')
    (heq : ∀ more, Ending more → reader (text ++ more) = reader' (text' ++ more)) :
    Continues flags reader text := by
  have htext : reader text = reader' text' := by simpa using heq [] .nothing
  cases hreader with
  | inside hidden hread hrest hspliced =>
      exact .inside hidden (htext.trans hread) hrest fun count =>
        (heq _ (.closing count)).trans (hspliced count)
  | beyond hread hspliced =>
      exact .beyond (htext.trans hread) fun count piece rest hpiece =>
        hspliced count piece rest (heq _ (.closing count) ▸ hpiece)
  | brace hread hspliced =>
      exact .brace (htext.trans hread) fun count piece rest hpiece =>
        hspliced count piece rest (heq _ (.closing count) ▸ hpiece)

/-- A reader that takes what does not count and any number of pieces of the rest. -/
theorem continues_skipping_andThen (piece : Piece) {next : Reader Piece}
    (hend : ∀ more, Ending more → next more = some (piece, more))
    (hnext : ∀ c rest, Continues flags next (c :: rest)) (text : List Char) :
    Continues flags (flags.skipping.andThen fun _ => next) text := by
  cases flags.skips text with
  | @inside c rest hskip hspliced =>
      refine (hnext c rest).of_eq fun more _ => ?_
      rw [Flags.skipping_andThen, hspliced]
  | atEnd hidden hskip hspliced =>
      have hread : (flags.skipping.andThen fun _ => next) text = some (piece, []) := by
        rw [Flags.skipping_andThen, hskip, hend [] .nothing]
      refine .inside hidden hread (fun _ => rfl) fun count => ?_
      rw [Flags.skipping_andThen, hspliced]
      cases hidden with
      | true => exact hend [] .nothing
      | false => exact hend _ (.closing count)

theorem Reader.Splices.andThen_continues {α : Type} {first : Reader α} {next : α → Reader Piece}
    (hfirst : first.Splices text) (hleaves : ∀ a, (next a).Leaves)
    (hnext : ∀ a rest, Continues flags (next a) rest) :
    Continues flags (first.andThen next) text := by
  cases hfirst with
  | @inside a rest hread hspliced =>
      refine (hnext a rest).of_eq fun more hmore => ?_
      cases hmore with
      | nothing => rw [List.append_nil, List.append_nil, Reader.andThen_of_some hread]
      | closing count => rw [Reader.andThen_of_some (hspliced count)]
  | beyond hread hspliced =>
      refine .beyond (Reader.andThen_of_none hread) fun count piece after hpiece => ?_
      obtain ⟨a, rest, hfirst, hsecond⟩ := Reader.andThen_eq_some.1 hpiece
      exact (hleaves a rest piece after hsecond).trans (hspliced count a rest hfirst)

theorem leaves_plainOpening (flags : Flags) : (plainOpening flags).Leaves := by
  intro text piece after hread
  unfold plainOpening at hread
  split at hread
  · exact (leaves_markedOpening flags _ piece after hread).trans (List.suffix_cons ..)
  · cases hread
    exact List.suffix_rfl

theorem leaves_groupOpening (flags : Flags) : (groupOpening flags).Leaves :=
  flags.leaves_skipping.andThen fun _ => leaves_plainOpening flags

theorem plainOpening_of_ne {text : List Char} (htext : ∀ rest, text ≠ '?' :: rest) :
    plainOpening flags text = Reader.given (some (.opening none flags true)) text := by
  rw [plainOpening]
  · rfl
  · exact htext

theorem splices_plainOpening (flags : Flags) (text : List Char) :
    (plainOpening flags).Splices text :=
  .of_mark (by decide) (fun rest => rfl) (fun text => plainOpening_of_ne)
    (fun rest _ => splices_markedOpening flags rest) fun _ => Reader.splices_given _ text

theorem continues_groupOpening (flags : Flags) (text : List Char) :
    Continues flags (groupOpening flags) text :=
  continues_skipping_andThen (.opening none flags true) (fun more hmore => by cases hmore <;> rfl)
    (fun c rest => (splices_plainOpening flags (c :: rest)).continues) text

/-! ## Repetitions -/

/-- A number of repetitions, with a mark behind it that does not matter. -/
def counted (least : Nat) (greatest? : Option Nat) : Reader Piece := fun text =>
  some (.count least greatest?, dropLazyMark text)

theorem counted_of_ne {least : Nat} {greatest? : Option Nat}
    (htext : ∀ rest, text ≠ '?' :: rest) :
    counted least greatest? text = Reader.given (some (.count least greatest?)) text := by
  rw [counted, dropLazyMark]
  · rfl
  · exact htext

theorem leaves_counted (least : Nat) (greatest? : Option Nat) : (counted least greatest?).Leaves := by
  intro text piece after hread
  cases hread
  unfold dropLazyMark
  split
  · exact List.suffix_cons ..
  · exact List.suffix_rfl

theorem splices_counted (least : Nat) (greatest? : Option Nat) (text : List Char) :
    (counted least greatest?).Splices text :=
  .of_mark (by decide) (fun rest => rfl) (fun text => counted_of_ne)
    (fun rest _ => Reader.splices_given (some (Piece.count least greatest?)) rest)
    fun _ => Reader.splices_given _ text

/-- A number of repetitions between braces, behind the first brace. -/
def bounded (flags : Flags) : Reader Piece :=
  (bounds flags).andThen fun (least, greatest?) =>
    flags.skipping.andThen fun _ => counted least greatest?

theorem leaves_bounded (flags : Flags) : (bounded flags).Leaves :=
  (leaves_bounds flags).andThen fun (least, greatest?) =>
    flags.leaves_skipping.andThen fun _ => leaves_counted least greatest?

theorem continues_bounded (flags : Flags) (text : List Char) :
    Continues flags (bounded flags) text :=
  (splices_bounds flags text).andThen_continues
    (fun (least, greatest?) => flags.leaves_skipping.andThen fun _ => leaves_counted least greatest?)
    fun (least, greatest?) rest =>
      continues_skipping_andThen (.count least greatest?) (fun more hmore => by cases hmore <;> rfl)
        (fun c rest => (splices_counted least greatest? (c :: rest)).continues) rest

/-! ## Whole pieces -/

/-- A class. -/
def classPiece (flags : Flags) : Reader Piece :=
  (bracket flags).andThen fun found => .given (some (.part (.char found.1) found.2))

/-- An escape. -/
def escapePiece (flags : Flags) : Reader Piece :=
  Reader.andThen (readEscape? flags) fun primitive =>
    .given (some (.part (flags.primitive primitive) 0))

/-- The first piece of a text. -/
def readPiece? (flags : Flags) : Reader Piece
  | [] => none
  | '(' :: rest => groupOpening flags rest
  | ')' :: rest => some (.parenthesis, rest)
  | '|' :: rest => some (.bar, rest)
  | '[' :: rest => classPiece flags rest
  | '?' :: rest => counted 0 (some 1) rest
  | '*' :: rest => counted 0 none rest
  | '+' :: rest => counted 1 none rest
  | '\x7b' :: rest => bounded flags rest
  | '\\' :: rest => escapePiece flags rest
  | '.' :: rest => Reader.given (flags.dot?.map fun set => .part (.char set) 0) rest
  | '^' :: rest => some (.part (.assert flags.startLine) 0, rest)
  | '$' :: rest => some (.part (.assert flags.endLine) 0, rest)
  | c :: rest => some (.part (flags.primitive (.literal c)) 0, rest)

/-- Reads a piece that may follow what has been read. -/
def applied (progress : Progress) (reader : Reader Piece) : Reader Progress :=
  reader.andThen fun piece => .given (piece.follow? progress)

theorem applied_congr {progress : Progress} (heq : reader text = reader' text') :
    applied progress reader text = applied progress reader' text' := by
  rw [applied, applied, Reader.andThen, Reader.andThen, heq]

theorem readNamedGroup?_eq (progress : Progress) (text : List Char) :
    readNamedGroup? progress text = applied progress (namedOpening progress.flags) text := by
  rw [readNamedGroup?, applied, namedOpening, Reader.andThen, Reader.andThen]
  cases Text.splitFirst '>' text with
  | none => rfl
  | some parts =>
      obtain ⟨name, rest⟩ := parts
      cases name with
      | nil => rfl
      | cons first more =>
          simp only [Option.bind_eq_bind, Option.bind_some, Reader.given, pieceOfName?]
          cases isNameStart first && more.all isNamePart with
          | false => rfl
          | true =>
              simp only [Bool.true_and, if_pos, Option.map_some, Option.bind_some, Piece.follow?]
              cases progress.names.contains (first :: more) <;> rfl

/-- A change of flags, or a group that begins with one. -/
theorem readMarkedFlags?_eq (progress : Progress) (text : List Char) :
    (match readFlags? progress.flags true [] text with
      | some (flags, _, ':', rest) => some (progress.openGroup flags false, rest)
      | some (flags, true, _, rest) =>
          some ({ progress with flags, items := .flags :: progress.items }, rest)
      | _ => none) =
      applied progress ((flagsAndEnd progress.flags true []).andThen fun value =>
        .given (pieceOfFlags? value)) text := by
  simp only [applied, Reader.andThen, flagsAndEnd]
  cases readFlags? progress.flags true [] text with
  | none => rfl
  | some result =>
      obtain ⟨flags, named, c, rest⟩ := result
      by_cases hc : c = ':'
      · subst hc
        rfl
      · cases named <;> simp [hc, pieceOfFlags?, Reader.given, Piece.follow?]

theorem readGroup?_eq (progress : Progress) (text : List Char) :
    readGroup? progress text = applied progress (groupOpening progress.flags) text := by
  have happlied : applied progress (groupOpening progress.flags) text =
      applied progress (plainOpening progress.flags) (progress.flags.skip text) := rfl
  have hmarked : ∀ rest, applied progress (plainOpening progress.flags) ('?' :: rest) =
      applied progress (markedOpening progress.flags) rest := fun rest => rfl
  rw [readGroup?, happlied]
  generalize progress.flags.skip text = text
  split
  · rfl
  · rfl
  · rfl
  · rfl
  · rename_i rest
    exact readNamedGroup?_eq progress rest
  · rename_i rest hequal hexclamation
    rw [hmarked, readNamedGroup?_eq]
    refine applied_congr (markedOpening_named fun more => ?_).symm
    exact ⟨hequal more, hexclamation more⟩
  · rw [hmarked]
    refine (readMarkedFlags?_eq progress _).trans (applied_congr ?_)
    rw [markedOpening]
    all_goals assumption
  · rename_i hquestion
    rw [applied_congr (plainOpening_of_ne hquestion)]
    rfl

theorem readNext?_eq (progress : Progress) :
    readNext? progress = applied progress (readPiece? progress.flags) := by
  funext text
  unfold readNext?
  split
  · rfl
  · exact readGroup?_eq progress _
  · rfl
  · rfl
  · rename_i rest
    change _ = applied progress (classPiece progress.flags) rest
    simp only [applied, classPiece, bracket, Reader.andThen]
    cases readBracket? progress.flags rest <;> rfl
  · rfl
  · rfl
  · rfl
  · rename_i rest
    change _ = applied progress (bounded progress.flags) rest
    simp only [readBounds?_eq, applied, bounded, Reader.andThen]
    cases bounds progress.flags rest with
    | none => rfl
    | some result =>
        obtain ⟨⟨least, greatest?⟩, rest⟩ := result
        simp only [Option.bind_eq_bind, Option.bind_some, Flags.skipping, counted, Reader.given,
          Piece.follow?]
        unfold Progress.repeat?
        split <;> rfl
  · rename_i rest
    change _ = applied progress (escapePiece progress.flags) rest
    simp only [applied, escapePiece, Reader.andThen]
    cases readEscape? progress.flags rest <;> rfl
  · rename_i rest
    change _ = applied progress (Reader.given _) rest
    simp only [applied, Reader.andThen, Reader.given]
    cases progress.flags.dot? <;> rfl
  · rfl
  · rfl
  · simp only [applied, Reader.andThen]
    rw [readPiece?]
    · rfl
    all_goals assumption

theorem leaves_classPiece (flags : Flags) : (classPiece flags).Leaves :=
  (leaves_bracket flags).andThen_given _

theorem continues_classPiece (flags : Flags) (text : List Char) :
    Continues flags (classPiece flags) text :=
  ((splices_bracket flags text).andThen_given _).continues

theorem leaves_escapePiece (flags : Flags) : (escapePiece flags).Leaves :=
  (leaves_readEscape? flags).andThen_given _

theorem continues_escapePiece (flags : Flags) (text : List Char) :
    Continues flags (escapePiece flags) text := by
  by_cases hhides : HidesBrace flags text
  · obtain ⟨hnone, hspliced⟩ := readEscape?_of_hidesBrace hhides
    refine .brace (Reader.andThen_of_none hnone) fun count piece rest hpiece => ?_
    obtain ⟨primitive, more, hprimitive, hgiven⟩ := Reader.andThen_eq_some.1 hpiece
    obtain ⟨-, inner, hskip, rfl⟩ := hspliced count primitive more hprimitive
    cases hgiven
    exact ⟨_, _, inner, rfl, hskip, rfl⟩
  · exact ((splices_readEscape? hhides).andThen_given _).continues

/-- What is read behind a first character. -/
structure Behind (flags : Flags) (c : Char) (reader : Reader Piece) : Prop where
  read : ∀ rest, readPiece? flags (c :: rest) = reader rest
  leaves : reader.Leaves
  continues : ∀ text, Continues flags reader text

theorem Behind.of_given {c : Char} (value? : Option Piece)
    (hread : ∀ rest, readPiece? flags (c :: rest) = Reader.given value? rest) :
    Behind flags c (.given value?) :=
  ⟨hread, Reader.leaves_given value?, fun text => (Reader.splices_given value? text).continues⟩

theorem exists_behind (flags : Flags) (c : Char) : ∃ reader, Behind flags c reader := by
  by_cases hc : c ∈ "()|[?*+\x7b\\.^$".toList
  · simp only [String.reduceToList, List.mem_cons, List.not_mem_nil, or_false] at hc
    rcases hc with rfl | rfl | rfl | rfl | rfl | rfl | rfl | rfl | rfl | rfl | rfl | rfl
    · exact ⟨_, fun rest => rfl, leaves_groupOpening flags, continues_groupOpening flags⟩
    · exact ⟨_, .of_given (some .parenthesis) fun rest => rfl⟩
    · exact ⟨_, .of_given (some .bar) fun rest => rfl⟩
    · exact ⟨_, fun rest => rfl, leaves_classPiece flags, continues_classPiece flags⟩
    · exact ⟨_, fun rest => rfl, leaves_counted 0 (some 1), fun text =>
        (splices_counted 0 (some 1) text).continues⟩
    · exact ⟨_, fun rest => rfl, leaves_counted 0 none, fun text =>
        (splices_counted 0 none text).continues⟩
    · exact ⟨_, fun rest => rfl, leaves_counted 1 none, fun text =>
        (splices_counted 1 none text).continues⟩
    · exact ⟨_, fun rest => rfl, leaves_bounded flags, continues_bounded flags⟩
    · exact ⟨_, fun rest => rfl, leaves_escapePiece flags, continues_escapePiece flags⟩
    · exact ⟨_, .of_given (flags.dot?.map fun set => .part (.char set) 0) fun rest => rfl⟩
    · exact ⟨_, .of_given (some (.part (.assert flags.startLine) 0)) fun rest => rfl⟩
    · exact ⟨_, .of_given (some (.part (.assert flags.endLine) 0)) fun rest => rfl⟩
  · refine ⟨_, .of_given (some (.part (flags.primitive (.literal c)) 0)) fun rest => ?_⟩
    simp only [String.reduceToList, List.mem_cons, List.not_mem_nil, or_false, not_or] at hc
    obtain ⟨_, _, _, _, _, _, _, _, _, _, _, _⟩ := hc
    rw [readPiece?]
    · rfl
    all_goals assumption

theorem shortens_readPiece? (flags : Flags) : (readPiece? flags).Shortens := by
  intro text piece after hread
  cases text with
  | nil => cases hread
  | cons c rest =>
      obtain ⟨reader, hbehind⟩ := exists_behind flags c
      exact Nat.lt_succ_of_le
        (hbehind.leaves rest piece after (hbehind.read rest ▸ hread)).length_le

theorem continues_readPiece? (flags : Flags) (c : Char) (rest : List Char) :
    Continues flags (readPiece? flags) (c :: rest) := by
  obtain ⟨reader, hbehind⟩ := exists_behind flags c
  exact (hbehind.continues rest).of_eq fun more _ => hbehind.read (rest ++ more)

end TypedOptions.Regex
