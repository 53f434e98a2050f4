import TypedOptions.Proofs.Regex.Pieces

/-!
# Expressions in a group

A pattern that opens all groups that it closes is read in a group as it is
read alone.  The parenthesis behind it then closes the group, unless the
pattern ends in a comment that swallows the parenthesis.
-/

namespace TypedOptions.Regex

variable {progress next : Progress} {outer : List GroupFrame} {text rest : List Char}

/-! ## Pieces in a group -/

/-- What has been read, within groups that were open before. -/
def Progress.within (progress : Progress) (outer : List GroupFrame) : Progress :=
  { progress with groups := progress.groups ++ outer }

@[simp] theorem Progress.groups_within :
    (progress.within outer).groups = progress.groups ++ outer :=
  rfl

@[simp] theorem Progress.within_nil : progress.within [] = progress := by
  rw [Progress.within, List.append_nil]

theorem Progress.closeGroup?_within (hgroups : progress.groups ≠ []) :
    (progress.within outer).closeGroup? = progress.closeGroup?.map (·.within outer) := by
  obtain ⟨flags, items, alternatives, groups, names⟩ := progress
  cases groups with
  | nil => exact absurd rfl hgroups
  | cons frame groups => rfl

theorem Progress.repeat?_within (least : Nat) (greatest? : Option Nat) :
    (progress.within outer).repeat? least greatest? =
      (progress.repeat? least greatest?).map (·.within outer) := by
  obtain ⟨flags, items, alternatives, groups, names⟩ := progress
  cases items with
  | nil => rfl
  | cons item items => cases item <;> rfl

/-- A piece may follow within groups what it may follow alone, where it does not close a group that
was open before. -/
theorem Piece.follow?_within {piece : Piece}
    (hgroups : piece = .parenthesis → progress.groups ≠ []) :
    piece.follow? (progress.within outer) = (piece.follow? progress).map (·.within outer) := by
  cases piece with
  | part expression depth => rfl
  | bar => rfl
  | count least greatest? => exact Progress.repeat?_within least greatest?
  | opening name? flags captures =>
      cases name? with
      | none => rfl
      | some name =>
          have hnames : (progress.within outer).names = progress.names := rfl
          by_cases hname : progress.names.contains name = true
          · rw [Piece.follow?, Piece.follow?, if_pos hname, if_pos (hnames ▸ hname)]
            rfl
          · rw [Piece.follow?, Piece.follow?, if_neg hname, if_neg (hnames ▸ hname)]
            rfl
  | change flags => rfl
  | parenthesis => exact Progress.closeGroup?_within (hgroups rfl)

theorem Progress.groups_of_repeat? {least : Nat} {greatest? : Option Nat}
    (hrepeat : progress.repeat? least greatest? = some next) : next.groups = progress.groups := by
  unfold Progress.repeat? at hrepeat
  split at hrepeat
  · cases hrepeat
    rfl
  · cases hrepeat

/-- A piece leaves all groups open but a parenthesis. -/
theorem Piece.groups_of_follow? {piece : Piece} (hpiece : piece ≠ .parenthesis)
    (hfollow : piece.follow? progress = some next) : progress.groups <:+ next.groups := by
  cases piece with
  | part expression depth =>
      cases hfollow
      exact List.suffix_rfl
  | bar =>
      cases hfollow
      exact List.suffix_rfl
  | count least greatest? => exact Progress.groups_of_repeat? hfollow ▸ List.suffix_rfl
  | opening name? flags captures =>
      cases name? with
      | none =>
          cases hfollow
          exact List.suffix_cons ..
      | some name =>
          simp only [Piece.follow?] at hfollow
          split at hfollow
          · cases hfollow
          · cases hfollow
            exact List.suffix_cons ..
  | change flags =>
      cases hfollow
      exact List.suffix_rfl
  | parenthesis => exact absurd rfl hpiece

theorem ne_parenthesis_of_namedOpening {flags : Flags} {piece : Piece}
    (hread : namedOpening flags text = some (piece, rest)) : piece ≠ .parenthesis := by
  obtain ⟨name, more, -, hname⟩ := Reader.andThen_eq_some.1 hread
  unfold pieceOfName? at hname
  split at hname
  · cases hname
  · split at hname <;> cases hname
    rintro ⟨⟩

theorem ne_parenthesis_of_groupOpening {flags : Flags} {piece : Piece}
    (hread : groupOpening flags text = some (piece, rest)) : piece ≠ .parenthesis := by
  rw [groupOpening, Flags.skipping_andThen] at hread
  unfold plainOpening at hread
  split at hread
  · unfold markedOpening at hread
    split at hread
    · cases hread
    · cases hread
    · cases hread
    · cases hread
    · exact ne_parenthesis_of_namedOpening hread
    · exact ne_parenthesis_of_namedOpening hread
    · obtain ⟨value, more, -, hvalue⟩ := Reader.andThen_eq_some.1 hread
      unfold pieceOfFlags? at hvalue
      split at hvalue <;> cases hvalue <;> rintro ⟨⟩
  · cases hread
    rintro ⟨⟩

theorem eq_of_readPiece?_parenthesis {flags : Flags} {c : Char} {after : List Char}
    (hread : readPiece? flags (c :: rest) = some (.parenthesis, after)) : c = ')' := by
  unfold readPiece? at hread
  split at hread
  · cases hread
  · exact absurd rfl (ne_parenthesis_of_groupOpening hread)
  · rename_i heq
    exact (List.cons.inj heq).1
  · cases hread
  · obtain ⟨found, more, -, hgiven⟩ := Reader.andThen_eq_some.1 hread
    cases hgiven
  · cases hread
  · cases hread
  · cases hread
  · obtain ⟨⟨least, greatest?⟩, more, -, hgiven⟩ := Reader.andThen_eq_some.1 hread
    cases hgiven
  · obtain ⟨primitive, more, -, hgiven⟩ := Reader.andThen_eq_some.1 hread
    cases hgiven
  · cases hdot : flags.dot? <;> rw [hdot] at hread <;> cases hread
  · cases hread
  · cases hread
  · cases hread

/-! ## Rounds -/

theorem readNext?_of_piece {piece : Piece} (hread : readPiece? progress.flags text = some (piece, rest)) :
    readNext? progress text = (piece.follow? progress).map (·, rest) := by
  rw [readNext?_eq]
  exact Reader.andThen_of_some hread

theorem readNext?_of_no_piece (hread : readPiece? progress.flags text = none) :
    readNext? progress text = none := by
  rw [readNext?_eq]
  exact Reader.andThen_of_none hread

theorem readNext?_within_of_piece {piece : Piece}
    (hread : readPiece? progress.flags text = some (piece, rest)) :
    readNext? (progress.within outer) text =
      (piece.follow? (progress.within outer)).map (·, rest) :=
  readNext?_of_piece hread

theorem readNext?_within_of_no_piece (hread : readPiece? progress.flags text = none) :
    readNext? (progress.within outer) text = none :=
  readNext?_of_no_piece hread

theorem shortens_readNext? (progress : Progress) : Reader.Shortens (readNext? progress) := by
  rw [readNext?_eq]
  exact (shortens_readPiece? progress.flags).andThen fun _ => Reader.leaves_given _

/-- The number of rounds does not matter if it is large enough. -/
theorem readFrom?_rounds {rounds rounds' : Nat} (hrounds : text.length < rounds)
    (hrounds' : text.length < rounds') :
    readFrom? rounds progress text = readFrom? rounds' progress text := by
  induction rounds generalizing rounds' progress text with
  | zero => omega
  | succ rounds ih =>
      obtain ⟨rounds', rfl⟩ : ∃ n, rounds' = n + 1 := ⟨rounds' - 1, by omega⟩
      rw [readFrom?, readFrom?]
      cases hskip : progress.flags.skip text with
      | nil => rfl
      | cons c rest =>
          have hlength : (c :: rest).length ≤ text.length :=
            hskip ▸ progress.flags.length_skip_le text
          dsimp only
          cases hnext : readNext? progress (c :: rest) with
          | none => rfl
          | some result =>
              obtain ⟨next, more⟩ := result
              have hless := shortens_readNext? progress (c :: rest) next more hnext
              exact ih (by omega) (by omega)

/-- The expression that a text continues, and its depth. -/
def continued? (progress : Progress) (text : List Char) : Option (Regex × Nat) :=
  readFrom? (text.length + 1) progress text

theorem continued?_of_skip_nil (hskip : progress.flags.skip text = []) :
    continued? progress text = if progress.groups.isEmpty then some progress.group else none := by
  rw [continued?, readFrom?, hskip]

theorem continued?_of_skip_cons {c : Char} (hskip : progress.flags.skip text = c :: rest) :
    continued? progress text =
      (readNext? progress (c :: rest)).bind fun (next, more) => continued? next more := by
  rw [continued?, readFrom?, hskip]
  dsimp only
  cases hnext : readNext? progress (c :: rest) with
  | none => rfl
  | some result =>
      obtain ⟨next, more⟩ := result
      have hless := shortens_readNext? progress (c :: rest) next more hnext
      have hlength : (c :: rest).length ≤ text.length := hskip ▸ progress.flags.length_skip_le text
      exact readFrom?_rounds (by omega) (Nat.lt_succ_self _)

/-- A parenthesis of the text would close a group that has not been opened. -/
inductive ClosesUnopened : Progress → List Char → Prop where
  | here {progress : Progress} {text rest : List Char}
      (hskip : progress.flags.skip text = ')' :: rest) (hgroups : progress.groups = []) :
      ClosesUnopened progress text
  | later {progress next : Progress} {text rest : List Char}
      (hnext : readNext? progress (progress.flags.skip text) = some (next, rest))
      (hcloses : ClosesUnopened next rest) : ClosesUnopened progress text

/-- Such a text is no expression. -/
theorem ClosesUnopened.continued? (hcloses : ClosesUnopened progress text) :
    continued? progress text = none := by
  induction hcloses with
  | @here progress text rest hskip hgroups =>
      have hclose : progress.closeGroup? = none := by rw [Progress.closeGroup?, hgroups]
      have hnext : readNext? progress (')' :: rest) = none := by
        change progress.closeGroup?.map _ = none
        rw [hclose]
        rfl
      rw [continued?_of_skip_cons hskip, hnext]
      rfl
  | @later progress next text rest hnext hcloses ih =>
      cases hskip : progress.flags.skip text with
      | nil =>
          rw [hskip] at hnext
          cases hnext
      | cons c more =>
          rw [hskip] at hnext
          rw [continued?_of_skip_cons hskip, hnext]
          exact ih

/-! ## Behind a group -/

theorem continued?_congr {text' : List Char}
    (hskip : progress.flags.skip text = progress.flags.skip text') :
    continued? progress text = continued? progress text' := by
  cases hskipped : progress.flags.skip text with
  | nil => rw [continued?_of_skip_nil hskipped, continued?_of_skip_nil (hskip ▸ hskipped)]
  | cons c rest => rw [continued?_of_skip_cons hskipped, continued?_of_skip_cons (hskip ▸ hskipped)]

theorem continued?_within_congr {text' : List Char}
    (hskip : progress.flags.skip text = progress.flags.skip text') :
    continued? (progress.within outer) text = continued? (progress.within outer) text' :=
  continued?_congr hskip

theorem continued?_within_of_skip_cons {c : Char} {more : List Char}
    (hskip : progress.flags.skip (text ++ more) = c :: rest ++ more) :
    continued? (progress.within outer) (text ++ more) =
      (readNext? (progress.within outer) (c :: rest ++ more)).bind fun (next, after) =>
        continued? next after :=
  continued?_of_skip_cons hskip

theorem groups_of_continued? {own : Regex × Nat} (hskip : progress.flags.skip text = [])
    (hown : continued? progress text = some own) : progress.groups = [] ∧ progress.group = own := by
  rw [continued?_of_skip_nil hskip] at hown
  split at hown
  · rename_i hgroups
    exact ⟨by simpa using hgroups, Option.some.inj hown⟩
  · cases hown

theorem continued?_nil_of_open (hgroups : progress.groups ≠ []) : continued? progress [] = none := by
  rw [continued?_of_skip_nil (Flags.skip_nil _), if_neg (by simpa using hgroups)]

/-- Anchors close no group. -/
theorem continued?_anchors_of_open (hgroups : progress.groups ≠ []) (count : Nat) :
    continued? progress (List.replicate count '$') = none := by
  induction count generalizing progress with
  | zero => exact continued?_nil_of_open hgroups
  | succ count ih =>
      have hskip : progress.flags.skip (List.replicate (count + 1) '$') =
          '$' :: List.replicate count '$' := Flags.skip_of_plain _ (by decide) (by decide) _
      have hnext : readNext? progress ('$' :: List.replicate count '$') =
        some (progress.push (.assert progress.flags.endLine) 0, List.replicate count '$') := rfl
      rw [continued?_of_skip_cons hskip, hnext]
      exact ih hgroups

theorem skip_closing (flags : Flags) (count : Nat) : flags.skip (closing count) = closing count :=
  Flags.skip_of_plain _ (by decide) (by decide) _

theorem skip_hidden {flags : Flags} {hidden : Bool}
    (hspliced : ∀ count, flags.skip (text ++ closing count) = if hidden then [] else closing count)
    (count : Nat) :
    flags.skip (text ++ closing count) = flags.skip (if hidden then [] else closing count) := by
  rw [hspliced]
  cases hidden with
  | true => exact (Flags.skip_nil flags).symm
  | false => exact (skip_closing flags count).symm

/-- The parenthesis closes one group only. -/
theorem continued?_closing_of_open (hgroups : progress.groups ≠ []) (houter : outer ≠ [])
    (count : Nat) : continued? (progress.within outer) (closing count) = none := by
  obtain ⟨frame, groups, hframe⟩ := List.exists_cons_of_ne_nil hgroups
  obtain ⟨closed, hclosed, hrest⟩ :
      ∃ closed, (progress.within outer).closeGroup? = some closed ∧ closed.groups ≠ [] := by
    rw [Progress.closeGroup?, Progress.groups_within, hframe]
    exact ⟨_, rfl, fun h => houter (List.append_eq_nil_iff.1 h).2⟩
  have hnext : readNext? (progress.within outer) (closing count) =
      some (closed, List.replicate count '$') := by
    change (progress.within outer).closeGroup?.map _ = _
    rw [hclosed]
    rfl
  rw [continued?_of_skip_cons (skip_closing _ count)]
  change (readNext? (progress.within outer) (closing count)).bind _ = none
  rw [hnext]
  exact continued?_anchors_of_open hrest count

/-- Nothing counts between a brace and the parenthesis: they are no bounds. -/
theorem continued?_of_brace {inner : List Char} (hskip : progress.flags.skip inner = [])
    (count : Nat) : continued? progress ('\x7b' :: inner ++ closing count) = none := by
  have hbrace : progress.flags.skip ('\x7b' :: inner ++ closing count) =
      '\x7b' :: (inner ++ closing count) := Flags.skip_of_plain _ (by decide) (by decide) _
  have hnext : readNext? progress ('\x7b' :: (inner ++ closing count)) = none := by
    have hbounded : bounded progress.flags (inner ++ closing count) = none :=
      Reader.andThen_of_none (bounds_of_hidden hskip count)
    exact readNext?_of_no_piece hbounded
  rw [continued?_of_skip_cons hbrace, hnext]
  rfl

/-! ## Rounds in a group -/

/-- Where the text goes on with the parenthesis, a round is the same within groups that were open
before, or nothing reads on behind it. -/
inductive Round (progress : Progress) (text : List Char) : Prop where
  | taken {next : Progress} {rest : List Char} (hidden : Bool)
      (hread : readNext? progress text = some (next, rest)) (hrest : hidden = true → rest = [])
      (hspliced : ∀ outer count, readNext? (progress.within outer) (text ++ closing count) =
        some (next.within outer, if hidden then [] else rest ++ closing count)) :
      Round progress text
  | refused (hread : readNext? progress text = none)
      (hspliced : ∀ outer, outer ≠ [] → ∀ count,
        ((readNext? (progress.within outer) (text ++ closing count)).bind
          fun (next, more) => continued? next more) = none) :
      Round progress text

/-- Where the text alone has no piece, only a parenthesis that it does not have could close a
group: a piece that is found leaves all groups open. -/
theorem refused_of_no_piece {c : Char} {more : List Char}
    (hnone : readPiece? progress.flags (c :: rest) = none)
    (hstuck : ∀ piece after, readPiece? progress.flags (c :: rest ++ more) = some (piece, after) →
      ∀ next, piece.follow? (progress.within outer) = some next → piece ≠ .parenthesis →
        continued? next after = none) :
    ((readNext? (progress.within outer) (c :: rest ++ more)).bind
      fun (next, after) => continued? next after) = none := by
  cases hpiece : readPiece? progress.flags (c :: rest ++ more) with
  | none => rw [readNext?_within_of_no_piece hpiece]; rfl
  | some result =>
      obtain ⟨piece, after⟩ := result
      rw [readNext?_within_of_piece hpiece]
      cases hfollow : piece.follow? (progress.within outer) with
      | none => rfl
      | some next =>
          refine hstuck piece after hpiece next hfollow ?_
          rintro rfl
          rw [eq_of_readPiece?_parenthesis hpiece] at hnone
          cases hnone

/-- A parenthesis makes a round of this kind if it closes a group that has been opened. -/
theorem round {c : Char} (hopen : c = ')' → progress.groups ≠ []) :
    Round progress (c :: rest) := by
  cases continues_readPiece? progress.flags c rest with
  | @inside piece after hidden hread hrest hspliced =>
      have hwithin : ∀ outer, piece.follow? (progress.within outer) =
          (piece.follow? progress).map (·.within outer) := fun outer =>
        Piece.follow?_within fun heq => hopen (eq_of_readPiece?_parenthesis (heq ▸ hread))
      cases hfollow : piece.follow? progress with
      | none =>
          refine .refused (by rw [readNext?_of_piece hread, hfollow]; rfl) fun outer _ count => ?_
          rw [readNext?_within_of_piece (hspliced count), hwithin, hfollow]
          rfl
      | some next =>
          refine .taken hidden (by rw [readNext?_of_piece hread, hfollow]; rfl) hrest
            fun outer count => ?_
          rw [readNext?_within_of_piece (hspliced count), hwithin, hfollow]
          rfl
  | beyond hread hspliced =>
      refine .refused (readNext?_of_no_piece hread) fun outer houter count =>
        refused_of_no_piece hread fun piece after hpiece next hfollow hplain => ?_
      -- Only anchors are left, and the group around the text is still open.
      have hgroups : next.groups ≠ [] := fun hnil => houter <| by
        have hsuffix := Piece.groups_of_follow? hplain hfollow
        rw [hnil, List.suffix_nil, Progress.groups_within] at hsuffix
        exact (List.append_eq_nil_iff.1 hsuffix).2
      rw [(List.suffix_replicate_iff.1 (hspliced count piece after hpiece)).2]
      exact continued?_anchors_of_open hgroups after.length
  | brace hread hspliced =>
      refine .refused (readNext?_of_no_piece hread) fun outer _ count =>
        refused_of_no_piece hread fun piece after hpiece next hfollow _ => ?_
      obtain ⟨expression, depth, inner, rfl, hskip, rfl⟩ := hspliced count piece after hpiece
      cases hfollow
      have hpushed : ((progress.within outer).push expression depth).flags.skip inner = [] := hskip
      exact continued?_of_brace hpushed count

theorem length_lt_of_readNext? {c : Char} {more : List Char}
    (hskip : progress.flags.skip text = c :: rest)
    (hread : readNext? progress (c :: rest) = some (next, more)) : more.length < text.length :=
  Nat.lt_of_lt_of_le (shortens_readNext? progress _ next more hread)
    (hskip ▸ progress.flags.length_skip_le text)

theorem not_closes_later {c : Char} (hskip : progress.flags.skip text = c :: rest)
    (hcloses : ¬ClosesUnopened progress text) : c = ')' → progress.groups ≠ [] := by
  rintro rfl hgroups
  exact hcloses (.here hskip hgroups)

/-! ## Whole texts in a group -/

/-- An expression is read within groups as it is read alone, up to the parenthesis.  An open comment
at its end swallows the parenthesis. -/
theorem exists_last {own : Regex × Nat} (hown : continued? progress text = some own) :
    ∃ (hidden : Bool) (last : Progress), last.groups = [] ∧ last.group = own ∧ ∀ outer count,
      continued? (progress.within outer) (text ++ closing count) =
        continued? (last.within outer) (if hidden then [] else closing count) := by
  -- A round shortens the text, so that the induction is on its length.
  induction hlength : text.length using Nat.strongRecOn generalizing progress text with
  | ind length ih =>
      cases progress.flags.skips text with
      | atEnd hidden hskip hspliced =>
          obtain ⟨hgroups, hgroup⟩ := groups_of_continued? hskip hown
          refine ⟨hidden, progress, hgroups, hgroup, fun outer count =>
            continued?_within_congr ?_⟩
          exact skip_hidden hspliced count
      | @inside c rest hskip hspliced =>
          have hcloses : ¬ClosesUnopened progress text := fun hcloses => by
            rw [hcloses.continued?] at hown
            cases hown
          rw [continued?_of_skip_cons hskip] at hown
          cases round (not_closes_later hskip hcloses) with
          | refused hread =>
              rw [hread] at hown
              cases hown
          | @taken next more hidden hread hrest hround =>
              rw [hread] at hown
              have hless := length_lt_of_readNext? hskip hread
              cases hidden with
              | false =>
                  obtain ⟨hidden, last, hgroups, hgroup, hlast⟩ := ih _ (hlength ▸ hless) hown rfl
                  refine ⟨hidden, last, hgroups, hgroup, fun outer count => ?_⟩
                  rw [continued?_within_of_skip_cons (hspliced (closing count)), hround]
                  exact hlast outer count
              | true =>
                  -- The comment begins behind the bounds of a repetition, where the text ends.
                  rw [hrest rfl] at hown
                  obtain ⟨hgroups, hgroup⟩ := groups_of_continued? (Flags.skip_nil _) hown
                  refine ⟨true, next, hgroups, hgroup, fun outer count => ?_⟩
                  rw [continued?_within_of_skip_cons (hspliced (closing count)), hround]
                  rfl

/-- A text that is no expression is none within groups, where it opens all groups that it closes. -/
theorem continued?_within_eq_none (hnone : continued? progress text = none)
    (hcloses : ¬ClosesUnopened progress text) (houter : outer ≠ []) (count : Nat) :
    continued? (progress.within outer) (text ++ closing count) = none := by
  induction hlength : text.length using Nat.strongRecOn generalizing progress text with
  | ind length ih =>
      have hopen : ∀ {next : Progress}, (next.within outer).groups ≠ [] := fun h =>
        houter (List.append_eq_nil_iff.1 h).2
      cases progress.flags.skips text with
      | atEnd hidden hskip hspliced =>
          rw [continued?_within_congr (skip_hidden hspliced count)]
          cases hidden with
          | true => exact continued?_nil_of_open hopen
          | false =>
              rw [continued?_of_skip_nil hskip] at hnone
              refine continued?_closing_of_open (fun hgroups => ?_) houter count
              rw [hgroups] at hnone
              cases hnone
      | @inside c rest hskip hspliced =>
          rw [continued?_of_skip_cons hskip] at hnone
          rw [continued?_within_of_skip_cons (hspliced _)]
          cases round (not_closes_later hskip hcloses) with
          | refused hread hround => exact hround outer houter count
          | @taken next more hidden hread hrest hround =>
              rw [hread] at hnone
              rw [hround]
              cases hidden with
              | true => exact continued?_nil_of_open hopen
              | false =>
                  refine ih _ (hlength ▸ length_lt_of_readNext? hskip hread) hnone (fun hlater => ?_) rfl
                  exact hcloses (.later (hskip ▸ hread) hlater)

end TypedOptions.Regex
