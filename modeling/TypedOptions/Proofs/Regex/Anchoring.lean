import TypedOptions.Declaration.Check
import TypedOptions.Proofs.Regex.Groups
import TypedOptions.Proofs.Regex.Matches

/-!
# Anchored patterns

The text of an anchored pattern writes a group between anchors.  It is the
pattern that stands in the group, if the pattern closes only groups that it
opens and does not end in a comment.
-/

namespace TypedOptions.Regex

open OptionDeclaration (anchored)

/-- The expression that a text writes, whatever its size, and its depth. -/
def parse? (text : String) : Option (Regex × Nat) :=
  continued? .initial text.toList

theorem read?_eq_some_iff {limit : SizeLimit} {text : String} {expression : Regex} :
    read? limit text = some expression ↔
      ∃ depth, parse? text = some (expression, depth) ∧ depth ≤ maxDepth ∧
        limit text = true := by
  have hread : read? limit text = (parse? text).bind fun parsed =>
      if parsed.2 ≤ maxDepth && limit text then some parsed.1 else none := by
    rw [read?, parse?, continued?]
    cases readFrom? (text.toList.length + 1) .initial text.toList <;> rfl
  rw [hread]
  simp only [Option.bind_eq_some_iff, Prod.exists]
  constructor
  · rintro ⟨own, depth, hparse, hfits⟩
    split at hfits
    · rename_i hbounds
      cases hfits
      exact ⟨depth, hparse, by simpa using hbounds⟩
    · cases hfits
  · rintro ⟨depth, hparse, hdepth, hsmall⟩
    exact ⟨expression, depth, hparse, by simp [hdepth, hsmall]⟩

/-- What stands before the group of an anchored pattern. -/
def anchorFrame : GroupFrame :=
  ⟨[.part (.assert .textStart) 0], [], .initial, false⟩

/-- A round where everything counts up to the next character. -/
theorem continued?_of_round {progress next : Progress} {c : Char} {rest more : List Char}
    (hskip : progress.flags.skip (c :: rest) = c :: rest)
    (hnext : readNext? progress (c :: rest) = some (next, more)) :
    continued? progress (c :: rest) = continued? next more := by
  rw [continued?_of_skip_cons hskip, hnext, Option.bind_some]

theorem parse?_anchored (pattern : String) :
    parse? (anchored pattern) =
      continued? (Progress.initial.within [anchorFrame]) (pattern.toList ++ closing 1) := by
  have hchars : (anchored pattern).toList =
      '^' :: '(' :: '?' :: ':' :: (pattern.toList ++ closing 1) := by
    simp [anchored, closing]
  rw [parse?, hchars]
  calc
    continued? .initial ('^' :: '(' :: '?' :: ':' :: (pattern.toList ++ closing 1))
    _ = continued? (Progress.initial.push (.assert .textStart) 0)
        ('(' :: '?' :: ':' :: (pattern.toList ++ closing 1)) := continued?_of_round rfl rfl
    _ = continued? (Progress.initial.within [anchorFrame]) (pattern.toList ++ closing 1) :=
        continued?_of_round rfl rfl

/-- What has been read behind the group of an anchored pattern. -/
def Progress.behindGroup (last : Progress) : Progress :=
  ⟨.initial, [.part last.group.1 (last.group.2 + 1), .part (.assert .textStart) 0], [], [],
    last.names⟩

/-- The parenthesis and the anchor behind a pattern complete the expression. -/
theorem continued?_closing {last : Progress} (hgroups : last.groups = []) :
    continued? (last.within [anchorFrame]) (closing 1) =
      some (enclosed last.group.1, last.group.2 + 2) := by
  have hclose : (last.within [anchorFrame]).closeGroup? = some last.behindGroup := by
    rw [Progress.closeGroup?, Progress.groups_within, hgroups]
    rfl
  have hnext : readNext? (last.within [anchorFrame]) (closing 1) =
      some (last.behindGroup, ['$']) := by
    change (last.within [anchorFrame]).closeGroup?.map _ = _
    rw [hclose]
    rfl
  have hdepth : (last.behindGroup.push (.assert .textEnd) 0).group.2 = last.group.2 + 2 := by
    change max (max (max 0 0) (last.group.2 + 1)) 0 + 1 = _
    omega
  calc
    continued? (last.within [anchorFrame]) (closing 1)
    _ = continued? last.behindGroup ['$'] := continued?_of_round (skip_closing _ 1) hnext
    _ = continued? (last.behindGroup.push (.assert .textEnd) 0) [] := continued?_of_round rfl rfl
    _ = some (last.behindGroup.push (.assert .textEnd) 0).group := continued?_of_skip_nil rfl
    _ = some (enclosed last.group.1, last.group.2 + 2) := by
        rw [← hdepth]
        rfl

/-- The pattern ends in a comment: a parenthesis behind it does not count. -/
def EndsInComment (pattern : String) : Prop :=
  (parse? (pattern ++ ")")).isSome

instance (pattern : String) : Decidable (EndsInComment pattern) :=
  inferInstanceAs (Decidable ((parse? (pattern ++ ")")).isSome = true))

/-- An expression is what stands between the anchors, unless a comment at its end swallows the
parenthesis. -/
theorem parse?_anchored_of_parse? {pattern : String} {own : Regex} {depth : Nat}
    (hown : parse? pattern = some (own, depth)) :
    parse? (anchored pattern) =
      if EndsInComment pattern then none else some (enclosed own, depth + 2) := by
  obtain ⟨hidden, last, hgroups, hgroup, hlast⟩ := exists_last hown
  have hcomment : parse? (pattern ++ ")") =
      continued? last (if hidden then [] else closing 0) := by
    have hchars : (pattern ++ ")").toList = pattern.toList ++ closing 0 := by simp [closing]
    have hparse := hlast [] 0
    rw [Progress.within_nil, Progress.within_nil] at hparse
    rw [parse?, hchars, hparse]
  rw [parse?_anchored, hlast]
  cases hidden with
  | true =>
      have hends : EndsInComment pattern := by
        rw [EndsInComment, hcomment, if_pos rfl, continued?_of_skip_nil (Flags.skip_nil _), hgroups]
        rfl
      rw [if_pos rfl, if_pos hends]
      exact continued?_nil_of_open (List.append_ne_nil_of_right_ne_nil _ (List.cons_ne_nil _ _))
  | false =>
      have hends : ¬EndsInComment pattern := by
        have hcloses : ClosesUnopened last (closing 0) := .here (skip_closing _ 0) hgroups
        rw [EndsInComment, hcomment, if_neg Bool.false_ne_true, hcloses.continued?]
        exact Bool.false_ne_true
      rw [if_neg Bool.false_ne_true, if_neg hends, continued?_closing hgroups, hgroup]

example : (parse? "(?x)a #c").isSome ∧ EndsInComment "(?x)a #c" := by decide +kernel

/-- A parenthesis of the pattern would close a group that the pattern does not open. -/
def ClosesForeignGroup (pattern : String) : Prop :=
  ClosesUnopened .initial pattern.toList

theorem ClosesForeignGroup.parse? {pattern : String} (hcloses : ClosesForeignGroup pattern) :
    parse? pattern = none :=
  ClosesUnopened.continued? hcloses

theorem ClosesForeignGroup.read? {pattern : String} (hcloses : ClosesForeignGroup pattern)
    (limit : SizeLimit) : read? limit pattern = none := by
  refine Option.eq_none_iff_forall_not_mem.2 fun expression hexpression => ?_
  obtain ⟨depth, hparse, -⟩ := read?_eq_some_iff.1 hexpression
  rw [hcloses.parse?] at hparse
  cases hparse

theorem parse?_anchored_eq_none {pattern : String} (hnone : parse? pattern = none)
    (hcloses : ¬ClosesForeignGroup pattern) : parse? (anchored pattern) = none := by
  rw [parse?_anchored]
  exact continued?_within_eq_none hnone hcloses (List.cons_ne_nil _ _) 1

/-- The pattern writes an expression that can be enclosed in anchors. -/
structure Encloses (limit : SizeLimit) (pattern : String) (own : Regex) (depth : Nat) :
    Prop where
  parsed : parse? pattern = some (own, depth)
  closed : ¬EndsInComment pattern
  shallow : depth + 2 ≤ maxDepth
  small : limit (anchored pattern) = true

/-- Such a pattern is an expression of its own, if it is not too large without the anchors. -/
theorem Encloses.read?_eq_some_iff {limit : SizeLimit} {pattern : String} {own : Regex}
    {depth : Nat} (hencloses : Encloses limit pattern own depth) :
    read? limit pattern = some own ↔ limit pattern = true := by
  rw [Regex.read?_eq_some_iff]
  constructor
  · rintro ⟨nested, -, -, hsmall⟩
    exact hsmall
  · have hshallow := hencloses.shallow
    exact fun hsmall => ⟨depth, hencloses.parsed, by omega, hsmall⟩

theorem read?_anchored_eq_some_iff {limit : SizeLimit} {pattern : String}
    (hcloses : ¬ClosesForeignGroup pattern) {expression : Regex} :
    read? limit (anchored pattern) = some expression ↔
      ∃ own depth, Encloses limit pattern own depth ∧ expression = enclosed own := by
  rw [read?_eq_some_iff]
  constructor
  · rintro ⟨nested, hparse, hshallow, hsmall⟩
    cases hown : parse? pattern with
    | none =>
        rw [parse?_anchored_eq_none hown hcloses] at hparse
        cases hparse
    | some result =>
        obtain ⟨own, depth⟩ := result
        rw [parse?_anchored_of_parse? hown] at hparse
        split at hparse
        · cases hparse
        · rename_i hends
          cases hparse
          exact ⟨own, depth, ⟨hown, hends, hshallow, hsmall⟩, rfl⟩
  · rintro ⟨own, depth, hencloses, rfl⟩
    refine ⟨depth + 2, ?_, hencloses.shallow, hencloses.small⟩
    rw [parse?_anchored_of_parse? hencloses.parsed, if_neg hencloses.closed]

end TypedOptions.Regex
