import TypedOptions.Injection.Conversion
import TypedOptions.Proofs.Regex.Anchoring

/-!
# Restrictions by patterns

A pattern restricts the texts of an option to those that it matches from their
beginning to their end.  This holds of the patterns that can be enclosed in
anchors.  All other patterns are refused, but for those that close the group
around them.
-/

namespace TypedOptions

open Regex (Encloses ClosesForeignGroup enclosed)

namespace OptionDeclaration

variable {τ : Type} {option : OptionDeclaration τ} {limit : Regex.SizeLimit}
  {name pattern : String}

theorem check_of_read?_eq_some (hfault : option.fault? name = none)
    (hpattern : option.pattern? = some pattern) {expression : Regex}
    (hread : Regex.read? limit (anchored pattern) = some expression) :
    option.check limit name = .ok (some expression) := by
  simp [check, hfault, hpattern, hread]

theorem check_of_read?_eq_none (hfault : option.fault? name = none)
    (hpattern : option.pattern? = some pattern)
    (hread : Regex.read? limit (anchored pattern) = none) :
    option.check limit name = .error (.declaration name .noPattern) := by
  simp [check, hfault, hpattern, hread]

theorem check_of_encloses (hfault : option.fault? name = none)
    (hpattern : option.pattern? = some pattern) {own : Regex} {depth : Nat}
    (hencloses : Encloses limit pattern own depth) :
    option.check limit name = .ok (some (enclosed own)) := by
  have hcloses : ¬ClosesForeignGroup pattern := fun hcloses => by
    have hparsed := hencloses.parsed
    rw [hcloses.parse?] at hparsed
    cases hparsed
  exact check_of_read?_eq_some hfault hpattern
    ((Regex.read?_anchored_eq_some_iff hcloses).2 ⟨own, depth, hencloses, rfl⟩)

theorem check_of_not_encloses (hfault : option.fault? name = none)
    (hpattern : option.pattern? = some pattern)
    (hencloses : ∀ own depth, ¬Encloses limit pattern own depth)
    (hcloses : ¬ClosesForeignGroup pattern) :
    option.check limit name = .error (.declaration name .noPattern) := by
  refine check_of_read?_eq_none hfault hpattern ?_
  refine Option.eq_none_iff_forall_not_mem.2 fun expression hexpression => ?_
  obtain ⟨own, depth, hown, -⟩ := (Regex.read?_anchored_eq_some_iff hcloses).1 hexpression
  exact hencloses own depth hown

/-- An expression that is found makes no difference. -/
theorem textFault?_of_isMatch {expression : Regex} {text : String}
    (hmatch : expression.isMatch text = true) :
    option.textFault? (some expression) text = option.textFault? none text := by
  simp [textFault?, hmatch]

theorem textFault?_of_not_isMatch (hpattern : option.pattern? = some pattern) {expression : Regex}
    {text : String} (hmatch : ¬expression.isMatch text = true)
    (hallowed : option.textFault? none text = none) :
    option.textFault? (some expression) text = some (.noMatch pattern) := by
  unfold textFault? at hallowed ⊢
  split at hallowed
  · cases hallowed
  · rename_i hlisted
    rw [if_neg hlisted, if_pos (by simpa using hmatch), hpattern, Option.getD_some]

/-- Let a pattern restrict the texts of an option.  If the pattern can be enclosed in anchors, then
the restriction makes no difference to the texts that the pattern matches as a whole, and all others
are refused.  A pattern that cannot be enclosed is refused itself, but for one with a parenthesis
that would close the group around it, which is no expression of its own.  All of this holds whatever
sizes the engine takes. -/
theorem pattern_restricts_to_full_matches (limit : Regex.SizeLimit)
    (hfault : option.fault? name = none) (hpattern : option.pattern? = some pattern) :
    (∀ own depth, Encloses limit pattern own depth →
      (Regex.read? limit pattern = some own ↔ limit pattern = true) ∧
      option.check limit name = .ok (some (enclosed own)) ∧
      ∀ (given : Surroundings) (setting : FoundValue),
        let text := setting.value.toList.toArray
        (own.Matches text 0 text.size →
          given.convert option name (some (enclosed own)) setting =
            given.convert option name none setting) ∧
        (¬own.Matches text 0 text.size → option.textFault? none setting.value = none →
          given.convert option name (some (enclosed own)) setting =
            .fail (.configuration (.value setting.value name (.noMatch pattern))))) ∧
    ((∀ own depth, ¬Encloses limit pattern own depth) → ¬ClosesForeignGroup pattern →
      option.check limit name = .error (.declaration name .noPattern)) ∧
    (ClosesForeignGroup pattern → Regex.read? limit pattern = none) := by
  refine ⟨fun own depth hencloses => ⟨hencloses.read?_eq_some_iff,
    check_of_encloses hfault hpattern hencloses,
    fun given setting => ⟨fun hmatches => ?_, fun hmatches hallowed => ?_⟩⟩,
    fun hencloses hcloses => check_of_not_encloses hfault hpattern hencloses hcloses,
    fun hcloses => hcloses.read? limit⟩
  · rw [Surroundings.convert, Surroundings.convert,
      textFault?_of_isMatch (Regex.isMatch_enclosed_iff.2 hmatches)]
  · rw [Surroundings.convert, textFault?_of_not_isMatch hpattern
      (mt Regex.isMatch_enclosed_iff.1 hmatches) hallowed]

end OptionDeclaration

/-! ## A sample -/

namespace PatternSample

/-- A text that a pattern restricts. -/
def restricted (pattern : String) : OptionDeclaration String :=
  { OptionDeclaration.ofField "p" (.element .string) (fun target => target)
      (fun text _ => text) with
    pattern? := some pattern }

def given : Surroundings where
  config := Configuration.empty "r" false 0 (.memory .empty)
  registries := .empty fun _ => true

/-- A character, or any number of another one. -/
def either : Regex :=
  .alternative (.char (.single 'a')) (.repetition (.char (.single 'b')) 0 none)

theorem encloses_either : Encloses given.registries.sizeLimit "a|b*" either 2 where
  parsed := by rfl
  closed := by decide +kernel
  shallow := by decide
  small := rfl

/-- A text of one alternative is a full match, and one that begins with the first alternative and
ends with the second is none. -/
theorem alternatives_match_fully :
    (restricted "a|b*").fault? "p" = none ∧ (restricted "a|b*").pattern? = some "a|b*" ∧
      Regex.read? given.registries.sizeLimit "a|b*" = some either ∧
      (restricted "a|b*").check given.registries.sizeLimit "p" = .ok (some (enclosed either)) ∧
      given.convert (restricted "a|b*") "p" (some (enclosed either)) ⟨"bb", some .manual⟩ =
        given.convert (restricted "a|b*") "p" none ⟨"bb", some .manual⟩ ∧
      given.convert (restricted "a|b*") "p" (some (enclosed either)) ⟨"ab", some .manual⟩ =
        .fail (.configuration (.value "ab" "p" (.noMatch "a|b*"))) := by
  have hfault : (restricted "a|b*").fault? "p" = none := by decide +kernel
  obtain ⟨haccepted, -, -⟩ :=
    OptionDeclaration.pattern_restricts_to_full_matches given.registries.sizeLimit hfault
      (rfl : _ = some "a|b*")
  obtain ⟨hread, hcheck, hvalues⟩ := haccepted either 2 encloses_either
  obtain ⟨hmatch, -⟩ := hvalues given ⟨"bb", some .manual⟩
  obtain ⟨-, hrefuse⟩ := hvalues given ⟨"ab", some .manual⟩
  have hbb : either.spans "bb" = true := by decide +kernel
  have hab : ¬either.spans "ab" = true := by decide +kernel
  exact ⟨hfault, rfl, hread.2 rfl, hcheck, hmatch (Regex.spans_iff.1 hbb),
    hrefuse (mt Regex.spans_iff.2 hab) rfl⟩

/-- What the anchors make of a parenthesis that closes the group around it. -/
def everything : Regex :=
  .alternative (.sequence (.assert .textStart) .empty) (.sequence .empty (.assert .textEnd))

/-- No expression of its own, yet a pattern that restricts nothing. -/
theorem unbalanced_pattern_restricts_nothing :
    Regex.read? given.registries.sizeLimit ")|(?:" = none ∧
      (restricted ")|(?:").check given.registries.sizeLimit "p" = .ok (some everything) ∧
      ∀ text, (restricted ")|(?:").textFault? (some everything) text = none := by
  refine ⟨by decide +kernel, by rfl, fun text => ?_⟩
  have hfound : everything.isMatch text = true :=
    Regex.isMatch_iff.2 ⟨0, Nat.zero_le _, 0, .inl ⟨0, ⟨rfl, rfl⟩, rfl⟩⟩
  rw [OptionDeclaration.textFault?_of_isMatch hfound]
  rfl

end PatternSample

end TypedOptions
