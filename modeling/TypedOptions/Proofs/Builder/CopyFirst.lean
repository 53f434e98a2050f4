import TypedOptions.Proofs.Builder.Calls
import TypedOptions.Proofs.Lists

/-!
# Starting from another configuration

A builder refuses to start from another configuration as soon as a call has
been made that counts, until a build succeeds.  A builder that does not refuse
holds nothing but the registry and the files that were chosen for it, and
these are replaced.
-/

namespace TypedOptions

namespace Builder

/-- A call was made that counts, and no build has succeeded since then. -/
def Marked (calls : List Call) : Prop :=
  ∃ before call after, calls = before ++ call :: after ∧
    (empty.performAll before).Marks call ∧
    ∀ between later rest, after = between ++ later :: rest →
      ¬(empty.performAll (before ++ call :: between)).Finishes later

namespace Marked

variable {calls : List Call} {last : Call}

theorem not_nil : ¬Marked [] := by
  rintro ⟨before, call, after, hsplit, -⟩
  simp at hsplit

theorem of_concat (hmarked : Marked (calls ++ [last])) :
    (empty.performAll calls).Marks last ∨
      Marked calls ∧ ¬(empty.performAll calls).Finishes last := by
  obtain ⟨before, call, after, hsplit, hmarks, hafter⟩ := hmarked
  rcases append_singleton_eq_iff.1 hsplit with ⟨rfl, rfl, -⟩ | ⟨earlier, rfl, rfl⟩
  · exact Or.inl hmarks
  · refine Or.inr ⟨⟨before, call, earlier, rfl, hmarks, ?_⟩, hafter earlier last [] rfl⟩
    intro between later rest hearlier
    exact hafter between later (rest ++ [last]) (by rw [hearlier]; simp)

theorem concat (hmarked : Marked calls) (hgoesOn : ¬(empty.performAll calls).Finishes last) :
    Marked (calls ++ [last]) := by
  obtain ⟨before, call, after, rfl, hmarks, hafter⟩ := hmarked
  refine ⟨before, call, after ++ [last], by simp, hmarks, ?_⟩
  intro between later rest hsplit
  rcases append_singleton_eq_iff.1 hsplit with ⟨rfl, rfl, -⟩ | ⟨earlier, -, hearlier⟩
  · exact hgoesOn
  · exact hafter between later earlier hearlier

theorem concat_iff :
    Marked (calls ++ [last]) ↔
      (empty.performAll calls).Marks last ∨
        Marked calls ∧ ¬(empty.performAll calls).Finishes last := by
  constructor
  · exact of_concat
  · rintro (hmarks | ⟨hmarked, hgoesOn⟩)
    · exact ⟨calls, last, [], rfl, hmarks, by simp⟩
    · exact hmarked.concat hgoesOn

end Marked

theorem performAll_concat (builder : Builder) (calls : List Call) (last : Call) :
    builder.performAll (calls ++ [last]) = (builder.performAll calls).perform last := by
  simp [performAll]

theorem isModified_performAll_iff {calls : List Call} :
    (empty.performAll calls).isModified = true ↔ Marked calls := by
  induction calls using List.reverseRecOn with
  | nil => simp [Marked.not_nil, empty]
  | append_singleton calls last ih =>
      rw [performAll_concat, isModified_perform_iff, Marked.concat_iff, ih]

/-- Nothing but a registry and files has been chosen. -/
def Bare (builder : Builder) : Prop :=
  builder = empty.withChoicesOf builder

theorem bare_perform {builder : Builder} {call : Call}
    (hbare : builder.isModified = false → builder.Bare)
    (hunmodified : (builder.perform call).isModified = false) : (builder.perform call).Bare := by
  refine perform_of_not_isModified rfl (fun other hbuilder => ?_) hbare hunmodified
  unfold Bare at hbuilder ⊢
  rw [hbuilder]
  rfl

theorem bare_performAll {calls : List Call}
    (hunmodified : (empty.performAll calls).isModified = false) :
    (empty.performAll calls).Bare := by
  induction calls using List.reverseRecOn with
  | nil => rfl
  | append_singleton calls last ih =>
      rw [performAll_concat] at hunmodified ⊢
      exact bare_perform ih hunmodified

/-- After a call that counts a builder refuses to start from another configuration.  Otherwise it
starts from it as the empty builder does, and it has held nothing but the choice of a registry and
of files. -/
theorem copyFrom_after_calls (calls : List Call) (config : Configuration) :
    let builder := empty.performAll calls
    (Marked calls → builder.copyFrom config = ⟨builder, [], .error (.builder .lateCopy)⟩ ∧
      builder.perform (.copyFrom config) = builder) ∧
    (¬Marked calls → builder.Bare ∧ builder.copyFrom config = empty.copyFrom config ∧
      ∃ next, empty.copyFrom config = .done next) := by
  intro builder
  constructor
  · intro hmarked
    have hmodified : builder.isModified = true := isModified_performAll_iff.2 hmarked
    have hrefused : builder.copyFrom config = ⟨builder, [], .error (.builder .lateCopy)⟩ := by
      simp only [copyFrom, hmodified, if_true, refuse]
    exact ⟨hrefused, congrArg CallResult.builder hrefused⟩
  · intro hmarked
    have hunmodified : builder.isModified = false := by
      rw [← Bool.not_eq_true, isModified_performAll_iff]
      exact hmarked
    have hcopied : builder.copyFrom config = empty.copyFrom config := by
      unfold copyFrom
      rw [hunmodified]
      rfl
    exact ⟨bare_performAll hunmodified, hcopied, _, rfl⟩

namespace CopySample

def start : Store :=
  .initial (.ofDisk (.ofWorkingDirectory []))

def base : Configuration :=
  { Configuration.empty Registries.globalId false 0 (.memory .empty) with
    settings := .ofSettings [("a", ⟨"1", .manual⟩)] }

/-- A build empties the builder, and then a registry is chosen. -/
def calls : List Call :=
  [.set "b" "2", .build start, .withRegistry "other"]

theorem copyFrom_after_calls_sample :
    Marked [.set "b" "2"] ∧
      ((empty.performAll [.set "b" "2"]).copyFrom base).outcome =
        .error (.builder .lateCopy) ∧
      ¬Marked calls ∧ (empty.performAll calls).Bare ∧
      ∃ next, (empty.performAll calls).copyFrom base = .done next := by
  have hmarked : Marked [.set "b" "2"] := ⟨[], _, [], rfl, trivial, by simp⟩
  have hunmarked : ¬Marked calls := by
    rw [← isModified_performAll_iff]
    decide +kernel
  obtain ⟨hrefused, -⟩ := (copyFrom_after_calls [.set "b" "2"] base).1 hmarked
  obtain ⟨hbare, hcopied, next, hnext⟩ := (copyFrom_after_calls calls base).2 hunmarked
  exact ⟨hmarked, congrArg CallResult.outcome hrefused, hunmarked, hbare, next,
    hcopied.trans hnext⟩

/-- A registry that was chosen before is given up without a word. -/
theorem choice_given_up :
    Builder.registry? (empty.performAll calls) = some "other" ∧
      ((empty.performAll calls).copyFrom base).outcome = .ok () ∧
      ((empty.performAll calls).copyFrom base).builder.registry? = some Registries.globalId := by
  have haccepted : ((empty.performAll calls).copyFrom base).outcome.toOption = some () := by
    decide +kernel
  exact ⟨by decide +kernel, toOption_eq_some_iff.1 haccepted, by decide +kernel⟩

end CopySample

end Builder

end TypedOptions
