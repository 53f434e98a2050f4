import TypedOptions.Proofs.Converter.Shapes
import TypedOptions.Proofs.Outcome
import TypedOptions.Proofs.Value.Written

/-!
# Defaults that are placed

The default of a file option is placed like a path that is given, part by part.
Only relative parts are moved by this, so a default that has been placed stays
where it is if its place is absolute, and is moved once more if it is relative.
That output is disabled is told by the defaults of output options and by
nothing else.
-/

namespace TypedOptions

/-- Placing the value does not move it: it is no relative path and no relative template. -/
def Value.IsAnchored : Value → Prop
  | .path place => place.isAbsolute = true
  | .pathTemplate template => (⟨template.text⟩ : Path).isAbsolute = true
  | _ => True

theorem Value.eq_emptied_of_equals {value other : Value}
    (hequals : value.equals other.emptied = true) : value = other.emptied := by
  unfold emptied at hequals ⊢
  split at hequals
  · cases value with
    | collection items =>
        cases items with
        | nil => rfl
        | cons item rest => simp [equals, equalItems] at hequals
    | _ => simp [equals] at hequals
  · cases value with
    | absent => rfl
    | _ => simp [equals] at hequals

theorem FieldType.toValue_of_emptied {type : FieldType} {value : Value} {content : type.Carrier}
    (hcontent : type.ofValue? value.emptied = some content) :
    type.toValue content = value.emptied := by
  unfold Value.emptied at hcontent ⊢
  split at hcontent
  · exact toValue_of_empty hcontent
  · exact (toValue_eq_absent_iff hcontent).2 rfl

namespace FileConverter

variable {converter : FileConverter} {context : ConversionContext} {kind : FileKind}
  {value placed : Value}

/-! ## Placed again -/

theorem resolve_of_isAbsolute (converter : FileConverter) (kind : FileKind)
    (source? : Option OptionSource) {path : Path} (habsolute : path.isAbsolute = true) :
    converter.resolve kind source? path = path :=
  Path.join_of_isAbsolute _ habsolute

theorem place_eq_ok_iff {source? : Option OptionSource} {path found : Path} :
    converter.place context kind source? path = .ok found ↔
      found = converter.resolve kind source? path ∧ converter.placeFault? kind found = none := by
  unfold place
  dsimp only
  split
  · rename_i fault hfault
    simp only [reduceCtorEq, false_iff, not_and]
    rintro rfl
    simp [hfault]
  · rename_i hfault
    simp only [Except.ok.injEq]
    constructor
    · rintro rfl
      exact ⟨rfl, hfault⟩
    · exact fun h => h.1.symm

/-- The value is left as it is once it is anchored: nothing is wrong with its place. -/
def Stays (converter : FileConverter) (context : ConversionContext) (kind : FileKind)
    (value : Value) : Prop :=
  value.IsAnchored → converter.placeDefault context kind value = .ok value

section Enabled

variable (henabled : (kind.isOutput && converter.outputDisabled) = false)
include henabled

theorem placeDefault_path (path : Path) :
    converter.placeDefault context kind (.path path) =
      (converter.place context kind none path).map .path := by
  simp [placeDefault, henabled]

theorem placeDefault_pathTemplate (template : PathTemplate) :
    converter.placeDefault context kind (.pathTemplate template) =
      .ok (.pathTemplate (converter.placeTemplate kind none template.text)) := by
  simp [placeDefault, henabled]

theorem placeDefault_collection (items : List Value) :
    converter.placeDefault context kind (.collection items) =
      (items.mapM (converter.placeDefault context kind)).map .collection := by
  simp [placeDefault, henabled, placeDefaults_eq_mapM]

theorem throughout_of_single (hsingle : ∀ items, value ≠ .collection items)
    (hplaced : converter.placeDefault context kind value = .ok placed) :
    placed.Throughout (Stays converter context kind) := by
  cases value with
  | collection items => exact absurd rfl (hsingle items)
  | path path =>
      rw [placeDefault_path henabled] at hplaced
      obtain ⟨found, hfound, rfl⟩ := map_eq_ok_iff.1 hplaced
      refine .single (by simp) fun habsolute => ?_
      have hagain : converter.place context kind none found = .ok found :=
        place_eq_ok_iff.2 ⟨(converter.resolve_of_isAbsolute kind none habsolute).symm,
          (place_eq_ok_iff.1 hfound).2⟩
      rw [placeDefault_path henabled, hagain]
      rfl
  | pathTemplate template =>
      rw [placeDefault_pathTemplate henabled] at hplaced
      cases hplaced
      refine .single (by simp) fun habsolute => ?_
      rw [placeDefault_pathTemplate henabled, placeTemplate,
        converter.resolve_of_isAbsolute kind none habsolute]
  | _ =>
      simp only [placeDefault, henabled, Bool.false_eq_true, if_false, Except.ok.injEq] at hplaced
      subst hplaced
      refine .single (by simp) fun _ => ?_
      simp [placeDefault, henabled]

/-- What was placed without a fault is placed again without one, if it is not moved by that. -/
theorem throughout_of_placeDefault
    (hplaced : converter.placeDefault context kind value = .ok placed) :
    placed.Throughout (Stays converter context kind) := by
  induction value using Value.parts_induction generalizing placed with
  | single value hsingle => exact throughout_of_single henabled hsingle hplaced
  | collection items ih =>
      rw [placeDefault_collection henabled] at hplaced
      obtain ⟨results, hresults, rfl⟩ := map_eq_ok_iff.1 hplaced
      refine .collection fun result hresult => ?_
      obtain ⟨item, hitem, hstep⟩ := exists_of_mem_mapM hresults hresult
      exact ih item hitem hstep

theorem placeDefault_of_anchored (hstays : value.Throughout (Stays converter context kind))
    (hanchored : value.Throughout Value.IsAnchored) :
    converter.placeDefault context kind value = .ok value := by
  induction hstays with
  | single hsingle hvalue =>
      cases hanchored with
      | single _ hanchored => exact hvalue hanchored
      | collection hitems => exact absurd rfl (hsingle _)
  | @collection items _ ih =>
      have hitems := Value.throughout_collection_iff.1 hanchored
      have hsame : items.mapM (converter.placeDefault context kind) = .ok items :=
        mapM_eq_ok_iff.2 (List.forall₂_same.2 fun item hitem => ih item hitem (hitems item hitem))
      rw [placeDefault_collection henabled, hsame]
      rfl

end Enabled

/-! ## Disabled output -/

/-- The converter for the same files that has its output disabled. -/
def withoutOutput (converter : FileConverter) : FileConverter :=
  { converter with outputDisabled := true }

theorem convert_withoutOutput (converter : FileConverter) (context : ConversionContext)
    (text : String) (target : OptionType) :
    converter.withoutOutput.convert context text target = converter.convert context text target :=
  rfl

/-- The defaults of other options are placed in the same way. -/
theorem placeDefault_withoutOutput (hinput : kind.isOutput = false) (value : Value) :
    converter.withoutOutput.placeDefault context kind value =
      converter.placeDefault context kind value := by
  have henabled (any : FileConverter) : (kind.isOutput && any.outputDisabled) = false := by
    rw [hinput, Bool.false_and]
  induction value using Value.parts_induction with
  | single value hsingle =>
      cases value with
      | collection items => exact absurd rfl (hsingle items)
      | path path =>
          rw [placeDefault_path (henabled _), placeDefault_path (henabled _)]
          rfl
      | pathTemplate template =>
          rw [placeDefault_pathTemplate (henabled _), placeDefault_pathTemplate (henabled _)]
          rfl
      | _ => simp [placeDefault, hinput]
  | collection items ih =>
      rw [placeDefault_collection (henabled _), placeDefault_collection (henabled _)]
      congr 1
      exact mapM_congr ih

end FileConverter

end TypedOptions
