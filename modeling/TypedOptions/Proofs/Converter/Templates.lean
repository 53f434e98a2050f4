import TypedOptions.Proofs.Converter.SafePaths
import TypedOptions.Proofs.Path.Filling

/-!
# Templates of files

A template is placed before it is filled.  In safe mode this does no harm: the
components that the check counts are the same before and after.  But the
directory that a template is placed in is read as a template too, so it is
kept exactly if no percent sign in it goes together with what is behind it.
-/

namespace TypedOptions

namespace FileConverter

open TypedOptions.Path

/-! ## Safe mode -/

theorem levels_of_refilled {component other : Component} (hrefilled : Refilled component other) :
    levels other = levels component := by
  cases hrefilled <;> rfl

theorem staysBelow_of_refilled {depth : Int} {components others : List Component}
    (hrefilled : List.Forall₂ Refilled components others) :
    staysBelow depth others = staysBelow depth components := by
  induction hrefilled generalizing depth with
  | nil => rfl
  | cons hfirst hrest ih => rw [staysBelow, staysBelow, levels_of_refilled hfirst, ih]

theorem exists_of_refilled_temporaryDirectory {rest others : List Component}
    (hrefilled : List.Forall₂ Refilled (temporaryDirectory.components ++ rest) others) :
    ∃ more, others = temporaryDirectory.components ++ more ∧ List.Forall₂ Refilled rest more := by
  rw [components_temporaryDirectory] at hrefilled ⊢
  obtain ⟨first, _, hfirst, hnext, rfl⟩ := List.forall₂_cons_left_iff.1 hrefilled
  obtain ⟨second, more, hsecond, hrest, rfl⟩ := List.forall₂_cons_left_iff.1 hnext
  cases hfirst
  cases hsecond with
  | same => exact ⟨more, rfl, hrest⟩
  | name hpercent => exact absurd hpercent (by decide)

/-- A safe path is safe however it is filled. -/
theorem pathFault?_path {path : Path} {args : List String}
    (hargs : ∀ arg ∈ args, '/' ∉ arg.toList ∧ ∃ c ∈ arg.toList, c ≠ '.')
    (hsafe : pathFault? path = none) : pathFault? (path.template.path args) = none := by
  have hnames : ∀ arg ∈ args, arg ≠ "" ∧ '/' ∉ arg.toList := by
    intro arg harg
    obtain ⟨hslash, c, hc, -⟩ := hargs arg harg
    refine ⟨?_, hslash⟩
    rintro rfl
    simp at hc
  have hkind := isAbsolute_path hnames path
  have hrefilled := forall₂_components path hargs
  cases habsolute : path.isAbsolute with
  | false =>
      rw [pathFault?_of_relative (hkind.trans habsolute), staysBelow_of_refilled hrefilled]
      exact (pathFault?_of_relative habsolute).1 hsafe
  | true =>
      obtain ⟨rest, hrest, hstays⟩ := (pathFault?_of_absolute habsolute).1 hsafe
      rw [hrest] at hrefilled
      obtain ⟨more, hmore, hfilled⟩ := exists_of_refilled_temporaryDirectory hrefilled
      refine (pathFault?_of_absolute (hkind.trans habsolute)).2 ⟨more, hmore, ?_⟩
      rw [staysBelow_of_refilled hfilled]
      exact hstays

theorem convert_pathTemplate_eq_ok_iff {converter : FileConverter} {context : ConversionContext}
    {text : String} {value : Value} :
    converter.convert context text (.element .pathTemplate) = .ok value ↔
      ∃ kind,
        context.annotation? = some (.file kind) ∧
        (converter.safe = true → pathFault? ⟨text⟩ = none) ∧
        value =
          .pathTemplate ((converter.startDirectory kind context.source?).join ⟨text⟩).template := by
  simp only [convert, bind_eq_ok_iff, kindOf_eq_ok_iff]
  refine exists_congr fun kind => and_congr_right fun _ => ?_
  cases converter.safe with
  | false =>
      simp only [Bool.false_eq_true, if_false, false_implies, true_and]
      exact ⟨fun hok => (Except.ok.inj hok).symm, fun hvalue => hvalue ▸ rfl⟩
  | true =>
      simp only [if_true, bind_eq_ok_iff, forall_const]
      constructor
      · rintro ⟨_, hcheck, hok⟩
        exact ⟨checkSafe_eq_ok_iff.1 hcheck, (Except.ok.inj hok).symm⟩
      · rintro ⟨hfault, hvalue⟩
        exact ⟨(), checkSafe_eq_ok_iff.2 hfault, hvalue ▸ rfl⟩

/-- In safe mode a template of an output path is confined when it is filled: no argument without
slashes, if it is more than points, leads out of the place where the path starts. -/
theorem expanded_templates_confined {options : FileOptions} {fileSystem : FileSystem}
    {converter : FileConverter} {context : ConversionContext} {kind : FileKind} {text : String}
    {value : Value} (hcreate : create options true fileSystem = .ok converter)
    (hannotated : context.annotation? = some (.file kind)) (houtput : kind.isOutput = true)
    (hconvert : converter.convert context text (.element .pathTemplate) = .ok value) :
    ∃ template : PathTemplate, value = .pathTemplate template ∧
      ∀ args : List String, (∀ arg ∈ args, '/' ∉ arg.toList ∧ ∃ c ∈ arg.toList, c ≠ '.') →
        ∀ option, checkSafe option (template.path args) = .ok () := by
  obtain ⟨hsafe, hdirectory⟩ := safe_of_create hcreate
  obtain ⟨other, hother, hfault, rfl⟩ := convert_pathTemplate_eq_ok_iff.1 hconvert
  cases hannotated.symm.trans hother
  refine ⟨_, rfl, fun args hargs option => checkSafe_eq_ok_iff.2 ?_⟩
  apply pathFault?_path hargs
  rw [startDirectory, if_pos houtput]
  exact pathFault?_join hdirectory (hfault hsafe)

def confinedOptions : FileOptions :=
  ⟨"50%s", false, "work"⟩

def graphContext : ConversionContext :=
  ⟨"graphs", some (.file .outputFile), none⟩

theorem expanded_templates_confined_sample :
    (ofOptions confinedOptions true (.memory .empty)).convert graphContext "%d/../.%s./%%"
        (.element .pathTemplate) = .ok (.pathTemplate ⟨"work/50%s/%d/../.%s./%%"⟩) ∧
      (⟨"work/50%s/%d/../.%s./%%"⟩ : PathTemplate).path ["..a", "%s"] =
        ⟨"work/50..a/%s/../.%s./%"⟩ ∧
      checkSafe "graphs" ⟨"work/50..a/%s/../.%s./%"⟩ = .ok () := by
  have hcreate : create confinedOptions true (.memory .empty) =
      .ok (ofOptions confinedOptions true (.memory .empty)) :=
    rfl
  have hconvert : (ofOptions confinedOptions true (.memory .empty)).convert graphContext
      "%d/../.%s./%%" (.element .pathTemplate) = .ok (.pathTemplate ⟨"work/50%s/%d/../.%s./%%"⟩) :=
    rfl
  have hfilled : (⟨"work/50%s/%d/../.%s./%%"⟩ : PathTemplate).path ["..a", "%s"] =
      ⟨"work/50..a/%s/../.%s./%"⟩ := by
    decide +kernel
  obtain ⟨template, htemplate, hconfined⟩ := expanded_templates_confined hcreate rfl rfl hconvert
  cases htemplate
  have hargs : ∀ arg ∈ ["..a", "%s"], '/' ∉ arg.toList ∧ ∃ c ∈ arg.toList, c ≠ '.' := by
    simp
  exact ⟨hconvert, hfilled, hfilled ▸ hconfined _ hargs "graphs"⟩

/-! ## Directories before templates -/

/-- A template of an output path is filled together with the output directory before it, which takes
the first arguments.  So the directory is kept, for each template that is relative, exactly if no
percent sign in it goes together with what is behind it. -/
theorem directory_filled_before_template {options : FileOptions} {fileSystem : FileSystem}
    {converter : FileConverter} {context : ConversionContext} {kind : FileKind} {text : String}
    (hcreate : create options false fileSystem = .ok converter)
    (hannotated : context.annotation? = some (.file kind)) (houtput : kind.isOutput = true)
    (hrelative : (⟨text⟩ : Path).isAbsolute = false) :
    ∃ template : PathTemplate,
      converter.convert context text (.element .pathTemplate) = .ok (.pathTemplate template) ∧
      (∀ args : List String, (∀ arg ∈ args, arg ≠ "" ∧ '/' ∉ arg.toList) →
        template.path args =
          (converter.output.template.path args).join
            ((⟨text⟩ : PathTemplate).path
              (args.drop (PathTemplate.places converter.output.text.toList)))) ∧
      (PathTemplate.IsLiteral converter.output.text.toList →
        ∀ args : List String, (∀ arg ∈ args, arg ≠ "" ∧ '/' ∉ arg.toList) →
          template.path args = converter.output.join ((⟨text⟩ : PathTemplate).path args)) ∧
      ((∀ args : List String, (∀ arg ∈ args, arg ≠ "" ∧ '/' ∉ arg.toList) →
        (template.path args).same
          (converter.output.join ((⟨text⟩ : PathTemplate).path args)) = true) →
        PathTemplate.IsLiteral converter.output.text.toList) := by
  have hsafe : converter.safe = false := by
    cases hcreate
    rfl
  have hstart : converter.startDirectory kind context.source? = converter.output := if_pos houtput
  refine ⟨(converter.output.join ⟨text⟩).template, ?_, ?_, ?_, ?_⟩
  · refine convert_pathTemplate_eq_ok_iff.2 ⟨kind, hannotated, ?_, by rw [hstart]⟩
    exact fun htrue => absurd (htrue.symm.trans hsafe) (by decide)
  · exact fun args hargs => path_template_join hargs hrelative
  · intro hliteral args hargs
    rw [path_template_join hargs hrelative, path_template_of_isLiteral hliteral,
      PathTemplate.places_of_isLiteral hliteral]
    rfl
  · exact isLiteral_of_same hrelative

/-! ## Samples -/

def placedConverter (output : String) : FileConverter :=
  ofOptions ⟨output, false, "."⟩ false (.memory .empty)

/-- The output directory takes the argument that the file name was to get. -/
theorem directory_takes_argument :
    create ⟨"run%s", false, "."⟩ false (.memory .empty) = .ok (placedConverter "run%s") ∧
      (placedConverter "run%s").convert graphContext "graph-%d.dot" (.element .pathTemplate) =
        .ok (.pathTemplate ⟨"./run%s/graph-%d.dot"⟩) ∧
      (⟨"./run%s/graph-%d.dot"⟩ : PathTemplate).path ["2"] = ⟨"./run2/graph-%d.dot"⟩ ∧
      (placedConverter "run%s").output.join ((⟨"graph-%d.dot"⟩ : PathTemplate).path ["2"]) =
        ⟨"./run%s/graph-2.dot"⟩ ∧
      (⟨"./run2/graph-%d.dot"⟩ : Path).same ⟨"./run%s/graph-2.dot"⟩ = false :=
  ⟨rfl, rfl, by decide +kernel, by decide +kernel, by decide +kernel⟩

/-- A directory with percent signs that is kept, and the one that takes an argument. -/
theorem directory_filled_before_template_sample :
    (placedConverter "50%/out").convert graphContext "graph-%d.dot" (.element .pathTemplate) =
        .ok (.pathTemplate ⟨"./50%/out/graph-%d.dot"⟩) ∧
      (⟨"./50%/out/graph-%d.dot"⟩ : PathTemplate).path ["2"] =
        (placedConverter "50%/out").output.join ((⟨"graph-%d.dot"⟩ : PathTemplate).path ["2"]) ∧
      (⟨"./run%s/graph-%d.dot"⟩ : PathTemplate).path ["a", "2"] =
        Path.join ⟨"./runa"⟩ ((⟨"graph-%d.dot"⟩ : PathTemplate).path ["2"]) ∧
      ¬∀ args : List String, (∀ arg ∈ args, arg ≠ "" ∧ '/' ∉ arg.toList) →
        ((⟨"./run%s/graph-%d.dot"⟩ : PathTemplate).path args).same
          ((placedConverter "run%s").output.join
            ((⟨"graph-%d.dot"⟩ : PathTemplate).path args)) = true := by
  have hkept : create ⟨"50%/out", false, "."⟩ false (.memory .empty) =
      .ok (placedConverter "50%/out") := rfl
  have htaking : create ⟨"run%s", false, "."⟩ false (.memory .empty) =
      .ok (placedConverter "run%s") := rfl
  have hannotated : graphContext.annotation? = some (.file .outputFile) := rfl
  have hrelative : (⟨"graph-%d.dot"⟩ : Path).isAbsolute = false := by
    decide +kernel
  obtain ⟨template, hconvert, -, hequal, -⟩ :=
    directory_filled_before_template hkept hannotated rfl hrelative
  obtain ⟨other, hother, hlaw, -, hdiffers⟩ :=
    directory_filled_before_template htaking hannotated rfl hrelative
  cases hconvert
  cases hother
  refine ⟨rfl, hequal (by decide +kernel) ["2"] (by decide), ?_, fun hsame => ?_⟩
  · exact hlaw ["a", "2"] (by decide)
  · exact absurd (hdiffers hsame) (by decide +kernel)

end FileConverter

end TypedOptions
