import TypedOptions.Converter.Files
import TypedOptions.Proofs.Outcome
import TypedOptions.Proofs.Path.Joining

/-!
# Paths in safe mode

The check of safe mode counts levels and never looks at names.  A path that
passes it cancels lexically to names alone, so it leads into the directory
where it starts and nowhere else; and a safe path joined to a safe directory
is safe again.
-/

namespace TypedOptions

namespace Path

/-- What is kept after one more component: a double point takes away the name before it, and above
the root there is nothing. -/
def cancelStep (kept : List Component) : Component → List Component
  | .root => [.root]
  | .current => kept
  | .parent =>
      match kept.getLast? with
      | some (.name _) => kept.dropLast
      | some .root => kept
      | _ => kept ++ [.parent]
  | .name text => kept ++ [.name text]

/-- The components that are left when double points have taken away names before them. -/
def cancelled (path : Path) : List Component :=
  path.components.foldl cancelStep []

/-- Lexically, the path is the base with names behind it, if any. -/
def LiesBelow (path base : Path) : Prop :=
  ∃ names : List String, path.cancelled = base.cancelled ++ names.map .name

theorem foldl_cancelStep_body {path : Path} (hpath : path.isAbsolute = false)
    (kept : List Component) :
    path.body.foldl cancelStep kept = path.components.foldl cancelStep kept := by
  rw [components_eq, List.foldl_append]
  rcases lead_of_not_isAbsolute hpath with hlead | hlead <;> simp [hlead, cancelStep]

theorem cancelled_join {base path : Path} (hpath : path.isAbsolute = false) :
    (base.join path).cancelled = path.components.foldl cancelStep base.cancelled := by
  by_cases htext : base.text = ""
  · have hbase : base.cancelled = [] := by
      simp [cancelled, components, htext, Text.splitAll]
    rw [join_of_text_eq htext, hbase, cancelled]
  · rw [cancelled, components_join htext hpath, List.foldl_append, foldl_cancelStep_body hpath,
      cancelled]

end Path

namespace FileConverter

open TypedOptions.Path

theorem staysBelow_of_le {depth more : Int} {components : List Component} (hle : depth ≤ more)
    (hstays : staysBelow depth components = true) : staysBelow more components = true := by
  induction components generalizing depth more with
  | nil => rfl
  | cons component rest ih =>
      simp only [staysBelow, Bool.and_eq_true, decide_eq_true_eq] at hstays ⊢
      exact ⟨by omega, ih (by omega) hstays.2⟩

theorem staysBelow_append {depth : Int} {first second : List Component} (hdepth : 0 ≤ depth)
    (hfirst : staysBelow depth first = true) (hsecond : staysBelow 0 second = true) :
    staysBelow depth (first ++ second) = true := by
  induction first generalizing depth with
  | nil => exact staysBelow_of_le hdepth hsecond
  | cons component rest ih =>
      simp only [List.cons_append, staysBelow, Bool.and_eq_true, decide_eq_true_eq] at hfirst ⊢
      exact ⟨hfirst.1, ih hfirst.1 hfirst.2⟩

theorem staysBelow_body {path : Path} (hpath : path.isAbsolute = false) :
    staysBelow 0 path.body = staysBelow 0 path.components := by
  rw [components_eq]
  rcases lead_of_not_isAbsolute hpath with hlead | hlead <;> simp [hlead, staysBelow, levels]

/-- The invariant of the check: it counts the names that are kept, so a double point always finds
one of them, and what was kept before is not touched. -/
theorem exists_names_of_staysBelow {components : List Component} (names : List String)
    (hroot : Component.root ∉ components)
    (hstays : staysBelow names.length components = true) :
    ∃ more : List String, ∀ kept,
      components.foldl cancelStep (kept ++ names.map .name) = kept ++ more.map .name := by
  induction components generalizing names with
  | nil => exact ⟨names, fun _ => rfl⟩
  | cons component rest ih =>
      simp only [List.mem_cons, not_or] at hroot
      simp only [staysBelow, Bool.and_eq_true, decide_eq_true_eq] at hstays
      obtain ⟨hlevel, hrest⟩ := hstays
      cases component with
      | root => exact absurd rfl hroot.1
      | current =>
          obtain ⟨more, hmore⟩ := ih names hroot.2 (by simpa [levels] using hrest)
          exact ⟨more, fun kept => hmore kept⟩
      | name text =>
          obtain ⟨more, hmore⟩ := ih (names ++ [text]) hroot.2
            (by simpa [levels] using hrest)
          refine ⟨more, fun kept => ?_⟩
          simpa [cancelStep] using hmore kept
      | parent =>
          rcases List.eq_nil_or_concat names with rfl | ⟨before, last, rfl⟩
          · simp [levels] at hlevel
          · have hlength : ((before ++ [last]).length : Int) + levels .parent = before.length := by
              simp only [List.length_append, List.length_singleton, levels]
              omega
            rw [List.concat_eq_append, hlength] at hrest
            obtain ⟨more, hmore⟩ := ih before hroot.2 hrest
            refine ⟨more, fun kept => ?_⟩
            rw [← hmore kept, List.foldl_cons]
            congr 1
            simp [cancelStep, ← List.append_assoc]

/-- A relative path that passes the check consists of names, lexically, and adds them to whatever
stands before it. -/
theorem exists_names_of_relative {path : Path} (hpath : path.isAbsolute = false)
    (hstays : staysBelow 0 path.components = true) :
    ∃ names : List String, ∀ kept,
      path.components.foldl cancelStep kept = kept ++ names.map .name := by
  rw [← staysBelow_body hpath] at hstays
  obtain ⟨names, hnames⟩ := exists_names_of_staysBelow [] (root_not_mem_body path) hstays
  refine ⟨names, fun kept => ?_⟩
  rw [← foldl_cancelStep_body hpath]
  simpa using hnames kept

/-! ## The check -/

theorem pathFault?_of_relative {path : Path} (hpath : path.isAbsolute = false) :
    pathFault? path = none ↔ staysBelow 0 path.components = true := by
  simp [pathFault?, hpath]

theorem components_temporaryDirectory :
    temporaryDirectory.components = [.root, .name "tmp"] := by
  decide

theorem pathFault?_of_absolute {path : Path} (hpath : path.isAbsolute = true) :
    pathFault? path = none ↔
      ∃ rest, path.components = temporaryDirectory.components ++ rest ∧
        staysBelow 0 rest = true := by
  simp only [pathFault?, hpath, if_true, isWithin]
  by_cases hwithin : temporaryDirectory.components <+: path.components
  · obtain ⟨rest, hrest⟩ := hwithin
    simp [← hrest]
  · have hnone : ¬∃ rest, path.components = temporaryDirectory.components ++ rest ∧
        staysBelow 0 rest = true := by
      rintro ⟨rest, hrest, -⟩
      exact hwithin ⟨rest, hrest.symm⟩
    simp [hwithin, hnone]

theorem root_not_mem_rest {path : Path} (habsolute : path.isAbsolute = true)
    {rest : List Component} (hrest : path.components = temporaryDirectory.components ++ rest) :
    Component.root ∉ rest := by
  have hbody := root_not_mem_body path
  have hcomponents := components_eq path
  rw [lead_of_isAbsolute habsolute, hrest, components_temporaryDirectory] at hcomponents
  have hsplit : path.body = .name "tmp" :: rest := (List.cons.inj hcomponents).2.symm
  rw [hsplit] at hbody
  exact fun hmem => hbody (List.mem_cons_of_mem _ hmem)

theorem liesBelow_temporaryDirectory {path : Path} (hpath : path.isAbsolute = true)
    (hsafe : pathFault? path = none) : path.LiesBelow temporaryDirectory := by
  obtain ⟨rest, hrest, hstays⟩ := (pathFault?_of_absolute hpath).1 hsafe
  obtain ⟨names, hnames⟩ := exists_names_of_staysBelow [] (root_not_mem_rest hpath hrest) hstays
  refine ⟨names, ?_⟩
  rw [cancelled, hrest, List.foldl_append]
  simpa [cancelled] using hnames temporaryDirectory.cancelled

/-- Safe paths joined to safe directories are safe. -/
theorem pathFault?_join {base path : Path} (hbase : pathFault? base = none)
    (hpath : pathFault? path = none) : pathFault? (base.join path) = none := by
  cases habsolute : path.isAbsolute with
  | true => rwa [join_of_isAbsolute base habsolute]
  | false =>
      by_cases htext : base.text = ""
      · rwa [join_of_text_eq htext]
      · have hjoin := components_join htext habsolute
        have hbody := (pathFault?_of_relative habsolute).1 hpath
        rw [← staysBelow_body habsolute] at hbody
        have hkind := isAbsolute_join htext habsolute
        cases hrooted : base.isAbsolute with
        | false =>
            rw [pathFault?_of_relative (hkind.trans hrooted), hjoin]
            exact staysBelow_append (Int.le_refl 0) ((pathFault?_of_relative hrooted).1 hbase) hbody
        | true =>
            obtain ⟨rest, hrest, hstays⟩ := (pathFault?_of_absolute hrooted).1 hbase
            refine (pathFault?_of_absolute (hkind.trans hrooted)).2 ⟨rest ++ path.body, ?_, ?_⟩
            · rw [hjoin, hrest, List.append_assoc]
            · exact staysBelow_append (Int.le_refl 0) hstays hbody

theorem checkSafe_eq_ok_iff {option : String} {path : Path} :
    checkSafe option path = .ok () ↔ pathFault? path = none := by
  unfold checkSafe
  cases pathFault? path <;> simp

/-! ## Conversion -/

theorem exists_of_convert_path {converter : FileConverter} {context : ConversionContext}
    {text : String} {value : Value}
    (hvalue : converter.convert context text (.element .path) = .ok value) :
    ∃ kind,
      context.annotation? = some (.file kind) ∧
      (converter.safe = true → pathFault? ⟨text⟩ = none) ∧
      value = .path ((converter.startDirectory kind context.source?).join ⟨text⟩) := by
  simp only [convert, bind_eq_ok_iff] at hvalue
  obtain ⟨kind, hkind, hvalue⟩ := hvalue
  have hannotation := kindOf_eq_ok_iff.1 hkind
  have hplace : ∀ path, converter.place context kind context.source? ⟨text⟩ = .ok path →
      path = (converter.startDirectory kind context.source?).join ⟨text⟩ := by
    intro path hpath
    simp only [place] at hpath
    split at hpath
    · cases hpath
    · cases hpath
      rfl
  cases hsafe : converter.safe with
  | false =>
      simp only [hsafe, Bool.false_eq_true, if_false, bind_eq_ok_iff] at hvalue
      obtain ⟨path, hpath, hvalue⟩ := hvalue
      cases hvalue
      rw [hplace path hpath]
      exact ⟨kind, hannotation, fun hfalse => absurd hfalse Bool.false_ne_true, rfl⟩
  | true =>
      simp only [hsafe, if_true, bind_eq_ok_iff] at hvalue
      obtain ⟨_, hcheck, path, hpath, hvalue⟩ := hvalue
      cases hvalue
      rw [hplace path hpath]
      exact ⟨kind, hannotation, fun _ => checkSafe_eq_ok_iff.1 hcheck, rfl⟩

theorem safe_of_create {options : FileOptions} {fileSystem : FileSystem}
    {converter : FileConverter} (hcreate : create options true fileSystem = .ok converter) :
    converter.safe = true ∧ pathFault? converter.output = none := by
  simp only [create, if_true, bind_eq_ok_iff] at hcreate
  obtain ⟨_, hroot, _, houtput, hconverter⟩ := hcreate
  cases hconverter
  exact ⟨rfl, pathFault?_join (checkSafe_eq_ok_iff.1 hroot) (checkSafe_eq_ok_iff.1 houtput)⟩

/-- In safe mode no path leaves the place where it starts: a relative path consists of names,
lexically, which stand behind its start directory, and an absolute one lies below the temporary
directory.  The output directory and all paths below it are safe paths themselves. -/
theorem safe_paths_confined :
    (∀ (converter : FileConverter) (context : ConversionContext) (text : String) (value : Value),
      converter.safe = true →
      converter.convert context text (.element .path) = .ok value →
        ∃ kind result,
          context.annotation? = some (.file kind) ∧ value = .path result ∧
          if (⟨text⟩ : Path).isAbsolute then
            result = ⟨text⟩ ∧ result.LiesBelow temporaryDirectory
          else
            result = (converter.startDirectory kind context.source?).join ⟨text⟩ ∧
            ∃ names : List String,
              (⟨text⟩ : Path).cancelled = names.map .name ∧
              result.cancelled =
                (converter.startDirectory kind context.source?).cancelled ++ names.map .name) ∧
    ∀ (options : FileOptions) (fileSystem : FileSystem) (converter : FileConverter),
      create options true fileSystem = .ok converter →
        (∀ option, checkSafe option converter.output = .ok ()) ∧
        ∀ context text kind result,
          context.annotation? = some (.file kind) → kind.isOutput = true →
          converter.convert context text (.element .path) = .ok (.path result) →
            ∀ option, checkSafe option result = .ok () := by
  constructor
  · intro converter context text value hsafe hvalue
    obtain ⟨kind, hkind, hfault, rfl⟩ := exists_of_convert_path hvalue
    refine ⟨kind, _, hkind, rfl, ?_⟩
    cases habsolute : (⟨text⟩ : Path).isAbsolute with
    | true =>
        have hresult := join_of_isAbsolute (converter.startDirectory kind context.source?)
          habsolute
        rw [if_pos rfl, hresult]
        exact ⟨rfl, liesBelow_temporaryDirectory habsolute (hfault hsafe)⟩
    | false =>
        obtain ⟨names, hnames⟩ := exists_names_of_relative habsolute
          ((pathFault?_of_relative habsolute).1 (hfault hsafe))
        rw [if_neg Bool.false_ne_true]
        refine ⟨rfl, names, hnames [], ?_⟩
        rw [cancelled_join habsolute, hnames]
  · intro options fileSystem converter hcreate
    obtain ⟨hsafe, houtput⟩ := safe_of_create hcreate
    refine ⟨fun option => checkSafe_eq_ok_iff.2 houtput, ?_⟩
    intro context text kind result hkind hwrites hvalue option
    obtain ⟨other, hother, hfault, hresult⟩ := exists_of_convert_path hvalue
    rw [hkind] at hother
    cases hother
    cases hresult
    rw [checkSafe_eq_ok_iff, startDirectory, if_pos hwrites]
    exact pathFault?_join houtput (hfault hsafe)

def sampleConverter : FileConverter :=
  ofOptions ⟨"out", false, "work"⟩ true (.memory .empty)

def sampleContext : ConversionContext :=
  ⟨"report.file", some (.file .outputFile), none⟩

theorem safe_paths_confined_sample :
    sampleConverter.convert sampleContext "a/./../b.txt" (.element .path) =
        .ok (.path ⟨"work/out/a/./../b.txt"⟩) ∧
      (∃ names : List String, (⟨"a/./../b.txt"⟩ : Path).cancelled = names.map .name ∧
        (⟨"work/out/a/./../b.txt"⟩ : Path).cancelled =
          (⟨"work/out"⟩ : Path).cancelled ++ names.map .name) ∧
      (∀ option, checkSafe option ⟨"work/out/a/./../b.txt"⟩ = .ok ()) ∧
      sampleConverter.convert sampleContext "/tmp/a/../b.txt" (.element .path) =
        .ok (.path ⟨"/tmp/a/../b.txt"⟩) ∧
      (⟨"/tmp/a/../b.txt"⟩ : Path).LiesBelow temporaryDirectory := by
  have hcreate : create ⟨"out", false, "work"⟩ true (.memory .empty) = .ok sampleConverter :=
    rfl
  have hrelative : sampleConverter.convert sampleContext "a/./../b.txt" (.element .path) =
      .ok (.path ⟨"work/out/a/./../b.txt"⟩) :=
    rfl
  have habsolute : sampleConverter.convert sampleContext "/tmp/a/../b.txt" (.element .path) =
      .ok (.path ⟨"/tmp/a/../b.txt"⟩) :=
    rfl
  have hconfined := safe_paths_confined.1 sampleConverter sampleContext
  have hsafe := (safe_paths_confined.2 _ _ _ hcreate).2 _ _ _ _ rfl rfl hrelative
  obtain ⟨kind, result, hkind, hresult, hnames⟩ := hconfined _ _ rfl hrelative
  obtain ⟨other, placed, -, hplaced, hbelow⟩ := hconfined _ _ rfl habsolute
  cases hkind
  cases hresult
  cases hplaced
  rw [if_neg (by decide)] at hnames
  rw [if_pos (by decide)] at hbelow
  exact ⟨hrelative, hnames.2, hsafe, habsolute, hbelow.2⟩

end FileConverter

end TypedOptions
