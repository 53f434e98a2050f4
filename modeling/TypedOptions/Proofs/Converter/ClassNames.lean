import TypedOptions.Proofs.Converter.ShownValues
import TypedOptions.Proofs.Lists

/-!
# Classes by their names

The history of a catalog is the row of its registrations, and a registration
is a class with the supertypes and factories that were declared for it.  A
name stands for the class that was registered last under the first candidate
that any class is registered under.  Whether this class is fit is asked
afterwards, and what is registered under other names has no influence.
-/

namespace TypedOptions

/-! ## Registrations -/

/-- What is declared about a class before it is registered. -/
inductive ClassDetail where
  | supertype (name : String)
  | factory (interface : Interface) (product : Nat)

def ClassDetail.IsFactoryFor (interface : Interface) (detail : ClassDetail) : Prop :=
  ∃ product, detail = .factory interface product

def RegisteredClass.withDetail (entry : RegisteredClass) : ClassDetail → RegisteredClass
  | .supertype name => entry.implementing name
  | .factory interface product => entry.withFactory interface product

/-- A class as it is registered: its name and what is declared about it, in order. -/
structure Registration where
  name : String
  details : List ClassDetail

namespace Registration

def IsNamed (name : String) (registration : Registration) : Prop :=
  registration.name = name

def entry (registration : Registration) : RegisteredClass :=
  registration.details.foldl RegisteredClass.withDetail (.ofName registration.name)

/-- The product is that of the last factory for the interface. -/
def Provides (registration : Registration) (interface : Interface) (product : Nat) : Prop :=
  IsLast (ClassDetail.IsFactoryFor interface) registration.details (.factory interface product)

/-- The class is what an option of the type may be set to. -/
inductive Fits (registration : Registration) : ElementType → Prop where
  | unbounded : Fits registration (.classRef none)
  | itself : Fits registration (.classRef (some registration.name))
  | declared {bound : String} (hdeclared : .supertype bound ∈ registration.details) :
      Fits registration (.classRef (some bound))
  | factory {interface : Interface} {product : Nat}
      (hdeclared : .factory interface product ∈ registration.details) :
      Fits registration (.factory interface)

theorem entry_append (name : String) (details : List ClassDetail) (last : ClassDetail) :
    entry ⟨name, details ++ [last]⟩ = (entry ⟨name, details⟩).withDetail last := by
  simp [entry]

theorem name_entry (registration : Registration) : registration.entry.name = registration.name := by
  obtain ⟨name, details⟩ := registration
  induction details using List.reverseRecOn with
  | nil => rfl
  | append_singleton details last ih =>
      rw [entry_append]
      cases last with
      | supertype declared => exact ih
      | factory interface product => exact ih

theorem isSubtypeOf_entry (registration : Registration) (bound : String) :
    registration.entry.isSubtypeOf bound = true ↔
      registration.name = bound ∨ .supertype bound ∈ registration.details := by
  obtain ⟨name, details⟩ := registration
  induction details using List.reverseRecOn with
  | nil => exact (RegisteredClass.isSubtypeOf_ofName name bound).trans (by simp)
  | append_singleton details last ih =>
      rw [entry_append, List.mem_append, List.mem_singleton]
      cases last with
      | supertype declared =>
          rw [RegisteredClass.withDetail, RegisteredClass.isSubtypeOf_implementing, ih,
            ClassDetail.supertype.injEq]
          exact or_comm.trans or_assoc
      | factory interface product =>
          rw [RegisteredClass.withDetail, RegisteredClass.isSubtypeOf_withFactory, ih]
          simp

theorem product?_entry_eq_some_iff {registration : Registration} {interface : Interface}
    {product : Nat} :
    registration.entry.product? interface = some product ↔
      registration.Provides interface product := by
  obtain ⟨name, details⟩ := registration
  unfold Provides
  induction details using List.reverseRecOn with
  | nil => exact ⟨nofun, fun hlast => absurd hlast not_isLast_nil⟩
  | append_singleton details last ih =>
      rw [entry_append]
      cases last with
      | supertype declared =>
          have hno : ¬(ClassDetail.supertype declared).IsFactoryFor interface := nofun
          rw [isLast_append_of_not_holds hno, ← ih]
          rfl
      | factory other made =>
          rw [RegisteredClass.withDetail, RegisteredClass.product?_withFactory]
          by_cases hsame : interface = other
          · subst hsame
            rw [isLast_append_of_holds ⟨made, rfl⟩]
            simp [eq_comm]
          · have hno : ¬(ClassDetail.factory other made).IsFactoryFor interface := by
              rintro ⟨product, heq⟩
              exact hsame (ClassDetail.factory.inj heq).1.symm
            rw [if_neg hsame, isLast_append_of_not_holds hno, ih]

theorem fits_factory_iff {registration : Registration} {interface : Interface} :
    registration.Fits (.factory interface) ↔
      ∃ product, registration.Provides interface product := by
  constructor
  · rintro (- | - | - | hdeclared)
    obtain ⟨last, hlast⟩ :
        ∃ last, IsLast (ClassDetail.IsFactoryFor interface) registration.details last :=
      exists_isLast_iff.2 ⟨_, hdeclared, _, rfl⟩
    obtain ⟨product, rfl⟩ := hlast.holds
    exact ⟨product, hlast⟩
  · rintro ⟨product, before, after, hdetails, -⟩
    have hdeclared : .factory interface product ∈ registration.details := by simp [hdetails]
    exact .factory hdeclared

theorem fits_classRef_iff {registration : Registration} {bound : String} :
    registration.Fits (.classRef (some bound)) ↔
      registration.entry.isSubtypeOf bound = true := by
  rw [isSubtypeOf_entry]
  constructor
  · rintro (- | - | hdeclared)
    · exact Or.inl rfl
    · exact Or.inr hdeclared
  · rintro (rfl | hdeclared)
    · exact .itself
    · exact .declared hdeclared

end Registration

/-! ## What catalogs hold -/

/-- Of the names, the registration's own is the first that anything is registered under, and under
this name nothing is registered later. -/
structure Resolves (registrations : List Registration) (names : List String)
    (registration : Registration) : Prop where
  first : ∃ before after, names = before ++ registration.name :: after ∧
    ∀ name ∈ before, ∀ other ∈ registrations, other.name ≠ name
  last : IsLast (Registration.IsNamed registration.name) registrations registration

namespace ClassCatalog

def ofRegistrations (registrations : List Registration) : ClassCatalog :=
  registrations.foldl (fun catalog registration => catalog.register registration.entry) ∅

variable {registrations : List Registration} {names : List String}

theorem ofRegistrations_append (registrations : List Registration) (last : Registration) :
    ofRegistrations (registrations ++ [last]) = (ofRegistrations registrations).register last.entry := by
  simp [ofRegistrations]

theorem getElem?_ofRegistrations_append (registrations : List Registration) (last : Registration)
    (name : String) :
    (ofRegistrations (registrations ++ [last]))[name]? =
      if last.name = name then some last.entry else (ofRegistrations registrations)[name]? := by
  rw [ofRegistrations_append, getElem?_register, Registration.name_entry]

theorem getElem?_ofRegistrations_eq_some_iff {name : String} {entry : RegisteredClass} :
    (ofRegistrations registrations)[name]? = some entry ↔
      ∃ registration, IsLast (Registration.IsNamed name) registrations registration ∧
        registration.entry = entry := by
  induction registrations using List.reverseRecOn with
  | nil => simp [ofRegistrations, not_isLast_nil]
  | append_singleton registrations last ih =>
      rw [getElem?_ofRegistrations_append]
      by_cases hname : last.name = name
      · have hlast : last.IsNamed name := hname
        simp [hname, isLast_append_of_holds hlast]
      · have hlast : ¬last.IsNamed name := hname
        simp [hname, isLast_append_of_not_holds hlast, ih]

theorem getElem?_ofRegistrations_eq_none_iff {name : String} :
    (ofRegistrations registrations)[name]? = none ↔
      ∀ registration ∈ registrations, registration.name ≠ name := by
  rw [← Option.not_isSome_iff_eq_none, Option.isSome_iff_exists]
  simp only [getElem?_ofRegistrations_eq_some_iff]
  rw [exists_comm]
  simp only [exists_and_left, exists_eq', and_true, exists_isLast_iff, not_exists, not_and]
  rfl

theorem findFirst?_ofRegistrations_eq_some_iff {entry : RegisteredClass} :
    (ofRegistrations registrations).findFirst? names = some entry ↔
      ∃ registration, Resolves registrations names registration ∧ registration.entry = entry := by
  rw [findFirst?, List.findSome?_eq_some_iff]
  constructor
  · rintro ⟨before, name, after, hnames, hname, hbefore⟩
    obtain ⟨registration, hlast, hentry⟩ := getElem?_ofRegistrations_eq_some_iff.1 hname
    obtain rfl : registration.name = name := hlast.holds
    refine ⟨registration, ⟨⟨before, after, hnames, fun earlier hearlier => ?_⟩, hlast⟩, hentry⟩
    exact getElem?_ofRegistrations_eq_none_iff.1 (hbefore earlier hearlier)
  · rintro ⟨registration, ⟨⟨before, after, hnames, hbefore⟩, hlast⟩, hentry⟩
    refine ⟨before, registration.name, after, hnames, ?_, fun earlier hearlier => ?_⟩
    · exact getElem?_ofRegistrations_eq_some_iff.2 ⟨registration, hlast, hentry⟩
    · exact getElem?_ofRegistrations_eq_none_iff.2 (hbefore earlier hearlier)

theorem findFirst?_ofRegistrations_eq_none_iff :
    (ofRegistrations registrations).findFirst? names = none ↔
      ∀ registration ∈ registrations, registration.name ∉ names := by
  rw [findFirst?, List.findSome?_eq_none_iff]
  simp only [getElem?_ofRegistrations_eq_none_iff]
  exact ⟨fun hnone registration hmem hname => hnone _ hname registration hmem rfl,
    fun hnone name hname registration hmem heq => hnone registration hmem (heq ▸ hname)⟩

theorem getElem?_ofRegistrations_filter {name : String} (hname : name ∈ names) :
    (ofRegistrations (registrations.filter (·.name ∈ names)))[name]? =
      (ofRegistrations registrations)[name]? := by
  induction registrations using List.reverseRecOn with
  | nil => rfl
  | append_singleton registrations last ih =>
      rw [List.filter_append, getElem?_ofRegistrations_append]
      by_cases hlast : last.name ∈ names
      · rw [List.filter_cons_of_pos (by simpa using hlast), List.filter_nil,
          getElem?_ofRegistrations_append, ih]
      · have hne : last.name ≠ name := fun heq => hlast (heq ▸ hname)
        rw [List.filter_cons_of_neg (by simpa using hlast), List.filter_nil, List.append_nil, ih,
          if_neg hne]

theorem findFirst?_congr {first second : ClassCatalog}
    (hsame : ∀ name ∈ names, first[name]? = second[name]?) :
    first.findFirst? names = second.findFirst? names := by
  unfold findFirst?
  induction names with
  | nil => rfl
  | cons name rest ih =>
      obtain ⟨hname, hrest⟩ := List.forall_mem_cons.1 hsame
      rw [List.findSome?_cons, List.findSome?_cons, hname, ih hrest]

/-- Only registrations under the names have an influence on what is found under them. -/
theorem findFirst?_congr_filter {others : List Registration}
    (hsame : others.filter (·.name ∈ names) = registrations.filter (·.name ∈ names)) :
    (ofRegistrations others).findFirst? names = (ofRegistrations registrations).findFirst? names := by
  have hfiltered : ∀ row : List Registration,
      (ofRegistrations row).findFirst? names =
        (ofRegistrations (row.filter (·.name ∈ names))).findFirst? names := fun _ =>
    findFirst?_congr fun _ hname => (getElem?_ofRegistrations_filter hname).symm
  rw [hfiltered others, hsame, ← hfiltered registrations]

end ClassCatalog

/-- The typed factory of a class is the one that was declared last. -/
theorem Registration.Fits.exists_factory {registration : Registration} {interface : Interface}
    (hfits : registration.Fits (.factory interface)) :
    ∃ factory : Factory interface, Factory.ofClass? registration.entry = some factory ∧
      factory.entry = registration.entry ∧ registration.Provides interface factory.product := by
  obtain ⟨product, hprovides⟩ := fits_factory_iff.1 hfits
  let factory : Factory interface :=
    ⟨registration.entry, product, product?_entry_eq_some_iff.2 hprovides⟩
  exact ⟨factory, Factory.ofClass?_entry factory, rfl, hprovides⟩

/-! ## Conversion -/

namespace Classes

theorem fits_iff_fault? (registration : Registration) (type : ElementType) :
    registration.Fits type ↔
      ((OptionType.element type).key = .classRef ∨ (OptionType.element type).key = .factory) ∧
        fault? (.element type) registration.entry = none := by
  cases type with
  | classRef bound? =>
      cases bound? with
      | none => exact ⟨fun _ => ⟨Or.inl rfl, rfl⟩, fun _ => .unbounded⟩
      | some bound =>
          simp [Registration.fits_classRef_iff, fault?, OptionType.key, ElementType.key]
  | factory interface =>
      simp [Registration.fits_factory_iff, ← Registration.product?_entry_eq_some_iff,
        ← Option.ne_none_iff_exists', fault?, OptionType.key, ElementType.key]
  | _ => exact ⟨nofun, fun hkey => by simp [OptionType.key, ElementType.key] at hkey⟩

theorem fault?_of_not_subtype {registration : Registration} {bound : String}
    (hmisfit : ¬registration.Fits (.classRef (some bound))) :
    fault? (.element (.classRef (some bound))) registration.entry =
      some (.noSubtype registration.name bound) := by
  rw [Registration.fits_classRef_iff] at hmisfit
  simp [fault?, hmisfit, Registration.name_entry]

theorem fault?_of_no_factory {registration : Registration} {interface : Interface}
    (hmisfit : ¬registration.Fits (.factory interface)) :
    fault? (.element (.factory interface)) registration.entry =
      some (.noFactory registration.name interface) := by
  have hnone : registration.entry.product? interface = none := by
    rw [← Option.not_isSome_iff_eq_none, Option.isSome_iff_exists]
    rintro ⟨product, hproduct⟩
    exact hmisfit (Registration.fits_factory_iff.2
      ⟨product, Registration.product?_entry_eq_some_iff.1 hproduct⟩)
  simp [fault?, hnone, Registration.name_entry]

variable {catalog : ClassCatalog} {context : ConversionContext} {text : String}

theorem fault?_ne_unknownClass (target : OptionType) (entry : RegisteredClass) :
    fault? target entry ≠ some .unknownClass := by
  unfold fault?
  split
  · split <;> simp
  · split <;> simp
  · simp

theorem convert_eq_unknown_iff {target : OptionType} :
    convert catalog context text target = .error (context.invalid text .unknownClass) ↔
      catalog.findFirst? (candidates (packages context) text) = none := by
  unfold convert
  cases catalog.findFirst? (candidates (packages context) text) with
  | none => simp
  | some entry =>
      by_cases hkey : target.key = .classRef ∨ target.key = .factory
      · cases hfault : fault? target entry with
        | none => simp [hkey, hfault]
        | some fault =>
            have hne : fault ≠ .unknownClass := fun heq =>
              fault?_ne_unknownClass target entry (heq ▸ hfault)
            simp [hkey, hfault, hne, ConversionContext.invalid]
      · simp [hkey, ConversionContext.invalid, ConversionContext.unsupported]

section

variable {registrations : List Registration} {registration : Registration}

theorem convert_ofRegistrations_eq_ok_iff {type : ElementType} {value : Value} :
    convert (.ofRegistrations registrations) context text (.element type) = .ok value ↔
      ∃ registration, Resolves registrations (candidates (packages context) text) registration ∧
        registration.Fits type ∧ value = .classRef registration.entry := by
  rw [convert_eq_ok_iff]
  constructor
  · rintro ⟨entry, hfound, hkey, hfault, rfl⟩
    obtain ⟨registration, hresolves, rfl⟩ :=
      ClassCatalog.findFirst?_ofRegistrations_eq_some_iff.1 hfound
    exact ⟨registration, hresolves, (fits_iff_fault? registration type).2 ⟨hkey, hfault⟩, rfl⟩
  · rintro ⟨registration, hresolves, hfits, rfl⟩
    obtain ⟨hkey, hfault⟩ := (fits_iff_fault? registration type).1 hfits
    have hfound := ClassCatalog.findFirst?_ofRegistrations_eq_some_iff.2
      ⟨registration, hresolves, rfl⟩
    exact ⟨registration.entry, hfound, hkey, hfault, rfl⟩

/-- A class that is found under the first known name is not passed over for a later one. -/
theorem convert_of_fault
    (hresolves : Resolves registrations (candidates (packages context) text) registration)
    {target : OptionType} (hkey : target.key = .classRef ∨ target.key = .factory)
    {fault : ValueFault} (hfault : fault? target registration.entry = some fault) :
    convert (.ofRegistrations registrations) context text target =
      .error (context.invalid text fault) := by
  have hfound := ClassCatalog.findFirst?_ofRegistrations_eq_some_iff.2
    ⟨registration, hresolves, rfl⟩
  simp only [convert, hfound, hkey, if_true, hfault]

end

/-- The name of a class stands for what was registered last under the first of its candidates that
is known, and only this class is asked whether it fits: a misfit is an error, not a reason to go on.
The typed factory of a class is the last that it was declared with.  Registrations under other
names mean nothing. -/
theorem class_names_resolved (registrations : List Registration) (context : ConversionContext)
    (text : String) :
    let names := candidates (packages context) text
    let answer (type : ElementType) :=
      convert (.ofRegistrations registrations) context text (.element type)
    (∀ type value, answer type = .ok value ↔
      ∃ registration, Resolves registrations names registration ∧ registration.Fits type ∧
        value = .classRef registration.entry) ∧
    (∀ type, answer type = .error (context.invalid text .unknownClass) ↔
      ∀ registration ∈ registrations, registration.name ∉ names) ∧
    (∀ registration, Resolves registrations names registration →
      (∀ bound, ¬registration.Fits (.classRef (some bound)) →
        answer (.classRef (some bound)) =
          .error (context.invalid text (.noSubtype registration.name bound))) ∧
      ∀ interface, ¬registration.Fits (.factory interface) →
        answer (.factory interface) =
          .error (context.invalid text (.noFactory registration.name interface))) ∧
    (∀ interface value, answer (.factory interface) = .ok value →
      ∃ registration, Resolves registrations names registration ∧
        value = .classRef registration.entry ∧
        ∃ factory : Factory interface, Factory.ofClass? registration.entry = some factory ∧
          factory.entry = registration.entry ∧
          registration.Provides interface factory.product) ∧
    ∀ others : List Registration,
      others.filter (·.name ∈ names) = registrations.filter (·.name ∈ names) →
        ∀ target, convert (.ofRegistrations others) context text target =
          convert (.ofRegistrations registrations) context text target := by
  intro names answer
  refine ⟨fun type value => convert_ofRegistrations_eq_ok_iff, fun type => ?_,
    fun registration hresolves => ⟨fun bound hmisfit => ?_, fun interface hmisfit => ?_⟩,
    fun interface value hvalue => ?_, fun others hsame target => ?_⟩
  · exact convert_eq_unknown_iff.trans ClassCatalog.findFirst?_ofRegistrations_eq_none_iff
  · exact convert_of_fault hresolves (Or.inl rfl) (fault?_of_not_subtype hmisfit)
  · exact convert_of_fault hresolves (Or.inr rfl) (fault?_of_no_factory hmisfit)
  · obtain ⟨registration, hresolves, hfits, hentry⟩ := convert_ofRegistrations_eq_ok_iff.1 hvalue
    exact ⟨registration, hresolves, hentry, hfits.exists_factory⟩
  · unfold convert
    rw [ClassCatalog.findFirst?_congr_filter hsame]

end Classes

/-! ## Samples -/

namespace ClassNamesSample

open Classes

def number : Interface :=
  ⟨"u8"⟩

/-- The class that is registered last under its name. -/
def latest : Registration :=
  ⟨"b.Fast", [.factory number 3, .supertype "Engine", .factory number 7]⟩

def registrations : List Registration :=
  [⟨"a.Fast", [.supertype "Solver"]⟩, ⟨"b.Fast", [.supertype "Solver", .factory number 1]⟩,
    ⟨"Slow", [.factory number 2]⟩, latest]

def context : ConversionContext :=
  ⟨"engine", some (.classes ["c", "b", "a"]), none⟩

theorem resolves_latest :
    Resolves registrations (candidates (packages context) "Fast") latest where
  first := ⟨["Fast", "c.Fast"], ["a.Fast"], by decide, by decide⟩
  last := ⟨registrations.take 3, [], rfl, rfl, nofun⟩

theorem not_fits_solver : ¬latest.Fits (.classRef (some "Solver")) := by
  rw [Registration.fits_classRef_iff]
  decide

/-- A class of the last package and an earlier one of the same name would be fit for the bound. -/
theorem class_names_resolved_sample :
    let others := registrations.eraseIdx 2
    let names := candidates (packages context) "Fast"
    Resolves registrations names latest ∧ latest.Fits (.factory number) ∧
      convert (.ofRegistrations registrations) context "Fast" (.element (.factory number)) =
        .ok (.classRef latest.entry) ∧
      (∃ factory : Factory number, Factory.ofClass? latest.entry = some factory ∧
        factory.product = 7) ∧
      ¬latest.Fits (.classRef (some "Solver")) ∧
      convert (.ofRegistrations registrations) context "Fast"
          (.element (.classRef (some "Solver"))) =
        .error (context.invalid "Fast" (.noSubtype "b.Fast" "Solver")) ∧
      others.filter (·.name ∈ names) = registrations.filter (·.name ∈ names) ∧
      convert (.ofRegistrations others) context "Fast" (.element (.factory number)) =
        .ok (.classRef latest.entry) := by
  intro others names
  obtain ⟨hanswer, -, hmisfit, hfactory, hothers⟩ :=
    class_names_resolved registrations context "Fast"
  have hfits : latest.Fits (.factory number) := .factory List.mem_cons_self
  have hvalue := (hanswer (.factory number) (.classRef latest.entry)).2
    ⟨latest, resolves_latest, hfits, rfl⟩
  have hsame : others.filter (·.name ∈ names) = registrations.filter (·.name ∈ names) := rfl
  refine ⟨resolves_latest, hfits, hvalue, ?_, not_fits_solver,
    (hmisfit latest resolves_latest).1 "Solver" not_fits_solver, hsame,
    (hothers others hsame _).trans hvalue⟩
  obtain ⟨registration, -, hentry, factory, htyped, -, hprovides⟩ := hfactory number _ hvalue
  have hproduct := Registration.product?_entry_eq_some_iff.2 hprovides
  rw [← Value.classRef.inj hentry] at htyped hproduct
  exact ⟨factory, htyped, Option.some.inj (hproduct.symm.trans (by decide))⟩

end ClassNamesSample

end TypedOptions
