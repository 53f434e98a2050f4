import Mathlib.Data.List.Pairwise
import TypedOptions.Proofs.Injection.ShownValues
import TypedOptions.Proofs.Value.FirstOccurrences

/-!
# Contents of collections

The converted values of a collection are put into a field in the way of its
type: a list holds all of them, a bag each as often as it comes, and a set the
first of equal ones.  Values that are equal are dropped before the field is
filled, and the field has a way of its own to tell what is the same; for values
of the type of its elements the two agree.
-/

namespace TypedOptions

namespace FieldType

variable {type : FieldType} {element : ElementType}

/-- The content is the one that a value of the element type is turned into. -/
structure Stems (type : FieldType) (element : ElementType) (content : type.Carrier) : Prop where
  reads : type.ofValue? (type.toValue content) = some content
  accepts : element.model.Accepts (type.toValue content)

theorem ne_absent_of_accepts {value : Value} (haccepts : element.model.Accepts value) :
    value ≠ .absent := by
  rintro rfl
  cases element <;> cases haccepts

theorem Stems.exists_some {content : (nullable type).Carrier}
    (hcontent : Stems (nullable type) element content) :
    ∃ present, content = some present ∧ Stems type element present := by
  cases content with
  | none => exact absurd rfl (ne_absent_of_accepts hcontent.accepts)
  | some present =>
      have haccepts : element.model.Accepts (type.toValue present) := hcontent.accepts
      have hreads : type.model.nullable.ofValue? (type.toValue present) = some (some present) :=
        hcontent.reads
      rw [FieldModel.ofValue?_nullable (ne_absent_of_accepts haccepts)] at hreads
      obtain ⟨other, hother, hsame⟩ := Option.map_eq_some_iff.1 hreads
      cases hsame
      exact ⟨present, rfl, hother, haccepts⟩

theorem isVerbatim_of_optionType (htype : type.optionType = .element element) :
    type.IsVerbatim := by
  induction type with
  | element type => trivial
  | nullable type ih => exact ih htype
  | _ => cases htype

theorem same_of_stems (htype : type.optionType = .element element) {one other : type.Carrier}
    (hone : Stems type element one) (hother : Stems type element other) :
    type.model.same one other = (type.toValue one).equals (type.toValue other) := by
  induction type with
  | element type =>
      cases htype
      exact ElementType.same_eq_equals hone.reads hother.reads
  | nullable type ih =>
      obtain ⟨first, rfl, hfirst⟩ := hone.exists_some
      obtain ⟨second, rfl, hsecond⟩ := hother.exists_some
      exact (Bool.and_true _).trans (ih htype hfirst hsecond)
  | _ => cases htype

theorem order_eq_iff_of_stems (htype : type.optionType = .element element)
    (horder : element.HasOrder) {one other : type.Carrier}
    (hone : Stems type element one) (hother : Stems type element other) :
    type.model.order one other = .eq ↔
      (type.toValue one).equals (type.toValue other) = true := by
  induction type with
  | element type =>
      cases htype
      exact (ElementType.ordered horder one other).trans
        (Bool.eq_iff_iff.1 (ElementType.same_eq_equals hone.reads hother.reads))
  | nullable type ih =>
      obtain ⟨first, rfl, hfirst⟩ := hone.exists_some
      obtain ⟨second, rfl, hsecond⟩ := hother.exists_some
      refine Iff.trans ?_ (ih htype hfirst hsecond)
      change List.compareLex type.model.order [first] [second] = .eq ↔ _
      cases hsole : type.model.order first second <;> simp [List.compareLex, hsole]
  | _ => cases htype

theorem stems_of_mapM (htype : type.optionType = .element element) {items : List Value}
    (haccepts : ∀ item ∈ items, element.model.Accepts item) {contents : List type.Carrier}
    (hcontents : items.mapM type.ofValue? = some contents) :
    items = contents.map type.toValue ∧ ∀ content ∈ contents, Stems type element content := by
  have hretains := retains (isVerbatim_of_optionType htype)
  induction items generalizing contents with
  | nil =>
      cases hcontents
      exact ⟨rfl, nofun⟩
  | cons item rest ih =>
      rw [List.mapM_cons] at hcontents
      obtain ⟨content, hcontent, hmore⟩ := Option.bind_eq_some_iff.1 hcontents
      obtain ⟨more, hrest, hall⟩ := Option.bind_eq_some_iff.1 hmore
      cases hall
      obtain ⟨hitem, hothers⟩ := List.forall_mem_cons.1 haccepts
      obtain ⟨rfl, hstems⟩ := ih hothers hrest
      have hvalue : type.toValue content = item := hretains item content hcontent
      subst hvalue
      exact ⟨rfl, List.forall_mem_cons.2 ⟨⟨hcontent, hitem⟩, hstems⟩⟩

/-! ## What collections hold -/

/-- The content has the items that it was made of, in the way of its type. -/
def Holds : (type : FieldType) → type.Carrier → List Value → Prop
  | .element _, _, _ => False
  | .nullable type, content, items => ∃ present, content = some present ∧ type.Holds present items
  | .list type, content, items => List.map type.toValue content = items
  | .array type, content, items => List.map type.toValue content = items
  | .set type, content, items =>
      FirstOccurrences Value.equals items (content.toList.map type.toValue)
  | .sortedSet type, content, items =>
      FirstOccurrences Value.equals items (content.toList.map type.toValue) ∧
        content.toList.Pairwise fun earlier later => type.model.order earlier later = .lt
  | .bag type, content, items =>
      (∀ value ∈ content.toList.map type.toValue, value ∈ items) ∧
        ∀ value ∈ items,
          (content.toList.map type.toValue).countP value.equals = items.countP value.equals

/-- Sorted collections are made of elements that have an order. -/
def Orderable : FieldType → Prop
  | .nullable type => type.Orderable
  | .sortedSet type => type.leaf.HasOrder
  | .bag type => type.leaf.HasOrder
  | _ => True

theorem firstOccurrences_dropEqual {items : List Value}
    (haccepts : ∀ item ∈ items, element.model.Accepts item) :
    FirstOccurrences Value.equals items (Value.dropEqual items) := by
  rw [Value.dropEqual_eq]
  apply firstOccurrences_ofList
  intro first hfirst second hsecond third hthird hone htwo
  obtain ⟨one, hreads⟩ := Option.isSome_iff_exists.1 (haccepts first hfirst)
  obtain ⟨two, hreadsTwo⟩ := Option.isSome_iff_exists.1 (haccepts second hsecond)
  obtain ⟨three, hreadsThree⟩ := Option.isSome_iff_exists.1 (haccepts third hthird)
  rw [← ElementType.same_eq_equals hreads hreadsTwo] at hone
  rw [← ElementType.same_eq_equals hreadsTwo hreadsThree] at htwo
  rw [← ElementType.same_eq_equals hreads hreadsThree]
  exact element.links one two three hone htwo

/-- Where no two contents are the same, a set keeps them all. -/
theorem toList_ofList_of_stems (htype : type.optionType = .element element)
    {contents : List type.Carrier} (hstems : ∀ content ∈ contents, Stems type element content)
    (hdistinct : (contents.map type.toValue).Pairwise fun first second =>
      first.equals second = false) :
    (DistinctList.ofList contents : DistinctList type.Carrier type.model.same).toList =
      contents := by
  apply DistinctList.toList_foldl_push
  rw [List.pairwise_map] at hdistinct
  refine hdistinct.imp_of_mem fun hone hother hequals => ?_
  rw [same_of_stems htype (hstems _ hone) (hstems _ hother)]
  exact hequals

/-- Where no two contents are equal, a sorted set keeps them all. -/
theorem firstOccurrences_sorted (htype : type.optionType = .element element)
    (horder : element.HasOrder) {items : List Value} {contents listed : List type.Carrier}
    (hstems : ∀ content ∈ contents, Stems type element content)
    (hfirst : FirstOccurrences Value.equals items (contents.map type.toValue))
    (honce : ListsOnce type.model.order contents listed) :
    FirstOccurrences Value.equals items (listed.map type.toValue) := by
  have hequal : ∀ {one other}, one ∈ contents → other ∈ contents →
      (type.model.order one other = .eq ↔
        (type.toValue one).equals (type.toValue other) = true) := fun hone hother =>
    order_eq_iff_of_stems htype horder (hstems _ hone) (hstems _ hother)
  have hdistinct : contents.Pairwise fun one other => type.model.order one other ≠ .eq := by
    refine (List.pairwise_map.1 hfirst.distinct).imp_of_mem fun hone hother hequals => ?_
    rw [Ne, hequal hone hother, hequals]
    exact Bool.false_ne_true
  have hsymmetric : Std.Symm fun one other => type.model.order one other ≠ .eq :=
    ⟨fun one other hne heq => hne (Std.OrientedCmp.eq_symm heq)⟩
  have hmem : ∀ content, content ∈ listed ↔ content ∈ contents := by
    intro content
    refine ⟨honce.subset content, fun hcontent => ?_⟩
    obtain ⟨kept, hkept, heq⟩ := honce.complete content hcontent
    have hsame : content = kept := by
      by_contra hne
      exact hdistinct.forall hcontent (honce.subset kept hkept) hne heq
    rwa [hsame]
  have hvalues : ∀ value, value ∈ listed.map type.toValue ↔ value ∈ contents.map type.toValue := by
    intro value
    simp only [List.mem_map, hmem]
  refine ⟨fun item => (hvalues item).trans (hfirst.mem_iff item), ?_, fun item hitem => ?_⟩
  · refine List.pairwise_map.2 (honce.ascending.imp_of_mem fun hone hother hless => ?_)
    rw [← Bool.not_eq_true, ← hequal (honce.subset _ hone) (honce.subset _ hother), hless]
    nofun
  · exact (hfirst.complete item hitem).imp (hvalues item).2
      fun ⟨kept, hkept, hequals⟩ => ⟨kept, (hvalues kept).2 hkept, hequals⟩

theorem countP_of_listsEach (htype : type.optionType = .element element)
    (horder : element.HasOrder) {contents listed : List type.Carrier}
    (hstems : ∀ content ∈ contents, Stems type element content)
    (heach : ListsEach type.model.order contents listed) {content : type.Carrier}
    (hcontent : content ∈ contents) :
    (listed.map type.toValue).countP (type.toValue content).equals =
      (contents.map type.toValue).countP (type.toValue content).equals := by
  have hcounts : ∀ others : List type.Carrier, (∀ other ∈ others, other ∈ contents) →
      (others.map type.toValue).countP (type.toValue content).equals =
        others.countP fun other => type.model.order content other == .eq := by
    intro others hothers
    rw [List.countP_map]
    apply List.countP_congr
    intro other hother
    have hequal := order_eq_iff_of_stems htype horder (hstems _ hcontent)
      (hstems _ (hothers other hother))
    rw [Function.comp_apply, beq_iff_eq, hequal]
  rw [hcounts listed heach.subset, hcounts contents fun _ hother => hother, heach.countP_eq]

open OptionDeclaration (collected)

variable {kind : CollectionKind} {items : List Value}

/-- What the items of a collection are turned into holds them. -/
theorem holds_of_ofValue? (htype : type.optionType = .collection kind (.element element))
    (horder : type.Orderable) (haccepts : ∀ item ∈ items, element.model.Accepts item)
    {content : type.Carrier}
    (hcontent : type.ofValue? (.collection (collected kind items)) = some content) :
    type.Holds content items := by
  have hdropped : ∀ item ∈ Value.dropEqual items, element.model.Accepts item := fun item hitem =>
    haccepts item (Value.mem_of_mem_dropEqual hitem)
  have hfirst := firstOccurrences_dropEqual haccepts
  induction type with
  | element type => cases htype
  | nullable type ih =>
      have habsent : Value.collection (collected kind items) ≠ .absent := nofun
      obtain ⟨present, hpresent, rfl⟩ := Option.map_eq_some_iff.1
        ((FieldModel.ofValue?_nullable habsent).symm.trans hcontent)
      exact ⟨present, rfl, ih htype horder hpresent⟩
  | list type ih =>
      obtain ⟨rfl, helement⟩ := OptionType.collection.inj htype
      exact (stems_of_mapM helement haccepts hcontent).1.symm
  | array type ih =>
      obtain ⟨rfl, helement⟩ := OptionType.collection.inj htype
      exact (stems_of_mapM helement haccepts hcontent).1.symm
  | set type ih =>
      obtain ⟨rfl, helement⟩ := OptionType.collection.inj htype
      obtain ⟨contents, hcontents, rfl⟩ := Option.map_eq_some_iff.1 hcontent
      obtain ⟨hvalues, hstems⟩ := stems_of_mapM helement hdropped hcontents
      rw [hvalues] at hfirst
      have htoList := toList_ofList_of_stems helement hstems hfirst.distinct
      exact (congrArg (fun listed => FirstOccurrences Value.equals items
        (listed.map type.toValue)) htoList).mpr hfirst
  | sortedSet type ih =>
      obtain ⟨hkind, helement⟩ := OptionType.collection.inj htype
      have hdrops : kind.dropsDuplicates = true := by
        rw [← hkind]
        split <;> rfl
      rw [collected, if_pos hdrops] at hcontent
      obtain ⟨contents, hcontents, rfl⟩ := Option.map_eq_some_iff.1 hcontent
      obtain ⟨hvalues, hstems⟩ := stems_of_mapM helement hdropped hcontents
      rw [hvalues] at hfirst
      have hleaf : element.HasOrder := eq_leaf_of_optionType helement ▸ horder
      exact ⟨firstOccurrences_sorted helement hleaf hstems hfirst
        (SortedList.listsOnce_ofList contents), (SortedList.ofList contents).ascending⟩
  | bag type ih =>
      obtain ⟨rfl, helement⟩ := OptionType.collection.inj htype
      obtain ⟨contents, hcontents, rfl⟩ := Option.map_eq_some_iff.1 hcontent
      obtain ⟨hvalues, hstems⟩ := stems_of_mapM helement haccepts hcontents
      have hleaf : element.HasOrder := eq_leaf_of_optionType helement ▸ horder
      have heach : ListsEach type.model.order contents _ := Bag.listsEach_ofList contents
      constructor
      · intro value hvalue
        obtain ⟨held, hheld, rfl⟩ := List.mem_map.1 hvalue
        rw [hvalues]
        exact List.mem_map_of_mem (heach.subset held hheld)
      · intro value hvalue
        rw [hvalues] at hvalue ⊢
        obtain ⟨one, hone, rfl⟩ := List.mem_map.1 hvalue
        exact countP_of_listsEach helement hleaf hstems heach hone

/-- A content that is shown as the items of a collection holds them. -/
theorem holds_of_toValue (htype : type.optionType = .collection kind (.element element))
    (haccepts : ∀ item ∈ items, element.model.Accepts item) {content : type.Carrier}
    (hcontent : type.toValue content = .collection (collected kind items)) :
    type.Holds content items := by
  have hfirst := firstOccurrences_dropEqual haccepts
  induction type with
  | element type => cases htype
  | nullable type ih =>
      cases content with
      | none => cases hcontent
      | some present => exact ⟨present, rfl, ih htype hcontent⟩
  | list type ih =>
      obtain ⟨rfl, helement⟩ := OptionType.collection.inj htype
      exact Value.collection.inj hcontent
  | array type ih =>
      obtain ⟨rfl, helement⟩ := OptionType.collection.inj htype
      exact Value.collection.inj hcontent
  | set type ih =>
      obtain ⟨rfl, helement⟩ := OptionType.collection.inj htype
      have hlisted : content.toList.map type.toValue = Value.dropEqual items :=
        Value.collection.inj hcontent
      exact (congrArg (FirstOccurrences Value.equals items) hlisted).mpr hfirst
  | sortedSet type ih =>
      obtain ⟨hkind, helement⟩ := OptionType.collection.inj htype
      have hdrops : kind.dropsDuplicates = true := by
        rw [← hkind]
        split <;> rfl
      rw [collected, if_pos hdrops] at hcontent
      have hlisted : content.toList.map type.toValue = Value.dropEqual items :=
        Value.collection.inj hcontent
      exact ⟨(congrArg (FirstOccurrences Value.equals items) hlisted).mpr hfirst,
        content.ascending⟩
  | bag type ih =>
      obtain ⟨rfl, helement⟩ := OptionType.collection.inj htype
      have hlisted : content.toList.map type.toValue = items := Value.collection.inj hcontent
      refine ⟨fun value hvalue => ?_, fun value _ => ?_⟩
      · rwa [hlisted] at hvalue
      · rw [hlisted]

/-- Lists and arrays are shown as they are. -/
theorem toValue_of_holds (htype : type.optionType = .collection kind (.element element))
    (hkind : kind = .list ∨ kind = .array) {content : type.Carrier}
    (hholds : type.Holds content items) : type.toValue content = .collection items := by
  induction type with
  | element type => cases htype
  | nullable type ih =>
      obtain ⟨present, rfl, hpresent⟩ := hholds
      exact ih htype hpresent
  | list type ih => exact congrArg Value.collection hholds
  | array type ih => exact congrArg Value.collection hholds
  | set type ih =>
      obtain ⟨rfl, -⟩ := OptionType.collection.inj htype
      simp at hkind
  | sortedSet type ih =>
      obtain ⟨rfl, -⟩ := OptionType.collection.inj htype
      split at hkind <;> simp at hkind
  | bag type ih =>
      obtain ⟨rfl, -⟩ := OptionType.collection.inj htype
      simp at hkind

end FieldType

end TypedOptions
