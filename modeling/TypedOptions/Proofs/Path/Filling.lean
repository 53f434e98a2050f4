import Mathlib.Data.List.Forall2
import TypedOptions.Proofs.Path.Joining
import TypedOptions.Proofs.PathTemplate

/-!
# Paths that templates stand for

A template is filled piece by piece, for no argument has a slash.  A piece
without percent sign stays as it is, and one with a percent sign is a name
before and after, as long as arguments are more than points.  A directory
that is joined to a template is filled like the template, and takes the first
arguments.
-/

namespace TypedOptions

open PathTemplate

/-- The path that a template stands for. -/
def PathTemplate.path (template : PathTemplate) (args : List String) : Path :=
  ⟨template.expand args⟩

namespace Path

/-- The text of a path, read as a template. -/
def template (path : Path) : PathTemplate :=
  ⟨path.text⟩

theorem toList_path (path : Path) (args : List String) :
    (path.template.path args).text.toList = fill path.text.toList (args.map String.toList) :=
  String.toList_ofList

theorem filled_path (path : Path) (args : List String) :
    Filled path.text.toList (args.map String.toList) (path.template.path args).text.toList :=
  toList_path path args ▸ filled_fill _ _

theorem eq_of_toList_eq {first second : Path} (h : first.text.toList = second.text.toList) :
    first = second := by
  cases first
  cases second
  exact congrArg Path.mk (String.toList_inj.1 h)

/-! ## Piece by piece -/

/-- Each piece is filled with the arguments that are left by those before it. -/
def fillPieces : List (List Char) → List (List Char) → List (List Char)
  | [], _ => []
  | piece :: rest, args => fill piece args :: fillPieces rest (args.drop (places piece))

theorem splitAll_fill_intercalate {pieces args : List (List Char)} (hne : pieces ≠ [])
    (hpieces : ∀ piece ∈ pieces, '/' ∉ piece) (hargs : ∀ arg ∈ args, '/' ∉ arg) :
    Text.splitAll '/' (fill (['/'].intercalate pieces) args) = fillPieces pieces args := by
  induction pieces generalizing args with
  | nil => exact absurd rfl hne
  | cons piece rest ih =>
      obtain ⟨hpiece, hrest⟩ := List.forall_mem_cons.1 hpieces
      have hfilled : '/' ∉ fill piece args := by
        intro hslash
        rcases (filled_fill piece args).mem hslash with hmem | ⟨arg, harg, hmem⟩
        · exact hpiece hmem
        · exact hargs arg harg hmem
      cases rest with
      | nil => simp [fillPieces, Text.splitAll_of_not_mem hfilled]
      | cons next more =>
          have hleft : ∀ arg ∈ args.drop (places piece), '/' ∉ arg :=
            fun arg harg => hargs arg (List.mem_of_mem_drop harg)
          rw [List.intercalate_cons_cons, List.append_assoc, List.singleton_append,
            fill_append_slash, Text.splitAll_append_separator, Text.splitAll_of_not_mem hfilled,
            ih (List.cons_ne_nil _ _) hrest hleft]
          rfl

theorem pieces_path (path : Path) {args : List String} (hargs : ∀ arg ∈ args, '/' ∉ arg.toList) :
    (path.template.path args).pieces = fillPieces path.pieces (args.map String.toList) := by
  have hslash : ∀ arg ∈ args.map String.toList, '/' ∉ arg := by simpa using hargs
  have hfill := splitAll_fill_intercalate (Text.splitAll_ne_nil '/' path.text.toList)
    (fun _ => Text.not_mem_of_mem_splitAll) hslash
  rw [Text.intercalate_splitAll] at hfill
  rw [pieces, toList_path]
  exact hfill

/-! ## Components -/

/-- A component stays as it is, or it is a name with a percent sign and becomes a name. -/
inductive Refilled : Component → Component → Prop where
  | same (component : Component) : Refilled component component
  | name {text other : String} (hpercent : '%' ∈ text.toList) :
      Refilled (.name text) (.name other)

theorem component?_of_mem {piece : List Char} {c : Char} (hc : c ∈ piece) (hne : c ≠ '.') :
    component? piece = some (.name (String.ofList piece)) := by
  apply component?_of_ne <;> rintro rfl <;> simp [hne] at hc

theorem fillPieces_cons_of_not_mem {piece : List Char} (rest args : List (List Char))
    (hpercent : '%' ∉ piece) : fillPieces (piece :: rest) args = piece :: fillPieces rest args := by
  have hliteral := isLiteral_of_not_mem hpercent
  rw [fillPieces, fill_of_isLiteral hliteral, places_of_isLiteral hliteral, List.drop_zero]

section Arguments

variable {args : List (List Char)} (hargs : ∀ arg ∈ args, ∃ c ∈ arg, c ≠ '.')

include hargs

theorem forall₂_fillPieces (pieces : List (List Char)) :
    List.Forall₂ Refilled (pieces.filterMap component?)
      ((fillPieces pieces args).filterMap component?) := by
  induction pieces generalizing args with
  | nil => exact .nil
  | cons piece rest ih =>
      by_cases hpercent : '%' ∈ piece
      · have hleft : ∀ arg ∈ args.drop (places piece), ∃ c ∈ arg, c ≠ '.' :=
          fun arg harg => hargs arg (List.mem_of_mem_drop harg)
        obtain ⟨c, hc, hne⟩ := (filled_fill piece args).exists_ne_point hpercent hargs
        rw [fillPieces, List.filterMap_cons_some (component?_of_mem hpercent (by decide)),
          List.filterMap_cons_some (component?_of_mem hc hne)]
        exact .cons (.name (by simpa using hpercent)) (ih hleft)
      · rw [fillPieces_cons_of_not_mem rest args hpercent]
        cases hpiece : component? piece with
        | none =>
            rw [List.filterMap_cons_none hpiece, List.filterMap_cons_none hpiece]
            exact ih hargs
        | some component =>
            rw [List.filterMap_cons_some hpiece, List.filterMap_cons_some hpiece]
            exact .cons (.same component) (ih hargs)

theorem leadOf_fillPieces (pieces : List (List Char)) :
    leadOf (fillPieces pieces args) = leadOf pieces := by
  cases pieces with
  | nil => rfl
  | cons first rest =>
      by_cases hpercent : '%' ∈ first
      · obtain ⟨c, hc, hne⟩ := (filled_fill first args).exists_ne_point hpercent hargs
        have hfirst : first ≠ ['.'] := by
          rintro rfl
          simp at hpercent
        have hfilled : fill first args ≠ ['.'] := by
          intro heq
          simp [heq, hne] at hc
        rw [fillPieces, leadOf_of_ne _ (List.ne_nil_of_mem hc) hfilled,
          leadOf_of_ne _ (List.ne_nil_of_mem hpercent) hfirst]
      · rw [fillPieces_cons_of_not_mem rest args hpercent]
        cases rest with
        | nil => rfl
        | cons second more =>
            -- what is left to see of the pieces behind the first is that there are some
            rw [fillPieces]
            by_cases hempty : first = []
            · subst hempty
              rfl
            · by_cases hpoint : first = ['.']
              · subst hpoint
                rfl
              · rw [leadOf_of_ne _ hempty hpoint, leadOf_of_ne _ hempty hpoint]

end Arguments

theorem forall₂_components (path : Path) {args : List String}
    (hargs : ∀ arg ∈ args, '/' ∉ arg.toList ∧ ∃ c ∈ arg.toList, c ≠ '.') :
    List.Forall₂ Refilled path.components (path.template.path args).components := by
  have hpieces := pieces_path path fun arg harg => (hargs arg harg).1
  have hpoint : ∀ arg ∈ args.map String.toList, ∃ c ∈ arg, c ≠ '.' := by
    simpa using fun arg harg => (hargs arg harg).2
  rw [components_eq, components_eq, lead, lead, body, body, hpieces, leadOf_fillPieces hpoint]
  have hlead : List.Forall₂ Refilled (leadOf path.pieces) (leadOf path.pieces) :=
    List.forall₂_same.2 fun component _ => .same component
  exact List.rel_append hlead (forall₂_fillPieces hpoint _)

/-! ## Joining -/

section Joining

variable {args : List String} (hargs : ∀ arg ∈ args, arg ≠ "" ∧ '/' ∉ arg.toList)

include hargs

theorem nonempty_noSlash_map :
    ∀ arg ∈ args.map String.toList, arg ≠ [] ∧ '/' ∉ arg := by
  intro arg harg
  obtain ⟨text, htext, rfl⟩ := List.mem_map.1 harg
  obtain ⟨hne, hslash⟩ := hargs text htext
  exact ⟨fun hnil => hne (String.toList_eq_nil_iff.1 hnil), hslash⟩

theorem isAbsolute_path (path : Path) :
    (path.template.path args).isAbsolute = path.isAbsolute := by
  have hhead := (filled_path path args).head?_eq_slash_iff (nonempty_noSlash_map hargs)
  unfold isAbsolute
  rw [Bool.eq_iff_iff, beq_iff_eq, beq_iff_eq]
  exact hhead

theorem endsWithSlash_path (path : Path) :
    (path.template.path args).endsWithSlash = path.endsWithSlash := by
  have hlast := (filled_path path args).getLast?_eq_slash_iff (nonempty_noSlash_map hargs)
  unfold endsWithSlash
  rw [Bool.eq_iff_iff, beq_iff_eq, beq_iff_eq]
  exact hlast

theorem text_path_eq_empty_iff (path : Path) :
    (path.template.path args).text = "" ↔ path.text = "" := by
  have hnil := (filled_path path args).eq_nil_iff fun arg harg =>
    (nonempty_noSlash_map hargs arg harg).1
  rwa [String.toList_eq_nil_iff, String.toList_eq_nil_iff] at hnil

/-- A directory before a template is filled as well, and takes the first arguments. -/
theorem path_template_join {base path : Path} (hpath : path.isAbsolute = false) :
    (base.join path).template.path args =
      (base.template.path args).join
        (path.template.path (args.drop (places base.text.toList))) := by
  have hleft : ∀ arg ∈ args.drop (places base.text.toList), arg ≠ "" ∧ '/' ∉ arg.toList :=
    fun arg harg => hargs arg (List.mem_of_mem_drop harg)
  have hrelative := (isAbsolute_path hleft path).trans hpath
  by_cases htext : base.text = ""
  · have hplaces : places base.text.toList = 0 := by simp [htext]
    rw [join_of_text_eq htext, join_of_text_eq ((text_path_eq_empty_iff hargs base).2 htext),
      hplaces, List.drop_zero]
  · have hfilled := mt (text_path_eq_empty_iff hargs base).1 htext
    apply eq_of_toList_eq
    cases hslash : base.endsWithSlash with
    | true =>
        obtain ⟨before, hbefore⟩ := exists_of_endsWithSlash hslash
        have hplaces : places base.text.toList = places before := by
          rw [hbefore, places_append_slash, places_nil, Nat.add_zero]
        have hfilledBefore : (base.template.path args).text.toList =
            fill before (args.map String.toList) ++ ['/'] := by
          rw [toList_path base args, hbefore, fill_append_slash, fill_nil]
        rw [toList_join_of_slash hfilledBefore hrelative, toList_path (base.join path) args,
          toList_path path, toList_join_of_slash hbefore hpath, fill_append_slash, List.map_drop,
          hplaces]
    | false =>
        have hfilledSlash := (endsWithSlash_path hargs base).trans hslash
        rw [toList_join_of_not_slash hfilled hfilledSlash hrelative,
          toList_path (base.join path) args, toList_path base args, toList_path path,
          toList_join_of_not_slash htext hslash hpath, fill_append_slash, List.map_drop]

end Joining

/-! ## Literal directories -/

/-- The characters of all names on the way. -/
def nameChars (components : List Component) : List Char :=
  components.flatMap fun component => component.nameText.toList

theorem count_nameChars_filterMap (pieces : List (List Char)) :
    (nameChars (pieces.filterMap component?)).count '%' = pieces.flatten.count '%' := by
  have hpiece : ∀ piece, piece.count '%' =
      ((component? piece).elim [] fun component => component.nameText.toList).count '%' := by
    intro piece
    unfold component?
    split <;> simp [Component.nameText]
  induction pieces with
  | nil => rfl
  | cons piece rest ih =>
      rw [List.flatten_cons, List.count_append, hpiece piece, ← ih]
      cases hcomponent : component? piece with
      | none => simp [List.filterMap_cons_none hcomponent]
      | some component => simp [List.filterMap_cons_some hcomponent, nameChars]

theorem nameChars_lead (path : Path) : nameChars path.lead = [] := by
  unfold lead leadOf
  split <;> rfl

/-- All percent signs of a path are in its names. -/
theorem count_nameChars_components (path : Path) :
    (nameChars path.components).count '%' = path.text.toList.count '%' := by
  have happend : nameChars path.components = nameChars path.lead ++ nameChars path.body := by
    rw [components_eq, nameChars, List.flatMap_append]
    rfl
  rw [happend, nameChars_lead, List.nil_append, body, count_nameChars_filterMap, pieces,
    Text.count_flatten_splitAll (by decide)]

theorem path_template_of_isLiteral {path : Path} (hliteral : IsLiteral path.text.toList)
    (args : List String) : path.template.path args = path := by
  apply eq_of_toList_eq
  rw [toList_path, fill_of_isLiteral hliteral]

theorem path_template_replicate (path : Path) (text : String) {count : Nat}
    (hcount : places path.text.toList ≤ count) :
    path.template.path (List.replicate count text) =
      path.template.path (List.replicate (places path.text.toList) text) := by
  have htake := (filled_fill path.text.toList (List.replicate count text.toList)).fill_take
    (Nat.le_refl _)
  rw [List.take_replicate, Nat.min_eq_left hcount] at htake
  apply eq_of_toList_eq
  rw [toList_path, toList_path, List.map_replicate, List.map_replicate, htake]

/-- A directory that is kept before a template, whatever this one is filled with, has nothing to
fill in it: otherwise one of its percent signs is lost when there are arguments for all places. -/
theorem isLiteral_of_same {base path : Path} (hpath : path.isAbsolute = false)
    (hsame : ∀ args : List String, (∀ arg ∈ args, arg ≠ "" ∧ '/' ∉ arg.toList) →
      ((base.join path).template.path args).same (base.join (path.template.path args)) = true) :
    IsLiteral base.text.toList := by
  by_cases htext : base.text = ""
  · exact isLiteral_of_not_mem (by simp [htext])
  · let count := places base.text.toList + places path.text.toList
    have hargs : ∀ arg ∈ List.replicate count "x", arg ≠ "" ∧ '/' ∉ arg.toList := by
      intro arg harg
      rw [List.eq_of_mem_replicate harg]
      decide
    have hrelative := (isAbsolute_path hargs path).trans hpath
    have hfilled := mt (text_path_eq_empty_iff hargs base).1 htext
    have hrest : path.template.path ((List.replicate count "x").drop (places base.text.toList)) =
        path.template.path (List.replicate count "x") := by
      have henough : places path.text.toList ≤ count := Nat.le_add_left _ _
      have hleft : count - places base.text.toList = places path.text.toList := by omega
      rw [List.drop_replicate, hleft, path_template_replicate path "x" henough]
    have hcomponents := same_iff.1 (hsame _ hargs)
    rw [path_template_join hargs hpath, hrest, components_join hfilled hrelative,
      components_join htext hrelative, List.append_cancel_right_eq] at hcomponents
    have hpercents : (base.template.path (List.replicate count "x")).text.toList.count '%' =
        base.text.toList.count '%' := by
      rw [← count_nameChars_components, hcomponents, count_nameChars_components]
    have hfilledBase := filled_path base (List.replicate count "x")
    refine hfilledBase.isLiteral ?_ ?_ (Nat.le_of_eq hpercents.symm)
    · intro arg harg
      rw [List.map_replicate] at harg
      rw [List.eq_of_mem_replicate harg]
      decide
    · simp [count]

end Path

end TypedOptions
