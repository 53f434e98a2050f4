import TypedOptions.Proofs.Regex.Splicing
import TypedOptions.Regex.Reader

/-!
# Bounds in front of a parenthesis

The bounds of a repetition end with a brace.  The parenthesis behind a pattern
is no brace, so bounds that a pattern leaves open stay open.
-/

namespace TypedOptions.Regex

/-! ## Numbers -/

/-- Takes white space. -/
def trimming : Reader Unit := fun text =>
  some ((), Text.trimStart text)

theorem leaves_trimming : trimming.Leaves := by
  intro text a rest hread
  cases hread
  exact List.dropWhile_suffix _

theorem peeks_trimming (text : List Char) : trimming.Peeks text := by
  induction text with
  | nil =>
      refine .atEnd (fun a rest hread => ?_) fun count a rest hread => ?_
      · cases hread
        rfl
      · exact leaves_trimming _ a rest hread
  | cons c text ih =>
      cases hblank : Text.isBlank c with
      | true =>
          refine ih.of_eq fun more _ => ?_
          rw [trimming, List.cons_append, Text.trimStart_cons_of_isBlank _ hblank]
          rfl
      | false =>
          refine (Reader.splices_given (some ()) (c :: text)).peeks.of_eq fun more _ => ?_
          rw [trimming, List.cons_append, Text.trimStart_cons_of_not_isBlank _ hblank]
          rfl

/-- Takes decimal digits. -/
def digits (flags : Flags) : Reader (List Char) := fun text =>
  some (flags.digits text)

theorem digits_nil (flags : Flags) : flags.digits [] = ([], []) := by
  rw [Flags.digits]

theorem digits_of_isDigit {flags : Flags} {c : Char} (hc : c.isDigit = true) (rest : List Char) :
    digits flags (c :: rest) = (flags.skipping.andThen fun _ => (digits flags).andThen fun more =>
      .given (some (c :: more))) rest := by
  rw [Flags.skipping_andThen, digits, Flags.digits, if_pos hc]
  rfl

theorem digits_of_not_isDigit {flags : Flags} {c : Char} (hc : c.isDigit = false)
    (rest : List Char) : digits flags (c :: rest) = Reader.given (some []) (c :: rest) := by
  rw [digits, Flags.digits, hc]
  rfl

theorem leaves_digits (flags : Flags) : (digits flags).Leaves := by
  intro text found after hread
  induction hlength : text.length using Nat.strongRecOn generalizing text found with
  | ind length ih =>
      cases text with
      | nil =>
          rw [digits, digits_nil] at hread
          cases hread
          exact List.suffix_rfl
      | cons c rest =>
          cases hc : c.isDigit with
          | true =>
              rw [digits_of_isDigit hc, Flags.skipping_andThen] at hread
              obtain ⟨more, last, hmore, hlast⟩ := Reader.andThen_eq_some.1 hread
              cases hlast
              have hless : (flags.skip rest).length < length :=
                hlength ▸ Nat.lt_succ_of_le (flags.length_skip_le rest)
              exact (ih _ hless _ _ hmore rfl).trans
                ((flags.skip_suffix rest).trans (List.suffix_cons ..))
          | false =>
              rw [digits_of_not_isDigit hc] at hread
              exact Reader.leaves_given _ _ found after hread

theorem peeks_digits (flags : Flags) (text : List Char) : (digits flags).Peeks text := by
  induction hlength : text.length using Nat.strongRecOn generalizing text with
  | ind length ih =>
      cases text with
      | nil =>
          refine .atEnd (fun found rest hread => ?_) fun count found rest hread => ?_
          · rw [digits, digits_nil] at hread
            cases hread
            rfl
          · exact leaves_digits flags _ found rest hread
      | cons c rest =>
          cases hc : c.isDigit with
          | true =>
              refine Reader.Peeks.of_eq ?_ fun more _ => digits_of_isDigit hc (rest ++ more)
              refine (flags.peeks_skipping rest).andThen
                (fun _ => (leaves_digits flags).andThen_given _) fun _ d more hskip => ?_
              have hskipped : flags.skip rest = d :: more := congrArg Prod.snd (Option.some.inj hskip)
              refine (ih _ ?_ _ rfl).andThen_given _
              exact hskipped ▸ hlength ▸ Nat.lt_succ_of_le (flags.length_skip_le rest)
          | false =>
              exact (Reader.splices_given (some []) (c :: rest)).peeks.of_eq fun more _ =>
                digits_of_not_isDigit hc _

/-- The number that digits write. -/
def numberOf? (digits : List Char) : Option Nat :=
  if digits = [] then none else Double.digitsValue? digits

/-- A number of repetitions. -/
def count (flags : Flags) : Reader Nat :=
  trimming.andThen fun _ => (digits flags).andThen fun digits =>
    trimming.andThen fun _ => .given (numberOf? digits)

theorem count_eq (flags : Flags) (text : List Char) :
    count flags text =
      (readCount? flags text).1.map fun number => (number, (readCount? flags text).2) :=
  rfl

theorem leaves_count (flags : Flags) : (count flags).Leaves :=
  leaves_trimming.andThen fun _ => (leaves_digits flags).andThen fun _ =>
    leaves_trimming.andThen_given _

theorem peeks_count (flags : Flags) (text : List Char) : (count flags).Peeks text :=
  (peeks_trimming text).andThen
    (fun _ => (leaves_digits flags).andThen fun _ => leaves_trimming.andThen_given _)
    fun _ c rest _ => (peeks_digits flags (c :: rest)).andThen
      (fun _ => leaves_trimming.andThen_given _)
      fun _ d more _ => (peeks_trimming (d :: more)).andThen_given _

/-! ## Bounds -/

/-- The greatest number behind a comma, which may be missing. -/
def greatest (flags : Flags) : Reader (Option Nat)
  | '\x7d' :: rest => some (none, '\x7d' :: rest)
  | text => (count flags).andThen (fun greatest => .given (some (some greatest))) text

/-- The greatest number of repetitions, without a comma the least one. -/
def upper (flags : Flags) (least : Nat) : Reader (Option Nat)
  | ',' :: rest => flags.skipping.andThen (fun _ => greatest flags) rest
  | text => some (some least, text)

/-- The bounds, if they are in order. -/
def closed? (least : Nat) (greatest? : Option Nat) : Option (Nat × Option Nat) :=
  if least > maxCount || greatest?.any fun greatest => greatest > maxCount || greatest < least
    then none
  else some (least, greatest?)

/-- The brace behind the bounds. -/
def closeBounds? (least : Nat) (greatest? : Option Nat) : Reader (Nat × Option Nat)
  | '\x7d' :: rest => Reader.given (closed? least greatest?) rest
  | _ => none

/-- The bounds of a repetition. -/
def bounds (flags : Flags) : Reader (Nat × Option Nat) :=
  (flags.skipping.andThen fun _ => count flags).andThen fun least =>
    (upper flags least).andThen (closeBounds? least)

theorem greatest_of_ne {flags : Flags} {text : List Char} (htext : ∀ rest, text ≠ '\x7d' :: rest) :
    greatest flags text =
      (count flags).andThen (fun greatest => .given (some (some greatest))) text := by
  rw [greatest]
  exact htext

theorem upper_of_ne {flags : Flags} {least : Nat} {text : List Char}
    (htext : ∀ rest, text ≠ ',' :: rest) :
    upper flags least text = some (some least, text) := by
  rw [upper]
  exact htext

theorem closeBounds?_of_ne {least : Nat} {greatest? : Option Nat} {text : List Char}
    (htext : ∀ rest, text ≠ '\x7d' :: rest) : closeBounds? least greatest? text = none := by
  rw [closeBounds?]
  exact htext

theorem closeBounds?_eq (least : Nat) (greatest? : Option Nat) (text : List Char) :
    closeBounds? least greatest? text =
      if least > maxCount || greatest?.any fun greatest => greatest > maxCount || greatest < least
        then none
      else
        match text with
        | '\x7d' :: rest => some ((least, greatest?), rest)
        | _ => none := by
  unfold closeBounds? closed?
  split <;> split <;> rfl

theorem readBounds?_eq (flags : Flags) : readBounds? flags = bounds flags := by
  funext text
  rw [bounds, Reader.andThen, Flags.skipping_andThen, count_eq, readBounds?]
  obtain ⟨least?, rest⟩ := readCount? flags (flags.skip text)
  cases least? with
  | none => rfl
  | some least =>
      simp only [Option.bind_eq_bind, Option.bind_some, Option.map_some, Reader.andThen]
      split
      · rename_i after
        rw [upper, Flags.skipping_andThen]
        split
        · rename_i rest hskip
          rw [hskip, greatest, Option.bind_some, closeBounds?_eq]
          rfl
        · rename_i hbrace
          rw [greatest_of_ne hbrace, Reader.andThen, count_eq]
          obtain ⟨greatest?, rest⟩ := readCount? flags (flags.skip after)
          cases greatest? with
          | none => rfl
          | some greatest => exact (closeBounds?_eq least (some greatest) rest).symm
      · rename_i hcomma
        rw [upper_of_ne hcomma]
        exact (closeBounds?_eq least (some least) rest).symm

theorem leaves_greatest (flags : Flags) : (greatest flags).Leaves := by
  intro text greatest? after hread
  unfold greatest at hread
  split at hread
  · cases hread
    exact List.suffix_rfl
  · exact (leaves_count flags).andThen_given (fun greatest => some (some greatest)) _ greatest? after
      hread

theorem peeks_greatest (flags : Flags) (text : List Char) : (greatest flags).Peeks text :=
  .of_mark (by decide) (fun rest => rfl) (fun text => greatest_of_ne)
    (fun rest _ => (Reader.splices_given (some none) ('\x7d' :: rest)).peeks.of_eq fun more _ => rfl)
    fun _ => (peeks_count flags text).andThen_given _

theorem leaves_upper (flags : Flags) (least : Nat) : (upper flags least).Leaves := by
  intro text greatest? after hread
  unfold upper at hread
  split at hread
  · exact (flags.leaves_skipping.andThen (fun _ => leaves_greatest flags) _ greatest? after
      hread).trans (List.suffix_cons ..)
  · cases hread
    exact List.suffix_rfl

theorem peeks_upper (flags : Flags) (least : Nat) (text : List Char) :
    (upper flags least).Peeks text :=
  .of_mark (by decide) (fun rest => rfl) (fun text => upper_of_ne)
    (fun rest _ => (flags.peeks_skipping rest).andThen (fun _ => leaves_greatest flags)
      fun _ c more _ => peeks_greatest flags (c :: more))
    fun _ => (Reader.splices_given (some (some least)) text).peeks

theorem leaves_closeBounds? (least : Nat) (greatest? : Option Nat) :
    (closeBounds? least greatest?).Leaves := by
  intro text result after hread
  unfold closeBounds? at hread
  split at hread
  · exact (Reader.leaves_given _ _ result after hread).trans (List.suffix_cons ..)
  · cases hread

theorem splices_closeBounds? (least : Nat) (greatest? : Option Nat) (text : List Char) :
    (closeBounds? least greatest?).Splices text :=
  .of_mark (by decide) (fun rest => rfl) (fun text => closeBounds?_of_ne)
    (fun rest _ => Reader.splices_given (closed? least greatest?) rest)
    fun _ => Reader.splices_given none text

/-- Bounds end with a brace only. -/
theorem closeBounds?_of_suffix_closing {least limit : Nat} {greatest? : Option Nat}
    {text : List Char} (htext : text <:+ closing limit) :
    closeBounds? least greatest? text = none := by
  refine closeBounds?_of_ne fun rest heq => ?_
  exact not_mem_of_suffix_closing htext (by decide) (by decide) (heq ▸ List.mem_cons_self)

theorem upper_andThen_of_suffix_closing {flags : Flags} {least limit : Nat} {text : List Char}
    (htext : text <:+ closing limit) :
    (upper flags least).andThen (closeBounds? least) text = none := by
  have hupper : upper flags least text = some (some least, text) := by
    refine upper_of_ne fun rest heq => ?_
    exact not_mem_of_suffix_closing htext (by decide) (by decide) (heq ▸ List.mem_cons_self)
  rw [Reader.andThen_of_some hupper, closeBounds?_of_suffix_closing htext]

theorem leaves_bounds (flags : Flags) : (bounds flags).Leaves :=
  (flags.leaves_skipping.andThen fun _ => leaves_count flags).andThen fun least =>
    (leaves_upper flags least).andThen (leaves_closeBounds? least)

theorem splices_bounds (flags : Flags) (text : List Char) : (bounds flags).Splices text := by
  have hcount := (flags.peeks_skipping text).andThen (fun _ => leaves_count flags)
    fun _ c rest _ => peeks_count flags (c :: rest)
  refine hcount.splices (fun least c rest _ => ?_)
    fun _ least _ _ limit more hmore => upper_andThen_of_suffix_closing hmore
  exact (peeks_upper flags least (c :: rest)).splices
    (fun greatest? d more _ => splices_closeBounds? least greatest? (d :: more))
    fun _ greatest? _ _ limit more hmore => closeBounds?_of_suffix_closing hmore

/-- No number begins with the parenthesis. -/
theorem count_of_suffix_closing {flags : Flags} {limit : Nat} {text : List Char}
    (htext : text <:+ closing limit) : count flags text = none := by
  have hdigits : digits flags (Text.trimStart text) = some ([], Text.trimStart text) := by
    cases hrest : Text.trimStart text with
    | nil => rw [digits, digits_nil]
    | cons c rest =>
        have hc : c ∈ text := (List.dropWhile_suffix _).subset (hrest ▸ List.mem_cons_self)
        have hdigit : c.isDigit = false := by
          rcases mem_closing (htext.subset hc) with rfl | rfl <;> rfl
        rw [digits_of_not_isDigit hdigit]
        rfl
  rw [count, Reader.andThen_of_some (rfl : trimming text = some ((), Text.trimStart text)),
    Reader.andThen_of_some hdigits]
  rfl

/-- No bounds begin with the parenthesis. -/
theorem bounds_of_hidden {flags : Flags} {inner : List Char} (hskip : flags.skip inner = [])
    (limit : Nat) : bounds flags (inner ++ closing limit) = none := by
  have hsuffix : flags.skip (inner ++ closing limit) <:+ closing limit := by
    obtain ⟨hidden, hspliced⟩ := Flags.exists_hidden hskip
    rw [hspliced]
    cases hidden with
    | true => exact List.nil_suffix
    | false => exact List.suffix_rfl
  exact Reader.andThen_of_none (count_of_suffix_closing hsuffix)

end TypedOptions.Regex
