/-!
# Path templates

A template is a path with places to fill: each `%s` or `%d` takes the next
argument.  `%%` stands for a percent sign.  A place without argument and a
percent sign before any other character stay as they are written.
-/

namespace TypedOptions

structure PathTemplate where
  text : String
  deriving DecidableEq, Repr

namespace PathTemplate

/-- Fills the places of a template in one pass; arguments are not looked at again. -/
def fill : List Char → List (List Char) → List Char
  | [], _ => []
  | '%' :: '%' :: rest, args => '%' :: fill rest args
  | '%' :: 's' :: rest, arg :: args => arg ++ fill rest args
  | '%' :: 'd' :: rest, arg :: args => arg ++ fill rest args
  | c :: rest, args => c :: fill rest args

def expand (template : PathTemplate) (args : List String) : String :=
  String.ofList (fill template.text.toList (args.map String.toList))

@[simp] theorem fill_nil (args : List (List Char)) : fill [] args = [] :=
  rfl

@[simp] theorem fill_percent_percent (rest : List Char) (args : List (List Char)) :
    fill ('%' :: '%' :: rest) args = '%' :: fill rest args :=
  rfl

theorem fill_cons_of_ne {c : Char} (rest : List Char) (args : List (List Char)) (hc : c ≠ '%') :
    fill (c :: rest) args = c :: fill rest args := by
  rw [fill] <;> simp [hc]

end PathTemplate

end TypedOptions
