/-!
# ASCII case

Names of fixed vocabularies are compared in upper case, where only the
letters of ASCII are changed.
-/

namespace TypedOptions.Text

def asciiUpper (text : String) : String :=
  String.ofList (text.toList.map Char.toUpper)

def asciiLower (text : String) : String :=
  String.ofList (text.toList.map Char.toLower)

@[simp] theorem asciiUpper_toList (text : String) :
    (asciiUpper text).toList = text.toList.map Char.toUpper := by
  simp [asciiUpper]

@[simp] theorem asciiLower_toList (text : String) :
    (asciiLower text).toList = text.toList.map Char.toLower := by
  simp [asciiLower]

end TypedOptions.Text
