/-! Variables that a program finds around it, each with a value. -/

namespace TradeSpeech.Environment

def entry (key value : String) : List Char :=
  key.toList ++ '=' :: value.toList

/-- The value of a name. It is what follows the name and an equals sign in the
first entry that starts with them, so a name that holds an equals sign itself
reaches into a value that holds one. -/
def value? (known : List (String × String)) (name : String) : Option String :=
  known.findSome? fun (key, value) =>
    (List.isPrefixOf? (name.toList ++ ['=']) (entry key value)).map String.ofList

example : value? [("HOME", "/a"), ("PLACE", "B=C")] "PLACE" = some "B=C" := by decide +kernel

example : value? [("HOME", "/a"), ("PLACE", "B=C")] "PLACE=B" = some "C" := by decide +kernel

example : value? [("HOME", "/a"), ("PLACE", "B=C")] "PLACE=C" = none := by decide +kernel

end TradeSpeech.Environment
