/-!
# Settings

A setting as it is found in a file or in the environment, before it is known which field it is for.
-/

namespace CallProfile

/-- A value of a setting. -/
inductive Setting where
  /-- A place that was made without a value. -/
  | absent
  | boolean (value : Bool)
  | integer (value : Int)
  | real (value : Float)
  | text (value : String)
  | list (items : List Setting)
  | table (entries : List (String × Setting))

end CallProfile
