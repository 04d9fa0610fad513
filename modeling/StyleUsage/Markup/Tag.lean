/-! # Tags

Reading markup reports every opening tag with its attributes. -/

namespace StyleUsage

/-- An opening tag. Its name and the names of its attributes are in lowercase; no two attributes
have the same name. -/
structure Tag where
  name : String
  attributes : List (String × String)
  deriving Repr, DecidableEq

end StyleUsage
