import RouteReport.Text.Basic

namespace RouteReport

/-- The fields of a record keep their order. -/
inductive Document where
  | text (value : Text)
  | number (value : Int)
  | list (items : List Document)
  | record (fields : List (Text × Document))
  deriving Inhabited, Repr

namespace Document

def ofInt (value : Int) : Text :=
  if value < 0 then '-' :: Text.ofNat value.natAbs else Text.ofNat value.natAbs

end Document

end RouteReport
