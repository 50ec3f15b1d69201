import SchemaNaming.RawValue

namespace SchemaNaming

/-!
# Refusals

Why no name is given.
-/

/-- The reasons for which no name is given. -/
inductive Refusal where
  /-- Nothing of the value can stand in an identifier. -/
  | emptyIdentifier (raw : RawValue)
  /-- The value names no category. -/
  | unknownCategory (tag : RawValue)
  /-- The first `tried` candidates are all taken. -/
  | noFreeCandidate (tried : Nat)
deriving DecidableEq

/-- The text that explains a refusal. -/
def Refusal.message : Refusal → Text
  | .emptyIdentifier raw => "名称规范化后为空: '" ++ raw.toText ++ "'"
  | .unknownCategory tag => tag.quoted ++ " is not a valid NameCategory"
  | .noFreeCandidate tried => "no free name among " ++ Text.ofNat tried ++ " candidates"

end SchemaNaming
