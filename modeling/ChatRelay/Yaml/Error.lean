import ChatRelay.Text.Basic

/-!
# What can be wrong with a YAML text

A text may not follow the grammar. If it does, its aliases may lead nowhere, or multiply without
measure; and a map may have entries or keys that cannot be told.
-/

namespace ChatRelay.Yaml

/-- Why a text has no value. -/
inductive Error where
  | malformed
  | unresolvedAlias (name : Text)
  | excessiveAliases
  | endless
  | mergedNoMap
  | repeatedKey
  | unwritable (name : Text)
  | unresolvedInKey (name : Text)
  | keyWithoutText
  deriving DecidableEq, Repr

end ChatRelay.Yaml
