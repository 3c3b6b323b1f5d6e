import RelaySnapshot.Yaml.Failure

namespace RelaySnapshot.Yaml

inductive ScalarStyle where
  | plain
  | quoted
  | block
  deriving DecidableEq, Repr

structure Tag where
  handle : Text
  suffix : Text
  deriving DecidableEq, Repr

inductive TokenKind where
  | streamEnd
  | directive
  | documentStart
  | documentEnd
  | blockListStart
  | blockMapStart
  | blockEnd
  | flowListStart
  | flowListEnd
  | flowMapStart
  | flowMapEnd
  | blockEntry
  | flowEntry
  | key
  | value
  | alias (name : Text)
  | anchor (name : Text)
  | tag (tag : Tag)
  | scalar (style : ScalarStyle) (text : Text)
  deriving DecidableEq, Repr

structure Token where
  mark : Mark
  kind : TokenKind
  deriving DecidableEq, Repr

end RelaySnapshot.Yaml
