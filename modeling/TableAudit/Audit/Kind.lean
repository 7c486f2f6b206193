/-! The kinds of findings, whatever column they are in. -/
namespace TableAudit

inductive FindingKind where
  | required
  | type
  | range
  | length
  | pattern
  | choice
  | email
  | unique
  | custom
deriving DecidableEq

namespace FindingKind

def code : FindingKind → String
  | required => "REQUIRED"
  | type => "TYPE_MISMATCH"
  | range => "RANGE"
  | length => "LENGTH"
  | pattern => "PATTERN"
  | choice => "ENUM"
  | email => "EMAIL"
  | unique => "UNIQUE"
  | custom => "CUSTOM"

def all : List FindingKind :=
  [required, type, range, length, pattern, choice, email, unique, custom]

def ofCode? (s : String) : Option FindingKind := all.find? fun k => k.code = s

end FindingKind
end TableAudit
