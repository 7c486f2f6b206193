import TableAudit.Digest.Sha256
import TableAudit.Schema.Basic

/-! The fingerprint of a schema: a digest of its locale and of the names, types, locales and rules of
its columns. Aliases do not count. -/
namespace TableAudit

def part (heading : String) (body : List Char) : List Char :=
  '\x00' :: heading.toList ++ ':' :: body

def ColumnSpec.content (c : ColumnSpec) : List Char :=
  part "column" c.name.toList ++ part "type" c.cellType.name.toList ++
    part "locale" (c.locale.getD "").toList ++
    c.rules.flatMap fun r => part "rule" r.signature

def Schema.content (s : Schema) : List Char :=
  "locale:".toList ++ (s.locale.getD "").toList ++ s.columns.flatMap ColumnSpec.content

def Schema.contentBytes (s : Schema) : List UInt8 := (String.ofList s.content).toUTF8.toList

def Schema.fingerprint (s : Schema) : String := Sha256.hexDigest s.contentBytes

end TableAudit
