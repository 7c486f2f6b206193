/-! Codes of findings, one byte a cell: zero for none, then three bands for checks, custom rules and
repeated values. -/
namespace TableAudit

inductive Finding where
  | check (code : UInt8)
  | custom (index : UInt8)
  | repeated
deriving DecidableEq

namespace Finding

def clear : UInt8 := 0

def lastCheck : UInt8 := 200

def customBase : UInt8 := 201

def customLimit : Nat := 50

def repeatedByte : UInt8 := 251

def toByte : Finding → UInt8
  | check code => code
  | custom index => customBase + index
  | repeated => repeatedByte

/-- The finding of a byte; zero and the bytes above the last band have none. -/
def ofByte? (b : UInt8) : Option Finding :=
  if b = clear then none
  else if b ≤ lastCheck then some (check b)
  else if b < repeatedByte then some (custom (b - customBase))
  else if b = repeatedByte then some repeated
  else none

end Finding
end TableAudit
