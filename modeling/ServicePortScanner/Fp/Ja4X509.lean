import ServicePortScanner.Data.Bytes

namespace ServicePortScanner.Fp

open ServicePortScanner.Data

/-! JA4X: the fingerprint of a server certificate. -/

/-- The OIDs of a certificate in dotted decimal, in the order they stand in. -/
structure Ja4XInput where
  issuerOids : List Bytes := []
  subjectOids : List Bytes := []
  extOids : List Bytes := []
  deriving DecidableEq, Repr

section

-- empty where the digest cannot be computed
variable (sha256Hex : Bytes → Bytes)

def hashOrDefault (oids : List Bytes) : Bytes :=
  if oids.isEmpty then bytes "000000000000"
  else
    let joined := oids.foldl
      (fun joined oid => (if joined.isEmpty then [] else joined ++ bytes ",") ++ oid)
      []
    let h := sha256Hex joined
    if h.isEmpty then bytes "000000000000" else h.take 12

def computeJa4x (input : Ja4XInput) : Bytes :=
  hashOrDefault sha256Hex input.issuerOids ++ bytes "_" ++
    hashOrDefault sha256Hex input.subjectOids ++ bytes "_" ++
    hashOrDefault sha256Hex input.extOids

end

end ServicePortScanner.Fp
