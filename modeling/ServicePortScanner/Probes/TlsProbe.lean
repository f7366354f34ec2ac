import ServicePortScanner.Fp.Ja4Malformed
import ServicePortScanner.Probes.ProbeEngine

namespace ServicePortScanner.Probes

open ServicePortScanner.Data ServicePortScanner.Net ServicePortScanner.Fp

/-! The TLS probe: a handshake through memory buffers, and the fingerprints of
the server's side of it. -/

section

variable {σ : Type}

/-- The loop that empties `wbio`, at most a buffer of it at a time. -/
def sendPending (timeout : Nat) : List Bytes → Task σ Bool
  | [] => return true
  | chunk :: rest => do
      if ← writeAll chunk timeout then sendPending timeout rest
      else return false

/-- The read of the handshake, straight from the socket. -/
def feedHandshake : Task σ (Option Bool) := do
  match ← Co.await (.read 4096) Answer.reading? with
  | none | some [] => return some false
  | some chunk =>
      Co.emit (.fed chunk)
      return none

def handshakeTurn (timeout : Nat) : Task σ (Option Bool) := do
  let (handshake, pending) ← Co.await .doHandshake Answer.stepped?
  if handshake = .done then return some true
  let ok ← sendPending timeout (pending.toChunks 4096)
  if !ok then return some false
  match handshake with
  | .wantRead => feedHandshake
  | .wantWrite => return none
  | _ => return some false

theorem handshakeTurn_progresses (timeout : Nat) :
    Co.Progresses (handshakeTurn timeout : Task σ (Option Bool)) :=
  Co.progresses_await _ _ _

def driveHandshake (timeout : Nat) : Task σ Bool :=
  Co.loop (handshakeTurn timeout) (handshakeTurn_progresses timeout)

end

/-- The body of a ServerHello that has been captured with its header. -/
def parsedHello (data : Bytes) : Ja4SInput :=
  match parsed : parseServerHello data with
  | .ok input => input
  | .error _ => False.elim (by
      obtain ⟨input, total⟩ := parseServerHello_total data
      rw [total] at parsed
      cases parsed)

section

variable (sha256Hex : Bytes → Bytes)

def fillFingerprints (session : TlsSession) (out : ProbeOutcome) :
    ProbeOutcome :=
  let out :=
    if 4 < session.serverHello.length then
      let input := parsedHello (session.serverHello.drop 4)
      let input :=
        match session.cipher with
        | some (_, id) => { input with cipherId := id }
        | none => input
      let input :=
        if session.alpn.isEmpty then input
        else { input with alpn := session.alpn }
      { out with ja4s := computeJa4s sha256Hex input }
    else out
  match session.peer with
  | some peer => { out with ja4x := computeJa4x sha256Hex peer }
  | none => out

namespace TlsProbe

def hintPorts : List UInt16 :=
  [443, 8443, 465, 993, 995]

def identify {σ : Type} (timeout : Nat) : Task σ ProbeOutcome := do
  if !(← Co.await .newContext Answer.created?) then return {}
  if !(← Co.await .newSsl Answer.created?) then return {}
  if !(← Co.await .newBios Answer.created?) then return {}
  if !(← driveHandshake timeout) then return {}
  let session ← Co.await .session Answer.session?
  let cipherName :=
    match session.cipher with
    | some (name, _) => name
    | none => bytes "unknown"
  let version := session.version.getD (bytes "TLS") ++ bytes "/" ++ cipherName
  return fillFingerprints sha256Hex session
    { matched := true
      service := bytes "tls"
      version := version
      banner := version }

end TlsProbe

/-! A ServerHello without an extension block, which versions before 1.3 allow. -/

theorem parsedHello_eq {data : Bytes} {input : Ja4SInput}
    (parsed : parseServerHello data = .ok input) : parsedHello data = input := by
  unfold parsedHello
  split
  · next other read =>
      rw [parsed] at read
      cases read
      rfl
  · next fault read =>
      rw [parsed] at read
      cases read

/-- The parse of the body has its version, its cipher and no extension, and the
fingerprint carries the tag of that version. -/
structure FingerprintsBare (hello : HelloFields) (session : TlsSession)
    (out : ProbeOutcome) : Prop where
  parsed : ∃ input, parseServerHello hello.encode = .ok input ∧
    input.legacyVersion = hello.legacyVersion ∧
    input.cipherId = hello.cipherId ∧ input.extensionTypes = []
  tagged : bytes "t" ++ versionTag hello.legacyVersion <+:
    (fillFingerprints sha256Hex session out).ja4s

/-- The fingerprint of a body without an extension block has no version. -/
theorem ja4s_fields {hello : HelloFields} {header : Bytes}
    {session : TlsSession} (out : ProbeOutcome) (four : header.length = 4)
    (captured : session.serverHello = header ++ hello.encode) :
    bytes "t" ++ bytes "00" <+:
      (fillFingerprints sha256Hex session out).ja4s := by
  have long : 4 < session.serverHello.length := by
    rw [captured, List.length_append, four, HelloFields.encode,
      List.length_append, length_putU16]
    omega
  have parsed : parsedHello (session.serverHello.drop 4) = {} := by
    rw [captured, ← four, List.drop_left]
    exact parsedHello_eq (parseServerHello_fields hello)
  have shown (cipherId : UInt16) (alpn : Bytes) :
      bytes "t" ++ bytes "00" <+:
        computeJa4s sha256Hex { cipherId := cipherId, alpn := alpn } :=
    computeJa4s_version sha256Hex { cipherId := cipherId, alpn := alpn } rfl
  unfold fillFingerprints
  simp only [if_pos long, parsed]
  cases session.peer <;> cases session.cipher <;> cases session.alpn <;>
    exact shown _ _

/-- A body without an extension block is fingerprinted as what it says exactly
where it says nothing. -/
theorem fingerprintsBare_iff {hello : HelloFields} {header : Bytes}
    {session : TlsSession} (out : ProbeOutcome) (four : header.length = 4)
    (captured : session.serverHello = header ++ hello.encode) :
    FingerprintsBare sha256Hex hello session out ↔
      hello.legacyVersion = 0 ∧ hello.cipherId = 0 := by
  constructor
  · intro right
    obtain ⟨input, parsed, version, cipher, _⟩ := right.parsed
    rw [parseServerHello_fields, Except.ok.injEq] at parsed
    rw [← version, ← cipher, ← parsed]
    exact ⟨rfl, rfl⟩
  · rintro ⟨version, cipher⟩
    refine ⟨⟨{}, parseServerHello_fields hello, version.symm, cipher.symm, rfl⟩,
      ?_⟩
    rw [version]
    exact ja4s_fields sha256Hex out four captured

end

/-- A body of the version and cipher, with nothing behind the compression byte. -/
def bareHello (version cipher : UInt16) : HelloFields :=
  { truncatedHello.frame.toHelloFields with
    legacyVersion := version
    cipherId := cipher }

/-- The session in which such a body has been captured. -/
def bareSession (version cipher : UInt16) : TlsSession where
  serverHello := [0x02, 0x00, 0x00, 0x26] ++ (bareHello version cipher).encode
  version := some (bytes "TLSv1.2")
  cipher := some (bytes "ECDHE-RSA-AES128-GCM-SHA256", cipher)
  alpn := []
  peer := none

theorem fingerprintsBare_zero :
    FingerprintsBare id (bareHello 0 0) (bareSession 0 0) {} ↔
      (bareHello 0 0).legacyVersion = 0 ∧ (bareHello 0 0).cipherId = 0 :=
  have four : ([0x02, 0x00, 0x00, 0x26] : Bytes).length = 4 := rfl
  fingerprintsBare_iff id {} four rfl

theorem tls12_notFingerprinted :
    ¬ ∀ (sha256Hex : Bytes → Bytes) (hello : HelloFields) (header : Bytes)
      (session : TlsSession) (out : ProbeOutcome), header.length = 4 →
      session.serverHello = header ++ hello.encode →
      FingerprintsBare sha256Hex hello session out := by
  intro all
  have right := all id (bareHello 0x0303 0xc02f) [0x02, 0x00, 0x00, 0x26]
    (bareSession 0x0303 0xc02f) {} rfl rfl
  obtain ⟨input, parsed, version, _⟩ := right.parsed
  rw [parseServerHello_fields, Except.ok.injEq] at parsed
  rw [← parsed] at version
  exact absurd version (by decide)

end ServicePortScanner.Probes
