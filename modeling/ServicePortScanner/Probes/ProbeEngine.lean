import ServicePortScanner.Probes.BannerIo

namespace ServicePortScanner.Probes

open ServicePortScanner.Data ServicePortScanner.Net

/-! Probes that are described by rules. -/

structure MatchRule where
  rawPattern : Bytes
  serviceTemplate : Bytes
  versionTemplate : Bytes
  deriving DecidableEq, Repr

structure ProbeRule where
  name : Bytes
  ports : List UInt16
  sendPayload : Bytes
  /-- the first that matches wins -/
  matchRules : List MatchRule
  deriving DecidableEq, Repr

/-- `$0` to `$9` stand for the groups of the match, the empty text if there is
no such group. -/
def applyTemplate (groups : List Bytes) : Bytes → Bytes
  | [] => []
  | c :: d :: rest =>
      if c = 0x24 ∧ IsDigit d then
        groups.getD (d.toNat - 0x30) [] ++ applyTemplate groups rest
      else
        c :: applyTemplate groups (d :: rest)
  | [c] => [c]

def firstMatch {σ : Type} (banner : Bytes) :
    List MatchRule → Task σ ProbeOutcome
  | [] => return {}
  | rule :: rest => do
      match ← regexSearch banner rule.rawPattern with
      | none => firstMatch banner rest
      | some groups =>
          return {
            matched := true
            service := applyTemplate groups rule.serviceTemplate
            version := applyTemplate groups rule.versionTemplate
            banner := banner.take (min banner.length 1024) }

namespace ProbeRule

variable {σ : Type}

/-- `identify` once the payload has been sent. -/
def readAndMatch (rule : ProbeRule) (timeout : Nat) : Task σ ProbeOutcome := do
  let (read, banner) ← Co.withStore [] (readUntilQuiet timeout kMaxBannerBytes)
  if !read || banner.isEmpty then return {}
  firstMatch banner rule.matchRules

def identify (rule : ProbeRule) (timeout : Nat) : Task σ ProbeOutcome := do
  unless rule.sendPayload.isEmpty do
    let wrote ← writeAll rule.sendPayload timeout
    if !wrote then return {}
  rule.readAndMatch timeout

end ProbeRule

/-! The rules of `kDefaultDb`, as parsed. -/

def sshRule : ProbeRule where
  name := bytes "ssh"
  ports := [22, 2222]
  sendPayload := []
  matchRules :=
    [⟨bytes "^SSH-\\d+\\.\\d+-([^\\r\\n]+)", bytes "ssh", bytes "$1"⟩]

def ftpRule : ProbeRule where
  name := bytes "ftp"
  ports := [21]
  sendPayload := []
  matchRules :=
    [⟨bytes "^220[\\s\\S]*?((?:vsFTPd|ProFTPD|FileZilla|Pure-FTPd)" ++
        bytes "[\\s/]?[\\d.\\w-]+)", bytes "ftp", bytes "$1"⟩,
      ⟨bytes "^220", bytes "ftp", []⟩]

def smtpRule : ProbeRule where
  name := bytes "smtp"
  ports := [25, 465, 587]
  sendPayload := []
  matchRules :=
    [⟨bytes "^220[\\s\\S]*?((?:Postfix|Sendmail|Exim|Microsoft ESMTP|qmail)" ++
        bytes "[\\s/]?[\\d.\\w-]*)", bytes "smtp", bytes "$1"⟩,
      ⟨bytes "^220", bytes "smtp", []⟩]

def httpRule : ProbeRule where
  name := bytes "http"
  ports := [80, 8080, 8000, 8888]
  sendPayload :=
    bytes "OPTIONS / HTTP/1.0\r\nUser-Agent: spscan/0.1\r\n" ++
      bytes "Accept: */*\r\nConnection: close\r\n\r\n"
  matchRules :=
    [⟨bytes "^HTTP/[0-9.]+[\\s\\S]*?Server:\\s*([^\\r\\n]+)", bytes "http",
        bytes "$1"⟩,
      ⟨bytes "^HTTP/", bytes "http", []⟩]

def redisRule : ProbeRule where
  name := bytes "redis"
  ports := [6379]
  sendPayload := bytes "*1\r\n$4\r\nPING\r\n"
  matchRules := [⟨bytes "^\\+PONG", bytes "redis", []⟩]

def mysqlRule : ProbeRule where
  name := bytes "mysql"
  ports := [3306]
  sendPayload := []
  matchRules :=
    [⟨bytes "^[\\s\\S]\x7b4\x7d\\x0a([^\\x00]+)\\x00", bytes "mysql",
      bytes "$1"⟩]

def postgresqlRule : ProbeRule where
  name := bytes "postgresql"
  ports := [5432]
  sendPayload := [0x00, 0x00, 0x00, 0x08, 0x04, 0xd2, 0x16, 0x2f]
  matchRules := [⟨bytes "^[SN]", bytes "postgresql", []⟩]

def mongodbRule : ProbeRule where
  name := bytes "mongodb"
  ports := [27017]
  sendPayload :=
    [0x25, 0x00, 0x00, 0x00, 0x00, 0x00, 0x00, 0x00, 0x00, 0x00, 0x00, 0x00,
     0xdd, 0x07, 0x00, 0x00, 0x00, 0x00, 0x00, 0x00, 0x00, 0x10, 0x00, 0x00,
     0x00, 0x10, 0x68, 0x65, 0x6c, 0x6c, 0x6f, 0x00, 0x01, 0x00, 0x00, 0x00,
     0x00]
  matchRules := [⟨bytes "ok\\x00", bytes "mongodb", []⟩]

def defaultRules : List ProbeRule :=
  [sshRule, ftpRule, smtpRule, httpRule, redisRule, mysqlRule, postgresqlRule,
    mongodbRule]

end ServicePortScanner.Probes
