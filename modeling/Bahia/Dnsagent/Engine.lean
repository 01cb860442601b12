import Bahia.Dnsagent.Zone

/-! The engine that owns the include files: what it writes for a zone, and what it reads back. -/

namespace Bahia.Dnsagent
open Foundation

structure File where
  data : String
  mode : Nat
  deriving DecidableEq

abbrev Files := String → Option File

structure Engine where
  includeDir : String
  filePrefix : String
  preReloadCheck : List String
  strategy : List String

structure Attempt where
  cancelled : Option String := none
  /-- What `os.Stat` says of the directory: an error, or whether it is one. -/
  directory : Except String Bool := .ok true
  capture : Option String := none
  write : Option String := none
  check : Option String := none
  reload : Option String := none
  restore : Option String := none
  reloadRestored : Option String := none

structure ZoneSnapshot where
  records : List DNSRecord
  authoritative : Bool
  deriving DecidableEq

variable (unicode : Unicode)

namespace Engine

def requiredIncludeDir (engine : Engine) : Except String String := do
  refuse (trimSpace engine.includeDir == "") "DNS dnsmasq backend config dir is required"
  return engine.includeDir

def filePrefixValid (engine : Engine) : Bool :=
  engine.filePrefix != "" && !containsRune engine.filePrefix '/' && !containsRune engine.filePrefix '\\'

/-- The path of a zone's file. The name has no separator, so it stays in the directory. -/
def includePath (dir filePrefix zoneName : String) : String :=
  dir ++ "/" ++ (filePrefix ++ sanitizeFileName unicode zoneName ++ ".conf")

def zonePath (engine : Engine) (zoneName : String) : Except String String := do
  let dir ← engine.requiredIncludeDir
  let zoneName := trimSpace zoneName
  refuse (zoneName == "") "DNS zone name is required"
  refuse (!engine.filePrefixValid)
    ("DNS dnsmasq backend file prefix " ++ quote engine.filePrefix ++ " must be a filename prefix")
  return includePath unicode dir engine.filePrefix zoneName

def validateDirectory (dir : String) (found : Except String Bool) : Except String Unit :=
  match found with
  | .error cause =>
    .error ("DNS dnsmasq backend config dir " ++ quote dir ++ " is not accessible: " ++ cause)
  | .ok false => .error ("DNS dnsmasq backend config dir " ++ quote dir ++ " is not a directory")
  | .ok true => .ok ()

/-- `atomicfile.Restore`, after which an error is answered. -/
def restored (files before : Files) (path : String) (zone : DNSZone) (attempt : Attempt)
    (text : String) : Except String Unit × Files :=
  match attempt.restore with
  | some cause =>
    (.error (text ++ "\nrestore previous dnsmasq config for zone " ++ quote zone.name ++ ": " ++ cause),
      files)
  | none => (.error text, Function.update files path (before path))

/-- The file is in place: check it, then reload, and put the file before it back if that fails. -/
def activate (engine : Engine) (before : Files) (path : String) (zone : DNSZone) (data : String)
    (attempt : Attempt) : Except String Unit × Files :=
  let written : Files := Function.update before path (some ⟨data, 0o644⟩)
  match engine.preReloadCheck.isEmpty, attempt.check with
  | false, some cause =>
    restored written before path zone attempt
      ("validate dnsmasq after syncing zone " ++ quote zone.name ++ ": " ++ cause)
  | _, _ =>
    if engine.strategy.isEmpty then
      restored written before path zone attempt "DNS dnsmasq reload strategy is required"
    else
      match attempt.reload with
      | none => (.ok (), written)
      | some cause =>
        let text := "reload dnsmasq after syncing zone " ++ quote zone.name ++ ": " ++ cause
        match attempt.restore, attempt.reloadRestored with
        | none, some cause =>
          (.error (text ++ "\nreload dnsmasq after restoring zone " ++ quote zone.name ++ ": " ++ cause),
            Function.update written path (before path))
        | _, _ => restored written before path zone attempt text

/-- `ApplyZone` until the file is replaced: its path and its new content. -/
def prepare (engine : Engine) (zone : DNSZone) (records : List DNSRecord) (attempt : Attempt) :
    Except String (String × String) := do
  refuse attempt.cancelled.isSome (attempt.cancelled.getD "")
  let data ← renderZone unicode zone records
  let dir ← engine.requiredIncludeDir
  validateDirectory dir attempt.directory
  let path ← engine.zonePath unicode zone.name
  refuse attempt.capture.isSome (attempt.capture.getD "")
  refuse attempt.write.isSome (attempt.write.getD "")
  return (path, data)

def applyZone (engine : Engine) (files : Files) (zone : DNSZone) (records : List DNSRecord)
    (attempt : Attempt) : Except String Unit × Files :=
  match engine.prepare unicode zone records attempt with
  | .error text => (.error text, files)
  | .ok (path, data) => engine.activate files path zone data attempt

end Engine

/-- The lines a scanner finds, where an empty rest is no line. The carriage return that it drops is
a space, which the parser trims anyway. -/
def scanLines (text : String) : List String :=
  let lines := split text '\n'
  if lines.getLast? = some "" then lines.dropLast else lines

def maxScanTokenSize : Nat := 64 * 1024

def parseLocalDirective (line : String) : Option String :=
  if !hasPrefix line "local=/" || !hasSuffix line "/" then none
  else
    let zoneName := normalizeDNSZoneName unicode (trimSuffix (trimPrefix line "local=/") "/")
    if zoneName = "" then none else some zoneName

def directiveName (text : String) : String := trimDots (lower unicode (trimSpace text))

def parsedRecord (zone : DNSZone) (fqdn : String) (type : DNSRecordType) (value : String)
    (priority weight port : Option SInt64) : Option DNSRecord :=
  if isInZone fqdn zone.name then
    some ⟨zone.name, relativeDNSName unicode fqdn zone.name, fqdn, type, value, zone.ttl, priority,
      weight, port⟩
  else none

def parseAddress (zone : DNSZone) (line : String) : Except String (Option DNSRecord) :=
  match split (trimPrefix line "address=") '/' with
  | ["", name, address] =>
    let fqdn := directiveName unicode name
    let value := trimSpace address
    if fqdn = "" ∨ value = "" then .error ("invalid address directive " ++ quote line)
    else
      let type := if containsRune value ':' then DNSRecordType.aaaa else .a
      .ok (parsedRecord unicode zone fqdn type value none none none)
  | _ => .error ("invalid address directive " ++ quote line)

def parseCname (zone : DNSZone) (line : String) : Except String (Option DNSRecord) :=
  match split (trimPrefix line "cname=") ',' with
  | [name, target] =>
    let fqdn := directiveName unicode name
    let value := directiveName unicode target
    if fqdn = "" ∨ value = "" then .error ("invalid cname directive " ++ quote line)
    else .ok (parsedRecord unicode zone fqdn .cname value none none none)
  | _ => .error ("invalid cname directive " ++ quote line)

def parseSrv (zone : DNSZone) (line : String) : Except String (Option DNSRecord) :=
  match split (trimPrefix line "srv-host=") ',' with
  | [name, target, portText, priorityText, weightText] => do
    let fqdn := directiveName unicode name
    let value := directiveName unicode target
    let port ← require (parseInt (trimSpace portText)) ("invalid srv-host port " ++ quote portText)
    let priority ← require (parseInt (trimSpace priorityText))
      ("invalid srv-host priority " ++ quote priorityText)
    let weight ← require (parseInt (trimSpace weightText))
      ("invalid srv-host weight " ++ quote weightText)
    refuse (fqdn == "" || value == "") ("invalid srv-host directive " ++ quote line)
    return parsedRecord unicode zone fqdn .srv value (some priority) (some weight) (some port)
  | _ => .error ("invalid srv-host directive " ++ quote line)

def parseDirective (zone : DNSZone) (line : String) : Except String (Option DNSRecord) :=
  if hasPrefix line "address=" then parseAddress unicode zone line
  else if hasPrefix line "cname=" then parseCname unicode zone line
  else if hasPrefix line "srv-host=" then parseSrv unicode zone line
  else .ok none

/-- The lines from `number` on; the context is asked at each of them. -/
def parseLines (zone : DNSZone) (path : String) (ctx : Nat → Option String) :
    Nat → ZoneSnapshot → List String → Except String ZoneSnapshot
  | _, snapshot, [] => return { snapshot with records := sortedRecords snapshot.records }
  | number, snapshot, text :: rest => do
    refuse (maxScanTokenSize ≤ text.utf8ByteSize)
      ("scan dnsmasq zone config " ++ quote path ++ ": bufio.Scanner: token too long")
    refuse (ctx number).isSome ((ctx number).getD "")
    let line := trimSpace text
    if line = "" ∨ hasPrefix line "#" then parseLines zone path ctx (number + 1) snapshot rest
    else
      match parseLocalDirective unicode line with
      | some localZone =>
        let authoritative :=
          snapshot.authoritative || localZone == normalizeDNSZoneName unicode zone.name
        parseLines zone path ctx (number + 1) { snapshot with authoritative } rest
      | none =>
        match parseDirective unicode zone line with
        | .error cause =>
          .error ("parse dnsmasq zone config " ++ quote path ++ " line " ++ toString number ++ ": " ++
            cause)
        | .ok found =>
          parseLines zone path ctx (number + 1)
            { snapshot with records := snapshot.records ++ found.toList } rest

/-- `ListZone`: the context is asked first, and then at each line of the file. -/
def Engine.listZone (engine : Engine) (files : Files) (zone : DNSZone) (ctx : Nat → Option String)
    (openFailure : Option String) : Except String ZoneSnapshot := do
  refuse (ctx 0).isSome ((ctx 0).getD "")
  let zone ← validateDNSZone unicode zone
  let path ← engine.zonePath unicode zone.name
  match files path with
  | none => return ⟨[], false⟩
  | some file =>
    refuse openFailure.isSome
      ("read dnsmasq zone config " ++ quote path ++ ": " ++ openFailure.getD "")
    parseLines unicode zone path ctx 1 ⟨[], false⟩ (scanLines file.data)

end Bahia.Dnsagent
