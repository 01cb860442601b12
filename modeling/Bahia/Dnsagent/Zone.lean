import Bahia.Foundation.Outcome
import Bahia.Foundation.Slug

/-! DNS zones and records, and the dnsmasq include file that is written for a zone. -/

namespace Bahia.Dnsagent
open Foundation

/-- The tables of Go's `unicode` package. Outside ASCII they are left open but for the laws here. -/
structure Unicode where
  isLetter : Char → Bool
  isDigit : Char → Bool
  toLower : Char → Char
  ascii : ∀ rune : Char, rune.toNat < 128 → isLetter rune = rune.isAlpha ∧
    isDigit rune = rune.isDigit ∧ toLower rune = rune.toLower
  space : ∀ rune, isSpace rune = true →
    isLetter rune = false ∧ isDigit rune = false ∧ toLower rune = rune
  stable : ∀ rune, toLower (toLower rune) = toLower rune

section Ascii
variable {rune : Char}

theorem toLower_of_not_upper (other : ¬ (65 ≤ rune.toNat ∧ rune.toNat ≤ 90)) : rune.toLower = rune := by
  unfold Char.toLower
  split
  · rename_i upper
    exact absurd ⟨UInt32.le_iff_toNat_le.mp upper.1, UInt32.le_iff_toNat_le.mp upper.2⟩ other
  · rfl

theorem toLower_toLower : rune.toLower.toLower = rune.toLower := by
  by_cases upper : rune.val ≥ 'A'.val ∧ rune.val ≤ 'Z'.val
  · apply toLower_of_not_upper
    rw [Char.toLower, dif_pos upper]
    have first : 65 ≤ rune.toNat := UInt32.le_iff_toNat_le.mp upper.1
    have last : rune.toNat ≤ 90 := UInt32.le_iff_toNat_le.mp upper.2
    change ¬ (65 ≤ (rune.toNat + 32) % 2 ^ 32 ∧ (rune.toNat + 32) % 2 ^ 32 ≤ 90)
    omega
  · have same : rune.toLower = rune := by rw [Char.toLower, dif_neg upper]
    rw [same, same]

theorem isSpace_ascii (blank : isSpace rune = true) :
    rune.isAlpha = false ∧ rune.isDigit = false ∧ rune.toLower = rune := by
  simp only [isSpace, Bool.or_eq_true, Bool.and_eq_true, decide_eq_true_eq, beq_iff_eq] at blank
  refine ⟨?_, ?_, toLower_of_not_upper (by omega)⟩
  · simp only [Char.isAlpha, Char.isUpper, Char.isLower, UInt32.le_iff_toNat_le]
    simp
    omega
  · simp only [Char.isDigit, ge_iff_le, UInt32.le_iff_toNat_le]
    simp
    omega

def Unicode.asciiOnly : Unicode where
  isLetter := Char.isAlpha
  isDigit := Char.isDigit
  toLower := Char.toLower
  ascii := fun _ _ => ⟨rfl, rfl, rfl⟩
  space := fun _ blank => isSpace_ascii blank
  stable := fun _ => toLower_toLower

end Ascii

inductive ZoneVisibility where
  | internal
  | external
  | edge
  | mesh
  | other (text : String)
  deriving DecidableEq

def ZoneVisibility.isValid : ZoneVisibility → Bool
  | .other _ => false
  | _ => true

def ZoneVisibility.text : ZoneVisibility → String
  | .internal => "internal"
  | .external => "external"
  | .edge => "edge"
  | .mesh => "mesh"
  | .other text => text

inductive DNSRecordType where
  | a
  | aaaa
  | cname
  | srv
  | other (text : String)
  deriving DecidableEq

def DNSRecordType.isValid : DNSRecordType → Bool
  | .other _ => false
  | _ => true

def DNSRecordType.text : DNSRecordType → String
  | .a => "A"
  | .aaaa => "AAAA"
  | .cname => "CNAME"
  | .srv => "SRV"
  | .other text => text

structure DNSZone where
  name : String
  visibility : ZoneVisibility
  backendRef : String
  ttl : SInt64
  authoritative : Bool
  deriving DecidableEq

structure DNSRecord where
  zone : String
  name : String
  fqdn : String
  type : DNSRecordType
  value : String
  ttl : SInt64
  priority : Option SInt64
  weight : Option SInt64
  port : Option SInt64
  deriving DecidableEq

variable (unicode : Unicode)

def lower (text : String) : String := String.ofList (text.toList.map unicode.toLower)

/-- `strings.Trim(…, ".")`. -/
def trimDots (text : String) : String := String.ofList (trimOf '.' text.toList)

def normalizeDNSZoneName (name : String) : String :=
  String.ofList (trimRightOf '.' (lower unicode (trimSpace name)).toList)

def validateRequiredString (text fieldName : String) : Except String Unit :=
  refuse (trimSpace text == "") ("field must not be empty: " ++ fieldName ++ " must not be empty")

def validateDNSZone (zone : DNSZone) : Except String DNSZone := do
  let zone := { zone with
    name := normalizeDNSZoneName unicode zone.name
    backendRef := trimSpace zone.backendRef }
  validateRequiredString zone.name "name"
  refuse (!zone.visibility.isValid)
    ("invalid value: DNS zone visibility " ++ quote zone.visibility.text ++ " is not valid")
  validateRequiredString zone.backendRef "backend_ref"
  refuse (zone.ttl.val ≤ 0) "invalid value: DNS zone ttl must be > 0"
  return zone

def DNSRecord.before (first second : DNSRecord) : Bool :=
  if first.fqdn ≠ second.fqdn then first.fqdn < second.fqdn
  else if first.type.text ≠ second.type.text then first.type.text < second.type.text
  else first.value < second.value

def sortedRecords (records : List DNSRecord) : List DNSRecord :=
  records.mergeSort fun first second => !second.before first

def fqdnFromRecordName (name zoneName : String) : String :=
  let name := trimDots (lower unicode (trimSpace name))
  let zoneName := normalizeDNSZoneName unicode zoneName
  if name = "" ∨ name = "@" then zoneName else name ++ "." ++ zoneName

def relativeDNSName (fqdn zoneName : String) : String :=
  let fqdn := trimDots (lower unicode (trimSpace fqdn))
  let zoneName := normalizeDNSZoneName unicode zoneName
  if fqdn = zoneName then "@" else trimSuffix fqdn ("." ++ zoneName)

def isInZone (fqdn zoneName : String) : Bool :=
  hasSuffix fqdn zoneName && (fqdn == zoneName || hasSuffix fqdn ("." ++ zoneName))

def renderSrv (fqdn value : String) (record : DNSRecord) : Except String String := do
  let port ← require record.port ("DNS SRV record " ++ quote fqdn ++ " port is required")
  let priority := (record.priority.map (·.val)).getD 0
  let weight := (record.weight.map (·.val)).getD 0
  return "srv-host=" ++ fqdn ++ "," ++ value ++ "," ++ toString port.val ++ "," ++
    toString priority ++ "," ++ toString weight

def renderDirective (zone : DNSZone) (record : DNSRecord) : Except String String := do
  let named := normalizeDNSZoneName unicode record.zone
  let recordZone := if named = "" then zone.name else named
  refuse (recordZone != normalizeDNSZoneName unicode zone.name)
    ("DNS record " ++ quote record.fqdn ++ " zone " ++ quote recordZone ++
      " does not match sync zone " ++ quote zone.name)
  let given := trimDots (lower unicode (trimSpace record.fqdn))
  let fqdn := if given = "" then fqdnFromRecordName unicode record.name zone.name else given
  refuse (fqdn == "") "DNS record FQDN is required"
  refuse (!isInZone fqdn zone.name)
    ("DNS record FQDN " ++ quote fqdn ++ " is outside zone " ++ quote zone.name)
  refuse (!record.type.isValid)
    ("DNS record " ++ quote fqdn ++ " type " ++ quote record.type.text ++ " is not valid")
  let value := trimDots (lower unicode (trimSpace record.value))
  refuse (value == "") ("DNS record " ++ quote fqdn ++ " value is required")
  match record.type with
  | .a | .aaaa => return "address=/" ++ fqdn ++ "/" ++ trimSpace record.value
  | .cname => return "cname=" ++ fqdn ++ "," ++ value
  | .srv => renderSrv fqdn value record
  | .other text =>
    .error ("DNS record " ++ quote fqdn ++ " type " ++ quote text ++ " is not supported by dnsmasq")

def renderLines (zone : DNSZone) : List DNSRecord → Except String String
  | [] => return ""
  | record :: rest => do
    let directive ← renderDirective unicode zone record
    let later ← renderLines zone rest
    return directive ++ "\n" ++ later

def renderZone (zone : DNSZone) (records : List DNSRecord) : Except String String := do
  let zone ← validateDNSZone unicode zone
  let lines ← renderLines unicode zone (sortedRecords records)
  let local? := if zone.authoritative then "local=/" ++ zone.name ++ "/\n" else ""
  return "# Managed by Bahia. Manual changes may be replaced.\n" ++ "# Zone: " ++ zone.name ++ "\n" ++
    local? ++ lines

/-- How a rune of a zone name is spelled in a file name, if it is. -/
def fileRune (rune : Char) : Option Char :=
  if unicode.isLetter rune || unicode.isDigit rune then some (unicode.toLower rune) else none

def sanitizeFileName (zoneName : String) : String :=
  let value := slug (fileRune unicode) (normalizeDNSZoneName unicode zoneName).toList
  if value.isEmpty then "zone" else String.ofList value

variable {unicode}

theorem fileRune_dot (dot : (rune == '.') = true) : fileRune unicode rune = none := by
  rw [beq_iff_eq] at dot
  subst dot
  obtain ⟨letter, digit, _⟩ := unicode.ascii '.' (by decide)
  have none : ('.'.isAlpha || '.'.isDigit) = false := by decide
  rw [fileRune, letter, digit, none]
  rfl

theorem fileRune_space (blank : isSpace rune = true) :
    fileRune unicode (unicode.toLower rune) = none := by
  obtain ⟨letter, digit, same⟩ := unicode.space rune blank
  rw [same, fileRune, letter, digit]
  rfl

/-- A name's file depends only on its letters and digits and on where others stand between them. -/
theorem slug_normalize (name : String) :
    slug (fileRune unicode) (normalizeDNSZoneName unicode name).toList =
      slug (fun rune => fileRune unicode (unicode.toLower rune)) name.toList := by
  rw [normalizeDNSZoneName, String.toList_ofList, trimRightOf,
    slug_rdropWhile (fun _ dot => fileRune_dot dot), lower, String.toList_ofList, slug_map,
    trimSpace, String.toList_ofList, trimRunes_eq, slug_rdropWhile (fun _ blank => fileRune_space blank),
    slug_dropWhile (fun _ blank => fileRune_space blank)]

theorem slug_lower (runes : List Char) :
    slug (fun rune => fileRune unicode (unicode.toLower rune)) (runes.map unicode.toLower) =
      slug (fun rune => fileRune unicode (unicode.toLower rune)) runes := by
  rw [slug_map]
  simp only [unicode.stable]

theorem sanitizeFileName_normalize (name : String) :
    sanitizeFileName unicode (normalizeDNSZoneName unicode name) = sanitizeFileName unicode name := by
  have same : slug (fun rune => fileRune unicode (unicode.toLower rune))
      (normalizeDNSZoneName unicode name).toList =
        slug (fun rune => fileRune unicode (unicode.toLower rune)) name.toList := by
    have dotted : ∀ rune : Char, (rune == '.') = true →
        fileRune unicode (unicode.toLower rune) = none := by
      intro rune dot
      rw [beq_iff_eq.mp dot, (unicode.ascii '.' (by decide)).2.2]
      exact fileRune_dot rfl
    rw [normalizeDNSZoneName, String.toList_ofList, trimRightOf, slug_rdropWhile dotted, lower,
      String.toList_ofList, slug_lower, trimSpace, String.toList_ofList, trimRunes_eq,
      slug_rdropWhile (fun _ blank => fileRune_space blank),
      slug_dropWhile (fun _ blank => fileRune_space blank)]
  rw [sanitizeFileName, sanitizeFileName, slug_normalize, slug_normalize, same]

theorem sanitizeFileName_trimSpace (name : String) :
    sanitizeFileName unicode (trimSpace name) = sanitizeFileName unicode name := by
  rw [sanitizeFileName, sanitizeFileName, slug_normalize, slug_normalize, trimSpace,
    String.toList_ofList, trimRunes_eq, slug_rdropWhile (fun _ blank => fileRune_space blank),
    slug_dropWhile (fun _ blank => fileRune_space blank)]

end Bahia.Dnsagent
