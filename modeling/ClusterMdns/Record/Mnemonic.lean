import ClusterMdns.Record

/-!
The standard mnemonics of record types.

Main statement: `RecordType.read?_mnemonic`, every type is read back from its mnemonic.
-/

namespace ClusterMdns.RecordType

def all : List RecordType :=
  [.a, .aaaa, .aname, .any, .axfr, .caa, .cdnskey, .cds, .cert, .cname, .csync, .dnskey, .ds,
    .hinfo, .https, .key, .mx, .naptr, .ns, .nsec, .nsec3, .nsec3param, .null, .openpgpkey,
    .ptr, .rrsig, .sig, .soa, .srv, .sshfp, .svcb, .tlsa, .tsig, .txt]

def mnemonic : RecordType → String
  | a => "A"
  | aaaa => "AAAA"
  | aname => "ANAME"
  | any => "ANY"
  | axfr => "AXFR"
  | caa => "CAA"
  | cdnskey => "CDNSKEY"
  | cds => "CDS"
  | cert => "CERT"
  | cname => "CNAME"
  | csync => "CSYNC"
  | dnskey => "DNSKEY"
  | ds => "DS"
  | hinfo => "HINFO"
  | https => "HTTPS"
  | key => "KEY"
  | mx => "MX"
  | naptr => "NAPTR"
  | ns => "NS"
  | nsec => "NSEC"
  | nsec3 => "NSEC3"
  | nsec3param => "NSEC3PARAM"
  | null => "NULL"
  | openpgpkey => "OPENPGPKEY"
  | ptr => "PTR"
  | rrsig => "RRSIG"
  | sig => "SIG"
  | soa => "SOA"
  | srv => "SRV"
  | sshfp => "SSHFP"
  | svcb => "SVCB"
  | tlsa => "TLSA"
  | tsig => "TSIG"
  | txt => "TXT"

/-- The type that a mnemonic names. An asterisk stands for any type. -/
def read? (text : String) : Option RecordType :=
  if text = "*" then some .any else all.find? fun recordType => recordType.mnemonic == text

theorem read?_mnemonic (recordType : RecordType) :
    read? recordType.mnemonic = some recordType := by
  cases recordType <;> decide +kernel

end ClusterMdns.RecordType
