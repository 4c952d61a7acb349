import OrphanSweep.DatabaseUrl.Basic
import OrphanSweep.Failure
import OrphanSweep.Numeral.Padded

/-! # Addresses that cannot be used

    Where no engine is made, an address can still be judged by how it is written.  It is looked at
    in this order: its form, its port, the plugins it asks for, its scheme, and the hosts in its
    query.  The first thing that is wrong is its problem (`problem?`).  Most problems refuse the
    address as a definition; some are foreign failures of another kind. -/

namespace OrphanSweep.DatabaseUrl

/-- The refusal of an address. -/
def refusal (words : String) : Failure := .foreign .badDefinition [.text words]

/-- The failure of taking more apart than there is room for. -/
def tooManyParts : Failure := .foreign .badValue [.text "too many values to unpack (expected 2)"]

/-- The problem of a port: it is no integer. -/
def portProblem? (port : String) : Option Failure :=
  if port = "" then
    some (.foreign .badType [.text "Port argument must be an integer or None"])
  else if (Numeral.padded? port).isSome then none
  else some (.foreign .badValue [.text (Numeral.refusal port)])

/-- The refusal of a plugin; none can be loaded. -/
def unknownPlugin (name : String) : Failure :=
  refusal ("Can't load plugin: sqlalchemy.plugins:" ++ name)

/-- The schemes that can be connected to. -/
def knownSchemes : List String := ["postgresql", "postgresql+psycopg2"]

/-- The refusal of a scheme. -/
def unknownScheme (scheme : String) : Failure :=
  refusal ("Can't load plugin: sqlalchemy.dialects:" ++
    String.ofList (scheme.toList.map fun c => if c = '+' then '.' else c))

/-- The problem of a scheme: it has more than two parts, or it is not known. -/
def schemeProblem? (scheme : String) : Option Failure :=
  if 1 < scheme.toList.count '+' then some tooManyParts
  else if knownSchemes.contains scheme then none
  else some (unknownScheme scheme)

/-! ## Hosts in the query

    The query may name several hosts and their ports, in one of two ways: fields that pair a host
    with its port, or one list of hosts and one list of ports. -/

/-- The refusal of both ways at once. -/
def mixedHosts : Failure :=
  refusal ("Can't mix 'multihost' formats together; use \"host=h1,h2,h3&port=p1,p2,p3\" or " ++
    "\"host=h1:p1&host=h2:p2&host=h3:p3\" separately")

/-- The refusal of ports that are no integers. -/
def badPorts (ports : List (Option String)) : Failure :=
  refusal ("Received non-integer port arguments: " ++
    Value.tuple (ports.map fun port => (port.map Value.text).getD .null))

/-- The refusal of ports that do not fit the hosts. -/
def unmatchedPorts : Failure := refusal "number of hosts and ports don't match"

/-- The parts of a text between the marks. -/
def parts (mark : Char) (s : String) : List String :=
  (Text.pieces mark s.toList).map String.ofList

/-- The hosts that fields name: one field holds a list, several pair each host with its port. -/
def hostNames : List String → List String
  | [list] => parts ',' list
  | hosts  => hosts

/-- The ports that stand behind the hosts of several fields. -/
def pairedPorts (hosts : List String) : List (Option String) :=
  hosts.map fun host => (parts ':' host)[1]?

/-- The ports that fields name. -/
def listedPorts : List String → List (Option String)
  | [list] => (parts ',' list).map some
  | ports  => ports.map some

/-- Whether a port is left out or an integer. -/
def isPort : Option String → Bool
  | none      => true
  | some port => port = "" || (Numeral.padded? port).isSome

/-- The problem of a number of hosts with their ports. -/
def portsProblem? (hosts : Nat) (ports : List (Option String)) : Option Failure :=
  if !ports.all isPort then some (badPorts ports)
  else if ports ≠ [] ∧ hosts ≠ ports.length ∧ (1 < hosts ∨ 1 < ports.length) then
    some unmatchedPorts
  else none

/-- The problem of the hosts and ports in the fields of an address. -/
def hostsProblem? (fields : List (String × String)) : Option Failure :=
  let hosts := Text.fieldValues "host" fields
  let ports := Text.fieldValues "port" fields
  if hosts.length ≤ 1 then portsProblem? (hostNames hosts).length (listedPorts ports)
  else if hosts.all fun host => 2 < (parts ':' host).length then some tooManyParts
  else if ports ≠ [] then some mixedHosts
  else portsProblem? hosts.length (pairedPorts hosts)

/-! ## All problems -/

/-- The first problem of an address that has been taken apart. -/
def firstProblem? (u : DatabaseUrl) : Option Failure :=
  (u.port.bind portProblem?).or <|
    ((Text.fieldValues "plugin" u.fields).head?.map unknownPlugin).or <|
      (schemeProblem? u.scheme).or (hostsProblem? u.fields)

/-- What is wrong with an address as it is written. -/
def problem? (url : String) : Option Failure :=
  match parse? url with
  | none   => some (refusal "Could not parse SQLAlchemy URL from given URL string")
  | some u => u.firstProblem?

end OrphanSweep.DatabaseUrl
