import TableSearch.Number.Numeral
import TableSearch.Text.PercentEncoding

/-!
# Database URLs

A database URL names the driver behind which the database is reached, and then
optionally a user with a password, a host with a port, a database, and options.
-/

namespace TableSearch

/-- Why a text does not lead to a database. -/
inductive UrlError where
  /-- There is no driver in front of two slashes. -/
  | notAUrl
  /-- The driver is not the one that is supported. -/
  | unknownDriver
  /-- A driver has more than two parts. -/
  | malformedDriver
  | malformedPort
  /-- An option asks for a plugin, and there is none. -/
  | unknownPlugin
  /-- The hosts and ports among the options do not go together. -/
  | malformedHosts
  /-- An option that is a number has not the form of one. -/
  | malformedOption
  /-- An option that is a number is given several times. -/
  | repeatedOption
deriving DecidableEq, Repr

structure DatabaseUrl where
  driver : String
  username : Option String := none
  password : Option String := none
  host : Option String := none
  port : Option Int := none
  database : Option String := none
  options : List (String × String) := []
deriving DecidableEq, Repr

namespace DatabaseUrl

def supportedDriver : String := "postgresql+asyncpg"

/-- What a URL of the database begins with when it names no driver. -/
def driverlessStart : String := "postgresql://"

def withDriver (url : String) : String :=
  let start := driverlessStart.toList
  if start.isPrefixOf url.toList then
    supportedDriver ++ "://" ++ String.ofList (url.toList.drop start.length)
  else url

def isDriverChar (c : Char) : Bool := isWordChar c || c == '+'

/-- Splits a text at the end of its longest beginning inside a class. -/
def spanOf (belongs : Char → Bool) (cs : List Char) : List Char × List Char :=
  (cs.takeWhile belongs, cs.dropWhile belongs)

def takeDriver? (cs : List Char) : Option (List Char × List Char) :=
  match spanOf isDriverChar cs with
  | ([], _) => none
  | (driver, ':' :: '/' :: '/' :: rest) => some (driver, rest)
  | _ => none

def splitAtLastAt? (cs : List Char) : Option (List Char × List Char) :=
  match spanOf (· != '@') cs.reverse with
  | (last, '@' :: before) => some (before.reverse, last.reverse)
  | _ => none

/-- The user and the password in front of the host.  A password may hold every
character but the at sign that ends it, and a user every one but colon and
slash. -/
def takeUser (cs : List Char) : Option (List Char) × Option (List Char) × List Char :=
  let (run, rest) := spanOf (fun c => c != ':' && c != '/') cs
  let withoutPassword :=
    match splitAtLastAt? run with
    | some (user, host) => (some user, none, host ++ rest)
    | none => (none, none, cs)
  match rest with
  | ':' :: behind =>
    match spanOf (· != '@') behind with
    | (password, '@' :: rest) => (some run, some password, rest)
    | _ => withoutPassword
  | _ => withoutPassword

/-- The host: an address in brackets, or all up to a port, a path or a query. -/
def takeHost (cs : List Char) : Option (List Char) × List Char :=
  let plain := match spanOf (fun c => c != '/' && c != ':' && c != '?') cs with
    | ([], _) => (none, cs)
    | (host, rest) => (some host, rest)
  match cs with
  | '[' :: inside =>
    let (run, rest) := spanOf (fun c => c != '/' && c != '?') inside
    match spanOf (· != ']') run.reverse with
    | (_, [']']) => plain
    | (behind, ']' :: address) => (some address.reverse, behind.reverse ++ rest)
    | _ => plain
  | _ => plain

def takePort (cs : List Char) : Except UrlError (Option Int × List Char) :=
  match cs with
  | ':' :: rest =>
    let (digits, rest) := spanOf (fun c => c != '/' && c != '?') rest
    match readInteger? digits with
    | some port => .ok (some port, rest)
    | none => .error .malformedPort
  | _ => .ok (none, cs)

def takeDatabase : List Char → Option (List Char) × List Char
  | '/' :: rest =>
    let (database, rest) := spanOf (· != '?') rest
    (some database, rest)
  | cs => (none, cs)

/-- A part of a URL in which every character may be given in percent-encoded form. -/
def decodePart (cs : List Char) : String := PercentEncoding.decode (String.ofList cs)

/-- A text in the options, where a plus sign stands for a space. -/
def decodeOption (cs : List Char) : String :=
  decodePart (cs.map fun c => if c = '+' then ' ' else c)

def readOption? (cs : List Char) : Option (String × String) :=
  match spanOf (· != '=') cs with
  | (name, '=' :: value) =>
    if value.isEmpty then none else some (decodeOption name, decodeOption value)
  | _ => none

/-- The options behind a question mark, up to an end of line. -/
def takeOptions : List Char → List (String × String)
  | '?' :: rest => ((rest.takeWhile (· != '\n')).splitOn '&').filterMap readOption?
  | _ => []

/-- Reads the parts of a URL.  The user, the password and the database may be
percent-encoded, and a host stands for itself. -/
def read (url : String) : Except UrlError DatabaseUrl := do
  match takeDriver? url.toList with
  | none => throw .notAUrl
  | some (driver, rest) =>
    let (username, password, rest) := takeUser rest
    let (host, rest) := takeHost rest
    let (port, rest) ← takePort rest
    let (database, rest) := takeDatabase rest
    return {
      driver := String.ofList driver
      username := username.map decodePart
      password := password.map decodePart
      host := host.map String.ofList
      port
      database := database.map decodePart
      options := takeOptions rest }

def option (url : DatabaseUrl) (name : String) : List String :=
  (url.options.filter (·.1 == name)).map (·.2)

def checkDriver (url : DatabaseUrl) : Except UrlError Unit :=
  if url.driver = supportedDriver then .ok ()
  else if url.driver.toList.count '+' > 1 then .error .malformedDriver
  else .error .unknownDriver

/-! ## Hosts and ports among the options -/

/-- Hosts, and ports as they are written; a host may have none. -/
structure HostList where
  hosts : List String := []
  ports : List (Option String) := []
  /-- Whether ports may no longer be given apart from the hosts. -/
  complete : Bool := false

def colonParts (s : String) : List String := (s.toList.splitOn ':').map String.ofList

/-- Hosts that are given one by one, each with its port behind a colon. -/
def HostList.ofHosts (hosts : List String) : Except UrlError HostList :=
  let parts := hosts.map colonParts
  if parts.all (2 < ·.length) then .error .malformedOption
  else .ok { hosts := parts.map (·.headD ""), ports := parts.map (·[1]?), complete := true }

/-- A host with a port behind a colon, if it has the form of one. -/
def hostWithPort? (host : String) : Option (String × String) :=
  let (name, rest) := spanOf (fun c => c.isAlphanum || c == '-' || c == '.') host.toList
  match rest with
  | ':' :: digits =>
    if (digits.dropWhile fun c => (digitValue? c).isSome).isEmpty then
      some (String.ofList name, String.ofList digits)
    else none
  | _ => none

/-- Hosts that are given in one text, with commas between them. -/
def HostList.ofText (text : String) (hasPorts : Bool) : HostList :=
  let hosts := (text.toList.splitOn ',').map String.ofList
  match hosts with
  | [host] =>
    match if hasPorts then none else hostWithPort? host with
    | some (name, port) => { hosts := [name], ports := [some port], complete := true }
    | none => { hosts }
  | hosts => { hosts }

def hostList (url : DatabaseUrl) : Except UrlError HostList := do
  let ports := url.option "port"
  let list ← match url.option "host" with
    | [] => pure {}
    | [text] => pure (HostList.ofText text (!ports.isEmpty))
    | hosts => HostList.ofHosts hosts
  match ports with
  | [] => return list
  | ports =>
    if list.complete then throw .malformedHosts
    let ports := match ports with
      | [text] => (text.toList.splitOn ',').map String.ofList
      | ports => ports
    return { list with ports := ports.map some }

def readPort (port : Option String) : Except UrlError (Option Int) :=
  match port with
  | none => .ok none
  | some s =>
    if s.isEmpty then .ok none
    else
      match readInteger? s.toList with
      | some n => .ok (some n)
      | none => .error .malformedHosts

/-- Several hosts need a name and a port each, and there are no ports without hosts but
one. -/
def HostList.check (list : HostList) : Except UrlError Unit := do
  let ports ← list.ports.mapM readPort
  let several := 1 < list.hosts.length || 1 < ports.length
  if !ports.isEmpty && several && list.hosts.length != ports.length then throw .malformedHosts
  if 1 < list.hosts.length then
    let named := list.hosts.all (!·.isEmpty)
    let numbered := !ports.isEmpty && ports.all fun port => port.isSome && port != some 0
    if !(named && numbered) then throw .malformedHosts

def checkNumber (url : DatabaseUrl) (name : String) : Except UrlError Unit :=
  match url.option name with
  | [] => .ok ()
  | [text] => if (readInteger? text.toList).isSome then .ok () else .error .malformedOption
  | _ => .error .repeatedOption

/-- Reads a URL that can be used: its driver is supported, and so are its options. -/
def readSupported (url : String) : Except UrlError DatabaseUrl := do
  let parts ← read url
  if !(parts.option "plugin").isEmpty then throw .unknownPlugin
  parts.checkDriver
  (← parts.hostList).check
  parts.checkNumber "prepared_statement_cache_size"
  return parts

end DatabaseUrl

end TableSearch
