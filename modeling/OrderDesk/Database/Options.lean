import OrderDesk.FieldPath
import OrderDesk.Http.Percent
import OrderDesk.Text.Basic

/-!
# Options of database addresses

The address of a database may say how it is to be talked to, by options with a name and a value.
Options are taken one after the other. Some of them must agree with those before, and in the end
they must go together. Files of certificates and ways of compressing are not to be had.
-/

namespace OrderDesk.Database

/-- Which servers of a set may answer a read. -/
inductive ReadPreference where
  | primary
  | primaryPreferred
  | secondary
  | secondaryPreferred
  | nearest
deriving DecidableEq, Repr

/-- How somebody proves who they are. -/
inductive Mechanism where
  | challenge
  | scram
  | certificate
  | plain
  | token
deriving DecidableEq, Repr

/-- What options say, as far as it bears on other options. -/
structure Options where
  mechanism : Option Mechanism := none
  /-- Where the account is kept. -/
  authSource : Option String := none
  /-- What else the mechanism is told. -/
  properties : List (String × String) := []
  directConnection : Option Bool := none
  loadBalanced : Option Bool := none
  replicaSet : Option String := none
  /-- The time between two looks at a server, in milliseconds. -/
  heartbeat : Nat := 10000
  journal : Option Bool := none
  /-- How many servers confirm a write, if that is told by number. -/
  confirmations : Option Nat := none
  readPreference : Option ReadPreference := none
  /-- Whether servers are told apart by tags. -/
  hasTags : Bool := false
  /-- How far a server may lag behind, in seconds. -/
  staleness : Option Nat := none
  tls : Option Bool := none
  /-- Whether bad certificates are taken. -/
  takesAll : Option Bool := none

/-! ### Values -/

/-- The text of a value. Bytes that are no text stand for one character each. -/
def valueText (cs : List Char) : String :=
  (Http.percentText? cs).getD (String.ofList ((Http.percentDecode cs).map (Char.ofNat ·.toNat)))

def flag? : String → Option Bool
  | "true" => some true
  | "false" => some false
  | _ => none

/-- A natural number up to a bound. -/
def natural? (bound : Nat) (value : String) : Option Nat :=
  (Text.readNatural bound value.toList).toOption

/-- A number of things. -/
def count? : String → Option Nat := natural? 0xffffffff

/-- A stretch of time in whole units. -/
def duration? : String → Option Nat := natural? 0xffffffffffffffff

/-- A value in which case does not matter. -/
def lowered (value : String) : String := String.ofList (value.toList.map Char.toLower)

def ReadPreference.ofText? (value : String) : Option ReadPreference :=
  match lowered value with
  | "primary" => some .primary
  | "primarypreferred" => some .primaryPreferred
  | "secondary" => some .secondary
  | "secondarypreferred" => some .secondaryPreferred
  | "nearest" => some .nearest
  | _ => none

def Mechanism.ofText? : String → Option Mechanism
  | "MONGODB-CR" => some .challenge
  | "SCRAM-SHA-1" | "SCRAM-SHA-256" => some .scram
  | "MONGODB-X509" => some .certificate
  | "PLAIN" => some .plain
  | "MONGODB-OIDC" => some .token
  | _ => none

/-- A name and a value with a colon between them. -/
def pair? (cs : List Char) : Option (String × String) :=
  if cs.contains ':' then
    some (String.ofList (cs.takeWhile (· ≠ ':')),
      String.ofList ((cs.dropWhile (· ≠ ':')).drop 1))
  else none

def pairs? (value : String) : Option (List (String × String)) :=
  (FieldPath.split ',' value.toList).mapM pair?

/-- How far a server may lag behind; one less than nothing is no bound. -/
def staleness? (value : String) : Option (Option Nat) :=
  match Text.readInt64 value.toList with
  | .ok (.ofNat n) => some (some n)
  | .ok (.negSucc 0) => some none
  | _ => none

/-- How many servers confirm a write, or the name of such a rule. -/
def confirmations? (value : String) : Option (Option Nat) :=
  match Text.readInt64 value.toList with
  | .ok (.ofNat n) => some (if n < 0x80000000 then some n else none)
  | .ok (.negSucc n) => if n < 0x80000000 then none else some none
  | .error _ => some none

/-! ### Taking options -/

/-- An encrypted connection is asked for once and for all. -/
def Options.setTls? (o : Options) (tls : Bool) : Option Options :=
  if o.tls.getD tls = tls then some { o with tls := some tls } else none

/-- Certificates only matter where connections are encrypted. -/
def Options.setTakesAll? (o : Options) (takesAll : Bool) : Option Options :=
  if o.tls = some false || o.takesAll.getD takesAll ≠ takesAll then none
  else some { o with tls := some true, takesAll := some takesAll }

/-- Takes an option, if there is one of this name in lower case and the value is one of its. -/
def Options.set? (o : Options) (name value : String) : Option Options :=
  match name with
  | "appname" | "readconcernlevel" => some o
  | "authmechanism" => (Mechanism.ofText? value).map fun m => { o with mechanism := some m }
  | "authmechanismproperties" => (pairs? value).map fun ps => { o with properties := ps }
  | "authsource" => if value = "" then none else some { o with authSource := some value }
  | "connecttimeoutms" | "localthresholdms" | "maxidletimems" | "serverselectiontimeoutms"
  | "waitqueuetimeoutms" | "wtimeoutms" => (duration? value).map fun _ => o
  | "directconnection" => (flag? value).map fun b => { o with directConnection := some b }
  | "enableoverloadretargeting" | "retryreads" | "retrywrites" => (flag? value).map fun _ => o
  | "heartbeatfrequencyms" =>
    ((duration? value).filter (500 ≤ ·)).map fun n => { o with heartbeat := n }
  | "journal" => (flag? value).map fun b => { o with journal := some b }
  | "loadbalanced" => (flag? value).map fun b => { o with loadBalanced := some b }
  | "maxadaptiveretries" | "minpoolsize" => (count? value).map fun _ => o
  | "maxconnecting" | "maxpoolsize" => ((count? value).filter (0 < ·)).map fun _ => o
  | "maxstalenessseconds" =>
    (staleness? value).map fun s? => { o with staleness := s?.or o.staleness }
  | "readpreference" =>
    (ReadPreference.ofText? value).map fun p => { o with readPreference := some p }
  | "readpreferencetags" =>
    if value = "" || (pairs? value).isSome then some { o with hasTags := true } else none
  | "replicaset" => some { o with replicaSet := some value }
  | "servermonitoringmode" =>
    if lowered value ∈ ["auto", "poll", "stream"] then some o else none
  | "ssl" | "tls" => (flag? value).bind o.setTls?
  | "tlsallowinvalidcertificates" => (flag? value).bind o.setTakesAll?
  | "tlsinsecure" => (flag? value).bind fun b => o.setTakesAll? !b
  | "uuidrepresentation" =>
    if lowered value ∈ ["csharplegacy", "javalegacy", "pythonlegacy"] then some o else none
  | "w" => (confirmations? value).map fun n? => { o with confirmations := n? }
  | _ => none

/-- Takes an option as it is written; case does not matter in its name. -/
def Options.take? (o : Options) (cs : List Char) : Option Options :=
  if cs.contains '=' then
    o.set? (lowered (String.ofList (cs.takeWhile (· ≠ '='))))
      (valueText ((cs.dropWhile (· ≠ '=')).drop 1))
  else none

/-- The options of an address. No name may be written twice, unless it is that of tags. -/
def Options.ofText? (cs : List Char) : Option Options :=
  if cs.isEmpty then some {}
  else
    let parts := FieldPath.split '&' cs
    let names := (parts.map fun part => String.ofList (part.takeWhile (· ≠ '='))).filter
      (lowered · ≠ "readpreferencetags")
    if names.eraseDups.length < names.length then none else parts.foldlM Options.take? {}

/-! ### Going together -/

/-- Servers other than the primary can be chosen among. -/
def Options.canChoose (o : Options) : Bool :=
  match o.readPreference with
  | none | some .primary => false
  | some _ => true

/-- The least bound in milliseconds that a lag can be kept to. -/
def Options.leastStaleness (o : Options) : Nat := max 90000 (o.heartbeat + 10000)

/-- Whether options go together, for a number of servers. -/
def Options.fitTogether (o : Options) (servers : Nat) : Bool :=
  (!o.hasTags || o.canChoose) &&
    (o.staleness.all fun s => o.canChoose && o.leastStaleness ≤ 1000 * s) &&
    !(o.confirmations = some 0 && o.journal = some true) &&
    (o.directConnection ≠ some true || servers = 1) &&
    (o.loadBalanced ≠ some true ||
      (servers = 1 && o.replicaSet.isNone && o.directConnection ≠ some true))

/-! ### Accounts -/

/-- A name that is not empty, and perhaps a password. -/
structure Account where
  name : String
  password : Option String

/-- Where accounts are kept that the database itself does not know. -/
def outsideSource : String := "$external"

def Options.sourceIsOutside (o : Options) : Bool :=
  o.authSource.all (· = outsideSource)

/-- Whether a token can be had: from the surroundings, which say who asks, or later. -/
def Options.tokenFits (o : Options) (account : Option Account) : Bool :=
  let environment := o.properties.lookup "ENVIRONMENT"
  let resource := o.properties.lookup "TOKEN_RESOURCE"
  o.properties.all (·.1 ∈ ["ENVIRONMENT", "TOKEN_RESOURCE"]) && o.sourceIsOutside &&
    account.all (·.password.isNone) &&
    match environment with
    | none => resource.isNone
    | some "azure" => resource.isSome
    | some "gcp" => resource.isSome && account.isNone
    | some "k8s" | some "test" => resource.isNone && account.isNone
    | some _ => false

/-- Whether the mechanism has what it needs, and no more. -/
def Options.accountFits (o : Options) (account : Option Account) : Bool :=
  match o.mechanism with
  | none | some .challenge => true
  | some .scram => account.isSome
  | some .certificate => account.all (·.password.isNone) && o.sourceIsOutside
  | some .plain => account.any (·.password.isSome)
  | some .token => o.tokenFits account

end OrderDesk.Database
