import MailRouting.Context
import MailRouting.Queue.Store
import MailRouting.Mapping.Resolution

/-!
# An installation

A site holds the domain list, the users, the mapping table and the queues that a context works
with, all in memory. Each of these services can be down, and every request to one is counted.

* `Service`, `Tally`, `QueueCall`, `Site` — the services, the counts and the whole;
* `Site.answer`, `Site.handler` — how a site answers the requests of a routine;
* `Site.perform` — runs a routine at a site;
* `Site.configureDomains`, `Site.pushMail` and the others — changes at the site itself.
-/

namespace MailRouting

/-- What a context asks. -/
inductive Service where
  | domains
  | users
  | mappings
  | queues
  deriving DecidableEq, Repr

/-- How often each service was asked. -/
structure Tally where
  domains : Nat := 0
  users : Nat := 0
  mappings : Nat := 0
  queues : Nat := 0
  deriving DecidableEq, Repr

/-- One more request to a service. -/
def Tally.count (t : Tally) : Service → Tally
  | .domains => { t with domains := t.domains + 1 }
  | .users => { t with users := t.users + 1 }
  | .mappings => { t with mappings := t.mappings + 1 }
  | .queues => { t with queues := t.queues + 1 }

/-- A mail that a queue was asked to take while it was up. -/
structure QueueCall where
  queue : String
  mail : Mail
  delay : Option Delay
  deriving DecidableEq, Repr

/-- An installation. -/
structure Site where
  domains : DomainList := .initial
  users : Users := {}
  mappings : MappingTable := .ofConfig {}
  queues : QueueStore := {}
  /-- Whether contexts take the whole mailbox for a principal whatever the users say. -/
  fullAddressPrincipals : Bool := false
  /-- The services that are down. -/
  down : List Service := []
  tally : Tally := {}
  queueCalls : List QueueCall := []
  /-- The names of the queues that contexts asked for. -/
  requestedQueues : List String := []
  /-- The number of the next identifier. -/
  nextId : Nat := 0
  /-- The time in nanoseconds since the start of 1970. -/
  now : Nat := 0
  log : List Log.Entry := []

namespace Site

/-! ### Outages, identifiers and the log -/

/-- Takes a service out of service. -/
def takeDown (s : Site) (service : Service) : Site :=
  { s with down := service :: s.down }

/-- Brings a service back. -/
def bringUp (s : Site) (service : Service) : Site :=
  { s with down := s.down.filter (· ≠ service) }

/-- Whether a service is down. -/
def isDown (s : Site) (service : Service) : Bool :=
  service ∈ s.down

/-- Counts a request to a service. -/
def count (s : Site) (service : Service) : Site :=
  { s with tally := s.tally.count service }

/-- Writes an entry into the log. -/
def note (e : Log.Entry) (s : Site) : Site :=
  { s with log := s.log ++ [e] }

/-- Writes events into the log. -/
def noteEvents (s : Site) (events : List Log.Event) : Site :=
  { s with log := s.log ++ events.map .event }

/-- An identifier that was not given before. -/
def freshId (s : Site) : Ulid × Site :=
  (⟨s.nextId⟩, { s with nextId := s.nextId + 1 })

/-- The time to the second. -/
def time (s : Site) : Timestamp :=
  ⟨s.now / 1000000000⟩

/-- Counts a request to a service and answers it, or fails with `outage` if the service is down. -/
def serve (s : Site) (service : Service) (outage : ε) (answer : Site → Except ε α × Site) :
    Except ε α × Site :=
  let s := s.count service
  if s.isDown service then (.error outage, s) else answer s

/-! ### Domains -/

/-- The event of a change of the settings of the domain list. -/
def configuredEvent (l : DomainList) : Log.Event :=
  ⟨.debug, Log.domainsTarget, "Configured domain list",
    [("default_domain", l.defaultDomain.text), ("domains", toString l.size)]⟩

/-- Applies settings to the domain list. -/
def configureDomains (s : Site) (config : DomainListConfig) : Site :=
  let domains := s.domains.configure config
  { s with domains }.noteEvents [configuredEvent domains]

/-- The error of a domain list that is down. -/
def domainsOutage : DomainListError := .lookup "domain list is down"

/-- Whether a domain is served here. -/
def containsDomain (s : Site) (d : Domain) : Except DomainListError Bool × Site :=
  s.serve .domains domainsOutage fun s => (.ok (s.domains.contains d), s)

/-- The default domain. -/
def defaultDomain (s : Site) : Except DomainListError Domain × Site :=
  s.serve .domains domainsOutage fun s => (.ok s.domains.defaultDomain, s)

/-! ### Users -/

/-- The error of users that are down. -/
def usersOutage : UsersError := .lookup "users repository is down"

/-- Whether a principal is a known user. -/
def containsUser (s : Site) (p : Principal) : Except UsersError Bool × Site :=
  s.serve .users usersOutage fun s => (.ok (s.users.contains p), s)

/-- The principal of a mailbox. -/
def principalFor (s : Site) (a : Address) : Except UsersError Principal × Site :=
  s.serve .users usersOutage fun s => (.ok (s.users.principalFor a), s)

/-- The principal that contexts take for a mailbox. Where that is the whole mailbox whatever the
users say, they are not asked. -/
def contextPrincipal (s : Site) (a : Address) : Except UsersError Principal × Site :=
  if s.fullAddressPrincipals then (.ok (.ofAddress a), s) else s.principalFor a

/-! ### Mappings -/

/-- The error of a mapping table that is down. -/
def mappingsOutage : MappingError := .lookup "rewrite table is down"

/-- The event of a mapping that is followed. -/
def hopEvent (hop : Hop) : Log.Event :=
  ⟨.trace, Log.mappingTarget, "Following rewrite mapping",
    [("address", hop.address.text), ("target", hop.target.text), ("depth", toString hop.depth)]⟩

/-- The mappings of a mailbox. -/
def resolvedMappings (s : Site) (localPart : String) (d : Domain) (kinds : List MappingKind) :
    Except MappingError (List Mapping) × Site :=
  s.serve .mappings mappingsOutage fun s =>
    let x := s.mappings.exploreParts localPart d kinds
    (x.result, s.noteEvents (x.hops.map hopEvent))

/-! ### Queues -/

/-- The event of a mail that a queue has taken. -/
def queuedEvent (queue : String) (mail : Mail) (delay : Option Delay) : Log.Event :=
  ⟨.debug, Log.queueTarget, "Queued mail",
    [("queue", queue), ("mail", mail.name), ("delay", describeDelay delay)]⟩

/-- Puts a mail into a queue, past all contexts. -/
def pushMail (s : Site) (queue : String) (mail : Mail) (delay : Option Delay) :
    Except QueueError Unit × Site :=
  match s.queues.push queue s.now mail delay with
  | .ok queues => (.ok (), { s with queues }.noteEvents [queuedEvent queue mail delay])
  | .error e => (.error e, { s with queues := s.queues.ensure queue })

/-- Takes a mail out of a queue. -/
def dequeue (s : Site) (queue : String) : Option Mail × Site :=
  let (mail, queues) := s.queues.dequeue queue s.now
  (mail, { s with queues })

/-- The queue of a name, which is made if it is not there. -/
def queue (s : Site) (name : String) : MailQueue × Site :=
  (s.queues.queue name, { s with queues := s.queues.ensure name })

/-- Makes the queue that a context asks for. -/
def createQueue (s : Site) (name : String) : Site :=
  { s with
    queues := s.queues.ensure name
    requestedQueues := s.requestedQueues ++ [name] }

/-- Takes the mail that a context hands to a queue. -/
def takeMail (s : Site) (queue : String) (mail : Mail) (delay : Option Delay) :
    Except QueueError Unit × Site :=
  s.serve .queues (.unavailable queue "queue is down") fun s =>
    let call : QueueCall := ⟨queue, mail, delay⟩
    { s with queueCalls := s.queueCalls ++ [call] }.pushMail queue mail delay

/-! ### Answering routines -/

/-- The answer of a site to a request, and the site after that. -/
def answer : (r : Request) → Site → r.Answer × Site
  | .containsDomain d, s => s.containsDomain d
  | .defaultDomain, s => s.defaultDomain
  | .containsUser p, s => s.containsUser p
  | .principalFor a, s => s.contextPrincipal a
  | .resolvedMappings localPart d kinds, s => s.resolvedMappings localPart d kinds
  | .createQueue name, s => ((), s.createQueue name)
  | .enqueue queue mail, s => s.takeMail queue mail none
  | .enqueueDelayed queue mail delay, s => s.takeMail queue mail (some delay)
  | .freshId, s => s.freshId
  | .currentTime, s => (s.time, s)

/-- A site as a handler of routines. -/
def handler : Handler Site where
  answer := answer
  note := note

/-- Runs a routine at a site. -/
def perform (s : Site) (p : Routine α) : α × Site :=
  p.run handler s

end Site

end MailRouting
