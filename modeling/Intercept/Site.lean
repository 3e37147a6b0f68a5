/-
# The site

What the proxy changes in the course of its work: files on the disk, slots of the gate, the
journal, and the requests that it has sent to the application.  `Site` holds all of it, and
`Run α` is a piece of work on it.

What the proxy finds and cannot change are its `Surroundings`: the programs and their
environment, the other servers, and what is drawn by chance.
-/
import Intercept.Decimal.Shortest
import Intercept.Image.Gate
import Intercept.Net.Exchange
import Intercept.System.Disk
import Intercept.System.Program

namespace Intercept

/-- What the proxy changes. -/
structure Site where
  disk : Disk := {}
  gate : Gate
  journal : Journal := {}
  /-- How many stored files were begun. -/
  saves : Nat := 0
  /-- How many temporary files were begun. -/
  scratches : Nat := 0
  /-- The requests that were sent to the application, the last one first. -/
  sent : List Request := []
  /-- The addresses from which images were requested, the last one first. -/
  fetched : List WebAddress := []
deriving Inhabited

/-- A piece of work on the site. -/
abbrev Run (α : Type) := StateM Site α

/-- What is drawn by chance or measured with a clock. -/
structure Chance where
  /-- What tells the `n`-th stored file from all others. -/
  label : Nat → String
  /-- What tells the `n`-th temporary file from all others. -/
  scratchLabel : Nat → String
  /-- How long it took to store the `n`-th file. -/
  duration : Nat → Duration
  /-- The boundary of a new form. -/
  boundary : Bytes
  /-- The identifier of a request that brings none. -/
  requestId : String
deriving Inhabited

/-- What the proxy finds. -/
structure Surroundings where
  /-- The program at a path. -/
  program : String → Program
  /-- The proxy's own environment. -/
  environment : Environment := []
  application : Application := .unreachable
  web : Web := .unreachable
  chance : Chance
deriving Inhabited

namespace Site

/-- Logs an event. -/
def log (event : Event) : Run Unit :=
  modify fun site => { site with journal := site.journal.log event }

/-- Logs several events. -/
def logAll (events : List Event) : Run Unit :=
  modify fun site => { site with journal := site.journal.logAll events }

/-- Raises a metric. -/
def count (metric : Metric) (n : Nat) : Run Unit :=
  modify fun site => { site with journal := site.journal.count metric n }

/-- Takes a slot of the gate if one is free, and says whether one was. -/
def acquire : Run Bool :=
  modifyGet fun site =>
    let (admitted, gate) := site.gate.acquire
    let journal :=
      if admitted then site.journal.set .scalersAlive gate.live
      else site.journal.count .scalersRefused 1
    (admitted, { site with gate, journal })

/-- Gives a slot of the gate back. -/
def release : Run Unit :=
  modify fun site =>
    let gate := site.gate.release
    { site with gate, journal := site.journal.set .scalersAlive gate.live }

/-- Begins a stored file; gives its number. -/
def nextSave : Run Nat :=
  modifyGet fun site => (site.saves + 1, { site with saves := site.saves + 1 })

/-- Begins a temporary file; gives its number. -/
def nextScratch : Run Nat :=
  modifyGet fun site => (site.scratches + 1, { site with scratches := site.scratches + 1 })

/-- Notes a request to the application. -/
def noteSent (request : Request) : Run Unit :=
  modify fun site => { site with sent := request :: site.sent }

/-- Notes a request for an image. -/
def noteFetched (address : WebAddress) : Run Unit :=
  modify fun site => { site with fetched := address :: site.fetched }

/-- Changes the disk. -/
def onDisk {α : Type} (change : Disk → α × Disk) : Run α :=
  modifyGet fun site =>
    let (found, disk) := change site.disk
    (found, { site with disk })

/-- Changes the disk unless that fails. -/
def tryOnDisk {α : Type} (change : Disk → Except SystemError (α × Disk)) :
    Run (Except SystemError α) :=
  onDisk fun disk =>
    match change disk with
    | .ok (found, disk) => (.ok found, disk)
    | .error error => (.error error, disk)

end Site

end Intercept
