import Switchboard.Deployment.Reload

/-!
Reloads while a service is up. Two tasks redeploy, each one message after the other: one reads the
file when it is asked to, the other takes settings that were read when the file changed. Nothing
keeps their steps apart.
-/

namespace Switchboard

inductive Task where
  | reload
  | watch
  deriving DecidableEq, Repr

/-- Settings, and how many readings of the file came before theirs. -/
structure Reading where
  order : Nat
  settings : Settings

structure Installation (m : Type → Type) where
  task : Task
  reading : Reading
  table : Table m

inductive Progress (m : Type → Type) where
  | idle
  | asked
  | holding (reading : Reading)
  | compiled (reading : Reading) (table : Table m)
  | stored (reading : Reading) (table : Table m)
  | counted (reading : Reading) (table : Table m)

/-- What is in hand and in the queues, and what was read, stored and recorded so far. -/
structure Upkeep (m : Type → Type) where
  host : Host m
  file : FileContent
  readings : List FileContent
  requests : Nat
  updates : List Reading
  progress : Task → Progress m
  stored : List (Installation m)
  recorded : List (Installation m)

namespace Upkeep

variable {m : Type → Type}

inductive Move where
  | write (file : FileContent)
  | request
  | notice
  | proceed (task : Task)

def start (host : Host m) (file : FileContent) : Upkeep m :=
  ⟨host, file, [], 0, [], fun _ => .idle, [], []⟩

def put (upkeep : Upkeep m) (task : Task) (progress : Progress m) : Upkeep m :=
  { upkeep with
    progress := fun other => if other = task then progress else upkeep.progress other }

def reading? (upkeep : Upkeep m) : Option Reading :=
  match Settings.load upkeep.file with
  | .ok settings => some ⟨upkeep.readings.length, settings⟩
  | .error _ => none

def read (upkeep : Upkeep m) : Upkeep m :=
  { upkeep with readings := upkeep.readings ++ [upkeep.file] }

def take (upkeep : Upkeep m) : Task → Upkeep m
  | .reload =>
    match upkeep.requests with
    | 0 => upkeep
    | requests + 1 => { upkeep with requests }.put .reload .asked
  | .watch =>
    match upkeep.updates with
    | [] => upkeep
    | reading :: updates => { upkeep with updates }.put .watch (.holding reading)

def store (upkeep : Upkeep m) (task : Task) (reading : Reading) (table : Table m) : Upkeep m :=
  { upkeep with
    host := upkeep.host.store table
    stored := upkeep.stored ++ [⟨task, reading, table⟩] }

def record (upkeep : Upkeep m) (task : Task) (reading : Reading) (table : Table m) : Upkeep m :=
  { upkeep with
    host := upkeep.host.recordInstalled table.routeCount
    recorded := upkeep.recorded ++ [⟨task, reading, table⟩] }

def proceed (upkeep : Upkeep m) (task : Task) : Upkeep m :=
  match upkeep.progress task with
  | .idle => upkeep.take task
  | .asked =>
    match upkeep.reading? with
    | some reading => upkeep.read.put task (.holding reading)
    | none => upkeep.read.put task .idle
  | .holding reading =>
    match (upkeep.host.compile reading.settings).result with
    | .ok table => upkeep.put task (.compiled reading table)
    | .error (.rejected _) => { upkeep with host := upkeep.host.recordFailed }.put task .idle
    | .error .panicked => upkeep.put task .idle
  | .compiled reading table => (upkeep.store task reading table).put task (.stored reading table)
  | .stored reading table =>
    { upkeep with host := upkeep.host.advance }.put task (.counted reading table)
  | .counted reading table => (upkeep.record task reading table).put task .idle

/-- A change is noticed at any time, and only settings that load are passed on. -/
def after (upkeep : Upkeep m) : Move → Upkeep m
  | .write file => { upkeep with file }
  | .request => { upkeep with requests := upkeep.requests + 1 }
  | .notice => { upkeep.read with updates := upkeep.updates ++ upkeep.reading?.toList }
  | .proceed task => upkeep.proceed task

def run (host : Host m) (file : FileContent) (moves : List Move) : Upkeep m :=
  moves.foldl after (start host file)

/-- Nothing is queued and nothing is under way. -/
structure Still (upkeep : Upkeep m) : Prop where
  requests : upkeep.requests = 0
  updates : upkeep.updates = []
  idle : ∀ task, upkeep.progress task = .idle

end Upkeep

end Switchboard
