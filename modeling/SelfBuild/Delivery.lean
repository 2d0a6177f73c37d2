import SelfBuild.Decimal.Writing
import SelfBuild.Disk.Folders
import SelfBuild.FileName
import SelfBuild.Text.Wide

/-!
# Delivery

Writing a file so that nobody ever sees half of it: the text goes to a file beside the destination,
which then takes the destination's place.  A refused attempt is repeated after a pause that grows
with each attempt, and once the last one is refused the file beside is removed.  A text that cannot be
encoded is found out only after the file beside was opened, and leaves it there, empty.

A session carries the disk through the attempts, with every disk that a file operation left behind,
so that a statement can speak about each moment.
-/

namespace SelfBuild

namespace Delivery

/-- How long to wait after the first attempt. -/
inductive Pause where
  | whole (seconds : Int)
  | fraction (seconds : Float)

/-- The pause after an attempt, where attempts are counted from one. -/
def Pause.after (pause : Pause) (attempt : Nat) : Pause :=
  match pause with
  | .whole seconds => .whole (seconds * Int.ofNat attempt)
  | .fraction seconds => .fraction (seconds * Float.ofNat attempt)

def standardPause : Pause := .fraction 0.2

def standardAttempts : Nat := 3

/-- The state of a delivery.  `denials` says for each coming replacement whether it will be denied,
and `trail` holds the disks that the file operations left behind, the last one first. -/
structure Session where
  disk : Disk
  denials : List Bool := []
  pauses : List Pause := []
  trail : List Disk := []

/-- Why a delivery fails. -/
inductive Fault where
  | disk (fault : Disk.Fault)
  | encoding (fault : EncodingFault)
  | notAttempted
  | alreadyThere (path : Path)
deriving DecidableEq, Repr

def Fault.message : Fault -> String
  | .disk fault => fault.message
  | .encoding fault => fault.message
  | .notAttempted => "atomic_write_text failed without exception?"
  | .alreadyThere path => s!"Artifact already exists: {path.text}"

/-- Whether the system refused an operation, so that it may go through another time. -/
def Fault.isSystem : Fault -> Bool
  | .disk fault => fault.isSystem
  | _ => false

/-- The ending of the file beside the destination. -/
def besideEnding : String := ".tmp__writing__"

/-- The file beside a destination. -/
def beside (destination : Path) : Path :=
  destination.parent.child (destination.name ++ besideEnding)

def Session.reach (session : Session) (disk : Disk) : Session :=
  { session with disk := disk, trail := disk :: session.trail }

/-- Let a file take the place of another, unless this replacement is denied. -/
def Session.replace (session : Session) (path onto : Path) :
    Except Disk.Fault Unit × Session :=
  let denied := session.denials.headD false
  let session := { session with denials := session.denials.drop 1 }
  if denied then (.error (.system .denied path (some onto)), session)
  else
    match session.disk.replace path onto with
    | .ok disk => (.ok (), session.reach disk)
    | .error fault => (.error fault, session)

/-- One attempt: open the file beside, which empties it, fill it, and let it replace the
destination. -/
def attempt (destination : Path) (content : Except EncodingFault ByteArray) (session : Session) :
    Except Fault Unit × Session :=
  match session.disk.write (beside destination) ByteArray.empty with
  | .error fault => (.error (.disk fault), session)
  | .ok opened =>
      match content with
      | .error fault => (.error (.encoding fault), session.reach opened)
      | .ok bytes =>
          match opened.write (beside destination) bytes with
          | .error fault => (.error (.disk fault), session.reach opened)
          | .ok filled =>
              let filled := (session.reach opened).reach filled
              let (result, session) := filled.replace (beside destination) destination
              (result.mapError .disk, session)

/-- How a row of attempts ends. -/
inductive Outcome where
  | written
  | givenUp (last : Option Fault)
  | broken (fault : Fault)
deriving DecidableEq, Repr

/-- Attempt a delivery some more times.  Only a refusal by the system is a reason to try again. -/
def attempts (destination : Path) (content : Except EncodingFault ByteArray) (pause : Pause) :
    Nat -> Nat -> Option Fault -> Session -> Outcome × Session
  | 0, _, last, session => (.givenUp last, session)
  | left + 1, done, _, session =>
      match attempt destination content session with
      | (.ok _, session) => (.written, session)
      | (.error fault, session) =>
          if fault.isSystem then
            let rested := { session with pauses := session.pauses ++ [pause.after (done + 1)] }
            attempts destination content pause left (done + 1) (some fault) rested
          else (.broken fault, session)

/-- Remove the file beside a destination, if it is there. -/
def tidy (destination : Path) (session : Session) : Except Disk.Fault Unit × Session :=
  match session.disk.isThere (beside destination) with
  | .error fault => (.error fault, session)
  | .ok false => (.ok (), session)
  | .ok true =>
      match session.disk.remove (beside destination) with
      | .error fault => (.error fault, session)
      | .ok disk => (.ok (), session.reach disk)

/-- Write a text to a destination, as a whole or not at all. -/
def writeText (destination : Path) (text : WideText) (retries : Int) (pause : Pause)
    (session : Session) : Except Fault Unit × Session :=
  match session.disk.makeFolders destination.parent true with
  | (.error fault, disk) => (.error (.disk fault), session.reach disk)
  | (.ok _, disk) =>
      match attempts destination text.encode pause retries.toNat 0 none (session.reach disk) with
      | (.written, session) => (.ok (), session)
      | (.broken fault, session) => (.error fault, session)
      | (.givenUp last, session) =>
          match tidy destination session with
          | (.error fault, session) => (.error (.disk fault), session)
          | (.ok _, session) =>
              match last with
              | some fault => (.error fault, session)
              | none => (.error .notAttempted, session)

def destination (folder : Path) (project : Project) (name? : Option String) : Path :=
  folder.child (FileName.download project name?)

def deliver (artifact : WideText) (folder : Path) (project : Project) (name? : Option String)
    (overwrite : Bool) (session : Session) : Except Fault Path × Session :=
  let destination := destination folder project name?
  match session.disk.isThere destination with
  | .error fault => (.error (.disk fault), session)
  | .ok found =>
      if found && !overwrite then (.error (.alreadyThere destination), session)
      else
        match writeText destination artifact standardAttempts standardPause session with
        | (.ok _, session) => (.ok destination, session)
        | (.error fault, session) => (.error fault, session)

end Delivery

end SelfBuild
