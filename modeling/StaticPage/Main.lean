import Std.Time.Zoned
import StaticPage.CommandLine.Run

/-!
# The program

The command line over the files and the clock of this machine. It speaks no network protocol: what is
fetched comes from the stored copies.
-/

namespace StaticPage

/-- The fault of a file operation that the system refused. -/
def FileFault.ofSystem : IO.Error → FileFault
  | .noFileOrDirectory .. => .notFound
  | .noSuchThing .. => .notFound
  | .alreadyExists .. => .alreadyExists
  | .inappropriateType _ code details =>
    if code = 20 then .notDirectory else if code = 21 then .isDirectory else .other details
  | .invalidArgument _ code details => if code = 36 then .nameTooLong else .other details
  | e => .other (toString e)

/-- What the program does to the world, with the validators it carries. -/
abbrev Program := StateT Validators IO

instance : MonadWarn Program where
  warn w := (IO.eprintln ("Warning: " ++ w.message) : IO Unit)

/-- Runs an action and takes the system's error for a file fault. -/
def caught {α : Type} (act : IO α) : Program (Except FileFault α) := do
  match ← act.toBaseIO with
  | .ok a => return .ok a
  | .error e => return .error (.ofSystem e)

/-- The names in a directory, if it is one. -/
def namesIn? (path : String) : Program (Option (List String)) := do
  let here ← IO.currentDir
  let names ← caught (do
    let entries ← (here / path).readDir
    return entries.toList.map (·.fileName))
  return names.toOption

def machineFiles : FileAccess Program where
  read path := caught (IO.FS.readBinFile path)
  write path bytes := caught (IO.FS.writeBinFile path bytes)
  makeDirectory path := caught (IO.FS.createDir path)
  isDirectory path := return (← namesIn? path).isSome
  isThere path := do
    if (← namesIn? path).isSome then return true
    else return (← caught (IO.FS.readBinFile path)).toOption.isSome
  names path := return (← namesIn? path).getD []

def dateOfToday : Program Date := do
  let now ← Std.Time.PlainDate.now
  return { year := now.year, month := now.month.val.toNat, day := now.day.val.toNat }

end StaticPage

def main (arguments : List String) : IO UInt32 := do
  let surroundings : StaticPage.Surroundings StaticPage.Program :=
    ⟨StaticPage.machineFiles, .unreachable, StaticPage.dateOfToday⟩
  let (outcome, _) ← (StaticPage.Command.runArguments surroundings arguments).run .empty
  IO.print outcome.printed
  IO.eprint outcome.complaint
  return outcome.code.toUInt32
