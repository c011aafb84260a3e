import EconomicImpact.CommandLine.Program
import EconomicImpact.Text.Timestamp
import Std.Time

set_option autoImplicit false

namespace EconomicImpact.CommandLine

def freshId : IO Uuid := do
  let bytes ← IO.getRandomBytes 16
  let stamped := bytes.toList.mapIdx fun i b =>
    if i = 6 then (b &&& 0x0f) ||| 0x40 else if i = 8 then (b &&& 0x3f) ||| 0x80 else b
  return (Uuid.ofBytes? stamped).getD .nil

def currentTime : IO String := do
  let now ← Std.Time.Timestamp.now
  return Text.timestamp now.toNanosecondsSinceUnixEpoch.val.toNat

def readText? (path : String) : IO (Option String) := do
  try
    return String.fromUTF8? (← IO.FS.readBinFile path)
  catch _ =>
    return none

def environment : IO (List (String × String)) := do
  let text := (← readText? "/proc/self/environ").getD ""
  return (text.splitOn "\x00").filterMap fun entry =>
    match entry.toList.dropWhile (· != '=') with
    | _ :: value => some (String.ofList (entry.toList.takeWhile (· != '=')), String.ofList value)
    | [] => none

def surroundings (request : Request) : IO Surroundings := do
  let files ← request.files.mapM fun path => return (path, ← readText? path)
  let runId ← freshId
  return {
    file? := fun path => (files.lookup path).join
    environment := ← environment
    modelId := ← freshId
    scenarioId := ← freshId
    stamp := {
      runId
      sensitivityId := fun i => contentId "sensitivity" (.arr [.str runId.toText, .ofNat i])
      createdAt := ← currentTime } }

def write (delivery : Delivery) : IO UInt32 := do
  match delivery.destination with
  | none =>
    IO.println delivery.text
    return delivery.exitCode.toUInt32
  | some path =>
    try
      IO.FS.writeFile path delivery.text
      return delivery.exitCode.toUInt32
    catch _ =>
      IO.eprintln ("failed to write " ++ path)
      return 1

def fail (failure : Failure) : IO UInt32 := do
  IO.eprintln ("error: " ++ failure.message)
  return failure.exitCode.toUInt32

end EconomicImpact.CommandLine

open EconomicImpact.CommandLine in
def main (arguments : List String) : IO UInt32 := do
  match read arguments with
  | .error fault => fail (.usage fault)
  | .ok request =>
    match request.deliver (← surroundings request) with
    | .ok delivery => write delivery
    | .error failure => fail failure
